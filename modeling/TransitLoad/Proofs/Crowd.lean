import TransitLoad.Proofs.SlotAccounting

/-!
# Crowds

Any number of clients share one admission.  Each of them asks for a slot, looks again
while it waits, stops asking, or gives its slot back, and the clock moves on in
between.  Whatever the order, no slot is lost and none is there twice.
-/

namespace TransitLoad

namespace Crowd

/-- A client that asks for a slot, and since when. -/
structure Call where
  client : Nat
  askedAt : Nat
  deriving DecidableEq

/-- How a call ends. -/
inductive Outcome where
  | granted
  | refused
  | withdrawn
  deriving DecidableEq

/-- A call that has ended. -/
structure EndedCall extends Call where
  endedAt : Nat
  outcome : Outcome
  deriving DecidableEq

/-- What can happen: a new client asks, a client that waits looks again or stops
asking, a slot is given back, or the clock moves on. -/
inductive Move where
  | ask
  | look (call : Call)
  | withdraw (call : Call)
  | giveBack (client : Nat)
  | wait (moment : Nat)
  deriving DecidableEq

end Crowd

/-- An admission and its clients, which are numbered as they come. -/
structure Crowd where
  admission : Admission
  now : Nat
  arrivals : Nat
  /-- Clients that have taken up a slot and not given it back. -/
  holders : List Nat
  /-- Calls that have not ended. -/
  pending : List Crowd.Call
  /-- Calls that have ended, the last one first. -/
  ended : List Crowd.EndedCall
  deriving DecidableEq

namespace Crowd

/-- Nobody has come yet. -/
def gather (admission : Admission) : Crowd := ⟨admission, 0, 0, [], [], []⟩

/-- The call of the next client, if it asks now. -/
def nextCall (crowd : Crowd) : Call := ⟨crowd.arrivals, crowd.now⟩

/-- A new client comes. -/
def join (crowd : Crowd) : Crowd :=
  { crowd with arrivals := crowd.arrivals + 1, pending := crowd.nextCall :: crowd.pending }

/-- A call ends. -/
def close (crowd : Crowd) (call : Call) (outcome : Outcome) : Crowd :=
  { crowd with
    pending := crowd.pending.erase call
    ended := ⟨call, crowd.now, outcome⟩ :: crowd.ended }

/-- Take in what a client is told. -/
def heed (crowd : Crowd) (call : Call) : Admission × Verdict → Crowd
  | (admission, .granted) =>
      { crowd with admission, holders := call.client :: crowd.holders }.close call .granted
  | (admission, .refused) => { crowd with admission }.close call .refused
  | (admission, .mustWait) => { crowd with admission }

/-- The crowd after a move. -/
def after (crowd : Crowd) : Move → Crowd
  | .ask => crowd.join.heed crowd.nextCall (crowd.admission.ask crowd.now crowd.arrivals)
  | .look call => crowd.heed call (crowd.admission.resume crowd.now call.client)
  | .withdraw call =>
      { crowd with admission := crowd.admission.withdraw call.client }.close call .withdrawn
  | .giveBack client =>
      { crowd with
        admission := crowd.admission.giveBack
        holders := crowd.holders.erase client }
  | .wait moment => { crowd with now := moment }

/-- Only clients that wait look again or stop asking, only slots that are held are
given back, and the clock does not run backwards. -/
def Permits (crowd : Crowd) : Move → Prop
  | .ask => True
  | .look call | .withdraw call => call ∈ crowd.pending
  | .giveBack client => client ∈ crowd.holders
  | .wait moment => crowd.now ≤ moment

instance (crowd : Crowd) (move : Move) : Decidable (crowd.Permits move) := by
  cases move <;> unfold Permits <;> infer_instance

/-- One move after another, each of them allowed, leads from one crowd to another. -/
inductive Leads (Allows : Crowd → Move → Prop) : Crowd → List Move → Crowd → Prop where
  | here (crowd : Crowd) : Leads Allows crowd [] crowd
  | more
      (allowed : Allows crowd move)
      (course : Leads Allows (crowd.after move) moves later) :
      Leads Allows crowd (move :: moves) later

namespace Leads

/-- What every allowed move keeps holds of all that follows. -/
theorem keeps
    {Allows : Crowd → Move → Prop}
    {motive : Crowd → Prop}
    (step : ∀ crowd move, Allows crowd move → motive crowd → motive (crowd.after move))
    (course : Leads Allows crowd moves later)
    (start : motive crowd) :
    motive later := by
  induction course with
  | here => exact start
  | more allowed _ hypothesis => exact hypothesis (step _ _ allowed start)

theorem mono
    {Allows Permits : Crowd → Move → Prop}
    (weaker : ∀ crowd move, Allows crowd move → Permits crowd move)
    (course : Leads Allows crowd moves later) :
    Leads Permits crowd moves later := by
  induction course with
  | here => exact .here _
  | more allowed _ hypothesis => exact .more (weaker _ _ allowed) hypothesis

end Leads

/-! ## Turns -/

/-- A client stops asking, with the slot that may be assigned to it. -/
def leave (crowd : Crowd) (call : Call) (outcome : Outcome) : Crowd :=
  { crowd with admission := crowd.admission.withdraw call.client }.close call outcome

/-- What a move comes to. -/
inductive Turn (crowd : Crowd) : Move → Crowd → Prop where
  /-- A new client comes too late. -/
  | refused
      (late : crowd.admission.deadline ≤ crowd.now) :
      Turn crowd .ask (crowd.join.close crowd.nextCall .refused)
  /-- A new client begins to wait. -/
  | queued
      (early : crowd.now < crowd.admission.deadline)
      (full : crowd.admission.available = 0) :
      Turn crowd .ask
        { crowd.join with admission := crowd.admission.enqueue crowd.arrivals }
  /-- A new client takes a free slot. -/
  | took
      (early : crowd.now < crowd.admission.deadline)
      (free : 0 < crowd.admission.available) :
      Turn crowd .ask
        ({ crowd.join with
          admission := crowd.admission.take
          holders := crowd.arrivals :: crowd.holders }.close crowd.nextCall .granted)
  /-- A client has waited too long. -/
  | gaveUp
      (present : call ∈ crowd.pending)
      (late : crowd.admission.deadline ≤ crowd.now) :
      Turn crowd (.look call) (crowd.leave call .refused)
  /-- A client takes up the slot assigned to it. -/
  | collected
      (present : call ∈ crowd.pending)
      (early : crowd.now < crowd.admission.deadline)
      (assigned : call.client ∈ crowd.admission.assigned) :
      Turn crowd (.look call)
        ({ crowd with
          admission := crowd.admission.collect call.client
          holders := call.client :: crowd.holders }.close call .granted)
  /-- A client looks again in vain. -/
  | waited
      (present : call ∈ crowd.pending)
      (early : crowd.now < crowd.admission.deadline)
      (unassigned : call.client ∉ crowd.admission.assigned) :
      Turn crowd (.look call) crowd
  /-- A client no longer asks. -/
  | withdrew
      (present : call ∈ crowd.pending) :
      Turn crowd (.withdraw call) (crowd.leave call .withdrawn)
  /-- A client gives its slot back. -/
  | gaveBack
      (present : client ∈ crowd.holders) :
      Turn crowd (.giveBack client)
        { crowd with
          admission := crowd.admission.giveBack
          holders := crowd.holders.erase client }
  /-- The clock moves on. -/
  | passed
      (later : crowd.now ≤ moment) :
      Turn crowd (.wait moment) { crowd with now := moment }

theorem turn_ask (crowd : Crowd) : crowd.Turn .ask (crowd.after .ask) := by
  rw [after, Admission.ask]
  split_ifs with late full
  · exact .refused ((Admission.isExpired_iff _ _).mp late)
  · have early := mt (Admission.isExpired_iff _ _).mpr late
    exact .queued (Nat.lt_of_not_le early) full
  · have early := mt (Admission.isExpired_iff _ _).mpr late
    exact .took (Nat.lt_of_not_le early) (Nat.pos_of_ne_zero full)

theorem turn_look
    {crowd : Crowd}
    (present : call ∈ crowd.pending) :
    crowd.Turn (.look call) (crowd.after (.look call)) := by
  rw [after, Admission.resume]
  split_ifs with late assigned
  · exact .gaveUp present ((Admission.isExpired_iff _ _).mp late)
  · have early := mt (Admission.isExpired_iff _ _).mpr late
    exact .collected present (Nat.lt_of_not_le early) assigned
  · have early := mt (Admission.isExpired_iff _ _).mpr late
    exact .waited present (Nat.lt_of_not_le early) assigned

theorem turn_after
    {crowd : Crowd}
    (permitted : crowd.Permits move) :
    crowd.Turn move (crowd.after move) := by
  cases move with
  | ask => exact crowd.turn_ask
  | look => exact turn_look permitted
  | withdraw => exact .withdrew permitted
  | giveBack => exact .gaveBack permitted
  | wait => exact .passed permitted

end Crowd

/-! ## Slots and clients -/

namespace Admission

theorem eq_opened
    {capacity deadline : Nat}
    {admission : Admission}
    (opens : open? capacity deadline = .ok admission) :
    admission = opened capacity deadline := by
  rw [open?] at opens
  split_ifs at opens
  exact (Except.ok.inj opens).symm

/-- The clients that wait and those that a slot is assigned to. -/
def clients (admission : Admission) : List Nat := admission.waiting ++ admission.assigned

theorem clients_giveBack (admission : Admission) :
    admission.giveBack.clients.Perm admission.clients := by
  unfold giveBack clients
  split
  · exact .refl _
  next client waiting queue =>
    rw [queue, ← List.append_assoc, List.cons_append]
    exact List.perm_append_singleton _ _

/-- A client that withdraws is no longer there, and all others still are. -/
theorem clients_withdraw
    {admission : Admission}
    (present : client ∈ admission.clients) :
    (client :: (admission.withdraw client).clients).Perm admission.clients := by
  unfold withdraw
  split_ifs with assigned
  · have rest := clients_giveBack
      { admission with assigned := admission.assigned.erase client }
    refine (rest.cons client).trans ?_
    refine List.perm_middle.symm.trans ?_
    exact (List.perm_cons_erase assigned).symm.append_left _
  · have waiting := (List.mem_append.mp present).resolve_right assigned
    exact (List.perm_cons_erase waiting).symm.append_right _

/-- Nobody waits while a slot is free. -/
def LeavesNoneIdle (admission : Admission) : Prop :=
  admission.waiting ≠ [] → admission.available = 0

theorem LeavesNoneIdle.giveBack
    {admission : Admission}
    (busy : admission.LeavesNoneIdle) :
    admission.giveBack.LeavesNoneIdle := by
  unfold Admission.giveBack
  split
  next nobody => exact fun someone => absurd nobody someone
  next client waiting queue => exact fun _ => busy (queue ▸ List.cons_ne_nil _ _)

theorem LeavesNoneIdle.withdraw
    {admission : Admission}
    (busy : admission.LeavesNoneIdle)
    (client : Nat) :
    (admission.withdraw client).LeavesNoneIdle := by
  unfold Admission.withdraw
  split_ifs
  · exact @LeavesNoneIdle.giveBack
      { admission with assigned := admission.assigned.erase client } busy
  · intro someone
    apply busy
    rintro nobody
    simp [nobody] at someone

end Admission

namespace Crowd

theorem Turn.capacity_eq
    {crowd next : Crowd}
    (turn : crowd.Turn move next) :
    next.admission.capacity = crowd.admission.capacity := by
  cases turn with
  | gaveUp | withdrew => exact Admission.capacity_withdraw _ _
  | gaveBack => exact Admission.capacity_giveBack _
  | refused | queued | took | collected | waited | passed => rfl

theorem Turn.deadline_eq
    {crowd next : Crowd}
    (turn : crowd.Turn move next) :
    next.admission.deadline = crowd.admission.deadline := by
  cases turn with
  | gaveUp | withdrew => exact Admission.deadline_withdraw _ _
  | gaveBack => exact Admission.deadline_giveBack _
  | refused | queued | took | collected | waited | passed => rfl

/-- The peak never falls. -/
theorem Turn.peak_le
    {crowd next : Crowd}
    (turn : crowd.Turn move next) :
    crowd.admission.peak ≤ next.admission.peak := by
  cases turn with
  | gaveUp | withdrew => exact (Admission.peak_withdraw _ _).ge
  | gaveBack => exact (Admission.peak_giveBack _).ge
  | took | collected => exact Nat.le_max_left _ _
  | refused | queued | waited | passed => exact Nat.le_refl _

/-- Every slot is free, assigned, or held; every client that came still waits or has
been dealt with, and it waits in the admission exactly if it waits in the crowd. -/
structure Conserved (crowd : Crowd) : Prop where
  unheld_eq :
    crowd.admission.unheld + crowd.holders.length = crowd.admission.capacity
  clients_perm : (crowd.pending.map Call.client).Perm crowd.admission.clients
  calls_perm :
    (crowd.pending.map Call.client ++ crowd.ended.map (·.client)).Perm
      (List.range crowd.arrivals)
  busy : crowd.admission.LeavesNoneIdle
  inUse_le_peak : crowd.admission.inUse ≤ crowd.admission.peak
  peak_le : crowd.admission.peak ≤ crowd.admission.capacity

namespace Conserved

theorem gather
    {admission : Admission}
    (opens : Admission.open? capacity deadline = .ok admission) :
    (Crowd.gather admission).Conserved := by
  obtain rfl := Admission.eq_opened opens
  constructor <;> simp [Crowd.gather, Admission.opened, Admission.unheld,
    Admission.clients, Admission.LeavesNoneIdle, Admission.inUse]

/-- A call that is closed moves from those that have not ended to those that have. -/
theorem calls_close
    {pending : List Call}
    {call : Call}
    {ended : List EndedCall}
    (present : call ∈ pending) :
    ((pending.erase call).map Call.client ++
      call.client :: ended.map (·.client)).Perm
      (pending.map Call.client ++ ended.map (·.client)) := by
  refine List.perm_middle.trans ?_
  exact ((List.perm_cons_erase present).map Call.client).symm.append_right _

/-- One more client has come. -/
theorem calls_join
    {crowd : Crowd}
    (conserved : crowd.Conserved) :
    (crowd.join.pending.map Call.client ++ crowd.join.ended.map (·.client)).Perm
      (List.range crowd.join.arrivals) := by
  rw [join, List.range_succ]
  exact (conserved.calls_perm.cons _).trans (List.perm_append_singleton _ _).symm

/-- A client that waits is one of those that the admission knows. -/
theorem mem_clients
    {crowd : Crowd}
    (conserved : crowd.Conserved)
    (present : call ∈ crowd.pending) :
    call.client ∈ crowd.admission.clients :=
  conserved.clients_perm.mem_iff.mp (List.mem_map_of_mem present)

/-- The clients that wait after one of them has gone. -/
theorem clients_erase
    {crowd : Crowd}
    {clients : List Nat}
    (conserved : crowd.Conserved)
    (present : call ∈ crowd.pending)
    (gone : (call.client :: clients).Perm crowd.admission.clients) :
    ((crowd.pending.erase call).map Call.client).Perm clients := by
  have moved := (List.perm_cons_erase present).map Call.client
  exact (moved.symm.trans (conserved.clients_perm.trans gone.symm)).cons_inv

theorem leave
    {crowd : Crowd}
    (conserved : crowd.Conserved)
    (present : call ∈ crowd.pending)
    (outcome : Outcome) :
    (crowd.leave call outcome).Conserved where
  unheld_eq := by
    simpa [Crowd.leave, close] using conserved.unheld_eq
  clients_perm := conserved.clients_erase present
    (Admission.clients_withdraw (conserved.mem_clients present))
  calls_perm := (calls_close present).trans conserved.calls_perm
  busy := conserved.busy.withdraw call.client
  inUse_le_peak := by
    have less := Admission.inUse_le_inUse
      (Admission.capacity_withdraw crowd.admission call.client)
      (Admission.available_le_withdraw crowd.admission call.client)
    simpa [Crowd.leave, close] using less.trans conserved.inUse_le_peak
  peak_le := by
    simpa [Crowd.leave, close] using conserved.peak_le

theorem giveBack
    {crowd : Crowd}
    (conserved : crowd.Conserved)
    (present : client ∈ crowd.holders) :
    (crowd.after (.giveBack client)).Conserved where
  unheld_eq := by
    have total := conserved.unheld_eq
    have some := List.length_pos_of_mem present
    simp only [after, Admission.unheld_giveBack, Admission.capacity_giveBack,
      List.length_erase_of_mem present]
    omega
  clients_perm := conserved.clients_perm.trans
    (Admission.clients_giveBack crowd.admission).symm
  calls_perm := conserved.calls_perm
  busy := conserved.busy.giveBack
  inUse_le_peak := by
    have less := Admission.inUse_le_inUse
      (Admission.capacity_giveBack crowd.admission)
      (Admission.available_le_giveBack crowd.admission)
    simpa [after] using less.trans conserved.inUse_le_peak
  peak_le := by
    simpa [after] using conserved.peak_le

theorem turn
    {crowd next : Crowd}
    (conserved : crowd.Conserved)
    (turn : crowd.Turn move next) :
    next.Conserved := by
  have total := conserved.unheld_eq
  cases turn with
  | refused =>
      refine ⟨total, ?_, ?_, conserved.busy, conserved.inUse_le_peak, conserved.peak_le⟩
      · simpa [close, join] using conserved.clients_perm
      · exact (calls_close List.mem_cons_self).trans conserved.calls_join
  | queued early full =>
      refine ⟨total, ?_, conserved.calls_join, fun _ => full,
        conserved.inUse_le_peak, conserved.peak_le⟩
      have joined := conserved.clients_perm.cons crowd.arrivals
      rw [Admission.clients, Admission.enqueue, List.append_assoc, List.singleton_append]
      exact joined.trans List.perm_middle.symm
  | took early free =>
      refine ⟨?_, ?_, ?_, ?_, Nat.le_max_right _ _, ?_⟩
      · simp only [close, Admission.take, Admission.notePeak, Admission.unheld,
          List.length_cons] at total ⊢
        omega
      · have same : crowd.admission.take.clients = crowd.admission.clients := rfl
        simpa [close, join, same] using conserved.clients_perm
      · exact (calls_close List.mem_cons_self).trans conserved.calls_join
      · exact fun someone => absurd (conserved.busy someone) free.ne'
      · exact Nat.max_le.mpr ⟨conserved.peak_le, Nat.sub_le _ _⟩
  | gaveUp present => exact conserved.leave present _
  | collected present early assigned =>
      refine ⟨?_, ?_, (calls_close present).trans conserved.calls_perm, conserved.busy,
        Nat.le_max_right _ _, Nat.max_le.mpr ⟨conserved.peak_le, Nat.sub_le _ _⟩⟩
      · have some := List.length_pos_of_mem assigned
        simp only [close, Admission.collect, Admission.notePeak, Admission.unheld,
          List.length_cons, List.length_erase_of_mem assigned] at total ⊢
        omega
      · apply conserved.clients_erase present
        refine List.perm_middle.symm.trans ?_
        exact (List.perm_cons_erase assigned).symm.append_left _
  | waited => exact conserved
  | withdrew present => exact conserved.leave present _
  | gaveBack present => exact conserved.giveBack present
  | passed => exact { conserved with }

end Conserved

/-! ## Slots in use -/

/-- The calls that a slot has been assigned to and that have not taken it up. -/
def entrusted (crowd : Crowd) : List Call :=
  crowd.pending.filter fun call => call.client ∈ crowd.admission.assigned

/-- No client waits twice. -/
theorem Conserved.nodup_clients
    {crowd : Crowd}
    (conserved : crowd.Conserved) :
    crowd.admission.clients.Nodup :=
  conserved.clients_perm.nodup_iff.mp
    (conserved.calls_perm.nodup_iff.mpr List.nodup_range).of_append_left

/-- Every slot that is assigned is assigned to a client that waits. -/
theorem Conserved.length_entrusted
    {crowd : Crowd}
    (conserved : crowd.Conserved) :
    crowd.entrusted.length = crowd.admission.assigned.length := by
  let isAssigned (client : Nat) : Bool := client ∈ crowd.admission.assigned
  have apart := (List.nodup_append.mp conserved.nodup_clients).2.2
  have noneWaiting : crowd.admission.waiting.countP isAssigned = 0 :=
    List.countP_eq_zero.mpr fun client waiting assigned =>
      apart client waiting client (of_decide_eq_true assigned) rfl
  have allAssigned : crowd.admission.assigned.countP isAssigned =
      crowd.admission.assigned.length :=
    List.countP_eq_length.mpr fun _ assigned => decide_eq_true assigned
  calc crowd.entrusted.length
      = crowd.pending.countP (isAssigned ∘ Call.client) := by
        rw [List.countP_eq_length_filter]
        rfl
    _ = (crowd.pending.map Call.client).countP isAssigned := List.countP_map.symm
    _ = crowd.admission.clients.countP isAssigned := conserved.clients_perm.countP_eq _
    _ = crowd.admission.assigned.length := by
        rw [Admission.clients, List.countP_append, noneWaiting, allAssigned, Nat.zero_add]

/-- What holds of the slots of a crowd at any moment. -/
structure KeepsCount (capacity : Nat) (crowd : Crowd) : Prop where
  /-- The slots in use are those that are held or entrusted to a client. -/
  inUse_eq :
    crowd.admission.inUse = crowd.holders.length + crowd.entrusted.length
  /-- There are never more free slots than slots. -/
  available_le : crowd.admission.available ≤ crowd.admission.capacity
  inUse_le : crowd.admission.inUse ≤ capacity
  inUse_le_peak : crowd.admission.inUse ≤ crowd.admission.peak
  peak_le : crowd.admission.peak ≤ capacity
  /-- Once all slots are back and nobody waits, none is in use. -/
  rest : crowd.holders = [] → crowd.pending = [] → crowd.admission.inUse = 0

theorem Conserved.keepsCount
    {crowd : Crowd}
    (conserved : crowd.Conserved)
    (capacityEq : crowd.admission.capacity = capacity) :
    crowd.KeepsCount capacity := by
  have total := conserved.unheld_eq
  have entrusted := conserved.length_entrusted
  have inUse : crowd.admission.inUse = crowd.holders.length + crowd.entrusted.length := by
    rw [Admission.inUse, entrusted]
    rw [Admission.unheld] at total
    omega
  refine ⟨inUse, ?_, ?_, conserved.inUse_le_peak, ?_, ?_⟩
  · rw [Admission.unheld] at total
    omega
  · exact capacityEq ▸ Nat.sub_le _ _
  · exact capacityEq ▸ conserved.peak_le
  · intro returned idle
    rw [inUse, Crowd.entrusted, returned, idle]
    rfl

theorem Conserved.leads
    {crowd later : Crowd}
    (conserved : crowd.Conserved)
    (course : Leads Permits crowd moves later) :
    later.Conserved :=
  course.keeps (fun _ _ permitted conserved => conserved.turn (turn_after permitted))
    conserved

theorem capacity_leads
    {crowd later : Crowd}
    (course : Leads Permits crowd moves later) :
    later.admission.capacity = crowd.admission.capacity :=
  course.keeps (motive := fun later => later.admission.capacity = crowd.admission.capacity)
    (fun _ _ permitted same => (turn_after permitted).capacity_eq.trans same) rfl

theorem deadline_leads
    {crowd later : Crowd}
    (course : Leads Permits crowd moves later) :
    later.admission.deadline = crowd.admission.deadline :=
  course.keeps (motive := fun later => later.admission.deadline = crowd.admission.deadline)
    (fun _ _ permitted same => (turn_after permitted).deadline_eq.trans same) rfl

theorem peak_leads
    {crowd later : Crowd}
    (course : Leads Permits crowd moves later) :
    crowd.admission.peak ≤ later.admission.peak :=
  course.keeps (motive := fun later => crowd.admission.peak ≤ later.admission.peak)
    (fun _ _ permitted below => below.trans (turn_after permitted).peak_le) (Nat.le_refl _)

/-- Whatever a crowd does, the slots in use are those that somebody holds or has been
given, there are never more of them than the admission has or than the peak says, and
the peak only grows. -/
theorem keeps_count
    {admission : Admission}
    (opens : Admission.open? capacity deadline = .ok admission)
    (course : Leads Permits (gather admission) moves crowd) :
    crowd.KeepsCount capacity ∧
      ∀ moves' later, Leads Permits crowd moves' later →
        crowd.admission.peak ≤ later.admission.peak := by
  have conserved := (Conserved.gather opens).leads course
  obtain rfl := Admission.eq_opened opens
  exact ⟨conserved.keepsCount (capacity_leads course),
    fun _ _ rest => peak_leads rest⟩

/-- The only slot comes back at the deadline.  The client it is assigned to gives up,
and it is handed on to the next one. -/
def handover : List Move :=
  [.ask, .ask, .ask, .wait 10, .giveBack 0, .look ⟨1, 0⟩]

theorem keeps_count_handover :
    ∃ crowd, Leads Permits (gather (.opened 1 10)) handover crowd ∧
      crowd.holders = [] ∧ crowd.entrusted = [⟨2, 0⟩] ∧
      crowd.KeepsCount 1 ∧
      ∀ moves' later, Leads Permits crowd moves' later →
        crowd.admission.peak ≤ later.admission.peak := by
  have course : Leads Permits (gather (.opened 1 10)) handover
      (handover.foldl after (gather (.opened 1 10))) :=
    .more (by decide) <| .more (by decide) <| .more (by decide) <|
      .more (by decide) <| .more (by decide) <| .more (by decide) <| .here _
  exact ⟨_, course, by decide, by decide, keeps_count rfl course⟩

end Crowd
end TransitLoad
