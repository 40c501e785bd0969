import TransitLoad.Proofs.Punctuality

/-!
# Sessions

In a session one client asks directly and others wait in the background.  Whatever is
done in a session, a crowd can do on the clock of a test, move by move; so what holds of
crowds holds of sessions.
-/

namespace TransitLoad

/-! ## Courses on the clock of a test -/

namespace Crowd

/-- Some moves on the clock of a test lead from one crowd to another. -/
def Reaches (crowd later : Crowd) : Prop :=
  ∃ moves, Leads PermitsInTime crowd moves later

theorem Reaches.refl (crowd : Crowd) : crowd.Reaches crowd := ⟨[], .here crowd⟩

theorem Reaches.step
    {crowd later : Crowd}
    (permitted : crowd.PermitsInTime move)
    (reaches : (crowd.after move).Reaches later) :
    crowd.Reaches later := by
  obtain ⟨moves, course⟩ := reaches
  exact ⟨move :: moves, .more permitted course⟩

theorem Reaches.trans
    {crowd middle later : Crowd}
    (reaches : crowd.Reaches middle)
    (onward : middle.Reaches later) :
    crowd.Reaches later := by
  obtain ⟨moves, course⟩ := reaches
  induction course with
  | here => exact onward
  | more permitted _ hypothesis => exact (hypothesis onward).step permitted

/-- A move that takes no time is permitted on the clock if it is permitted at all. -/
theorem Permits.inTime
    {crowd : Crowd}
    (permitted : crowd.Permits move)
    (instant : ∀ moment, move ≠ .wait moment) :
    crowd.PermitsInTime move :=
  ⟨permitted, fun moment waits => absurd waits (instant moment)⟩

end Crowd

/-! ## What clients are told -/

namespace Admission

/-- A client waits on before the deadline, and as long as it is assigned no slot. -/
theorem resume_mustWait_iff
    (admission : Admission)
    (now client : Nat) :
    (admission.resume now client).2 = .mustWait ↔
      now < admission.deadline ∧ client ∉ admission.assigned := by
  rw [resume, ← Nat.not_le, ← isExpired_iff]
  split_ifs with late assigned <;> simp [late, assigned]

namespace Session

/-- A client in the background looks again. -/
def look (session : Session) (client : Nat) : Session :=
  let (admission, verdict) := session.admission.resume session.now client
  session.heed client admission verdict

theorem settle_eq (session : Session) :
    session.settle = session.background.foldl look { session with background := [] } := rfl

/-- At the deadline a client in the background gives up. -/
theorem look_late
    {session : Session}
    (late : session.admission.deadline ≤ session.now)
    (client : Nat) :
    session.look client =
      { session with
        admission := session.admission.withdraw client
        gaveUp := session.gaveUp + 1 } := by
  rw [look, resume, if_pos ((isExpired_iff _ _).mpr late)]
  rfl

/-- At the deadline all clients in the background give up, one after another. -/
theorem foldl_look_late
    (clients : List Nat)
    {session : Session}
    (late : session.admission.deadline ≤ session.now) :
    clients.foldl look session =
      { session with
        admission := clients.foldl withdraw session.admission
        gaveUp := session.gaveUp + clients.length } := by
  induction clients generalizing session with
  | nil => rfl
  | cons client clients hypothesis =>
      rw [List.foldl_cons, look_late late, hypothesis (by rwa [deadline_withdraw]),
        List.foldl_cons, List.length_cons, Nat.add_assoc, Nat.add_comm 1]

/-! ## Sessions and crowds -/

/-- A crowd is in the state of a session in which some clients have yet to look again. -/
structure Mirrors (session : Session) (remaining : List Nat) (crowd : Crowd) : Prop where
  admission : crowd.admission = session.admission
  now : crowd.now = session.now
  stock : crowd.holders.length = session.stock
  newcomer : crowd.arrivals = session.newcomer
  clients : (crowd.pending.map Crowd.Call.client).Perm (remaining ++ session.background)
  /-- Those who have looked again were told to wait. -/
  told : ∀ client ∈ session.background,
    session.now < session.admission.deadline ∧ client ∉ session.admission.assigned
  conserved : crowd.Conserved

namespace Mirrors

variable {session : Session} {crowd : Crowd}

theorem start
    {capacity deadline : Nat}
    {admission : Admission}
    (opens : open? capacity deadline = .ok admission) :
    (start admission).Mirrors [] (.gather admission) :=
  ⟨rfl, rfl, rfl, rfl, .nil, nofun, .gather opens⟩

/-- Once everybody has looked again, it is quiet. -/
theorem isQuiet
    (mirrors : session.Mirrors [] crowd) :
    crowd.IsQuiet := by
  intro call present
  rw [resume_mustWait_iff, mirrors.now, mirrors.admission]
  exact mirrors.told _ (mirrors.clients.mem_iff.mp (List.mem_map_of_mem present))

/-- All clients in the background have yet to look again. -/
theorem restless
    (mirrors : session.Mirrors [] crowd) :
    Mirrors { session with background := [] } session.background crowd :=
  { mirrors with
    clients := by simpa using mirrors.clients
    told := nofun }

/-- The call of the client that is next to look again. -/
theorem exists_call
    (mirrors : session.Mirrors (client :: remaining) crowd) :
    ∃ call ∈ crowd.pending, call.client = client ∧
      ((crowd.pending.erase call).map Crowd.Call.client).Perm
        (remaining ++ session.background) := by
  obtain ⟨call, present, same⟩ :=
    List.mem_map.mp (mirrors.clients.mem_iff.mpr List.mem_cons_self)
  refine ⟨call, present, same, ?_⟩
  have moved := (List.perm_cons_erase present).map Crowd.Call.client
  rw [List.map_cons, same] at moved
  exact (moved.symm.trans mirrors.clients).cons_inv

/-- A client leaves when nobody has looked again yet. -/
theorem leave
    {call : Crowd.Call}
    (mirrors : session.Mirrors (call.client :: remaining) crowd)
    (idle : session.background = [])
    (present : call ∈ crowd.pending)
    (others : ((crowd.pending.erase call).map Crowd.Call.client).Perm
      (remaining ++ session.background))
    (outcome : Crowd.Outcome) :
    Mirrors { session with admission := session.admission.withdraw call.client } remaining
      (crowd.leave call outcome) where
  admission := congrArg (withdraw · call.client) mirrors.admission
  now := mirrors.now
  stock := mirrors.stock
  newcomer := mirrors.newcomer
  clients := others
  told := by simp [idle]
  conserved := mirrors.conserved.leave present outcome

/-- At the deadline a client gives up. -/
theorem giveUp
    (mirrors : session.Mirrors (client :: remaining) crowd)
    (late : session.admission.deadline ≤ session.now) :
    ∃ later, crowd.Reaches later ∧
      Mirrors { session with admission := session.admission.withdraw client } remaining
        later := by
  obtain ⟨call, present, rfl, others⟩ := mirrors.exists_call
  have permitted : crowd.Permits (.look call) := present
  have idle : session.background = [] := List.eq_nil_iff_forall_not_mem.mpr
    fun client waits => absurd (mirrors.told client waits).1 late.not_gt
  refine ⟨_, .step (permitted.inTime nofun) (.refl _), ?_⟩
  rw [Crowd.after_look_late (by rwa [mirrors.admission, mirrors.now])]
  exact mirrors.leave idle present others .refused

/-- A client looks again. -/
theorem look
    (mirrors : session.Mirrors (client :: remaining) crowd) :
    ∃ later, crowd.Reaches later ∧ (session.look client).Mirrors remaining later := by
  by_cases late : session.admission.deadline ≤ session.now
  · obtain ⟨later, reaches, gaveUp⟩ := mirrors.giveUp late
    rw [look_late late]
    exact ⟨later, reaches, { gaveUp with }⟩
  obtain ⟨call, present, rfl, others⟩ := mirrors.exists_call
  have permitted : crowd.Permits (.look call) := present
  have conserved := mirrors.conserved.turn (Crowd.turn_after permitted)
  refine ⟨_, .step (permitted.inTime nofun) (.refl _), ?_⟩
  have inTime := mt (isExpired_iff session.admission session.now).mp late
  rw [Crowd.after, mirrors.now, mirrors.admission, resume, if_neg inTime] at conserved ⊢
  rw [Session.look, resume, if_neg inTime]
  split_ifs at conserved ⊢ with assigned
  · refine ⟨rfl, mirrors.now, ?_, mirrors.newcomer, others, ?_, conserved⟩
    · exact congrArg (· + 1) mirrors.stock
    · intro client waits
      obtain ⟨early, unassigned⟩ := mirrors.told client waits
      exact ⟨early, fun assigned => unassigned (List.mem_of_mem_erase assigned)⟩
  · refine ⟨rfl, mirrors.now, mirrors.stock, mirrors.newcomer, ?_, ?_, conserved⟩
    · refine mirrors.clients.trans ((List.perm_append_singleton _ _).symm.trans ?_)
      simp [Session.heed]
    · exact List.forall_mem_append.mpr ⟨mirrors.told,
        List.forall_mem_singleton.mpr ⟨Nat.lt_of_not_le late, assigned⟩⟩

/-- All remaining clients look again, one after another. -/
theorem lookAll
    (mirrors : session.Mirrors remaining crowd) :
    ∃ later, crowd.Reaches later ∧ (remaining.foldl Session.look session).Mirrors [] later := by
  induction remaining generalizing session crowd with
  | nil => exact ⟨crowd, .refl crowd, mirrors⟩
  | cons client remaining hypothesis =>
      obtain ⟨middle, reaches, mirrors⟩ := mirrors.look
      obtain ⟨later, onward, mirrors⟩ := hypothesis mirrors
      exact ⟨later, reaches.trans onward, mirrors⟩

/-! ### Operations -/

/-- A new client asks. -/
theorem ask
    (mirrors : session.Mirrors [] crowd) :
    let told := session.admission.ask session.now session.newcomer
    ({ session with newcomer := session.newcomer + 1 }.heed session.newcomer told.1
      told.2).Mirrors [] (crowd.after .ask) := by
  have conserved := mirrors.conserved.turn crowd.turn_ask
  have fresh : crowd.arrivals ∉ crowd.admission.assigned := by
    intro assigned
    have waits := mirrors.conserved.clients_perm.mem_iff.mpr (List.mem_append_right _ assigned)
    have counted := mirrors.conserved.calls_perm.mem_iff.mp (List.mem_append_left _ waits)
    exact absurd (List.mem_range.mp counted) (Nat.lt_irrefl _)
  rw [Crowd.after, Admission.ask] at conserved ⊢
  rw [Admission.ask, ← mirrors.now, ← mirrors.admission, ← mirrors.newcomer]
  have waiting := mirrors.told
  rw [← mirrors.now, ← mirrors.admission] at waiting
  have closed : ((crowd.nextCall :: crowd.pending).erase crowd.nextCall).map
      Crowd.Call.client |>.Perm session.background := by
    simpa using mirrors.clients
  split_ifs at conserved ⊢ with late full
  · exact ⟨rfl, rfl, mirrors.stock, rfl, closed, waiting, conserved⟩
  · have early := Nat.lt_of_not_le (mt (isExpired_iff _ _).mpr late)
    refine ⟨rfl, rfl, mirrors.stock, rfl, ?_, ?_, conserved⟩
    · exact (mirrors.clients.cons crowd.arrivals).trans (List.perm_append_singleton _ _).symm
    · exact List.forall_mem_append.mpr ⟨waiting, List.forall_mem_singleton.mpr ⟨early, fresh⟩⟩
  · exact ⟨rfl, rfl, congrArg (· + 1) mirrors.stock, rfl, closed, waiting, conserved⟩

theorem join
    (mirrors : session.Mirrors [] crowd) :
    ∃ later, crowd.Reaches later ∧ session.join.Mirrors [] later := by
  have permitted : crowd.Permits .ask := trivial
  exact ⟨_, .step (permitted.inTime nofun) (.refl _), mirrors.ask⟩

/-- Time passes while nobody has to look again, though not beyond the deadline while
somebody waits. -/
theorem wait
    (mirrors : session.Mirrors [] crowd)
    (later : session.now ≤ moment)
    (inTime : session.background ≠ [] → moment ≤ session.admission.deadline) :
    ∃ later, crowd.Reaches later ∧
      Mirrors { session with now := moment, background := [] } session.background later := by
  have permitted : crowd.Permits (.wait moment) := mirrors.now.le.trans later
  have conserved := mirrors.conserved.turn (Crowd.turn_after permitted)
  refine ⟨_, .step ⟨permitted, ?_⟩ (.refl _), ?_⟩
  · rintro _ ⟨⟩
    refine ⟨mirrors.isQuiet, fun someone => mirrors.admission ▸ inTime fun nobody => someone ?_⟩
    have waits := mirrors.clients
    rw [nobody] at waits
    exact List.map_eq_nil_iff.mp waits.eq_nil
  · have restless := mirrors.restless
    exact ⟨restless.admission, rfl, restless.stock, restless.newcomer, restless.clients, nofun,
      conserved⟩

/-- Time passes, and those who wait at the deadline give up then. -/
theorem advance
    (mirrors : session.Mirrors [] crowd)
    (length : Duration) :
    ∃ later, crowd.Reaches later ∧ (session.advance length).Mirrors [] later := by
  have onward : session.now ≤ session.now + length.waitMilliseconds := Nat.le_add_right _ _
  by_cases inTime : session.background ≠ [] →
      session.now + length.waitMilliseconds ≤ session.admission.deadline
  · obtain ⟨middle, reaches, waited⟩ := mirrors.wait onward inTime
    obtain ⟨later, onward, settled⟩ := waited.lookAll
    exact ⟨later, reaches.trans onward, settled⟩
  · obtain ⟨someone, beyond⟩ := Classical.not_imp.mp inTime
    obtain ⟨client, waits⟩ := List.exists_mem_of_ne_nil _ someone
    have early := (mirrors.told client waits).1
    obtain ⟨middle, reaches, waited⟩ := mirrors.wait early.le fun _ => Nat.le_refl _
    obtain ⟨settled, reaches', gaveUp⟩ := waited.lookAll
    rw [foldl_look_late _ (Nat.le_refl _)] at gaveUp
    have beyond := (Nat.lt_of_not_le beyond).le
    obtain ⟨later, reaches'', waited⟩ := gaveUp.wait beyond fun someone => absurd rfl someone
    refine ⟨later, reaches.trans (reaches'.trans reaches''), ?_⟩
    rw [Session.advance, settle_eq, foldl_look_late _ beyond]
    exact waited

/-- Some slots of the stock are given back, and nobody has looked again yet. -/
theorem giveBackAll
    (mirrors : session.Mirrors remaining crowd)
    (idle : session.background = [])
    (held : count ≤ session.stock) :
    ∃ later, crowd.Reaches later ∧
      Mirrors
        { session with
          admission := Nat.repeat Admission.giveBack count session.admission
          stock := session.stock - count }
        remaining later := by
  induction count with
  | zero => exact ⟨crowd, .refl crowd, mirrors⟩
  | succ count hypothesis =>
      obtain ⟨middle, reaches, mirrors⟩ := hypothesis (Nat.le_of_succ_le held)
      have some : middle.holders ≠ [] := by
        rw [← List.length_pos_iff, mirrors.stock]
        exact Nat.sub_pos_of_lt held
      obtain ⟨holder, holds⟩ := List.exists_mem_of_ne_nil _ some
      have permitted : middle.Permits (.giveBack holder) := holds
      refine ⟨_, reaches.trans (.step (permitted.inTime nofun) (.refl _)), ?_⟩
      refine ⟨congrArg Admission.giveBack mirrors.admission, mirrors.now, ?_, mirrors.newcomer,
        mirrors.clients, ?_, mirrors.conserved.giveBack holds⟩
      · rw [Crowd.after, List.length_erase_of_mem holds, mirrors.stock]
        exact Nat.sub_sub _ _ _
      · simp [idle]

theorem giveBack
    (mirrors : session.Mirrors [] crowd)
    (count : Nat) :
    ∃ later, crowd.Reaches later ∧ (session.giveBack count).1.Mirrors [] later := by
  obtain ⟨middle, reaches, returned⟩ :=
    mirrors.restless.giveBackAll rfl (Nat.min_le_right count session.stock)
  obtain ⟨later, onward, settled⟩ := returned.lookAll
  exact ⟨later, reaches.trans onward, settled⟩

/-- All remaining clients give up for good, one after another. -/
theorem withdrawAll
    (mirrors : session.Mirrors remaining crowd)
    (idle : session.background = []) :
    ∃ later, crowd.Reaches later ∧
      Mirrors { session with admission := remaining.foldl withdraw session.admission } []
        later := by
  induction remaining generalizing session crowd with
  | nil => exact ⟨crowd, .refl crowd, mirrors⟩
  | cons client remaining hypothesis =>
      obtain ⟨call, present, rfl, others⟩ := mirrors.exists_call
      have permitted : crowd.Permits (.withdraw call) := present
      obtain ⟨later, onward, withdrawn⟩ :=
        hypothesis (mirrors.leave idle present others .withdrawn) idle
      exact ⟨later, .step (permitted.inTime nofun) onward, withdrawn⟩

theorem cancel
    (mirrors : session.Mirrors [] crowd) :
    ∃ later, crowd.Reaches later ∧ session.cancel.Mirrors [] later :=
  mirrors.restless.withdrawAll rfl

/-- The client that asks directly waits for the deadline if it has to wait. -/
theorem acquire
    (mirrors : session.Mirrors [] crowd) :
    ∃ later, crowd.Reaches later ∧ session.acquire.1.Mirrors [] later := by
  have asked := mirrors.ask
  have permitted : crowd.Permits .ask := trivial
  have reaches := Crowd.Reaches.step (permitted.inTime nofun) (.refl _)
  rw [Session.acquire]
  generalize session.admission.ask session.now session.newcomer = told at asked ⊢
  obtain ⟨admission, verdict⟩ := told
  cases verdict with
  | granted => exact ⟨_, reaches, asked⟩
  | refused => exact ⟨_, reaches, { asked with }⟩
  | mustWait =>
      have early : session.now < admission.deadline :=
        (asked.told session.newcomer (List.mem_append_right _ List.mem_cons_self)).1
      obtain ⟨middle, reaches', waited⟩ := asked.wait (Nat.le_max_left session.now _)
        fun _ => (Nat.max_eq_right early.le).le
      have inFront : (session.background ++ [session.newcomer]).Perm
          (session.newcomer :: session.background) := List.perm_append_singleton _ _
      replace waited := { waited with
        clients := waited.clients.trans (inFront.append_right []) }
      obtain ⟨next, onward, gaveUp⟩ := waited.giveUp (Nat.le_max_right _ _)
      obtain ⟨later, onward', settled⟩ := gaveUp.lookAll
      exact ⟨later, reaches.trans (reaches'.trans (onward.trans onward')), settled⟩

end Mirrors

/-! ## Sessions as a whole -/

/-- What can be done in a session. -/
inductive Operation where
  | join
  | advance (length : Duration)
  | acquire
  | giveBack (count : Nat)
  | cancel
  deriving DecidableEq

/-- The session after an operation. -/
def after (session : Session) : Operation → Session
  | .join => session.join
  | .advance length => session.advance length
  | .acquire => session.acquire.1
  | .giveBack count => (session.giveBack count).1
  | .cancel => session.cancel

theorem Mirrors.after
    {session : Session}
    {crowd : Crowd}
    (mirrors : session.Mirrors [] crowd)
    (operation : Operation) :
    ∃ later, crowd.Reaches later ∧ (session.after operation).Mirrors [] later := by
  cases operation with
  | join => exact mirrors.join
  | advance length => exact mirrors.advance length
  | acquire => exact mirrors.acquire
  | giveBack count => exact mirrors.giveBack count
  | cancel => exact mirrors.cancel

theorem Mirrors.foldl_after
    {session : Session}
    {crowd : Crowd}
    (mirrors : session.Mirrors [] crowd)
    (operations : List Operation) :
    ∃ later, crowd.Reaches later ∧ (operations.foldl Session.after session).Mirrors [] later := by
  induction operations generalizing session crowd with
  | nil => exact ⟨crowd, .refl crowd, mirrors⟩
  | cons operation operations hypothesis =>
      obtain ⟨middle, reaches, mirrors⟩ := mirrors.after operation
      obtain ⟨later, onward, mirrors⟩ := hypothesis mirrors
      exact ⟨later, reaches.trans onward, mirrors⟩

/-- Between the operations of a session the slots in use are those of the stock, and
clients wait only before the deadline and while no slot is free. -/
structure KeepsSlots (capacity : Nat) (session : Session) : Prop where
  inUse_eq : session.admission.inUse = session.stock
  inUse_le_peak : session.admission.inUse ≤ session.admission.peak
  peak_le : session.admission.peak ≤ capacity
  busy : session.background ≠ [] →
    session.now < session.admission.deadline ∧ session.admission.inUse = capacity

theorem Mirrors.keepsSlots
    {session : Session}
    {crowd : Crowd}
    (mirrors : session.Mirrors [] crowd) :
    session.KeepsSlots session.admission.capacity := by
  have keeps := mirrors.conserved.keepsCount rfl
  have entrusted : crowd.entrusted = [] := by
    refine List.filter_eq_nil_iff.mpr fun call present => ?_
    have waits := mirrors.clients.mem_iff.mp (List.mem_map_of_mem present)
    simpa [mirrors.admission] using (mirrors.told _ waits).2
  have inUse := keeps.inUse_eq
  rw [entrusted, List.length_nil, mirrors.stock] at inUse
  constructor <;> rw [← mirrors.admission]
  · exact inUse
  · exact keeps.inUse_le_peak
  · exact keeps.peak_le
  · intro someone
    obtain ⟨client, waits⟩ := List.exists_mem_of_ne_nil _ someone
    have early := (mirrors.told client waits).1
    rw [← mirrors.admission, ← mirrors.now] at early
    refine ⟨mirrors.now ▸ early, ?_⟩
    refine mirrors.conserved.inUse_eq_capacity mirrors.isQuiet early fun nobody => ?_
    have pending := mirrors.clients.mem_iff.mpr waits
    simp [nobody] at pending

/-- Whatever is done in a session, a crowd can do on the clock of a test; so the slots of
the session are accounted for. -/
theorem keeps_slots
    {capacity deadline : Nat}
    {admission : Admission}
    (opens : open? capacity deadline = .ok admission)
    (operations : List Operation) :
    ∃ crowd, (Crowd.gather admission).Reaches crowd ∧
      (operations.foldl after (start admission)).Mirrors [] crowd ∧
      (operations.foldl after (start admission)).KeepsSlots capacity := by
  obtain ⟨crowd, ⟨moves, course⟩, mirrors⟩ := (Mirrors.start opens).foldl_after operations
  have permitted := course.mono fun _ _ permitted => permitted.1
  have same := Crowd.capacity_leads permitted
  obtain rfl := eq_opened opens
  refine ⟨crowd, ⟨moves, course⟩, mirrors, ?_⟩
  have keeps := mirrors.keepsSlots
  rwa [← mirrors.admission, same] at keeps

end Session
end Admission
end TransitLoad
