import Mathlib.Order.Bounds.Basic
import TransitLoad.Proofs.Crowd
import TransitLoad.Proofs.QueueRefinement

/-!
# Punctuality

On the clock of a test, time passes only when every client that waits has looked in
vain, and it stops at the deadline for those who still wait.  On such a clock slots
are granted before the deadline only, whoever still waits is turned away at the first
millisecond that is not before it, and no slot is left idle while somebody waits.
-/

namespace TransitLoad

theorem Duration.roundedUp_le_iff (duration : Duration) (moment : Nat) :
    duration.roundedUp ≤ moment ↔ duration.nanoseconds ≤ moment * 1000000 := by
  rw [roundedUp]
  omega

theorem Duration.lt_roundedUp_iff (duration : Duration) (moment : Nat) :
    moment < duration.roundedUp ↔ moment * 1000000 < duration.nanoseconds := by
  rw [← Nat.not_le, roundedUp_le_iff, Nat.not_le]

namespace Crowd

/-- Nobody who waits would be told anything on looking again. -/
def IsQuiet (crowd : Crowd) : Prop :=
  ∀ call ∈ crowd.pending,
    (crowd.admission.resume crowd.now call.client).2 = .mustWait

/-- What can happen on the clock of a test: time passes only when it is quiet, and
not beyond the deadline while somebody waits for it. -/
def PermitsInTime (crowd : Crowd) (move : Move) : Prop :=
  crowd.Permits move ∧
    ∀ moment, move = .wait moment →
      crowd.IsQuiet ∧ (crowd.pending ≠ [] → moment ≤ crowd.admission.deadline)

/-- Only early clients wait, and not for longer than until the deadline; slots are
granted before it, and clients are turned away at the deadline or when they ask. -/
structure Punctual (crowd : Crowd) : Prop where
  asked_lt : ∀ call ∈ crowd.pending, call.askedAt < crowd.admission.deadline
  now_le : ∀ call ∈ crowd.pending, crowd.now ≤ crowd.admission.deadline
  granted_lt : ∀ call ∈ crowd.ended, call.outcome = .granted →
    call.endedAt < crowd.admission.deadline
  refused_eq : ∀ call ∈ crowd.ended, call.outcome = .refused →
    call.endedAt = max call.askedAt crowd.admission.deadline

namespace Punctual

theorem gather (admission : Admission) : (Crowd.gather admission).Punctual :=
  ⟨nofun, nofun, nofun, nofun⟩

/-- A call that ends in time leaves the rest as it was. -/
theorem close
    {crowd next : Crowd}
    (punctual : crowd.Punctual)
    (call : Call)
    (pending : next.pending ⊆ crowd.pending)
    (ended : next.ended = ⟨call, crowd.now, outcome⟩ :: crowd.ended)
    (now : next.now = crowd.now)
    (deadline : next.admission.deadline = crowd.admission.deadline)
    (granted : outcome = .granted → crowd.now < crowd.admission.deadline)
    (refused : outcome = .refused →
      crowd.now = max call.askedAt crowd.admission.deadline) :
    next.Punctual := by
  refine ⟨?_, ?_, ?_, ?_⟩
  · exact fun call present => deadline ▸ punctual.asked_lt call (pending present)
  · exact fun call present => now ▸ deadline ▸ punctual.now_le call (pending present)
  · rw [ended, deadline]
    exact List.forall_mem_cons.mpr ⟨granted, punctual.granted_lt⟩
  · rw [ended, deadline]
    exact List.forall_mem_cons.mpr ⟨refused, punctual.refused_eq⟩

theorem turn
    {crowd next : Crowd}
    (punctual : crowd.Punctual)
    (inTime : ∀ moment, move = .wait moment →
      crowd.pending ≠ [] → moment ≤ crowd.admission.deadline)
    (turn : crowd.Turn move next) :
    next.Punctual := by
  cases turn with
  | refused late =>
      refine punctual.close crowd.nextCall ?_ rfl rfl rfl (by rintro ⟨⟩) fun _ => ?_
      · simp [Crowd.close, join]
      · exact (Nat.max_eq_left late).symm
  | queued early full =>
      refine ⟨?_, ?_, punctual.granted_lt, punctual.refused_eq⟩
      · exact List.forall_mem_cons.mpr ⟨early, punctual.asked_lt⟩
      · exact fun _ _ => early.le
  | took early free =>
      refine punctual.close crowd.nextCall ?_ rfl rfl rfl (fun _ => early) (by rintro ⟨⟩)
      simp [Crowd.close, join]
  | @gaveUp call present late =>
      refine punctual.close call List.erase_subset rfl rfl
        (Admission.deadline_withdraw _ _) (by rintro ⟨⟩) fun _ => ?_
      have early := punctual.asked_lt call present
      rw [Nat.max_eq_right early.le]
      exact Nat.le_antisymm (punctual.now_le call present) late
  | @collected call present early assigned =>
      exact punctual.close call List.erase_subset rfl rfl rfl (fun _ => early) (by rintro ⟨⟩)
  | waited => exact punctual
  | @withdrew call =>
      exact punctual.close call List.erase_subset rfl rfl
        (Admission.deadline_withdraw _ _) (by rintro ⟨⟩) (by rintro ⟨⟩)
  | gaveBack =>
      have same := Admission.deadline_giveBack crowd.admission
      constructor <;> simp only [same]
      exacts [punctual.asked_lt, punctual.now_le, punctual.granted_lt, punctual.refused_eq]
  | @passed moment =>
      refine ⟨punctual.asked_lt, fun call present => ?_, punctual.granted_lt,
        punctual.refused_eq⟩
      exact inTime moment rfl (List.ne_nil_of_mem present)

theorem leads
    {crowd later : Crowd}
    (punctual : crowd.Punctual)
    (course : Leads PermitsInTime crowd moves later) :
    later.Punctual :=
  course.keeps
    (fun _ _ permitted punctual =>
      punctual.turn (fun moment waits => (permitted.2 moment waits).2)
        (turn_after permitted.1))
    punctual

end Punctual

/-- While it is quiet and somebody waits before the deadline, all slots are in use. -/
theorem Conserved.inUse_eq_capacity
    {crowd : Crowd}
    (conserved : crowd.Conserved)
    (quiet : crowd.IsQuiet)
    (early : crowd.now < crowd.admission.deadline)
    (someone : crowd.pending ≠ []) :
    crowd.admission.inUse = crowd.admission.capacity := by
  obtain ⟨call, present⟩ := List.exists_mem_of_ne_nil _ someone
  have unassigned : call.client ∉ crowd.admission.assigned := by
    intro assigned
    have told := quiet call present
    rw [Admission.resume, if_neg (mt (Admission.isExpired_iff _ _).mp early.not_ge),
      if_pos assigned] at told
    cases told
  have waiting := (List.mem_append.mp (conserved.mem_clients present)).resolve_right
    unassigned
  rw [Admission.inUse, conserved.busy (List.ne_nil_of_mem waiting), Nat.sub_zero]

/-- Whoever looks again at the deadline or later is turned away. -/
theorem after_look_late
    {crowd : Crowd}
    (late : crowd.admission.deadline ≤ crowd.now)
    (call : Call) :
    crowd.after (.look call) = crowd.leave call .refused := by
  rw [after, Admission.resume, if_pos ((Admission.isExpired_iff _ _).mpr late)]
  rfl

/-- Whoever asks at the deadline or later is turned away at once. -/
theorem after_ask_late
    {crowd : Crowd}
    (late : crowd.admission.deadline ≤ crowd.now) :
    crowd.after .ask =
      { crowd with
        arrivals := crowd.arrivals + 1
        ended := ⟨crowd.nextCall, crowd.now, .refused⟩ :: crowd.ended } := by
  rw [after, Admission.ask, if_pos ((Admission.isExpired_iff _ _).mpr late)]
  simp [heed, close, join]

/-- A slot that is held stays held until it is given back. -/
theorem Turn.mem_holders
    {crowd next : Crowd}
    (turn : crowd.Turn move next)
    (held : client ∈ crowd.holders)
    (kept : move ≠ .giveBack client) :
    client ∈ next.holders := by
  cases turn with
  | took | collected => exact List.mem_cons_of_mem _ held
  | gaveBack =>
      have other : client ≠ _ := fun same => kept (congrArg _ same.symm)
      exact (List.mem_erase_of_ne other).mpr held
  | refused | queued | gaveUp | waited | withdrew | passed => exact held

theorem mem_holders_leads
    {crowd later : Crowd}
    (course : Leads Permits crowd moves later)
    (held : client ∈ crowd.holders)
    (kept : .giveBack client ∉ moves) :
    client ∈ later.holders := by
  induction course with
  | here => exact held
  | more permitted _ hypothesis =>
      refine hypothesis ((turn_after permitted).mem_holders held ?_) ?_
      · exact fun same => kept (same ▸ List.mem_cons_self)
      · exact fun present => kept (List.mem_cons_of_mem _ present)

/-! ## The deadline -/

/-- What the deadline means for a crowd, and what it does not. -/
structure KeepsTime (capacity : Nat) (deadline : Duration) (crowd : Crowd) : Prop where
  /-- Every client that has come waits or has been dealt with, and that once. -/
  calls_perm :
    (crowd.pending.map Call.client ++ crowd.ended.map (·.client)).Perm
      (List.range crowd.arrivals)
  /-- Slots are granted before the deadline only. -/
  granted_early : ∀ call ∈ crowd.ended, call.outcome = .granted →
    call.endedAt * 1000000 < deadline.nanoseconds
  /-- Whoever was turned away was so at the first millisecond, from the one it asked
  in, that is not before the deadline. -/
  refused_at : ∀ call ∈ crowd.ended, call.outcome = .refused →
    IsLeast {moment | call.askedAt ≤ moment ∧ deadline.nanoseconds ≤ moment * 1000000}
      call.endedAt
  /-- Nobody waits any more once that millisecond is over. -/
  nobodyWaits : ∀ moment < crowd.now, deadline.nanoseconds ≤ moment * 1000000 →
    crowd.pending = []
  /-- Whoever waits at the deadline is turned away on looking again. -/
  look_late : ∀ call ∈ crowd.pending, deadline.nanoseconds ≤ crowd.now * 1000000 →
    crowd.after (.look call) = crowd.leave call .refused
  /-- Whoever asks at the deadline or later is turned away at once. -/
  ask_late : deadline.nanoseconds ≤ crowd.now * 1000000 →
    crowd.after .ask =
      { crowd with
        arrivals := crowd.arrivals + 1
        ended := ⟨crowd.nextCall, crowd.now, .refused⟩ :: crowd.ended }
  /-- Time does not pass before the deadline while a slot is free and somebody waits. -/
  busy : ∀ moment, crowd.PermitsInTime (.wait moment) →
    crowd.now * 1000000 < deadline.nanoseconds → crowd.pending ≠ [] →
      crowd.admission.inUse = capacity
  /-- Slots stay held until they are given back. -/
  kept : ∀ client ∈ crowd.holders, ∀ moves later,
    Leads PermitsInTime crowd moves later → .giveBack client ∉ moves →
      client ∈ later.holders

theorem Punctual.keepsTime
    {crowd : Crowd}
    {deadline : Duration}
    (punctual : crowd.Punctual)
    (conserved : crowd.Conserved)
    (capacityEq : crowd.admission.capacity = capacity)
    (deadlineEq : crowd.admission.deadline = deadline.roundedUp) :
    crowd.KeepsTime capacity deadline where
  calls_perm := conserved.calls_perm
  granted_early call present granted := by
    rw [← deadline.lt_roundedUp_iff, ← deadlineEq]
    exact punctual.granted_lt call present granted
  refused_at call present refused := by
    rw [punctual.refused_eq call present refused, deadlineEq]
    simp only [← deadline.roundedUp_le_iff]
    refine ⟨⟨Nat.le_max_left _ _, Nat.le_max_right _ _⟩, ?_⟩
    exact fun moment notBefore => Nat.max_le.mpr notBefore
  nobodyWaits moment passed late := by
    rw [← deadline.roundedUp_le_iff, ← deadlineEq] at late
    refine List.eq_nil_iff_forall_not_mem.mpr fun call present => ?_
    exact absurd (punctual.now_le call present) (late.trans_lt passed).not_ge
  look_late call present late := by
    rw [← deadline.roundedUp_le_iff, ← deadlineEq] at late
    exact after_look_late late call
  ask_late late := by
    rw [← deadline.roundedUp_le_iff, ← deadlineEq] at late
    exact after_ask_late late
  busy moment permitted early someone := by
    rw [← deadline.lt_roundedUp_iff, ← deadlineEq] at early
    rw [← capacityEq]
    exact conserved.inUse_eq_capacity (permitted.2 moment rfl).1 early someone
  kept client held moves later course kept :=
    mem_holders_leads (course.mono fun _ _ permitted => permitted.1) held kept

/-- However a crowd comes and goes on the clock of a test, slots are granted before
the deadline only, all others are turned away as soon as it has come, and no slot is
left idle for anybody who waits. -/
theorem keeps_time
    {admission : Admission}
    {deadline : Duration}
    (opens : Admission.open? capacity deadline.roundedUp = .ok admission)
    (course : Leads PermitsInTime (gather admission) moves crowd) :
    crowd.KeepsTime capacity deadline := by
  have permitted := course.mono fun _ _ permitted => permitted.1
  obtain rfl := Admission.eq_opened opens
  exact ((Punctual.gather _).leads course).keepsTime
    ((Conserved.gather opens).leads permitted)
    (capacity_leads permitted) (deadline_leads permitted)

instance (crowd : Crowd) : Decidable crowd.IsQuiet := by
  unfold IsQuiet
  infer_instance

/-- A slot is handed on a millisecond before the deadline, which comes in the middle
of the eleventh one, and comes back when it is too late for the client that waits. -/
def lastMoments : List Move :=
  [.ask, .ask, .ask, .wait 10, .giveBack 0, .look ⟨1, 0⟩, .wait 11, .giveBack 1,
    .look ⟨2, 0⟩]

theorem keeps_time_lastMoments :
    ∃ crowd, Leads PermitsInTime (gather (.opened 1 11)) lastMoments crowd ∧
      crowd.ended =
        [⟨⟨2, 0⟩, 11, .refused⟩, ⟨⟨1, 0⟩, 10, .granted⟩, ⟨⟨0, 0⟩, 0, .granted⟩] ∧
      crowd.KeepsTime 1 ⟨10500000⟩ := by
  have waits {crowd : Crowd} {moment : Nat}
      (later : crowd.now ≤ moment)
      (quiet : crowd.IsQuiet ∧ (crowd.pending ≠ [] → moment ≤ crowd.admission.deadline)) :
      crowd.PermitsInTime (.wait moment) :=
    ⟨later, fun _ same => Move.wait.inj same ▸ quiet⟩
  have course : Leads PermitsInTime (gather (.opened 1 11)) lastMoments
      (lastMoments.foldl after (gather (.opened 1 11))) :=
    .more ⟨by decide, nofun⟩ <| .more ⟨by decide, nofun⟩ <| .more ⟨by decide, nofun⟩ <|
      .more (waits (by decide) (by decide)) <| .more ⟨by decide, nofun⟩ <|
      .more ⟨by decide, nofun⟩ <| .more (waits (by decide) (by decide)) <|
      .more ⟨by decide, nofun⟩ <| .more ⟨by decide, nofun⟩ <| .here _
  have opens : Admission.open? 1 (Duration.roundedUp ⟨10500000⟩) = .ok (.opened 1 11) := rfl
  exact ⟨_, course, by decide, keeps_time opens course⟩

end Crowd
end TransitLoad
