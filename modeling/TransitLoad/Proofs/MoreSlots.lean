import TransitLoad.Proofs.QueueRefinement

/-!
# More slots

In a queue with more slots every customer is admitted no later, whatever the delays and
the work of the others: who is admitted earlier finishes earlier, so at no moment do more
customers have yet to finish.  A test with more slots therefore starts at least the same
walkers, each of them no later.
-/

namespace TransitLoad

namespace Queue

variable {slow fast : Queue}

/-- Customers that finish no later are no more that have yet to finish. -/
theorem unfinished_le_unfinished
    (earlier : ∀ other < customer, fast.finish other ≤ slow.finish other)
    (moment : Nat) :
    fast.unfinished customer moment ≤ slow.unfinished customer moment := by
  apply List.countP_mono_left
  intro other present unfinished
  rw [decide_eq_true_eq] at unfinished ⊢
  exact unfinished.trans_le (earlier other (List.mem_range.mp present))

/-- A customer that comes no later, and behind customers that finish no later, is admitted
no later where there are no fewer slots. -/
theorem admission_le_admission
    (capacityPos : 0 < slow.capacity)
    (capacity : slow.capacity ≤ fast.capacity)
    (came : fast.arrival customer ≤ slow.arrival customer)
    (earlier : ∀ other < customer, fast.finish other ≤ slow.finish other) :
    fast.admission customer ≤ slow.admission customer := by
  obtain ⟨came', free⟩ := (admission_isLeast capacityPos customer).1
  apply (admission_isLeast (capacityPos.trans_le capacity) customer).2
  refine ⟨came.trans came', ?_⟩
  calc
    fast.unfinished customer (slow.admission customer) ≤
        slow.unfinished customer (slow.admission customer) :=
      unfinished_le_unfinished earlier _
    _ < slow.capacity := free
    _ ≤ fast.capacity := capacity

/-- No customer comes later where there are no fewer slots, and no delay and no work is
longer. -/
theorem arrival_le_arrival
    (capacityPos : 0 < slow.capacity)
    (capacity : slow.capacity ≤ fast.capacity)
    (delay : ∀ customer, fast.delay customer ≤ slow.delay customer)
    (work : ∀ customer, fast.work customer ≤ slow.work customer)
    (customer : Nat) :
    fast.arrival customer ≤ slow.arrival customer := by
  induction customer using Nat.strong_induction_on with
  | _ customer hypothesis =>
      cases customer with
      | zero =>
          rw [arrival.eq_def]
          exact Nat.zero_le _
      | succ customer =>
          have came := hypothesis customer (Nat.lt_succ_self customer)
          have earlier : ∀ other < customer, fast.finish other ≤ slow.finish other :=
            fun other lt =>
              Nat.add_le_add (hypothesis (other + 1) (Nat.succ_lt_succ lt)) (work other)
          change fast.start customer ≤ slow.start customer
          rw [start_eq, start_eq]
          exact Nat.add_le_add (admission_le_admission capacityPos capacity came earlier)
            (delay customer)

end Queue

namespace RunPlan

open RunState

/-- The same test with another number of slots, and with walkers that may act in another
order. -/
def withSlots (plan : RunPlan) (slots : UInt64) (order : Nat → Nat) : RunPlan where
  settings := { plan.settings with maxConcurrency := slots }
  api := plan.api
  order := order

/-- Every walker starts no later in a test with more slots. -/
theorem start_withSlots_le
    {plan : RunPlan}
    {slots : UInt64}
    (slotsPos : 0 < plan.settings.maxConcurrency.toNat)
    (more : plan.settings.maxConcurrency ≤ slots)
    (order : Nat → Nat)
    (walker : Nat) :
    (plan.withSlots slots order).queue.start walker ≤ plan.queue.start walker := by
  have delay (other : Nat) :
      (plan.withSlots slots order).queue.delay other ≤ plan.queue.delay other :=
    Nat.le_refl _
  have work (other : Nat) :
      (plan.withSlots slots order).queue.work other ≤ plan.queue.work other :=
    Nat.le_refl _
  exact Queue.arrival_le_arrival slotsPos (UInt64.le_iff_toNat_le.mp more) delay work
    (walker + 1)

/-- Before an API that answers by the URL alone, more slots never delay anybody.  Every
walker that is started is also started in the same test with more slots, and no later
there; so no fewer walkers are started. -/
theorem more_slots_delay_nobody
    {plan : RunPlan}
    {slots : UInt64}
    {order : Nat → Nat}
    (valid : plan.settings.validate = .ok ())
    (valid' : (plan.withSlots slots order).settings.validate = .ok ())
    (delayed : 1 ≤ plan.settings.minSpawnDelay.toNat)
    (fixed : plan.api.IsFixed)
    (more : plan.settings.maxConcurrency ≤ slots) :
    ∃ state state', plan.finalState = .ok state ∧
      (plan.withSlots slots order).finalState = .ok state' ∧
      (∀ walker < state.summary.spawned, ∃ walk ∈ state.ended, ∃ walk' ∈ state'.ended,
        walk.walker = walker ∧ walk'.walker = walker ∧
          walk'.startedAt ≤ walk.startedAt) ∧
      state.summary.spawned ≤ state'.summary.spawned := by
  have isValid := plan.settings.validate_eq_ok.mp valid
  have isValid' := (plan.withSlots slots order).settings.validate_eq_ok.mp valid'
  obtain ⟨state, ends⟩ := exists_finalState isValid delayed
  obtain ⟨state', ends'⟩ := exists_finalState isValid' delayed
  have fixed' : (plan.withSlots slots order).api.IsFixed := fixed
  have follows := follows_of_finalState fixed ends
  have follows' := follows_of_finalState fixed' ends'
  have earlier := start_withSlots_le isValid.concurrency_pos more order
  have both : ∀ walker < state.spawned, ∃ walk ∈ state.ended, ∃ walk' ∈ state'.ended,
      walk.walker = walker ∧ walk'.walker = walker ∧ walk'.startedAt ≤ walk.startedAt := by
    intro walker started
    have listed := (mem_ended_of_finalState ends).mpr started
    have early := (follows.started walker).mp listed
    have listed' := (follows'.started walker).mpr ((earlier walker).trans_lt early)
    obtain ⟨walk, present, rfl⟩ := List.mem_map.mp listed
    obtain ⟨walk', present', same⟩ := List.mem_map.mp listed'
    refine ⟨walk, present, walk', present', rfl, same, ?_⟩
    rw [follows.startedAt walk present, follows'.startedAt walk' present', same]
    exact earlier walk.walker
  refine ⟨state, state', ends, ends', both, ?_⟩
  by_contra fewer
  obtain ⟨_, _, walk', present', _, last, _⟩ := both state'.spawned (Nat.not_le.mp fewer)
  have started' := (mem_ended_of_finalState ends').mp (List.mem_map_of_mem present')
  rw [last] at started'
  exact absurd started' (Nat.lt_irrefl _)

/-- With two slots, the second walker of `slowWalkers` no longer waits for the first one
to end, and twice as many walkers are started. -/
theorem more_slots_delay_nobody_slowWalkers :
    slowWalkers.settings.validate = .ok () ∧
      (slowWalkers.withSlots 2 id).settings.validate = .ok () ∧
      1 ≤ slowWalkers.settings.minSpawnDelay.toNat ∧
      slowWalkers.api.IsFixed ∧
      slowWalkers.settings.maxConcurrency ≤ 2 ∧
      ∃ state state', slowWalkers.finalState = .ok state ∧
        (slowWalkers.withSlots 2 id).finalState = .ok state' ∧
        (∀ walker < state.summary.spawned, ∃ walk ∈ state.ended, ∃ walk' ∈ state'.ended,
          walk.walker = walker ∧ walk'.walker = walker ∧
            walk'.startedAt ≤ walk.startedAt) ∧
        state.summary.spawned ≤ state'.summary.spawned ∧
        state.ended.map (fun walk => (walk.walker, walk.startedAt)) = [(1, 700), (0, 200)] ∧
        state'.ended.map (fun walk => (walk.walker, walk.startedAt)) =
          [(3, 900), (2, 700), (1, 400), (0, 200)] := by
  have valid : slowWalkers.settings.validate = .ok () := rfl
  have valid' : (slowWalkers.withSlots 2 id).settings.validate = .ok () := rfl
  have fixed : slowWalkers.api.IsFixed := fun _ _ _ => rfl
  obtain ⟨state, state', ends, ends', earlier, fewer⟩ :=
    more_slots_delay_nobody valid valid' (by decide) fixed (by decide)
  have stateEq := eq_after_of_finalState ends slowWalkers_isOver (by decide)
  have stateEq' : state' = (slowWalkers.withSlots 2 id).after 27 :=
    eq_after_of_finalState ends' (by decide +kernel) (by decide)
  refine ⟨valid, valid', by decide, fixed, by decide, state, state', ends, ends', earlier,
    fewer, ?_, ?_⟩
  · rw [stateEq]
    decide +kernel
  · rw [stateEq']
    decide +kernel

end RunPlan
end TransitLoad
