import Mathlib.Algebra.Order.BigOperators.Group.List
import Mathlib.Algebra.Order.Group.Nat
import Mathlib.Order.Lattice.Nat

/-!
# A queue for slots

Customers come one after another for a number of slots.  The first comes at once, and
every other one when the customer before it starts.  A customer is admitted at the
first moment at which fewer customers than there are slots have yet to finish; then it
holds its slot for a delay, starts, and works.
-/

namespace TransitLoad

/-- A number of slots, and for every customer its delay and its work. -/
@[ext]
structure Queue where
  capacity : Nat
  delay : Nat → Nat
  work : Nat → Nat

namespace Queue

/-- The moment at which a customer comes. -/
noncomputable def arrival (queue : Queue) : Nat → Nat
  | 0 => 0
  | customer + 1 =>
      sInf {moment | queue.arrival customer ≤ moment ∧
        (List.finRange customer).countP (fun earlier : Fin customer =>
          moment < queue.arrival (earlier + 1) + queue.work earlier) < queue.capacity} +
      queue.delay customer

/-- The moment at which a customer starts. -/
noncomputable def start (queue : Queue) (customer : Nat) : Nat := queue.arrival (customer + 1)

/-- The moment at which a customer finishes. -/
noncomputable def finish (queue : Queue) (customer : Nat) : Nat :=
  queue.start customer + queue.work customer

/-- How many customers before some customer have yet to finish at a moment. -/
noncomputable def unfinished (queue : Queue) (customer moment : Nat) : Nat :=
  (List.range customer).countP fun earlier => moment < queue.finish earlier

/-- The moments at which there is a slot for a customer. -/
def openings (queue : Queue) (customer : Nat) : Set Nat :=
  {moment | queue.arrival customer ≤ moment ∧
    queue.unfinished customer moment < queue.capacity}

/-- The moment at which a customer is admitted. -/
noncomputable def admission (queue : Queue) (customer : Nat) : Nat :=
  sInf (queue.openings customer)

theorem start_eq (queue : Queue) (customer : Nat) :
    queue.start customer = queue.admission customer + queue.delay customer := by
  have counted (moment : Nat) :
      (List.finRange customer).countP (fun earlier : Fin customer =>
          moment < queue.arrival (earlier + 1) + queue.work earlier) =
        queue.unfinished customer moment := by
    rw [unfinished, ← List.map_coe_finRange_eq_range, List.countP_map]
    rfl
  rw [start, arrival]
  simp only [counted]
  rfl

section

variable {queue : Queue}

/-- Once every customer before has finished, there is a slot. -/
theorem openings_nonempty
    (capacityPos : 0 < queue.capacity)
    (customer : Nat) :
    (queue.openings customer).Nonempty := by
  let finishes := (List.range customer).map queue.finish
  refine ⟨queue.arrival customer + finishes.sum, Nat.le_add_right _ _, ?_⟩
  refine lt_of_eq_of_lt (List.countP_eq_zero.mpr ?_) capacityPos
  intro earlier present
  have le : queue.finish earlier ≤ finishes.sum :=
    List.single_le_sum (fun _ _ => Nat.zero_le _) _ (List.mem_map_of_mem present)
  rw [decide_eq_true_eq]
  omega

/-- A customer is admitted at the least moment at which there is a slot for it. -/
theorem admission_isLeast
    (capacityPos : 0 < queue.capacity)
    (customer : Nat) :
    IsLeast (queue.openings customer) (queue.admission customer) :=
  ⟨Nat.sInf_mem (openings_nonempty capacityPos customer), fun _ opening =>
    Nat.sInf_le opening⟩

/-- As long as all slots are taken, a customer is not admitted. -/
theorem le_admission
    (capacityPos : 0 < queue.capacity)
    (full : ∀ earlier, queue.arrival customer ≤ earlier → earlier < moment →
      queue.capacity ≤ queue.unfinished customer earlier) :
    moment ≤ queue.admission customer := by
  obtain ⟨came, free⟩ := (admission_isLeast capacityPos customer).1
  by_contra late
  exact absurd (full _ came (Nat.not_le.mp late)) (Nat.not_le.mpr free)

/-- A customer is admitted at the first moment at which a slot is not taken. -/
theorem admission_eq
    (capacityPos : 0 < queue.capacity)
    (came : queue.arrival customer ≤ moment)
    (full : ∀ earlier, queue.arrival customer ≤ earlier → earlier < moment →
      queue.capacity ≤ queue.unfinished customer earlier)
    (free : queue.unfinished customer moment < queue.capacity) :
    queue.admission customer = moment := by
  apply Nat.le_antisymm
  · exact (admission_isLeast capacityPos customer).2 ⟨came, free⟩
  · exact le_admission capacityPos full

/-- No customer starts before the one that came before it. -/
theorem start_monotone (capacityPos : 0 < queue.capacity) : Monotone queue.start := by
  apply monotone_nat_of_le_succ
  intro customer
  calc
    queue.start customer = queue.arrival (customer + 1) := rfl
    _ ≤ queue.admission (customer + 1) := (admission_isLeast capacityPos _).1.1
    _ ≤ queue.start (customer + 1) := by
      rw [start_eq queue (customer + 1)]
      exact Nat.le_add_right _ _

end

end Queue
end TransitLoad
