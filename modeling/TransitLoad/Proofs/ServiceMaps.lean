import Mathlib.Algebra.BigOperators.Group.Finset.Piecewise
import Mathlib.Algebra.Order.Floor.Div
import Mathlib.Order.Interval.Finset.Nat
import TransitLoad.Proofs.Legs

/-!
# Service maps

A draw of an index multiplies a length with the next word as a fraction; the word after it
only decides where a finer fraction makes a difference.  The index is what the two words
give as one fraction of 64 bits, so that every index below the length is drawn for as many
pairs of words as any other, or for one more.

Among the service maps of a route one index is drawn.  The map there is selected if it has
stops, and otherwise the first map that has some, which takes over what the maps without
stops are drawn for.
-/

namespace TransitLoad

/-! ## Fair draws -/

namespace Generator

/-- The next two words as one number of 64 bits, the high half first. -/
def fineWord (generator : Generator) : Nat :=
  (generator.word generator.position).toNat * UInt32.size +
    (generator.word (generator.position + 1)).toNat

/-- A generator whose next two words are the halves of a number. -/
def ofFineWord (word : Nat) : Generator where
  word := fun place => .ofNat (if place = 0 then word / UInt32.size else word)

theorem fineWord_ofFineWord
    {word : Nat}
    (below : word < UInt64.size) :
    (ofFineWord word).fineWord = word := by
  have high : word / UInt32.size < UInt32.size := by
    rw [Nat.div_lt_iff_lt_mul (by decide)]
    exact below
  simp only [fineWord, ofFineWord, if_true, Nat.zero_add, Nat.one_ne_zero, if_false,
    UInt32.toNat_ofNat']
  rw [Nat.mod_eq_of_lt high]
  exact Nat.div_add_mod' word UInt32.size

/-- The share that the two words have in a length, in terms of its parts. -/
theorem fineWord_mul_div (generator : Generator) (length : Nat) :
    generator.fineWord * length / UInt64.size =
      generator.coarseIndex length +
        (generator.remainder length + generator.carry length) / UInt32.size := by
  have squared : UInt64.size = UInt32.size * UInt32.size := rfl
  have positive : 0 < UInt32.size := by decide
  unfold fineWord coarseIndex remainder carry
  generalize (generator.word generator.position).toNat = word
  generalize (generator.word (generator.position + 1)).toNat = finer
  rw [squared, ← Nat.div_div_eq_div_mul, Nat.add_mul, Nat.mul_right_comm, Nat.add_comm,
    Nat.add_mul_div_right _ _ positive]
  generalize finer * length / UInt32.size = carried
  generalize word * length = product
  have parts := Nat.div_add_mod product UInt32.size
  calc
    (carried + product) / UInt32.size =
        (UInt32.size * (product / UInt32.size) + (product % UInt32.size + carried)) /
          UInt32.size := by
      rw [← Nat.add_assoc, parts, Nat.add_comm]
    _ = product / UInt32.size + (product % UInt32.size + carried) / UInt32.size :=
      Nat.mul_add_div positive _ _

/-- The index that is drawn is the share of the two words in the length, though the second
of them may not be looked at. -/
theorem exists_nextIndex_eq
    (generator : Generator)
    (positive : 0 < length)
    (few : length < UInt32.size) :
    ∃ words, generator.nextIndex? length =
      some (generator.fineWord * length / UInt64.size, generator.skip words) := by
  have rest : generator.remainder length < UInt32.size := Nat.mod_lt _ (by decide)
  have fine : (generator.word (generator.position + 1)).toNat < UInt32.size :=
    UInt32.toNat_lt_size _
  have little : generator.carry length < length :=
    Nat.div_lt_of_lt_mul (Nat.mul_lt_mul_of_pos_right fine positive)
  have least : (UInt32.size - length) % UInt32.size = UInt32.size - length :=
    Nat.mod_eq_of_lt (by omega)
  rw [nextIndex?_eq generator positive, fineWord_mul_div, least]
  split_ifs with close carries
  · have one : (generator.remainder length + generator.carry length) / UInt32.size = 1 :=
      Nat.div_eq_of_lt_le (by omega) (by omega)
    exact ⟨2, by rw [one]⟩
  · exact ⟨2, by rw [Nat.div_eq_of_lt (Nat.not_le.mp carries), Nat.add_zero]⟩
  · exact ⟨1, by rw [Nat.div_eq_of_lt (by omega), Nat.add_zero]⟩

end Generator

/-- The least number among so many whose share in a length is an index. -/
def shareStart (length numbers index : Nat) : Nat := (index * numbers) ⌈/⌉ length

section

variable {length numbers : Nat} (positive : 0 < length)

include positive

theorem shareStart_le_iff :
    shareStart length numbers index ≤ word ↔ index * numbers ≤ word * length := by
  rw [shareStart, ceilDiv_le_iff_le_mul positive, Nat.mul_comm length]

/-- The numbers with the same share in a length follow each other. -/
theorem filter_share_eq_Ico
    (below : index < length)
    (some : 0 < numbers) :
    ((Finset.range numbers).filter fun word => word * length / numbers = index) =
      Finset.Ico (shareStart length numbers index) (shareStart length numbers (index + 1)) := by
  ext word
  have within : word * length / numbers = index ↔
      index * numbers ≤ word * length ∧ ¬(index + 1) * numbers ≤ word * length := by
    rw [← Nat.le_div_iff_mul_le some, ← Nat.le_div_iff_mul_le some]
    omega
  rw [Finset.mem_filter, Finset.mem_range, Finset.mem_Ico, within, ← not_le, ← not_le,
    shareStart_le_iff positive, shareStart_le_iff positive]
  refine ⟨And.right, fun inside => ⟨fun beyond => inside.2 ?_, inside⟩⟩
  calc
    (index + 1) * numbers ≤ length * numbers := Nat.mul_le_mul_right _ below
    _ = numbers * length := Nat.mul_comm ..
    _ ≤ word * length := Nat.mul_le_mul_right _ beyond

/-- From one share to the next it is what the length divides the numbers into, or one more. -/
theorem shareStart_succ_bounds (index : Nat) :
    shareStart length numbers index + numbers / length ≤ shareStart length numbers (index + 1) ∧
      shareStart length numbers (index + 1) ≤
        shareStart length numbers index + (numbers / length + 1) := by
  have share := Nat.div_mul_le_self numbers length
  have more := Nat.lt_div_mul_add (a := numbers) positive
  have begun := (shareStart_le_iff positive).mp (le_refl (shareStart length numbers index))
  have ended := (shareStart_le_iff positive).mp (le_refl (shareStart length numbers (index + 1)))
  rw [Nat.succ_mul] at ended
  constructor
  · have fits : numbers / length ≤ shareStart length numbers (index + 1) :=
      Nat.le_of_mul_le_mul_right (share.trans ((Nat.le_add_left _ _).trans ended)) positive
    apply Nat.add_le_of_le_sub fits
    rw [shareStart_le_iff positive, Nat.sub_mul]
    omega
  · rw [shareStart_le_iff positive, Nat.succ_mul, Nat.add_mul, Nat.succ_mul]
    omega

end

/-- How many of so many numbers have the same share in a length: what the length divides
them into, or one more. -/
theorem card_share
    {index length numbers : Nat}
    (below : index < length)
    (some : 0 < numbers) :
    numbers / length ≤
        ((Finset.range numbers).filter fun word => word * length / numbers = index).card ∧
      ((Finset.range numbers).filter fun word => word * length / numbers = index).card ≤
        numbers / length + 1 := by
  have positive : 0 < length := Nat.zero_lt_of_lt below
  obtain ⟨atLeast, atMost⟩ := shareStart_succ_bounds positive index
  rw [filter_share_eq_Ico positive below some, Nat.card_Ico]
  exact ⟨Nat.le_sub_of_add_le' atLeast, Nat.sub_le_iff_le_add'.mpr atMost⟩

/-- The generators that a number of 64 bits stands for draw every index below a length for
their fair share of these numbers. -/
theorem Draw.index_fair
    {index length : Nat}
    (few : length < UInt32.size)
    (below : index < length) :
    let draws := (Finset.range UInt64.size).filter fun word =>
      ((Draw.index length).from? (.ofFineWord word)).1 = .ok index
    UInt64.size / length ≤ draws.card ∧ draws.card ≤ UInt64.size / length + 1 := by
  have same : ((Finset.range UInt64.size).filter fun word =>
      ((Draw.index length).from? (.ofFineWord word)).1 = .ok index) =
      (Finset.range UInt64.size).filter fun word => word * length / UInt64.size = index := by
    apply Finset.filter_congr
    intro word inside
    obtain ⟨words, drawn⟩ := (Generator.ofFineWord word).exists_nextIndex_eq
      (Nat.zero_lt_of_lt below) few
    rw [Generator.fineWord_ofFineWord (Finset.mem_range.mp inside)] at drawn
    change (Draw.index length (.ofFineWord word)).1 = .ok index ↔ _
    rw [Draw.index, drawn, Except.ok.injEq]
  rw [same]
  exact card_share below (by decide)

/-! ## The map that is selected -/

/-- The places whose elements have a property are as many as these elements. -/
theorem card_places (elements : List α) (property : α → Bool) :
    ((Finset.range elements.length).filter fun place => elements[place]?.any property).card =
      elements.countP property := by
  rw [Finset.card_filter]
  induction elements with
  | nil => rfl
  | cons element elements hypothesis =>
      rw [List.length_cons, Finset.sum_range_succ', List.countP_cons, ← hypothesis]
      simp only [List.getElem?_cons_succ, List.getElem?_cons_zero, Option.any_some]

namespace Route

variable {route : Route}

/-- A route has a service map at a place, with some stops. -/
def hasStopsAt (route : Route) (map : Nat) : Bool :=
  route.serviceMaps[map]?.any fun serviceMap => !serviceMap.stops.isEmpty

/-- A service map has stops, and none before it has. -/
def IsFirstAt (route : Route) (map : Nat) : Prop :=
  route.hasStopsAt map ∧ ∀ earlier < map, ¬route.hasStopsAt earlier

instance : Decidable (route.IsFirstAt map) :=
  inferInstanceAs (Decidable (_ ∧ _))

/-- The service map that is selected when an index is drawn. -/
def selectedAt (route : Route) (drawn : Nat) : Option Nat :=
  if route.hasStopsAt drawn then some drawn
  else route.serviceMaps.findIdx? fun serviceMap => !serviceMap.stops.isEmpty

/-- A service map is the one to select when an index is drawn. -/
structure Selects (route : Route) (drawn : Nat) (selected : Option Nat) : Prop where
  /-- None is selected only if there are no stops at all. -/
  none_iff : selected = none ↔ ∀ serviceMap ∈ route.serviceMaps, serviceMap.stops = []
  /-- A map that is selected is one of the route and has stops. -/
  stops : ∀ map ∈ selected, map < route.serviceMaps.length ∧ route.hasStopsAt map
  /-- The map that is drawn is selected if it has stops. -/
  own : route.hasStopsAt drawn → selected = some drawn
  /-- The first map with stops takes the place of one without. -/
  first : ¬route.hasStopsAt drawn → ∀ map ∈ selected, route.IsFirstAt map

theorem hasStopsAt_eq (below : map < route.serviceMaps.length) :
    route.hasStopsAt map = !route.serviceMaps[map].stops.isEmpty := by
  rw [hasStopsAt, List.getElem?_eq_getElem below, Option.any_some]

theorem lt_of_hasStopsAt (stops : route.hasStopsAt map) : map < route.serviceMaps.length := by
  by_contra beyond
  rw [hasStopsAt, List.getElem?_eq_none (Nat.le_of_not_lt beyond)] at stops
  contradiction

/-- The scan over the service maps finds the first one with stops. -/
theorem findIdx?_eq_some_iff :
    (route.serviceMaps.findIdx? fun serviceMap => !serviceMap.stops.isEmpty) = some map ↔
      route.IsFirstAt map := by
  rw [List.findIdx?_eq_some_iff_getElem]
  constructor
  · rintro ⟨below, stops, first⟩
    refine ⟨by rwa [hasStopsAt_eq below], fun earlier before => ?_⟩
    rw [hasStopsAt_eq (before.trans below)]
    exact first earlier before
  · rintro ⟨stops, first⟩
    have below := lt_of_hasStopsAt stops
    refine ⟨below, by rwa [hasStopsAt_eq below] at stops, fun earlier before => ?_⟩
    rw [← hasStopsAt_eq (before.trans below)]
    exact first earlier before

theorem selects_selectedAt (route : Route) (drawn : Nat) :
    route.Selects drawn (route.selectedAt drawn) := by
  by_cases stops : route.hasStopsAt drawn
  · have below := lt_of_hasStopsAt stops
    rw [selectedAt, if_pos stops]
    refine ⟨?_, ?_, fun _ => rfl, absurd stops⟩
    · have full : route.serviceMaps[drawn].stops ≠ [] := by
        simpa [hasStopsAt_eq below] using stops
      simp only [reduceCtorEq, false_iff]
      exact fun empty => full (empty _ (List.getElem_mem below))
    · rintro _ ⟨⟩
      exact ⟨below, stops⟩
  · rw [selectedAt, if_neg stops]
    refine ⟨?_, fun map found => ?_, fun stops' => absurd stops' stops, fun _ map found =>
      findIdx?_eq_some_iff.mp found⟩
    · simp
    · have first := findIdx?_eq_some_iff.mp found
      exact ⟨lt_of_hasStopsAt first.1, first.1⟩

/-- A map with stops is selected when it is drawn, and if it is the first one also when a
map without stops is. -/
theorem selectedAt_eq_some_iff (stops : route.hasStopsAt map) :
    route.selectedAt drawn = some map ↔
      drawn = map ∨ route.IsFirstAt map ∧ ¬route.hasStopsAt drawn := by
  rw [selectedAt]
  split_ifs with drawnStops
  · simp [drawnStops]
  · rw [findIdx?_eq_some_iff]
    refine ⟨fun first => .inr ⟨first, drawnStops⟩, ?_⟩
    rintro (rfl | ⟨first, _⟩)
    · exact absurd stops drawnStops
    · exact first

/-- Of the indices that can be drawn, the first map with stops is selected for its own and
for those of all maps without stops, and every other map with stops for its own. -/
theorem card_selectedAt (stops : route.hasStopsAt map) :
    ((Finset.range route.serviceMaps.length).filter fun drawn =>
      route.selectedAt drawn = some map).card =
      if route.IsFirstAt map then
        1 + route.serviceMaps.countP fun serviceMap => serviceMap.stops.isEmpty
      else 1 := by
  have inside := Finset.mem_range.mpr (lt_of_hasStopsAt stops)
  simp only [selectedAt_eq_some_iff stops]
  -- The map's own index is not among those without stops, so the two kinds add up.
  split_ifs with first
  · simp only [first, true_and]
    rw [Finset.filter_or, Finset.filter_eq', if_pos inside, ← Finset.insert_eq,
      Finset.card_insert_of_notMem (by simp [stops]), Nat.add_comm, ← card_places]
    congr 2
    apply Finset.filter_congr
    intro drawn within
    rw [hasStopsAt_eq (Finset.mem_range.mp within),
      List.getElem?_eq_getElem (Finset.mem_range.mp within)]
    simp
  · simp only [first, false_and, or_false]
    rw [Finset.filter_eq', if_pos inside, Finset.card_singleton]

/-- Among some service maps one index is drawn, which decides what is selected. -/
theorem exists_selectServiceMap_eq
    (generator : Generator)
    (nonempty : route.serviceMaps ≠ []) :
    ∃ drawn after, drawn < route.serviceMaps.length ∧
      (Draw.index route.serviceMaps.length).from? generator = (.ok drawn, after) ∧
      route.selectServiceMap.from? generator = (.ok (route.selectedAt drawn), after) := by
  obtain ⟨drawn, words, draws, below⟩ :=
    Draw.exists_index generator (List.length_pos_iff.mpr nonempty)
  refine ⟨drawn, _, below, draws, ?_⟩
  rw [selectServiceMap_of_drawn below draws, selectedAt, hasStopsAt_eq below]
  cases route.serviceMaps[drawn].stops.isEmpty <;> rfl

/-- Whatever its service maps are, a route has one selected with stops unless all are empty,
by a single draw among them if there are any.  The draw decides: a map with stops is
selected for its own index, and the first of them for that of each map without, while every
index has a fair share of the words it is drawn from. -/
theorem selectServiceMap_selects
    {route : Route}
    (few : route.serviceMaps.length < UInt32.size) :
    (∀ generator, ∃ selected after,
      route.selectServiceMap.from? generator = (.ok selected, after) ∧
        (selected = none ↔ ∀ serviceMap ∈ route.serviceMaps, serviceMap.stops = []) ∧
        (route.serviceMaps = [] → after = generator) ∧
        (route.serviceMaps ≠ [] → ∃ drawn < route.serviceMaps.length,
          (Draw.index route.serviceMaps.length).from? generator = (.ok drawn, after) ∧
            selected = route.selectedAt drawn ∧ route.Selects drawn selected)) ∧
      (∀ map, route.hasStopsAt map →
        ((Finset.range route.serviceMaps.length).filter fun drawn =>
          route.selectedAt drawn = some map).card =
          if route.IsFirstAt map then
            1 + route.serviceMaps.countP fun serviceMap => serviceMap.stops.isEmpty
          else 1) ∧
      ∀ drawn < route.serviceMaps.length,
        let draws := (Finset.range UInt64.size).filter fun word =>
          ((Draw.index route.serviceMaps.length).from? (.ofFineWord word)).1 = .ok drawn
        UInt64.size / route.serviceMaps.length ≤ draws.card ∧
          draws.card ≤ UInt64.size / route.serviceMaps.length + 1 := by
  refine ⟨fun generator => ?_, fun map => card_selectedAt, fun drawn => Draw.index_fair few⟩
  by_cases none : route.serviceMaps = []
  · refine ⟨.none, generator, ?_, by simp [none], fun _ => rfl, absurd none⟩
    rw [selectServiceMap, if_pos (by simp [none])]
    rfl
  · obtain ⟨drawn, after, below, draws, selects⟩ := exists_selectServiceMap_eq generator none
    exact ⟨_, after, selects, (route.selects_selectedAt drawn).none_iff,
      fun empty => absurd empty none,
      fun _ => ⟨drawn, below, draws, rfl, route.selects_selectedAt drawn⟩⟩

/-- A route whose first two service maps have no stops. -/
def lateStops : Route where
  serviceMaps := [0, 0, 3, 2].map fun stops => ⟨"", .replicate stops ⟨"", "", ""⟩⟩

/-- Of four indices, three select the third map of `lateStops`, and one the fourth. -/
theorem selectServiceMap_selects_lateStops :
    lateStops.serviceMaps.length < UInt32.size ∧
      (∀ generator, ∃ map after,
        lateStops.selectServiceMap.from? generator = (.ok (some map), after)) ∧
      ((Finset.range 4).filter fun drawn => lateStops.selectedAt drawn = some 2).card = 3 ∧
      ((Finset.range 4).filter fun drawn => lateStops.selectedAt drawn = some 3).card = 1 := by
  have few : lateStops.serviceMaps.length < UInt32.size := by decide
  obtain ⟨selects, counted, _⟩ := selectServiceMap_selects few
  refine ⟨few, fun generator => ?_, counted 2 (by decide), counted 3 (by decide)⟩
  obtain ⟨_ | map, after, selected, none_iff, _⟩ := selects generator
  · exact absurd (none_iff.mp rfl) (by decide)
  · exact ⟨map, after, selected⟩

end Route

end TransitLoad
