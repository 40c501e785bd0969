import Mathlib.Data.Char
import Mathlib.Data.List.Nodup
import Mathlib.Data.List.TakeWhile
import Mathlib.Data.Prod.Lex
import Mathlib.Tactic.NthRewrite
import Mathlib.Tactic.Ring
import Mathlib.Tactic.SplitIfs
import TransitLoad.Url.Domain

/-!
# Domain names in ASCII

What is written for a label beyond ASCII is read as that label, and the labels of a domain
name make a domain name again once they are written in ASCII.

Digit by digit, a whole number is read as it was written as long as the weights of its
digits can be counted.  In a label of no more than a thousand characters they can: every
whole number stays below `35 ^ 6`, and the weight of a place is a power of 35 until its
threshold is the greatest.  Character by character, the label is put together from those
of its characters that come first in the order of insertions.
-/

namespace TransitLoad
namespace Url

/-! ## Digits -/

theorem labelDigit?_labelDigit (lt : value < 36) :
    labelDigit? (labelDigit value) = some value := by
  have all : ∀ value : Fin 36, labelDigit? (labelDigit value) = some value.val := by decide
  exact all ⟨value, lt⟩

/-- Digits are ASCII characters other than those that part a label or a name. -/
theorem labelDigit_ordinary (lt : value < 36) :
    isWide (labelDigit value) = false ∧ labelDigit value ≠ '-' ∧ labelDigit value ≠ '.' := by
  have all : ∀ value : Fin 36, isWide (labelDigit value) = false ∧
      labelDigit value ≠ '-' ∧ labelDigit value ≠ '.' := by decide
  exact all ⟨value, lt⟩

theorem labelThreshold_pos (bias place : Nat) : 1 ≤ labelThreshold bias place :=
  Nat.le_max_left _ _

theorem labelThreshold_le (bias place : Nat) : labelThreshold bias place ≤ 26 :=
  max_le (by decide) (min_le_left _ _)

/-- What holds of the digits of all values below 36 holds of those of a whole number. -/
theorem forall_mem_labelDigits
    {motive : Char → Prop}
    (digit : ∀ value < 36, motive (labelDigit value))
    (bias place number : Nat) :
    ∀ c ∈ labelDigits bias place number, motive c := by
  fun_induction labelDigits bias place number with
  | case1 place number threshold last =>
      have small := labelThreshold_le bias place
      simp only [List.mem_singleton, forall_eq]
      exact digit number (by omega)
  | case2 place number threshold further above hypothesis =>
      have small := labelThreshold_le bias place
      have rest : above % (36 - threshold) < 36 - threshold := Nat.mod_lt _ (by omega)
      simp only [List.mem_cons, forall_eq_or_imp]
      exact ⟨digit _ (by omega), hypothesis⟩

/-- Only places with the least threshold come before one whose threshold is not the
greatest. -/
theorem labelThreshold_eq_one
    (next : labelThreshold bias (place + 36) < 26) :
    labelThreshold bias place = 1 := by
  unfold labelThreshold at *
  omega

/-- The weight of a further digit can be counted. -/
theorem weight_le_limit
    (positive : 1 ≤ threshold)
    (small : threshold ≤ 26)
    (bounded : threshold * weight < 35 ^ 6)
    (power : threshold < 26 → ∃ exponent, weight = 35 ^ exponent) :
    weight * (36 - threshold) ≤ LabelDraft.limit := by
  rcases Nat.lt_or_ge threshold 26 with below | top
  · obtain ⟨exponent, rfl⟩ := power below
    have lt : 35 ^ exponent < 35 ^ 6 :=
      (Nat.le_mul_of_pos_left _ positive).trans_lt bounded
    have exponentLe : exponent ≤ 5 :=
      Nat.le_of_lt_succ ((Nat.pow_lt_pow_iff_right (by decide)).mp lt)
    calc
      35 ^ exponent * (36 - threshold) ≤ 35 ^ 5 * 35 :=
        Nat.mul_le_mul (Nat.pow_le_pow_right (by decide) exponentLe) (by omega)
      _ ≤ LabelDraft.limit := by decide
  · obtain rfl : threshold = 26 := by omega
    rw [LabelDraft.limit]
    omega

/-- A number is its least digit and as many weights of the next place as are left. -/
theorem digit_add_next (threshold above weight : Nat) :
    (threshold + above % (36 - threshold)) * weight +
        above / (36 - threshold) * (weight * (36 - threshold)) =
      (threshold + above) * weight := by
  have parts := Nat.mod_add_div above (36 - threshold)
  nth_rewrite 3 [← parts]
  ring

namespace LabelDraft

/-- A digit below its threshold ends the whole number. -/
theorem read?_last
    {draft : LabelDraft}
    {digit : Nat}
    (last : digit < labelThreshold draft.bias draft.place)
    (within : draft.position + (draft.growth + digit * draft.weight) ≤ limit) :
    draft.read? (labelDigit digit) =
      ({ draft with growth := draft.growth + digit * draft.weight }).insert? := by
  have small := labelThreshold_le draft.bias draft.place
  rw [read?, labelDigit?_labelDigit (by omega)]
  simp [last, within.not_gt]

/-- Any other digit is counted with its weight. -/
theorem read?_further
    {draft : LabelDraft}
    {digit : Nat}
    (further : labelThreshold draft.bias draft.place ≤ digit)
    (lt : digit < 36)
    (within : draft.position + (draft.growth + digit * draft.weight) ≤ limit)
    (weightLe : draft.weight * (36 - labelThreshold draft.bias draft.place) ≤ limit) :
    draft.read? (labelDigit digit) =
      some { draft with
        growth := draft.growth + digit * draft.weight
        weight := draft.weight * (36 - labelThreshold draft.bias draft.place)
        place := draft.place + 36 } := by
  rw [read?, labelDigit?_labelDigit lt]
  simp [further.not_gt, within.not_gt, weightLe.not_gt]

/-- Reading the digits of a whole number adds it to what was read before, and then inserts
a character. -/
theorem foldlM_read?_labelDigits
    (number : Nat)
    (draft : LabelDraft)
    (bounded : draft.position + (draft.growth + number * draft.weight) < 35 ^ 6)
    (power : labelThreshold draft.bias draft.place < 26 →
      ∃ exponent, draft.weight = 35 ^ exponent) :
    (labelDigits draft.bias draft.place number).foldlM read? draft =
      ({ draft with growth := draft.growth + number * draft.weight }).insert? := by
  have countable : 35 ^ 6 ≤ limit := by decide
  induction number using Nat.strongRecOn generalizing draft with
  | _ number hypothesis =>
    rw [labelDigits]
    split_ifs with last
    · rw [List.foldlM_cons, read?_last last (by omega)]
      exact bind_pure _
    · simp only
      generalize thresholdEq : labelThreshold draft.bias draft.place = threshold at *
      have positive : 1 ≤ threshold := thresholdEq ▸ labelThreshold_pos _ _
      have small : threshold ≤ 26 := thresholdEq ▸ labelThreshold_le _ _
      obtain ⟨above, rfl⟩ := Nat.exists_eq_add_of_le (Nat.not_lt.mp last)
      rw [Nat.add_sub_cancel_left]
      have lt : above % (36 - threshold) < 36 - threshold := Nat.mod_lt _ (by omega)
      have fewer := Nat.div_le_self above (36 - threshold)
      have total := digit_add_next threshold above draft.weight
      have least := Nat.mul_le_mul_right draft.weight (Nat.le_add_right threshold above)
      have weightLe := weight_le_limit positive small (by omega) power
      rw [List.foldlM_cons, read?_further (by omega) (by omega) (by omega)
        (by rwa [thresholdEq]), thresholdEq]
      refine (hypothesis _ (by omega) _ (by simp only; omega) ?_).trans ?_
      · intro below
        have one : threshold = 1 := thresholdEq.symm.trans (labelThreshold_eq_one below)
        obtain ⟨exponent, same⟩ := power (by omega)
        exact ⟨exponent + 1, by simp only [same, one, Nat.pow_succ]⟩
      · simp only [Nat.add_assoc, total]
        rfl

/-! ## Insertions -/

/-- What a whole number that is written for a character inserts. -/
theorem insert?_growthTo
    {draft : LabelDraft}
    {c : Char}
    {place : Nat}
    (numberLe : draft.number ≤ c.toNat)
    (onward : draft.position ≤
      (c.toNat - draft.number) * (draft.written.length + 1) + place)
    (inside : place ≤ draft.written.length) :
    ∃ bias, ({ draft with growth := draft.growthTo c.toNat place }).insert? =
      some ⟨draft.written.insertIdx place c, c.toNat, place + 1, bias, 0, 1, 36⟩ := by
  have total : draft.position + draft.growthTo c.toNat place =
      place + (c.toNat - draft.number) * (draft.written.length + 1) := by
    rw [growthTo]
    omega
  have quotient : (place + (c.toNat - draft.number) * (draft.written.length + 1)) /
      (draft.written.length + 1) = c.toNat - draft.number := by
    rw [Nat.add_mul_div_right _ _ (Nat.succ_pos _), Nat.div_eq_of_lt (Nat.lt_succ_of_le inside),
      Nat.zero_add]
  have remainder : (place + (c.toNat - draft.number) * (draft.written.length + 1)) %
      (draft.written.length + 1) = place := by
    rw [Nat.add_mul_mod_self_right, Nat.mod_eq_of_lt (Nat.lt_succ_of_le inside)]
  have number : draft.number + (c.toNat - draft.number) = c.toNat := by omega
  have valid : c.toNat.isValidChar := c.valid
  simp only [insert?, total, quotient, remainder, number, valid, if_true, Char.ofNat_toNat]
  exact ⟨_, rfl⟩

/-- Once the whole number of an insertion is read, the others are yet to be read. -/
theorem foldlM_write_cons
    {draft next : LabelDraft}
    {number place : Nat}
    (fresh : draft.growth = 0 ∧ draft.weight = 1)
    (inserted : ({ draft with growth := draft.growthTo number place }).insert? = some next)
    (bounded : draft.position + draft.growthTo number place < 35 ^ 6)
    (rest : List (Nat × Nat)) :
    (draft.write ((number, place) :: rest)).foldlM read? draft =
      (next.write rest).foldlM read? next := by
  have read := foldlM_read?_labelDigits (draft.growthTo number place) draft
    (by rwa [fresh.1, fresh.2, Nat.zero_add, Nat.mul_one])
    (fun _ => ⟨0, fresh.2⟩)
  rw [fresh.1, fresh.2, Nat.zero_add, Nat.mul_one, ← fresh.2, inserted] at read
  simp only [write, List.foldlM_append, read, inserted, Option.bind_eq_bind, Option.bind_some]

end LabelDraft

/-! ## Characters and their places -/

theorem insertIdx_length_append (before after : List α) (x : α) :
    (before ++ after).insertIdx before.length x = before ++ x :: after := by
  induction before with
  | nil => rfl
  | cons y before hypothesis => simp [hypothesis]

theorem lt_of_mem_take_zipIdx
    {label : List Char}
    {x : Char × Nat}
    (present : x ∈ label.zipIdx.take place) :
    x ∈ label.zipIdx ∧ x.2 < place := by
  refine ⟨List.mem_of_mem_take present, ?_⟩
  obtain ⟨index, lt, rfl⟩ := List.mem_take_iff_getElem.mp present
  rw [List.getElem_zipIdx]
  omega

theorem nodup_zipIdx (label : List Char) : label.zipIdx.Nodup := by
  apply List.Nodup.of_map Prod.snd
  rw [List.zipIdx_map_snd]
  exact List.nodup_range'

/-- A label falls into what stands before a character, the character, and the rest. -/
theorem zipIdx_eq_append
    {label : List Char}
    {x : Char × Nat}
    (present : x ∈ label.zipIdx) :
    label.zipIdx = label.zipIdx.take x.2 ++ x :: label.zipIdx.drop (x.2 + 1) := by
  obtain ⟨_, lt, same⟩ := List.mem_zipIdx present
  rw [Nat.zero_add] at lt
  have inside : x.2 < label.zipIdx.length := by rwa [List.length_zipIdx]
  have found : label.zipIdx[x.2] = x := by
    rw [List.getElem_zipIdx]
    exact Prod.ext (by simpa using same.symm) (Nat.zero_add _)
  nth_rewrite 1 [← List.take_append_drop x.2 label.zipIdx]
  rw [List.drop_eq_getElem_cons inside, found]

/-- A character that is added to some of a label goes behind those of them that stand
before it. -/
theorem map_filter_insert
    {label : List Char}
    {x : Char × Nat}
    (present : x ∈ label.zipIdx)
    {p : Char × Nat → Bool}
    (absent : p x = false) :
    (label.zipIdx.filter fun y => p y || y == x).map Prod.fst =
      ((label.zipIdx.filter p).map Prod.fst).insertIdx
        ((label.zipIdx.take x.2).countP p) x.1 := by
  have nodup := nodup_zipIdx label
  have parts := zipIdx_eq_append present
  generalize label.zipIdx.take x.2 = before at parts ⊢
  generalize label.zipIdx.drop (x.2 + 1) = after at parts
  rw [parts] at nodup ⊢
  have outside := (List.nodup_cons.mp (List.nodup_middle.mp nodup)).1
  rw [List.mem_append, not_or] at outside
  have kept (part : List (Char × Nat)) (notMem : x ∉ part) :
      part.filter (fun y => p y || y == x) = part.filter p := by
    apply List.filter_congr
    intro y present
    have other : (y == x) = false := beq_false_of_ne fun same => notMem (same ▸ present)
    rw [other, Bool.or_false]
  have counted : before.countP p = ((before.filter p).map Prod.fst).length := by
    rw [List.countP_eq_length_filter, List.length_map]
  rw [List.filter_append, List.filter_append, List.filter_cons_of_pos (by simp),
    List.filter_cons_of_neg (by simp [absent]), kept before outside.1, kept after outside.2,
    List.map_append, List.map_append, List.map_cons, counted, insertIdx_length_append]

/-! ## The order of insertions -/

theorem comesFirst_iff (x y : Char × Nat) : comesFirst x y = true ↔ toLex x ≤ toLex y := by
  simp [comesFirst, Prod.Lex.toLex_le_toLex]

/-- Characters are inserted one after another in their order. -/
theorem pairwise_wideCharacters (label : List Char) :
    (wideCharacters label).Pairwise fun x y => toLex x < toLex y := by
  have ordered : (wideCharacters label).Pairwise fun x y => comesFirst x y = true := by
    apply List.pairwise_mergeSort
    · intro x y z first second
      rw [comesFirst_iff] at *
      exact first.trans second
    · intro x y
      rw [Bool.or_eq_true, comesFirst_iff, comesFirst_iff]
      exact le_total _ _
  have distinct : (wideCharacters label).Nodup :=
    (List.mergeSort_perm _ _).nodup_iff.mpr ((nodup_zipIdx label).filter _)
  refine (ordered.and distinct).imp ?_
  rintro x y ⟨first, ne⟩
  exact lt_of_le_of_ne ((comesFirst_iff x y).mp first) fun same => ne (toLex_inj.mp same)

theorem mem_wideCharacters {label : List Char} {x : Char × Nat} :
    x ∈ wideCharacters label ↔ x ∈ label.zipIdx ∧ isWide x.1 = true := by
  rw [wideCharacters, (List.mergeSort_perm _ _).mem_iff, List.mem_filter]

/-- What is written of a label once some of its characters are inserted. -/
def writtenWith (label : List Char) (done : List (Char × Nat)) : List Char :=
  (label.zipIdx.filter fun x => !isWide x.1 || done.contains x).map Prod.fst

theorem writtenWith_nil (label : List Char) :
    writtenWith label [] = label.filter (!isWide ·) := by
  have ascii : (fun x : Char × Nat => !isWide x.1 || [].contains x) =
      (fun c => !isWide c) ∘ Prod.fst := by
    funext x
    simp
  rw [writtenWith, ascii, ← List.filter_map, List.zipIdx_map_fst]

theorem writtenWith_wideCharacters (label : List Char) :
    writtenWith label (wideCharacters label) = label := by
  have all : ∀ x ∈ label.zipIdx,
      (!isWide x.1 || (wideCharacters label).contains x) = true := by
    intro x present
    simp only [Bool.or_eq_true, Bool.not_eq_true', List.contains_iff_mem, mem_wideCharacters]
    cases isWide x.1 with
    | false => exact .inl rfl
    | true => exact .inr ⟨present, rfl⟩
  rw [writtenWith, List.filter_eq_self.mpr all, List.zipIdx_map_fst]

/-- Every character of ASCII comes before those beyond. -/
theorem le_of_isWide
    {c d : Char}
    (ascii : isWide c = false)
    (wide : isWide d = true) :
    c ≤ d := by
  simp only [isWide, decide_eq_false_iff_not, decide_eq_true_eq] at ascii wide
  change c.toNat ≤ d.toNat
  omega

section

variable {label : List Char} {done rest : List (Char × Nat)} {x : Char × Nat}

theorem mem_of_split (split : done ++ x :: rest = wideCharacters label) :
    x ∈ label.zipIdx ∧ isWide x.1 = true :=
  mem_wideCharacters.mp (split ▸ List.mem_append_right _ List.mem_cons_self)

/-- Those that are inserted before a character come first, and it comes before the
others. -/
theorem ordered_of_split (split : done ++ x :: rest = wideCharacters label) :
    (∀ y ∈ done, y.1 < x.1 ∨ y.1 = x.1 ∧ y.2 < x.2) ∧
      ∀ y ∈ rest, x.1 < y.1 ∨ x.1 = y.1 ∧ x.2 < y.2 := by
  have pairwise := pairwise_wideCharacters label
  rw [← split, List.pairwise_append, List.pairwise_cons] at pairwise
  obtain ⟨_, ⟨behind, _⟩, ahead⟩ := pairwise
  constructor
  · intro y present
    exact Prod.Lex.toLex_lt_toLex.mp (ahead y present x List.mem_cons_self)
  · intro y present
    exact Prod.Lex.toLex_lt_toLex.mp (behind y present)

/-- Before a character that is inserted next stand those that are not greater. -/
theorem countP_take_eq (split : done ++ x :: rest = wideCharacters label) :
    (label.zipIdx.take x.2).countP (fun y => !isWide y.1 || done.contains y) =
      (insertion label x).2 := by
  obtain ⟨ahead, behind⟩ := ordered_of_split split
  have places : label.take x.2 = (label.zipIdx.take x.2).map Prod.fst := by
    rw [List.map_take, List.zipIdx_map_fst]
  rw [insertion, places, List.countP_map]
  apply List.countP_congr
  intro y before
  obtain ⟨present, lt⟩ := lt_of_mem_take_zipIdx before
  simp only [Bool.or_eq_true, Bool.not_eq_true', List.contains_iff_mem, Function.comp_apply,
    decide_eq_true_eq]
  constructor
  · rintro (ascii | inserted)
    · exact le_of_isWide ascii (mem_of_split split).2
    · rcases ahead y inserted with less | ⟨same, _⟩
      · exact less.le
      · exact same.le
  · intro le
    cases isWideY : isWide y.1 with
    | false => exact .inl rfl
    | true =>
        have listed := mem_wideCharacters.mpr ⟨present, isWideY⟩
        rw [← split, List.mem_append, List.mem_cons] at listed
        rcases listed with inserted | rfl | later
        · exact .inr inserted
        · exact absurd lt (Nat.lt_irrefl _)
        · rcases behind y later with less | ⟨_, after⟩
          · exact absurd le less.not_ge
          · exact absurd lt after.not_gt

/-- The next character is inserted where its insertion says. -/
theorem writtenWith_append (split : done ++ x :: rest = wideCharacters label) :
    writtenWith label (done ++ [x]) =
      (writtenWith label done).insertIdx (insertion label x).2 x.1 := by
  obtain ⟨present, wide⟩ := mem_of_split split
  have absent : (!isWide x.1 || done.contains x) = false := by
    have notMem : x ∉ done := fun inserted => by
      simpa using (ordered_of_split split).1 x inserted
    simp [wide, notMem]
  have same : (fun y => !isWide y.1 || (done ++ [x]).contains y) =
      fun y => (!isWide y.1 || done.contains y) || y == x := by
    funext y
    simp [Bool.or_assoc, beq_eq_decide]
  rw [← countP_take_eq split, writtenWith, same, map_filter_insert present absent]
  rfl

theorem insertion_le_length (split : done ++ x :: rest = wideCharacters label) :
    (insertion label x).2 ≤ (writtenWith label done).length := by
  rw [← countP_take_eq split, writtenWith, List.length_map, ← List.countP_eq_length_filter]
  exact (List.take_sublist _ _).countP_le

/-- Of two equal characters, the first one is inserted further to the front. -/
theorem insertion_lt_insertion
    {y : Char × Nat}
    (present : x ∈ label.zipIdx)
    (same : x.1 = y.1)
    (lt : x.2 < y.2) :
    (insertion label x).2 < (insertion label y).2 := by
  obtain ⟨_, inside, found⟩ := List.mem_zipIdx present
  simp only [Nat.zero_add, Nat.sub_zero] at inside found
  calc
    (insertion label x).2 < (label.take (x.2 + 1)).countP (· ≤ x.1) := by
      rw [List.take_succ_eq_append_getElem inside, List.countP_append, ← found]
      simp [insertion]
    _ ≤ (insertion label y).2 := by
      rw [same]
      exact (List.take_sublist_take_left lt).countP_le

end

namespace LabelDraft

/-- A draft in which the first characters of a label that are to be inserted are, and the
others come behind. -/
structure Inserted
    (draft : LabelDraft)
    (label : List Char)
    (done rest : List (Char × Nat)) : Prop where
  written : draft.written = writtenWith label done
  fresh : draft.growth = 0 ∧ draft.weight = 1
  place : draft.place = 36
  position_le : draft.position ≤ draft.written.length
  number_le : ∀ x ∈ rest, draft.number ≤ x.1.toNat
  onward : ∀ x ∈ rest, draft.number = x.1.toNat → draft.position ≤ (insertion label x).2

theorem inserted_start (label : List Char) :
    (start (label.filter (!isWide ·))).Inserted label [] (wideCharacters label) where
  written := (writtenWith_nil label).symm
  fresh := ⟨rfl, rfl⟩
  place := rfl
  position_le := Nat.zero_le _
  number_le := by
    intro x present
    have wide := (mem_wideCharacters.mp present).2
    simpa [isWide, start] using wide
  onward := fun _ _ _ => Nat.zero_le _

theorem Inserted.onward_of_mem
    {draft : LabelDraft}
    {label : List Char}
    {x : Char × Nat}
    (inserted : draft.Inserted label done (x :: rest)) :
    draft.position ≤
      (x.1.toNat - draft.number) * (draft.written.length + 1) + (insertion label x).2 := by
  rcases (inserted.number_le x List.mem_cons_self).eq_or_lt with same | less
  · exact (inserted.onward x List.mem_cons_self same).trans (Nat.le_add_left _ _)
  · calc
      draft.position ≤ draft.written.length + 1 := inserted.position_le.trans (Nat.le_succ _)
      _ ≤ (x.1.toNat - draft.number) * (draft.written.length + 1) :=
        Nat.le_mul_of_pos_left _ (Nat.sub_pos_of_lt less)
      _ ≤ _ := Nat.le_add_right _ _

/-- The whole numbers of a label that is not too long can be counted. -/
theorem Inserted.bounded
    {draft : LabelDraft}
    {label : List Char}
    {x : Char × Nat}
    (inserted : draft.Inserted label done (x :: rest))
    (split : done ++ x :: rest = wideCharacters label)
    (short : label.length ≤ longestWideLabel) :
    draft.position + draft.growthTo x.1.toNat (insertion label x).2 < 35 ^ 6 := by
  have onward := inserted.onward_of_mem
  have inside := insertion_le_length split
  have few : draft.written.length ≤ 1000 := by
    rw [inserted.written, writtenWith, List.length_map]
    exact (List.length_filter_le _ _).trans (by rwa [List.length_zipIdx])
  rw [← inserted.written] at inside
  have small : x.1.toNat < 1114112 := by
    have valid : x.1.toNat.isValidChar := x.1.valid
    rw [Nat.isValidChar] at valid
    omega
  have product : (x.1.toNat - draft.number) * (draft.written.length + 1) ≤ 1114112 * 1001 :=
    Nat.mul_le_mul (by omega) (by omega)
  rw [growthTo]
  omega

/-- Once the whole number of the next character is read, it is inserted. -/
theorem Inserted.exists_next
    {draft : LabelDraft}
    {label : List Char}
    {x : Char × Nat}
    (inserted : draft.Inserted label done (x :: rest))
    (split : done ++ x :: rest = wideCharacters label)
    (short : label.length ≤ longestWideLabel) :
    ∃ next : LabelDraft, next.Inserted label (done ++ [x]) rest ∧
      (draft.write (insertion label x :: rest.map (insertion label))).foldlM read? draft =
        (next.write (rest.map (insertion label))).foldlM read? next := by
  have inside : (insertion label x).2 ≤ draft.written.length :=
    inserted.written ▸ insertion_le_length split
  obtain ⟨bias, insertedEq⟩ := insert?_growthTo
    (inserted.number_le x List.mem_cons_self) inserted.onward_of_mem inside
  have behind := (ordered_of_split split).2
  have read := foldlM_write_cons inserted.fresh insertedEq (inserted.bounded split short)
    (rest.map (insertion label))
  refine ⟨_, ?_, read⟩
  constructor
  · rw [writtenWith_append split, ← inserted.written]
  · exact ⟨rfl, rfl⟩
  · rfl
  · rw [List.length_insertIdx_of_le_length inside]
    exact Nat.succ_le_succ inside
  · intro y present
    rcases behind y present with less | ⟨same, _⟩
    · exact Nat.le_of_lt less
    · exact Nat.le_of_eq (congrArg Char.toNat same)
  · intro y present same
    rcases behind y present with less | ⟨_, after⟩
    · exact absurd (Char.toNat_inj.mp same) less.ne
    · exact insertion_lt_insertion (mem_of_split split).1 (Char.toNat_inj.mp same) after

/-- Reading what is written for the characters of a label that are left puts the whole
label together. -/
theorem Inserted.foldlM_read?
    {draft : LabelDraft}
    {label : List Char}
    (inserted : draft.Inserted label done rest)
    (split : done ++ rest = wideCharacters label)
    (short : label.length ≤ longestWideLabel) :
    ∃ final, (draft.write (rest.map (insertion label))).foldlM read? draft = some final ∧
      final.written = label ∧ final.place = 36 := by
  induction rest generalizing done draft with
  | nil =>
      rw [List.append_nil] at split
      exact ⟨draft, rfl, by rw [inserted.written, split, writtenWith_wideCharacters],
        inserted.place⟩
  | cons x rest hypothesis =>
      obtain ⟨next, insertedNext, read⟩ := inserted.exists_next split short
      rw [List.map_cons, read]
      exact hypothesis insertedNext (by rw [List.append_assoc]; exact split)

/-- What holds of the digits of all values below 36 holds of all that is written. -/
theorem forall_mem_write
    {motive : Char → Prop}
    (digit : ∀ value < 36, motive (labelDigit value))
    (draft : LabelDraft)
    (insertions : List (Nat × Nat)) :
    ∀ c ∈ draft.write insertions, motive c := by
  induction insertions generalizing draft with
  | nil => simp [write]
  | cons insertion rest hypothesis =>
      intro c present
      rw [write, List.mem_append] at present
      rcases present with inNumber | inRest
      · exact forall_mem_labelDigits digit _ _ _ c inNumber
      · split at inRest
        · exact hypothesis _ c inRest
        · cases inRest

end LabelDraft

/-! ## Labels -/

/-- The digits of a label come after its last hyphen. -/
theorem splitLabel_append
    {digits : List Char}
    (noHyphen : ∀ c ∈ digits, c ≠ '-')
    (ascii : List Char) :
    splitLabel ((if ascii.isEmpty then [] else ascii ++ ['-']) ++ digits) =
      (ascii, digits) := by
  have all : ∀ c ∈ digits.reverse, (c != '-') = true := by
    intro c present
    exact bne_iff_ne.mpr (noHyphen c (List.mem_reverse.mp present))
  cases ascii with
  | nil =>
      simp [splitLabel, List.takeWhile_eq_self_iff.mpr all]
  | cons c ascii =>
      have length : (c :: ascii ++ ['-'] ++ digits).length - digits.length - 1 =
          (c :: ascii).length := by
        simp only [List.length_append, List.length_singleton]
        omega
      have shown : ((c :: ascii ++ ['-'] ++ digits).reverse.takeWhile (· != '-')).reverse =
          digits := by
        rw [List.reverse_append, List.takeWhile_append_of_pos all]
        simp
      rw [splitLabel]
      simp only [List.isEmpty_cons, Bool.false_eq_true, if_false, shown, length]
      rw [List.append_assoc, List.take_left]
      simp

/-- A label that is written in ASCII, neither too long before nor after, stands for its
characters. -/
theorem decodeLabel?_encodeLabel
    {label : List Char}
    (short : label.length ≤ longestWideLabel)
    (fits : (encodeLabel label).length ≤ longestLabel) :
    decodeLabel? (encodeLabel label) = some label := by
  obtain ⟨final, read, written, place⟩ :=
    (LabelDraft.inserted_start label).foldlM_read? (List.nil_append _) short
  have noHyphen := LabelDraft.forall_mem_write (motive := (· ≠ '-'))
    (fun _ lt => (labelDigit_ordinary lt).2.1)
    (.start (label.filter (!isWide ·))) ((wideCharacters label).map (insertion label))
  rw [decodeLabel?, if_neg fits.not_gt, encodeLabel]
  simp only [splitLabel_append noHyphen, read, place, written, if_true]

/-- What holds of the ASCII characters of a label, of hyphens and of digits holds of the
label as it is written in ASCII. -/
theorem forall_mem_encodeLabel
    {motive : Char → Prop}
    {label : List Char}
    (ascii : ∀ c ∈ label, isWide c = false → motive c)
    (hyphen : motive '-')
    (digit : ∀ value < 36, motive (labelDigit value)) :
    ∀ c ∈ encodeLabel label, motive c := by
  intro c present
  simp only [encodeLabel, List.mem_append] at present
  rcases present with inAscii | inDigits
  · split_ifs at inAscii
    · cases inAscii
    · simp only [List.mem_append, List.mem_filter, Bool.not_eq_true', List.mem_singleton]
        at inAscii
      rcases inAscii with ⟨inLabel, narrow⟩ | rfl
      · exact ascii c inLabel narrow
      · exact hyphen
  · exact LabelDraft.forall_mem_write digit _ _ c inDigits

theorem not_isWide_of_mem_labelMark : ∀ c ∈ labelMark, isWide c = false := by
  simp [labelMark, isWide]

/-- A label stands for the same characters once it is written in ASCII. -/
theorem labelCharacters?_asciiLabel
    {label characters : List Char}
    (stands : labelCharacters? label = some characters)
    (fits : (asciiLabel label).length ≤ labelMark.length + longestLabel) :
    labelCharacters? (asciiLabel label) = some characters := by
  unfold asciiLabel at *
  split_ifs at * with wide
  · have unmarked : label.take 4 ≠ labelMark := by
      intro marked
      rw [labelCharacters?, if_pos marked, if_pos wide] at stands
      cases stands
    rw [labelCharacters?, if_neg unmarked, if_pos wide] at stands
    obtain ⟨⟨⟩, valid⟩ := Option.filter_eq_some_iff.mp stands
    have short : label.length ≤ longestWideLabel := by
      simp only [isWideLabel, Bool.and_eq_true, decide_eq_true_eq] at valid
      exact valid.1.1.1.2
    have narrow : (labelMark ++ encodeLabel label).any isWide = false := by
      rw [List.any_eq_false]
      simp only [List.mem_append, Bool.not_eq_true]
      rintro c (inMark | inLabel)
      · exact not_isWide_of_mem_labelMark c inMark
      · exact forall_mem_encodeLabel (motive := fun c => isWide c = false)
          (fun _ _ ascii => ascii) (by decide) (fun _ lt => (labelDigit_ordinary lt).1) c inLabel
    rw [List.length_append, Nat.add_le_add_iff_left] at fits
    have marked : (labelMark ++ encodeLabel label).take 4 = labelMark := rfl
    have unmarked : (labelMark ++ encodeLabel label).drop 4 = encodeLabel label := rfl
    rw [labelCharacters?, if_pos marked, narrow, if_neg Bool.false_ne_true, unmarked,
      decodeLabel?_encodeLabel short fits]
    exact stands
  · exact stands

/-! ## Names -/

/-- Labels stand for the same characters once they are written in ASCII. -/
theorem mapM_labelCharacters?_map_asciiLabel
    {labels characters : List (List Char)}
    (stand : labels.mapM labelCharacters? = some characters)
    (fit : ∀ label ∈ labels, (asciiLabel label).length ≤ labelMark.length + longestLabel) :
    (labels.map asciiLabel).mapM labelCharacters? = some characters := by
  induction labels generalizing characters with
  | nil => exact stand
  | cons label labels hypothesis =>
      simp only [List.forall_mem_cons] at fit
      simp only [List.mapM_cons, Option.bind_eq_bind, Option.bind_eq_some_iff] at stand
      obtain ⟨own, stands, others, stand, ⟨⟩⟩ := stand
      simp only [List.map_cons, List.mapM_cons, labelCharacters?_asciiLabel stands fit.1,
        hypothesis stand fit.2, Option.bind_eq_bind, Option.bind_some]
      rfl

/-- The labels of a domain name make one once they are written in ASCII. -/
theorem isDomainName_map_asciiLabel
    {labels : List (List Char)}
    (valid : isDomainName labels = true)
    (fit : ∀ label ∈ labels, (asciiLabel label).length ≤ labelMark.length + longestLabel) :
    isDomainName (labels.map asciiLabel) = true := by
  unfold isDomainName at *
  cases stand : labels.mapM labelCharacters? with
  | none => simp [stand] at valid
  | some characters =>
      rw [mapM_labelCharacters?_map_asciiLabel stand fit]
      rwa [stand] at valid

/-- A piece of a text that is split does not hold what splits it. -/
theorem not_mem_of_mem_splitOn
    (separator : Char)
    (text : List Char) :
    ∀ piece ∈ text.splitOn separator, separator ∉ piece := by
  induction text with
  | nil => simp [List.splitOn]
  | cons c text hypothesis =>
      rw [List.splitOn, List.splitOnP_cons_eq_if_modifyHead]
      rw [List.splitOn] at hypothesis
      split_ifs with separates
      · simpa using hypothesis
      · have other : c ≠ separator := by simpa using separates
        cases pieces : text.splitOnP (· == separator) with
        | nil => simp
        | cons first others =>
            rw [pieces, List.forall_mem_cons] at hypothesis
            rw [List.modifyHead_cons, List.forall_mem_cons, List.mem_cons, not_or]
            exact ⟨⟨other.symm, hypothesis.1⟩, hypothesis.2⟩

/-- A label without full stops has none once it is written in ASCII. -/
theorem fullStop_notMem_asciiLabel
    {label : List Char}
    (absent : '.' ∉ label) :
    '.' ∉ asciiLabel label := by
  unfold asciiLabel
  split_ifs
  · rw [List.mem_append, not_or]
    refine ⟨by decide, fun present => ?_⟩
    exact forall_mem_encodeLabel (motive := (· ≠ '.'))
      (fun c inLabel _ same => absent (same ▸ inLabel)) (by decide)
      (fun _ lt => (labelDigit_ordinary lt).2.2) '.' present rfl
  · exact absent

/-- What a domain name is written as in ASCII is a domain name itself, of the labels that
the name has in its plain form. -/
theorem isDomainName_of_domainName?
    {name ascii : List Char}
    (written : domainName? name = some ascii)
    (fit : ∀ label ∈ ascii.splitOn '.', label.length ≤ labelMark.length + longestLabel) :
    isDomainName (ascii.splitOn '.') = true := by
  simp only [domainName?, Option.bind_eq_bind, Option.bind_eq_some_iff] at written
  obtain ⟨forms, _, written⟩ := written
  split_ifs at written with refused
  rw [Bool.or_eq_true, not_or, Bool.not_eq_true', Bool.not_eq_false] at refused
  have noFullStop : ∀ label ∈ ((Text.composed forms.flatten).splitOn '.').map asciiLabel,
      '.' ∉ label := by
    intro label present
    obtain ⟨plain, inName, rfl⟩ := List.mem_map.mp present
    exact fullStop_notMem_asciiLabel (not_mem_of_mem_splitOn '.' _ plain inName)
  have filled : ((Text.composed forms.flatten).splitOn '.').map asciiLabel ≠ [] := by
    rw [Ne, List.map_eq_nil_iff]
    exact List.splitOn_ne_nil _ _
  obtain rfl := Option.some.inj written
  rw [List.splitOn_intercalate '.' noFullStop filled] at fit ⊢
  exact isDomainName_map_asciiLabel refused.2 fun label present =>
    fit _ (List.mem_map_of_mem present)

example : domainName? "Bücher.example".toList = some "xn--bcher-kva.example".toList := by
  decide +kernel

end Url
end TransitLoad
