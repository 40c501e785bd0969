import Mathlib.Data.Nat.Digits.Defs
import TransitLoad.Decoding.Shape
import TransitLoad.Proofs.JsonReading

/-!
# Projections of JSON texts

What a response means can be said without reading its bytes in order: the whole text
is a tree, the tree conforms to the shape or does not, and if it does its projection
takes the fields of the shape from it, wherever they stand, with defaults for those
that are absent or null.  Decoding comes to just that.
-/

namespace TransitLoad

open Json Reader

/-! ## Conforming trees -/

/-- The number that the digits of a whole number stand for. -/
def Json.Numeral.size (numeral : Numeral) : Nat :=
  Nat.ofDigits 10 (numeral.whole.reverse.map digitValue)

/-- A whole number below `2 ^ 64`, written without sign, fraction and exponent. -/
def Json.Numeral.IsCount (numeral : Numeral) : Prop :=
  numeral.isNegative = false ∧ numeral.fraction = none ∧ numeral.exponent = none ∧
    numeral.size < 2 ^ 64

/-- Whether a field may be what is found for it, if anything.  An optional field may
be absent or null. -/
def Fills (isRequired : Bool) (Conforms : Tree → Prop) : Option Tree → Prop
  | none => isRequired = false
  | some tree => (isRequired = false ∧ tree = .null) ∨ Conforms tree

mutual

/-- Whether a tree is of a shape. -/
def Shape.Conforms : Shape → Tree → Prop
  | .text, tree =>
      match tree with
      | .text _ => True
      | _ => False
  | .count, tree =>
      match tree with
      | .number numeral => numeral.IsCount
      | _ => False
  | .list element, tree =>
      match tree with
      | .list elements => ∀ tree ∈ elements, element.Conforms tree
      | _ => False
  | .record _ fields, tree =>
      match tree with
      | .object members => fields.ConformIn members
      | .list elements => fields.ConformInOrder elements
      | _ => False

/-- Whether the members of an object have the fields of a record among them. -/
def Fields.ConformIn : Fields → List (List Nat × Tree) → Prop
  | .nil, _ => True
  | .cons name isRequired shape rest, members =>
      Fills isRequired shape.Conforms (members.lookup (codes name)) ∧ rest.ConformIn members

/-- Whether the elements of a list are the fields of a record.  Optional fields at
the end may be missing. -/
def Fields.ConformInOrder : Fields → List Tree → Prop
  | .nil, elements => elements = []
  | .cons _ isRequired shape rest, elements =>
      Fills isRequired shape.Conforms elements.head? ∧ rest.ConformInOrder elements.tail

end

mutual

/-- What a tree is as a value of a shape; what it does not have is by default. -/
def Shape.projection : (shape : Shape) → Tree → shape.Value
  | .text, tree =>
      match tree with
      | .text content => textOf content
      | _ => ""
  | .count, tree =>
      match tree with
      | .number numeral => UInt64.ofNat numeral.size
      | _ => (0 : UInt64)
  | .list element, tree =>
      match tree with
      | .list elements => elements.map element.projection
      | _ => []
  | .record _ fields, tree =>
      match tree with
      | .object members => fields.projectionIn members
      | .list elements => fields.projectionInOrder elements
      | _ => fields.defaults

/-- The fields of a record among the members of an object. -/
def Fields.projectionIn : (fields : Fields) → List (List Nat × Tree) → fields.Values
  | .nil, _ => ()
  | .cons name _ shape rest, members =>
      ((members.lookup (codes name)).elim shape.default shape.projection,
        rest.projectionIn members)

/-- The fields of a record as the elements of a list. -/
def Fields.projectionInOrder : (fields : Fields) → List Tree → fields.Values
  | .nil, _ => ()
  | .cons _ _ shape rest, elements =>
      (elements.head?.elim shape.default shape.projection,
        rest.projectionInOrder elements.tail)

end

/-! ## Regular trees -/

/-- The names of fields. -/
def Fields.names : Fields → List String
  | .nil => []
  | .cons name _ _ rest => name :: rest.names

/-- No half of a surrogate pair stands alone. -/
def IsWhole (content : List Nat) : Prop := ∀ code ∈ content, ¬ IsSurrogate code

mutual

/-- Where a text or a record is expected, texts and names are whole, and no field is
given twice. -/
def Shape.IsRegular : Shape → Tree → Prop
  | .text, tree =>
      match tree with
      | .text content => IsWhole content
      | _ => True
  | .count, _ => True
  | .list element, tree =>
      match tree with
      | .list elements => ∀ tree ∈ elements, element.IsRegular tree
      | _ => True
  | .record _ fields, tree =>
      match tree with
      | .object members =>
          (∀ member ∈ members, IsWhole member.1 ∧ fields.IsRegularAt member.1 member.2) ∧
            ∀ name ∈ fields.names, (members.map Prod.fst).count (codes name) ≤ 1
      | .list elements => fields.AreRegularInOrder elements
      | _ => True

/-- Whether a member is regular if it is one of the fields. -/
def Fields.IsRegularAt : Fields → List Nat → Tree → Prop
  | .nil, _, _ => True
  | .cons name _ shape rest, member, tree =>
      (member = codes name → shape.IsRegular tree) ∧ rest.IsRegularAt member tree

/-- Whether elements are regular as the fields of a record. -/
def Fields.AreRegularInOrder : Fields → List Tree → Prop
  | .nil, _ | .cons _ _ _ _, [] => True
  | .cons _ _ shape rest, tree :: elements =>
      shape.IsRegular tree ∧ rest.AreRegularInOrder elements

end

mutual

/-- Whether no record of a shape has two fields of one name. -/
def Shape.IsProper : Shape → Prop
  | .text | .count => True
  | .list element => element.IsProper
  | .record _ fields => fields.AreProper

/-- Whether fields have different names, and their shapes are proper. -/
def Fields.AreProper : Fields → Prop
  | .nil => True
  | .cons name _ shape rest => name ∉ rest.names ∧ shape.IsProper ∧ rest.AreProper

end

mutual

/-- Whether a shape is proper can be decided. -/
def Shape.decideProper : (shape : Shape) → Decidable shape.IsProper
  | .text | .count => inferInstanceAs (Decidable True)
  | .list element => element.decideProper
  | .record _ fields => fields.decideProper

/-- Whether fields are proper can be decided. -/
def Fields.decideProper : (fields : Fields) → Decidable fields.AreProper
  | .nil => inferInstanceAs (Decidable True)
  | .cons name _ shape rest =>
      have := shape.decideProper
      have := rest.decideProper
      inferInstanceAs (Decidable (name ∉ rest.names ∧ shape.IsProper ∧ rest.AreProper))

end

instance (shape : Shape) : Decidable shape.IsProper := shape.decideProper

/-! ## Projecting step by step -/

/-- The projection of what is found for a field.  Unless the field is required, its
default stands for nothing and for null. -/
def fillWith?
    (isRequired : Bool)
    (default : α)
    (project? : Tree → Option α) : Option Tree → Option α
  | none | some .null => if isRequired then none else some default
  | some tree => project? tree

/-- The whole number below `2 ^ 64` that a numeral is read as. -/
def Json.Numeral.count? (numeral : Numeral) : Option UInt64 :=
  if numeral.isWhole && !numeral.isNegative && numeral.coefficient < UInt64.size then
    some (UInt64.ofNat numeral.coefficient)
  else none

mutual

/-- The projection of a tree that conforms. -/
def Shape.project? : (shape : Shape) → Tree → Option shape.Value
  | .text, tree =>
      match tree with
      | .text content => some (textOf content)
      | _ => none
  | .count, tree =>
      match tree with
      | .number numeral => numeral.count?
      | _ => none
  | .list element, tree =>
      match tree with
      | .list elements => elements.mapM element.project?
      | _ => none
  | .record _ fields, tree =>
      match tree with
      | .object members => fields.projectIn? members
      | .list elements => fields.projectInOrder? elements
      | _ => none

/-- The projections of fields among the members of an object. -/
def Fields.projectIn? : (fields : Fields) → List (List Nat × Tree) → Option fields.Values
  | .nil, _ => some ()
  | .cons name isRequired shape rest, members => do
      let value ← fillWith? isRequired shape.default shape.project?
        (members.lookup (codes name))
      let others ← rest.projectIn? members
      return (value, others)

/-- The projections of fields as the elements of a list. -/
def Fields.projectInOrder? : (fields : Fields) → List Tree → Option fields.Values
  | .nil, elements => if elements = [] then some () else none
  | .cons _ isRequired shape rest, elements => do
      let value ← fillWith? isRequired shape.default shape.project? elements.head?
      let others ← rest.projectInOrder? elements.tail
      return (value, others)

end

/-! ## What conforms has a projection -/

theorem digitsValue_eq (digits : List UInt8) :
    digitsValue digits = Nat.ofDigits 10 (digits.reverse.map digitValue) := by
  rw [digitsValue, ← List.foldr_reverse, Nat.ofDigits_eq_foldr, List.foldr_map]
  simp only [Nat.cast_id, Nat.mul_comm, Nat.add_comm]

theorem Json.Numeral.count?_eq_some_iff
    (numeral : Numeral)
    (value : UInt64) :
    numeral.count? = some value ↔ numeral.IsCount ∧ value = UInt64.ofNat numeral.size := by
  obtain ⟨isNegative, whole, fraction, exponent⟩ := numeral
  cases fraction with
  | some digits => simp [count?, IsCount, isWhole]
  | none =>
      have same : coefficient ⟨isNegative, whole, none, exponent⟩ =
          size ⟨isNegative, whole, none, exponent⟩ := by
        rw [coefficient, Option.getD_none, List.append_nil, digitsValue_eq, size]
      rw [count?, same]
      cases exponent <;> cases isNegative <;>
        simp [IsCount, isWhole, UInt64.size, eq_comm, and_comm]

theorem fillWith?_eq_some_iff
    {default : α}
    {project? : Tree → Option α}
    {Conforms : Tree → Prop}
    {projection : Tree → α}
    (conforms : ∀ tree value,
      project? tree = some value ↔ Conforms tree ∧ value = projection tree)
    (null : ¬ Conforms .null ∧ projection .null = default)
    (isRequired : Bool)
    (found : Option Tree)
    (value : α) :
    fillWith? isRequired default project? found = some value ↔
      Fills isRequired Conforms found ∧ value = found.elim default projection := by
  cases found with
  | none => cases isRequired <;> simp [fillWith?, Fills, eq_comm]
  | some tree =>
      cases tree with
      | null => cases isRequired <;> simp [fillWith?, Fills, null, eq_comm]
      | boolean | number | text | list | object =>
          simpa [fillWith?, Fills] using conforms _ value

theorem mapM_eq_some_iff
    {project? : Tree → Option α}
    {Conforms : Tree → Prop}
    {projection : Tree → α}
    (conforms : ∀ tree value,
      project? tree = some value ↔ Conforms tree ∧ value = projection tree)
    (trees : List Tree)
    (values : List α) :
    trees.mapM project? = some values ↔
      (∀ tree ∈ trees, Conforms tree) ∧ values = trees.map projection := by
  induction trees generalizing values with
  | nil => simp [eq_comm]
  | cons tree trees hypothesis =>
      simp only [List.mapM_cons, Option.bind_eq_bind, Option.bind_eq_some_iff, conforms,
        hypothesis, Option.pure_def, Option.some.injEq, List.forall_mem_cons, List.map_cons]
      constructor
      · rintro ⟨_, ⟨first, rfl⟩, _, ⟨others, rfl⟩, rfl⟩
        exact ⟨⟨first, others⟩, rfl⟩
      · rintro ⟨⟨first, others⟩, rfl⟩
        exact ⟨_, ⟨first, rfl⟩, _, ⟨others, rfl⟩, rfl⟩

/-- Null is of no shape. -/
theorem Shape.not_conforms_null (shape : Shape) :
    ¬ shape.Conforms .null ∧ shape.projection .null = shape.default := by
  cases shape <;> exact ⟨nofun, rfl⟩

/-- What has no projection does not conform. -/
theorem none_eq_some_iff (value projection : α) :
    (none : Option α) = some value ↔ False ∧ value = projection :=
  ⟨nofun, fun conforms => conforms.1.elim⟩

theorem some_eq_some_iff (value projection : α) :
    some projection = some value ↔ True ∧ value = projection := by
  rw [Option.some.injEq, true_and, eq_comm]

/-- The projections of a field and of those after it. -/
theorem bind_pair_eq_some_iff
    {α β : Type}
    {first? : Option α}
    {others? : Option β}
    {Conforms OthersConform : Prop}
    {projection : α}
    {others : β}
    (first : ∀ value, first? = some value ↔ Conforms ∧ value = projection)
    (rest : ∀ values, others? = some values ↔ OthersConform ∧ values = others)
    (pair : α × β) :
    (first? >>= fun value => others? >>= fun values => pure (value, values)) = some pair ↔
      (Conforms ∧ OthersConform) ∧ pair = (projection, others) := by
  simp only [Option.bind_eq_bind, Option.bind_eq_some_iff, first, rest, Option.pure_def,
    Option.some.injEq]
  constructor
  · rintro ⟨_, ⟨conforms, rfl⟩, _, ⟨othersConform, rfl⟩, rfl⟩
    exact ⟨⟨conforms, othersConform⟩, rfl⟩
  · rintro ⟨⟨conforms, othersConform⟩, rfl⟩
    exact ⟨_, ⟨conforms, rfl⟩, _, ⟨othersConform, rfl⟩, rfl⟩

mutual

theorem Shape.project?_eq_some_iff
    (shape : Shape)
    (tree : Tree)
    (value : shape.Value) :
    shape.project? tree = some value ↔ shape.Conforms tree ∧ value = shape.projection tree := by
  cases shape with
  | text =>
      cases tree with
      | text content => exact some_eq_some_iff value (textOf content)
      | null | boolean | number | list | object => exact none_eq_some_iff value _
  | count =>
      cases tree with
      | number numeral => exact numeral.count?_eq_some_iff value
      | null | boolean | text | list | object => exact none_eq_some_iff value _
  | list element =>
      cases tree with
      | list elements => exact mapM_eq_some_iff element.project?_eq_some_iff elements value
      | null | boolean | text | number | object => exact none_eq_some_iff value _
  | record name fields =>
      cases tree with
      | list elements => exact fields.projectInOrder?_eq_some_iff elements value
      | object members => exact fields.projectIn?_eq_some_iff members value
      | null | boolean | text | number => exact none_eq_some_iff value _

theorem Fields.projectIn?_eq_some_iff
    (fields : Fields)
    (members : List (List Nat × Tree))
    (values : fields.Values) :
    fields.projectIn? members = some values ↔
      fields.ConformIn members ∧ values = fields.projectionIn members := by
  cases fields with
  | nil => exact some_eq_some_iff values ()
  | cons name isRequired shape rest =>
      exact bind_pair_eq_some_iff
        (fillWith?_eq_some_iff shape.project?_eq_some_iff shape.not_conforms_null isRequired _)
        (rest.projectIn?_eq_some_iff members) values

theorem Fields.projectInOrder?_eq_some_iff
    (fields : Fields)
    (elements : List Tree)
    (values : fields.Values) :
    fields.projectInOrder? elements = some values ↔
      fields.ConformInOrder elements ∧ values = fields.projectionInOrder elements := by
  cases fields with
  | nil =>
      cases elements with
      | nil =>
          refine (some_eq_some_iff values ()).trans (and_congr_left fun _ => ?_)
          exact (iff_true_intro rfl).symm
      | cons =>
          refine (none_eq_some_iff values ()).trans (and_congr_left fun _ => ?_)
          exact (iff_false_intro nofun).symm
  | cons name isRequired shape rest =>
      exact bind_pair_eq_some_iff
        (fillWith?_eq_some_iff shape.project?_eq_some_iff shape.not_conforms_null isRequired _)
        (rest.projectInOrder?_eq_some_iff elements.tail) values

end

end TransitLoad
