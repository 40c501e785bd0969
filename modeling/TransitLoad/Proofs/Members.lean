import TransitLoad.Proofs.Projection

/-!
# The members of an object

The members of an object are met one after another, in any order, and each is taken for
the field of its name.  Where no field is given twice, what has been found at the end are
the projections of the fields.
-/

namespace TransitLoad

open Json

/-! ## One member more -/

/-- What is read of a record after one more member. -/
def Fields.accept? :
    (fields : Fields) → List Nat → Tree → fields.Partial → Option fields.Partial
  | .nil, _, _, () => some ()
  | .cons name isRequired shape rest, member, tree, (found, others) =>
      if member = codes name then
        match found with
        | some _ => none
        | none => (fillWith? isRequired shape.default shape.project? (some tree)).map
            fun value => (some value, others)
      else (rest.accept? member tree others).map fun others => (found, others)

/-- A member that is no field changes nothing. -/
theorem Fields.accept?_of_not_mem
    (fields : Fields)
    (unknown : ∀ name ∈ fields.names, member ≠ codes name)
    (tree : Tree)
    (found : fields.Partial) :
    fields.accept? member tree found = some found := by
  cases fields with
  | nil => rfl
  | cons name isRequired shape rest =>
      obtain ⟨other, others⟩ := List.forall_mem_cons.mp unknown
      change (if member = codes name then _ else _) = _
      rw [if_neg other, rest.accept?_of_not_mem others]
      rfl

/-- What is found of one field after one more member. -/
def acceptField?
    (name : String)
    (fill? : Tree → Option α)
    (found : Option α)
    (member : List Nat × Tree) : Option (Option α) :=
  if member.1 = codes name then
    match found with
    | some _ => none
    | none => (fill? member.2).map some
  else some found

/-- A member is taken for the first field and for the others independently. -/
theorem Fields.accept?_cons
    (shape : Shape)
    (rest : Fields)
    (isRequired : Bool)
    (fresh : name ∉ rest.names)
    (member : List Nat × Tree)
    (found : Option shape.Value)
    (others : rest.Partial) :
    (Fields.cons name isRequired shape rest).accept? member.1 member.2 (found, others) =
      acceptField? name
          (fun tree => fillWith? isRequired shape.default shape.project? (some tree))
          found member >>= fun found =>
        (rest.accept? member.1 member.2 others).map fun others => (found, others) := by
  unfold acceptField?
  change (if member.1 = codes name then _ else _) = _
  by_cases same : member.1 = codes name
  · have unknown : ∀ other ∈ rest.names, member.1 ≠ codes other := by
      intro other present repeated
      exact fresh (codes_injective (same.symm.trans repeated) ▸ present)
    rw [if_pos same, if_pos same, rest.accept?_of_not_mem unknown]
    cases found with
    | some value => rfl
    | none =>
        dsimp only
        cases fillWith? isRequired shape.default shape.project? (some member.2) <;> rfl
  · rw [if_neg same, if_neg same]
    rfl

/-! ## All members -/

/-- Fields are found independently of one another. -/
theorem Fields.foldlM_accept?_cons
    (shape : Shape)
    (rest : Fields)
    (isRequired : Bool)
    (fresh : name ∉ rest.names)
    (members : List (List Nat × Tree))
    (found : Option shape.Value)
    (others : rest.Partial) :
    members.foldlM
        (fun found member =>
          (Fields.cons name isRequired shape rest).accept? member.1 member.2 found)
        (found, others) =
      members.foldlM
          (acceptField? name fun tree =>
            fillWith? isRequired shape.default shape.project? (some tree))
          found >>= fun found =>
        (members.foldlM (fun others member => rest.accept? member.1 member.2 others) others).map
          fun others => (found, others) := by
  induction members generalizing found others with
  | nil => rfl
  | cons member members hypothesis =>
      change ((Fields.cons name isRequired shape rest).accept? member.1 member.2 (found, others) >>=
        fun found => members.foldlM _ found) = _
      rw [rest.accept?_cons shape isRequired fresh, List.foldlM_cons, List.foldlM_cons]
      cases acceptField? name
          (fun tree => fillWith? isRequired shape.default shape.project? (some tree))
          found member with
      | none => rfl
      | some found =>
          cases rest.accept? member.1 member.2 others with
          | none =>
              have nothing (found? : Option (Option shape.Value)) :
                  (none : Option (Option shape.Value × rest.Partial)) =
                    found? >>= fun _ => none := by
                cases found? <;> rfl
              exact nothing _
          | some others => exact hypothesis found others

/-- Members of other names say nothing about a field. -/
theorem foldlM_acceptField?_of_absent
    {members : List (List Nat × Tree)}
    (fill? : Tree → Option α)
    (found : Option α)
    (absent : codes name ∉ members.map Prod.fst) :
    members.foldlM (acceptField? name fill?) found = some found := by
  induction members with
  | nil => rfl
  | cons member members hypothesis =>
      obtain ⟨other, others⟩ := not_or.mp (mt List.mem_cons.mpr absent)
      have unchanged : acceptField? name fill? found member = some found :=
        if_neg (Ne.symm other)
      rw [List.foldlM_cons, unchanged]
      exact hypothesis others

/-- What is found of one field among members that give it at most once. -/
theorem foldlM_acceptField?
    (fill? : Tree → Option α)
    (members : List (List Nat × Tree))
    (unique : (members.map Prod.fst).count (codes name) ≤ 1) :
    members.foldlM (acceptField? name fill?) none =
      match members.lookup (codes name) with
      | none => some none
      | some tree => (fill? tree).map some := by
  induction members with
  | nil => rfl
  | cons member members hypothesis =>
      obtain ⟨key, tree⟩ := member
      rw [List.map_cons, List.count_cons] at unique
      rw [List.foldlM_cons, List.lookup_cons]
      by_cases same : key = codes name
      · subst same
        have taken : acceptField? name fill? none (codes name, tree) = (fill? tree).map some :=
          if_pos rfl
        simp only [taken, beq_self_eq_true, if_true] at unique ⊢
        have absent : codes name ∉ members.map Prod.fst :=
          List.count_eq_zero.mp (Nat.le_zero.mp (Nat.le_of_succ_le_succ unique))
        cases fill? tree with
        | none => rfl
        | some value => exact foldlM_acceptField?_of_absent fill? (some value) absent
      · have differs : (codes name == key) = false := beq_eq_false_iff_ne.mpr (Ne.symm same)
        have unchanged : acceptField? name fill? none (key, tree) = some none := if_neg same
        rw [unchanged, differs]
        exact hypothesis (le_trans (Nat.le_add_right _ _) unique)

/-! ## Completed records -/

/-- A field that has been found goes before the others. -/
theorem Fields.complete_some
    (shape : Shape)
    (rest : Fields)
    (isRequired : Bool)
    (value : shape.Value)
    (others? : Option rest.Partial) :
    ((others?.map fun others => (some value, others)) >>= fun found =>
        ((Fields.cons name isRequired shape rest).complete found).toOption) =
      (others? >>= fun others => (rest.complete others).toOption) >>= fun others =>
        pure (value, others) := by
  cases others? with
  | none => rfl
  | some others =>
      change (rest.complete others >>= fun others => .ok (value, others)).toOption =
        ((rest.complete others).toOption >>= fun others => pure (value, others))
      cases rest.complete others <;> rfl

/-- An optional field that has not been found has its default. -/
theorem Fields.complete_default
    (shape : Shape)
    (rest : Fields)
    (others? : Option rest.Partial) :
    ((others?.map fun others => ((none : Option shape.Value), others)) >>= fun found =>
        ((Fields.cons name false shape rest).complete found).toOption) =
      (others? >>= fun others => (rest.complete others).toOption) >>= fun others =>
        pure (shape.default, others) := by
  cases others? with
  | none => rfl
  | some others =>
      change (rest.complete others >>= fun others => .ok (shape.default, others)).toOption =
        ((rest.complete others).toOption >>= fun others => pure (shape.default, others))
      cases rest.complete others <;> rfl

/-- Without a required field a record is not complete. -/
theorem Fields.complete_missing
    (shape : Shape)
    (rest : Fields)
    (others? : Option rest.Partial) :
    ((others?.map fun others => ((none : Option shape.Value), others)) >>= fun found =>
        ((Fields.cons name true shape rest).complete found).toOption) = none := by
  cases others? <;> rfl

/-- The members of an object, taken one after another, come to the projections of the
fields. -/
theorem Fields.foldlM_accept?
    (fields : Fields)
    (proper : fields.AreProper)
    (members : List (List Nat × Tree))
    (unique : ∀ name ∈ fields.names, (members.map Prod.fst).count (codes name) ≤ 1) :
    (members.foldlM (fun found member => fields.accept? member.1 member.2 found)
        fields.blank >>= fun found => (fields.complete found).toOption) =
      fields.projectIn? members := by
  cases fields with
  | nil =>
      have nothing : members.foldlM
          (fun found member => Fields.nil.accept? member.1 member.2 found) () = some () := by
        induction members with
        | nil => rfl
        | cons _ _ hypothesis => exact hypothesis nofun
      exact congrArg (· >>= fun found => (Fields.nil.complete found).toOption) nothing
  | cons name isRequired shape rest =>
      obtain ⟨fresh, -, restProper⟩ := proper
      obtain ⟨once, others⟩ := List.forall_mem_cons.mp unique
      have later := rest.foldlM_accept? restProper members others
      have apart := rest.foldlM_accept?_cons shape isRequired fresh members none rest.blank
      rw [foldlM_acceptField? _ _ once] at apart
      refine (congrArg (· >>= fun found =>
        ((Fields.cons name isRequired shape rest).complete found).toOption) apart).trans ?_
      change _ =
        (fillWith? isRequired shape.default shape.project? (members.lookup (codes name)) >>=
          fun value => rest.projectIn? members >>= fun others => pure (value, others))
      rw [← later]
      cases members.lookup (codes name) with
      | none =>
          cases isRequired with
          | true => exact rest.complete_missing shape _
          | false => exact rest.complete_default shape _
      | some tree =>
          cases found : fillWith? isRequired shape.default shape.project? (some tree) with
          | none =>
              simp only [found]
              rfl
          | some value =>
              simp only [found]
              exact rest.complete_some shape isRequired value _

end TransitLoad
