import TransitLoad.Proofs.Members
import TransitLoad.Walk

/-!
# Decoding and projecting

Reading a value of a shape from the bytes that spell a tree gives the projection of
the tree, or fails if the tree does not conform.  So does decoding a whole body.
-/

namespace TransitLoad

open Json Reader

/-! ## Scalars -/

/-- A numeral does not look like anything else. -/
theorem Json.SpellsNumeral.append_ne
    (spells : SpellsNumeral numeral bytes)
    (other : startsNumber byte = false)
    (rest tail : List UInt8) :
    bytes ++ rest ≠ byte :: tail := by
  obtain ⟨first, others, rfl, starts⟩ := spells.exists_head
  exact fun same => ne_of_startsNumber starts other (List.cons.inj same).1

namespace Reader

/-- A value that is refused is not read. -/
theorem reads_refuse
    (expected : String)
    (input rest : List UInt8) :
    Reads rest (refuse expected input : Except DecodeError (α × List UInt8)) none := by
  rw [refuse]
  cases readUnexpected input with
  | error error => exact .failed error
  | ok found => exact .failed (.invalidType found expected)

theorem reads_usedText
    (spells : Spells tree bytes)
    (before : AreBlanks left)
    (regular : Shape.text.IsRegular tree)
    (rest : List UInt8) :
    Reads rest (readUsedText (left ++ (bytes ++ rest))) (Shape.text.project? tree) := by
  rw [readUsedText, dropBlanks_spelled before spells]
  cases spells with
  | text spells =>
      obtain ⟨inside⟩ := spells
      change Reads rest (orMalformed (readText? (_ ++ [0x22] ++ rest))) (some (textOf _))
      rw [List.append_assoc, List.singleton_append, readText?_append inside regular]
      exact .found _
  | number spells =>
      split
      next same => exact absurd same (spells.append_ne rfl _ _)
      next => exact reads_refuse _ _ _
  | null | yes | no | emptyList | list | emptyObject | object => exact reads_refuse _ _ _

/-- What is made of the number that a numeral stands for when a count is read. -/
theorem foundNumber_cases (numeral : Numeral) :
    foundNumber numeral = .ok (.integer numeral.coefficient) ∧
        numeral.count? = some (UInt64.ofNat numeral.coefficient) ∨
      numeral.count? = none ∧
        ∀ value : Nat, foundNumber numeral ≠ .ok (.integer value) := by
  rw [foundNumber, Numeral.count?]
  by_cases fits :
      (numeral.isWhole && !numeral.isNegative && numeral.coefficient < UInt64.size) = true
  · exact .inl ⟨if_pos fits, if_pos fits⟩
  · refine .inr ⟨if_neg fits, fun value same => ?_⟩
    rw [if_neg fits] at same
    split_ifs at same with zero
    · cases same
    · have positive : numeral.coefficient ≠ 0 := by simpa using zero
      have negative := FoundValue.integer.inj (Except.ok.inj same)
      omega
    · cases same

theorem reads_count
    (spells : Spells tree bytes)
    (before : AreBlanks left)
    (ends : EndsValue rest) :
    Reads rest (readCount (left ++ (bytes ++ rest))) (Shape.count.project? tree) := by
  have front := dropBlanks_spelled before spells rest
  rw [readCount, front]
  cases spells with
  | number spells =>
      have read := readNumeral?_append spells ends.endsNumeral
      obtain ⟨first, others, rfl, starts⟩ := spells.exists_head
      rw [List.cons_append] at read ⊢
      simp only [starts, if_true, readNumber, read, orMalformed, ok_bind]
      change Reads rest _ (Numeral.count? _)
      obtain ⟨found, count⟩ | ⟨count, other⟩ := foundNumber_cases _
      · rw [found, count]
        exact .found _
      · rw [count]
        cases found : foundNumber _ with
        | error error => exact .failed error
        | ok value =>
            cases value with
            | integer value =>
                cases value with
                | ofNat value => exact absurd found (other value)
                | negSucc => exact .failed _
            | null | boolean | float | text | list | object => exact .failed _
  | text spells =>
      obtain ⟨_⟩ := spells
      exact reads_refuse _ _ _
  | null | yes | no | emptyList | list | emptyObject | object => exact reads_refuse _ _ _

/-! ## Lists and fields -/

theorem foldlM_cons_eq
    (project? : Tree → Option α)
    (elements : List Tree)
    (reversed : List α) :
    elements.foldlM (fun reversed tree => (project? tree).map (· :: reversed)) reversed =
      (elements.mapM project?).map (·.reverse ++ reversed) := by
  induction elements generalizing reversed with
  | nil => simp
  | cons tree elements hypothesis =>
      rw [List.foldlM_cons, List.mapM_cons]
      cases project? tree with
      | none => rfl
      | some value =>
          change elements.foldlM _ (value :: reversed) = _
          rw [hypothesis]
          cases elements.mapM project? <;> simp

theorem reads_elements
    {read : Reader α}
    {project? : Tree → Option α}
    (items : SpellsItems Spells elements bytes)
    (reads : ∀ tree ∈ elements, ∀ left bytes rest,
      Spells tree bytes → AreBlanks left → EndsValue rest →
        Reads rest (read (left ++ (bytes ++ rest))) (project? tree))
    (rest : List UInt8) :
    Reads rest (readElements read (bytes ++ 0x5d :: rest)) (elements.mapM project?) := by
  have all : elements.mapM project? = (elements.foldlM
      (fun reversed tree => (project? tree).map (· :: reversed)) []).map List.reverse := by
    rw [foldlM_cons_eq]
    cases elements.mapM project? <;> simp
  rw [all]
  refine (reads_readItems (.inl rfl) items ?_ ?_ [] rest).map List.reverse
  · intro tree bytes spells
    obtain ⟨first, others, rfl, starts⟩ := spells.exists_head
    exact ⟨first, others, rfl, starts.ne (.inr (.inr (.inl rfl)))⟩
  · exact fun tree present reversed left bytes rest spells before ends =>
      (reads tree present left bytes rest spells before ends).map (· :: reversed)

/-- A field is read as its shape is, unless null stands for its default. -/
theorem reads_field
    {read : Reader α}
    {project? : Tree → Option α}
    (spells : Spells tree bytes)
    (before : AreBlanks left)
    (reads : ∀ left, AreBlanks left →
      Reads rest (read (left ++ (bytes ++ rest))) (project? tree))
    (null : project? .null = none)
    (default : α)
    (isRequired : Bool) :
    Reads rest
      (if isRequired then read (left ++ (bytes ++ rest))
        else orNull default read (left ++ (bytes ++ rest)))
      (fillWith? isRequired default project? (some tree)) := by
  have asShaped := reads [] AreBlanks.nil
  cases isRequired with
  | true =>
      have same : fillWith? true default project? (some tree) = project? tree := by
        cases tree with
        | null => exact null.symm
        | boolean | number | text | list | object => rfl
      rw [same]
      exact reads left before
  | false =>
      rw [if_neg Bool.false_ne_true, orNull, dropBlanks_spelled before spells]
      cases spells with
      | null => exact .found default
      | number spells =>
          split
          next same => exact absurd same (spells.append_ne rfl _ _)
          next => exact asShaped
      | text spells =>
          obtain ⟨_⟩ := spells
          exact asShaped
      | yes | no | emptyList | list | emptyObject | object => exact asShaped

end Reader

/-! ## Records -/

/-- What is left of a record written as a list when so many elements have been read. -/
inductive Remaining (rest : List UInt8) : Nat → List Tree → List UInt8 → Prop where
  | finished
      (blank : AreBlanks left) :
      Remaining rest index [] (left ++ 0x5d :: rest)
  | first
      (items : SpellsItems Spells elements bytes) :
      Remaining rest 0 elements (bytes ++ 0x5d :: rest)
  | next
      (blank : AreBlanks left)
      (items : SpellsItems Spells elements bytes) :
      Remaining rest (index + 1) elements (left ++ 0x2c :: (bytes ++ 0x5d :: rest))

/-- The first of some elements, and what is left after it. -/
theorem exists_first
    (items : SpellsItems Spells elements bytes) :
    ∃ tree others left item tail, elements = tree :: others ∧
      bytes = left ++ (item ++ tail) ∧ AreBlanks left ∧ Spells tree item ∧
      ∀ rest index, EndsValue (tail ++ 0x5d :: rest) ∧
        Remaining rest (index + 1) others (tail ++ 0x5d :: rest) := by
  cases items with
  | last before item after =>
      exact ⟨_, _, _, _, _, rfl, rfl, before, item, fun rest index =>
        ⟨.append after (.cons (.inr (.inl rfl)) rest), .finished after⟩⟩
  | more before item after further =>
      refine ⟨_, _, _, _, _, rfl, rfl, before, item, fun rest index => ?_⟩
      rw [List.append_assoc, List.cons_append]
      exact ⟨.append after (.cons (.inl rfl) _), .next after further⟩

/-- The value of a field that has not been met is read. -/
theorem Fields.readMember_first
    (shape : Shape)
    (rest : Fields)
    (isRequired : Bool)
    (others : rest.Partial)
    (input : List UInt8) :
    (Fields.cons name isRequired shape rest).readMember name (none, others) input =
      expect 0x3a input >>= fun input =>
        (if isRequired then shape.read input else orNull shape.default shape.read input) >>=
          fun (value, input) => .ok ((some value, others), input) := by
  change (if name = name then _ else _ : Reader _) input = _
  rw [if_pos rfl]
  cases isRequired <;> rfl

/-- A field that has been met is refused. -/
theorem Fields.readMember_again
    (shape : Shape)
    (rest : Fields)
    (isRequired : Bool)
    (value : shape.Value)
    (others : rest.Partial)
    (input : List UInt8) :
    (Fields.cons name isRequired shape rest).readMember name (some value, others) input =
      .error (.duplicateField name) := by
  change (if name = name then _ else _ : Reader _) input = _
  rw [if_pos rfl]

/-- A member of another name is left to the other fields. -/
theorem Fields.readMember_of_ne
    (shape : Shape)
    (rest : Fields)
    (isRequired : Bool)
    (other : member ≠ name)
    (found : Option shape.Value)
    (others : rest.Partial)
    (input : List UInt8) :
    (Fields.cons name isRequired shape rest).readMember member (found, others) input =
      rest.readMember member others input >>= fun (others, input) =>
        .ok ((found, others), input) := by
  change (if member = name then _ else _ : Reader _) input = _
  rw [if_neg other]
  rfl

theorem Shape.read_list (element : Shape) (input : List UInt8) :
    (Shape.list element).read input =
      (match dropBlanks input with
      | 0x5b :: rest => readElements element.read rest
      | input => refuse "a sequence" input :
      Except DecodeError (List element.Value × List UInt8)) := rfl

theorem Shape.read_record (name : String) (fields : Fields) (input : List UInt8) :
    (Shape.record name fields).read input =
      (match dropBlanks input with
      | 0x7b :: rest =>
          readItems 0x7d (fun found input => do
            let (member, input) ← readName input
            fields.readMember member found input) fields.blank rest >>= fun (found, rest) =>
              fields.complete found >>= fun values => .ok (values, rest)
      | 0x5b :: rest => fields.readInOrder (fields.lengthExpectation name) 0 rest
      | input => refuse s!"struct {name}" input :
      Except DecodeError (fields.Values × List UInt8)) := rfl

/-- Read a field and those after it, after a comma unless it is the first one. -/
def Fields.readOnward
    (shape : Shape)
    (rest : Fields)
    (isRequired : Bool)
    (expected : String)
    (index : Nat) : Reader (shape.Value × rest.Values) := fun input =>
  (if isRequired then shape.read input else orNull shape.default shape.read input) >>=
    fun (value, input) =>
      rest.readInOrder expected (index + 1) input >>=
        fun (others, after) => .ok ((value, others), after)

theorem Fields.readInOrder_cons
    (shape : Shape)
    (rest : Fields)
    (isRequired : Bool)
    (expected : String)
    (index : Nat)
    (input : List UInt8) :
    (Fields.cons name isRequired shape rest).readInOrder expected index input =
      match dropBlanks input with
      | 0x5d :: after =>
          if isRequired then .error (.invalidLength index expected)
          else rest.readInOrder expected (index + 1) (0x5d :: after) >>=
            fun (others, after) => .ok ((shape.default, others), after)
      | input =>
          (if index = 0 then .ok input else expect 0x2c input) >>=
            rest.readOnward shape isRequired expected index := by
  cases isRequired <;> cases index <;> rfl

theorem Shape.project?_null (shape : Shape) : shape.project? .null = none := by
  cases shape <;> rfl

theorem Fields.areRegularInOrder_nil (fields : Fields) : fields.AreRegularInOrder [] := by
  cases fields <;> trivial

/-- The values of a record that has been read. -/
theorem Fields.reads_complete
    (fields : Fields)
    (found : fields.Partial)
    (rest : List UInt8) :
    Reads rest (fields.complete found >>= fun values => .ok (values, rest))
      (fields.complete found).toOption := by
  cases fields.complete found with
  | error error => exact .failed error
  | ok values => exact .found values

mutual

theorem Shape.reads
    (shape : Shape)
    (proper : shape.IsProper)
    (spells : Spells tree bytes)
    (before : AreBlanks left)
    (ends : EndsValue rest)
    (regular : shape.IsRegular tree) :
    Reads rest (shape.read (left ++ (bytes ++ rest))) (shape.project? tree) := by
  cases shape with
  | text => exact reads_usedText spells before regular rest
  | count => exact reads_count spells before ends
  | list element =>
      rw [Shape.read_list, dropBlanks_spelled before spells]
      cases spells with
      | emptyList blank =>
          change Reads rest (readElements element.read (_ ++ [0x5d] ++ rest)) (some [])
          rw [List.append_assoc, List.singleton_append, readElements,
            readItems_blank (.inl rfl) blank]
          exact .found []
      | list items =>
          change Reads rest (readElements element.read (_ ++ [0x5d] ++ rest))
            (List.mapM element.project? _)
          rw [List.append_assoc, List.singleton_append]
          exact reads_elements items (fun tree present left bytes rest spells before ends =>
            element.reads proper spells before ends (regular tree present)) rest
      | number spells =>
          split
          next same => exact absurd same (spells.append_ne rfl _ _)
          next => exact reads_refuse _ _ _
      | text spells =>
          obtain ⟨_⟩ := spells
          exact reads_refuse _ _ _
      | null | yes | no | emptyObject | object => exact reads_refuse _ _ _
  | record name fields =>
      rw [Shape.read_record, dropBlanks_spelled before spells]
      cases spells with
      | emptyList blank =>
          change Reads rest (fields.readInOrder _ 0 (_ ++ [0x5d] ++ rest))
            (fields.projectInOrder? [])
          rw [List.append_assoc, List.singleton_append]
          exact fields.reads_inOrder proper (.finished blank) regular _
      | list items =>
          change Reads rest (fields.readInOrder _ 0 (_ ++ [0x5d] ++ rest))
            (fields.projectInOrder? _)
          rw [List.append_assoc, List.singleton_append]
          exact fields.reads_inOrder proper (.first items) regular _
      | emptyObject blank =>
          change Reads rest (readItems 0x7d _ fields.blank (_ ++ [0x7d] ++ rest) >>= _)
            (fields.projectIn? [])
          rw [List.append_assoc, List.singleton_append, readItems_blank (.inr rfl) blank,
            ← fields.foldlM_accept? proper [] (fun _ _ => Nat.zero_le _)]
          exact fields.reads_complete fields.blank rest
      | object items =>
          change Reads rest (readItems 0x7d _ fields.blank (_ ++ [0x7d] ++ rest) >>= _)
            (fields.projectIn? _)
          rw [List.append_assoc, List.singleton_append,
            ← fields.foldlM_accept? proper _ regular.2]
          refine Reads.bind (reads_readItems (.inr rfl) items ?_ ?_ fields.blank rest)
            fun found => fields.reads_complete found rest
          · rintro _ _ ⟨⟨_⟩, _, _, _⟩
            exact ⟨_, _, rfl, rfl, by decide⟩
          · rintro _ present found left _ rest ⟨name, between, right, spells⟩ before ends
            obtain ⟨whole, memberRegular⟩ := regular.1 _ present
            rw [List.append_assoc, List.append_assoc, List.cons_append, List.append_assoc]
            simp only [readName_append before name whole, ok_bind]
            exact fields.reads_member proper name whole spells between right ends
              memberRegular found
      | number spells =>
          split
          next same => exact absurd same (spells.append_ne rfl _ _)
          next same => exact absurd same (spells.append_ne rfl _ _)
          next => exact reads_refuse _ _ _
      | text spells =>
          obtain ⟨_⟩ := spells
          exact reads_refuse _ _ _
      | null | yes | no => exact reads_refuse _ _ _

theorem Fields.reads_member
    (fields : Fields)
    (proper : fields.AreProper)
    (name : SpellsText member nameBytes)
    (whole : IsWhole member)
    (spells : Spells tree bytes)
    (between : AreBlanks left)
    (before : AreBlanks right)
    (ends : EndsValue rest)
    (regular : fields.IsRegularAt member tree)
    (found : fields.Partial) :
    Reads rest
      (fields.readMember (textOf member) found (left ++ 0x3a :: (right ++ (bytes ++ rest))))
      (fields.accept? member tree found) := by
  cases fields with
  | nil =>
      change Reads rest (expect 0x3a (left ++ 0x3a :: (right ++ (bytes ++ rest))) >>= fun input =>
        skipValue input >>= fun input => .ok ((), input)) (some ())
      rw [expect_append between rfl, ok_bind, skipValue_append before spells ends]
      exact .found ()
  | cons field isRequired shape others =>
      obtain ⟨_, shapeProper, othersProper⟩ := proper
      obtain ⟨shapeRegular, othersRegular⟩ := regular
      obtain ⟨first, found⟩ := found
      by_cases same : textOf member = field
      · have isField := (textOf_eq_iff name whole field).mp same
        cases first with
        | some value =>
            subst same
            rw [others.readMember_again shape]
            have refused : (Fields.cons (textOf member) isRequired shape others).accept?
                member tree (some value, found) = none := if_pos isField
            rw [refused]
            exact .failed _
        | none =>
            subst same
            rw [others.readMember_first shape, expect_append between rfl, ok_bind]
            have taken : (Fields.cons (textOf member) isRequired shape others).accept?
                member tree (none, found) =
                (fillWith? isRequired shape.default shape.project? (some tree)).map
                  fun value => (some value, found) := if_pos isField
            rw [taken]
            refine (reads_field spells before ?_ ?_ shape.default isRequired).map
              fun value => (some value, found)
            · exact fun left before =>
                shape.reads shapeProper spells before ends (shapeRegular isField)
            · exact shape.project?_null
      · have isOther := mt (textOf_eq_iff name whole field).mpr same
        rw [others.readMember_of_ne shape isRequired same]
        have passed : (Fields.cons field isRequired shape others).accept? member tree
            (first, found) =
            (others.accept? member tree found).map fun found => (first, found) :=
          if_neg isOther
        rw [passed]
        exact (others.reads_member othersProper name whole spells between before ends
          othersRegular found).map fun found => (first, found)

theorem Fields.reads_inOrder
    (fields : Fields)
    (proper : fields.AreProper)
    (remaining : Remaining rest index elements input)
    (regular : fields.AreRegularInOrder elements)
    (expected : String) :
    Reads rest (fields.readInOrder expected index input) (fields.projectInOrder? elements) := by
  cases fields with
  | nil =>
      change Reads rest (expect 0x5d input >>= fun rest => .ok ((), rest))
        (if elements = [] then some () else none)
      cases remaining with
      | finished blank =>
          rw [expect_append blank rfl, if_pos rfl]
          exact .found ()
      | first items =>
          obtain ⟨tree, others, left, item, tail, rfl, rfl, blank, spells, _⟩ :=
            exists_first items
          obtain ⟨first, others, rfl, starts⟩ := spells.exists_head
          have other := starts.ne (.inr (.inr (.inl rfl)))
          rw [List.append_assoc, List.cons_append, List.cons_append,
            expect_of_ne blank other.1 other.2, if_neg (List.cons_ne_nil _ _)]
          exact .failed _
      | next blank items =>
          obtain ⟨tree, others, left, item, tail, rfl, _⟩ := exists_first items
          rw [expect_of_ne blank rfl (by decide), if_neg (List.cons_ne_nil _ _)]
          exact .failed _
  | cons field isRequired shape others =>
      obtain ⟨_, shapeProper, othersProper⟩ := proper
      have onward {tree : Tree} {trees : List Tree} {item tail : List UInt8}
          (regular : shape.IsRegular tree ∧ others.AreRegularInOrder trees)
          (spells : Spells tree item) (ends : EndsValue tail)
          (remaining : Remaining rest (index + 1) trees tail)
          {left : List UInt8} (before : AreBlanks left) :
          Reads rest
            (others.readOnward shape isRequired expected index (left ++ (item ++ tail)))
            ((Fields.cons field isRequired shape others).projectInOrder? (tree :: trees)) := by
        refine Reads.bind
          (reads_field spells before ?_ shape.project?_null shape.default isRequired) fun value =>
            (others.reads_inOrder othersProper remaining regular.2 expected).bind fun others =>
              .found (value, others)
        exact fun left before => shape.reads shapeProper spells before ends regular.1
      rw [others.readInOrder_cons]
      cases remaining with
      | finished blank =>
          rw [dropBlanks_append blank, dropBlanks_cons rfl]
          cases isRequired with
          | true => exact .failed _
          | false =>
              exact (others.reads_inOrder othersProper (.finished AreBlanks.nil)
                others.areRegularInOrder_nil expected).bind fun values =>
                  .found (shape.default, values)
      | first items =>
          obtain ⟨tree, trees, left, item, tail, rfl, rfl, blank, spells, after⟩ :=
            exists_first items
          obtain ⟨ends, remaining⟩ := after rest 0
          have continued := onward regular spells ends remaining AreBlanks.nil
          rw [List.append_assoc, List.append_assoc, dropBlanks_spelled blank spells]
          obtain ⟨first, others, rfl, starts⟩ := spells.exists_head
          split
          next same =>
            exact absurd (List.cons.inj same).1 (starts.ne (.inr (.inr (.inl rfl)))).2
          next => exact continued
      | next blank items =>
          obtain ⟨tree, trees, left, item, tail, rfl, rfl, before, spells, after⟩ :=
            exists_first items
          obtain ⟨ends, remaining⟩ := after rest _
          have continued := onward regular spells ends remaining before
          rw [dropBlanks_append blank, dropBlanks_cons rfl, List.append_assoc,
            List.append_assoc]
          exact continued

end

/-! ## Bodies -/

/-- A body that spells a tree is decoded as the projection of the tree. -/
theorem Shape.decode_toOption
    {shape : Shape}
    (proper : shape.IsProper)
    (spells : SpellsBody tree body)
    (regular : shape.IsRegular tree) :
    (shape.decode body).toOption = shape.project? tree := by
  obtain ⟨characters, utf8⟩ := AreUtf8.of_body spells
  have isText : textOfUtf8? body = some (String.ofList characters) := by
    rw [utf8, textOfUtf8?_flatMap]
  rw [decode, isText]
  obtain @⟨left, _, bytes, right, before, value, after⟩ := spells
  have ends : EndsValue right := List.append_nil right ▸ .append after .nil
  have reads := shape.reads proper value before ends regular
  simp only [orMalformed, ok_bind]
  generalize shape.read (left ++ (bytes ++ right)) = result, shape.project? tree = expected
    at reads ⊢
  cases reads with
  | found value =>
      simp only [ok_bind, dropBlanks_eq_nil after]
      rfl
  | failed error => rfl

/-- What is decoded is what conforms, and it is decoded as its projection. -/
theorem Shape.decode_eq_ok_iff
    {shape : Shape}
    (proper : shape.IsProper)
    (spells : SpellsBody tree body)
    (regular : shape.IsRegular tree)
    (value : shape.Value) :
    shape.decode body = .ok value ↔ shape.Conforms tree ∧ value = shape.projection tree := by
  rw [← shape.project?_eq_some_iff, ← decode_toOption proper spells regular]
  cases shape.decode body with
  | error error => exact ⟨nofun, nofun⟩
  | ok found => exact ⟨fun same => congrArg Except.toOption same,
      fun same => congrArg Except.ok (Option.some.inj same)⟩

/-- The shapes of the responses that a walker decodes, and those inside them. -/
def Shape.responses : List Shape :=
  [Root.shape, .list SystemSummary.shape, System.shape, .list RouteSummary.shape,
    Route.shape, Stop.shape, Link.shape, SystemSummary.shape, RouteSummary.shape,
    .list ServiceMap.shape, ServiceMap.shape, .list StopSummary.shape, StopSummary.shape,
    .list StopTime.shape, StopTime.shape, TripRef.shape]

theorem Shape.isProper_of_mem_responses : ∀ shape ∈ responses, shape.IsProper := by
  decide

/-- Fetching a response succeeds if and only if its body conforms, and gives the
projection of the body. -/
theorem fetch_iff_conforms
    [Document α]
    {api : Api}
    {url : Url}
    {trace : Activity.Trace Note}
    (known : Document.shape α ∈ Shape.responses)
    (spells : SpellsBody tree body)
    (regular : (Document.shape α).IsRegular tree)
    (reply : (api trace.requests.size url).reply = .body body) :
    ((Document.shape α).Conforms tree → ∃ elapsed,
      ((fetch (Document.decode α) url).alone api trace).1 =
        .ok ⟨Document.ofValue ((Document.shape α).projection tree), elapsed⟩) ∧
    (¬ (Document.shape α).Conforms tree → ∃ error,
      ((fetch (Document.decode α) url).alone api trace).1 =
        .error (.error (.decode url error))) := by
  have proper := Shape.isProper_of_mem_responses _ known
  have decodes := Shape.decode_eq_ok_iff proper spells regular
  rw [fetch, Activity.alone, Activity.alone]
  simp only [Answer.decoded, reply, Document.decode]
  cases decoded : (Document.shape α).decode body with
  | error error =>
      have malformed (conforms : (Document.shape α).Conforms tree) :
          (Document.shape α).decode body = .ok ((Document.shape α).projection tree) :=
        (decodes _).mpr ⟨conforms, rfl⟩
      refine ⟨fun conforms => ?_, fun _ => ⟨error, rfl⟩⟩
      exact nomatch decoded.symm.trans (malformed conforms)
  | ok value =>
      obtain ⟨conforms, rfl⟩ := (decodes value).mp decoded
      exact ⟨fun _ => ⟨_, rfl⟩, fun other => absurd conforms other⟩

/-- A route in a list of routes, with a member that is none of its fields and with one
that is null. -/
def oneRoute : Tree :=
  .object [(codes "kind", .list []), (codes "id", .null), (codes "href", .text (codes "/a"))]

/-- A spelling of `oneRoute`. -/
def oneRouteBody : List UInt8 := utf8 " \x7b\"kind\":[],\"id\":null,\"href\":\"/a\"\x7d"

/-- A member that is no field is skipped, and null stands for the default. -/
theorem fetch_iff_conforms_oneRoute :
    RouteSummary.shape ∈ Shape.responses ∧ SpellsBody oneRoute oneRouteBody ∧
      RouteSummary.shape.IsRegular oneRoute ∧ RouteSummary.shape.Conforms oneRoute ∧
      ∃ elapsed,
        ((fetch (Document.decode RouteSummary) default).alone
            (fun _ _ => ⟨.zero, .body oneRouteBody⟩) (.empty : Activity.Trace WalkNote)).1 =
          .ok ⟨⟨"", "/a"⟩, elapsed⟩ := by
  have known : RouteSummary.shape ∈ Shape.responses := List.mem_of_getElem? (i := 8) rfl
  have kind := @SpellsText.plainly "kind" (by simp)
  have id := @SpellsText.plainly "id" (by simp)
  have href := @SpellsText.plainly "href" (by simp)
  have target := @SpellsText.plainly "/a" (by simp)
  have noBlanks : AreBlanks [] := .nil
  have skipped : SpellsMember Spells (codes "kind", .list []) _ :=
    .named kind noBlanks noBlanks (.emptyList noBlanks)
  have named : SpellsMember Spells (codes "id", .null) _ :=
    .named id noBlanks noBlanks .null
  have followed : SpellsMember Spells (codes "href", .text (codes "/a")) _ :=
    .named href noBlanks noBlanks (.text target)
  have members := SpellsItems.more noBlanks skipped noBlanks
    (.more noBlanks named noBlanks (.last noBlanks followed noBlanks))
  have space : AreBlanks [0x20] := by simp [AreBlanks]
  have spells : SpellsBody oneRoute oneRouteBody := by
    refine Eq.subst ?_ (SpellsBody.alone space (.object members) noBlanks)
    decide +kernel
  have whole (text : String) : IsWhole (codes text) :=
    List.forall_mem_map.mpr fun character _ => toNat_not_isSurrogate character
  have regular : RouteSummary.shape.IsRegular oneRoute := by
    refine ⟨List.forall_mem_cons.mpr ⟨⟨whole "kind", ?_⟩, List.forall_mem_cons.mpr
      ⟨⟨whole "id", ?_⟩, List.forall_mem_singleton.mpr ⟨whole "href", ?_⟩⟩⟩, by decide +kernel⟩
    · exact ⟨fun _ => trivial, fun _ => trivial, trivial⟩
    · exact ⟨fun _ => trivial, fun _ => trivial, trivial⟩
    · exact ⟨fun _ => whole "/a", fun _ => whole "/a", trivial⟩
  have conforms : RouteSummary.shape.Conforms oneRoute :=
    ⟨.inl ⟨rfl, rfl⟩, .inr trivial, trivial⟩
  refine ⟨known, spells, regular, conforms, ?_⟩
  exact (fetch_iff_conforms known spells regular rfl).1 conforms

end TransitLoad
