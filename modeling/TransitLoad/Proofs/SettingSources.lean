import Mathlib.Data.List.Nodup
import Mathlib.Tactic.Choose
import Mathlib.Tactic.Tauto
import TransitLoad.Proofs.SettingValues

/-!
# Where settings come from

Every setting has a source of its own: what is given to its flag on the command line,
else its environment variable, else its default.  A flag and its value are written as one
argument or as two.  In the second form the flag still waits for its value to be checked
when the next argument is read, so reading is followed by the texts that are settled at
last, the one that waits included.
-/

namespace TransitLoad

/-! ## Command lines -/

/-- A flag with its value on the command line: joined by an equals sign, or one after
the other. -/
structure Assignment where
  flag : Flag
  value : String
  isJoined : Bool

namespace Assignment

/-- The arguments that an assignment is written as. -/
def arguments (assignment : Assignment) : List String :=
  if assignment.isJoined then ["--" ++ assignment.flag.name ++ "=" ++ assignment.value]
  else ["--" ++ assignment.flag.name, assignment.value]

/-- What is given to which flag, whatever the notation. -/
def content (assignment : Assignment) : Flag × String := (assignment.flag, assignment.value)

/-- A value that stands alone is a lone dash or does not start with a dash. -/
def IsWritable (assignment : Assignment) : Prop :=
  assignment.isJoined = true ∨ assignment.value = "-" ∨
    assignment.value.toList.head? ≠ some '-'

end Assignment

/-- The text of a flag: what is given to it, or else what its own variable holds. -/
def sourceText?
    (assignments : List Assignment)
    (environment : Environment)
    (flag : Flag) : Option String :=
  match assignments.find? fun assignment => assignment.flag = flag with
  | some assignment => some assignment.value
  | none => environment.lookup flag.variableName

theorem sourceText?_of_mem
    {assignments : List Assignment}
    (once : (assignments.map Assignment.flag).Nodup)
    (present : assignment ∈ assignments)
    (environment : Environment) :
    sourceText? assignments environment assignment.flag = some assignment.value := by
  rw [sourceText?]
  cases found : assignments.find? fun other => other.flag = assignment.flag with
  | none => exact absurd (List.find?_eq_none.mp found assignment present) (by simp)
  | some other =>
      have same : other.flag = assignment.flag := by simpa using List.find?_some found
      rw [List.inj_on_of_nodup_map once (List.mem_of_find?_eq_some found) present same]

theorem sourceText?_of_not_mem
    {assignments : List Assignment}
    (absent : flag ∉ assignments.map Assignment.flag)
    (environment : Environment) :
    sourceText? assignments environment flag = environment.lookup flag.variableName := by
  have none : assignments.find? (fun assignment => assignment.flag = flag) = none := by
    refine List.find?_eq_none.mpr fun assignment present => ?_
    have other : assignment.flag ≠ flag := fun same =>
      absent (same ▸ List.mem_map_of_mem present)
    simpa using other
  rw [sourceText?, none]

/-- A command line and an environment that can be used: every flag is given once at
most, and what counts is valid.  A variable whose flag is given may hold anything. -/
structure AreUsable (assignments : List Assignment) (environment : Environment) : Prop where
  once : (assignments.map Assignment.flag).Nodup
  writable : ∀ assignment ∈ assignments, assignment.IsWritable
  accepts : ∀ assignment ∈ assignments, assignment.flag.Accepts assignment.value
  fallback : ∀ flag ∉ assignments.map Assignment.flag, ∀ text,
    environment.lookup flag.variableName = some text → flag.Accepts text

namespace AreUsable

/-- A variable that counts can be given to its flag instead. -/
theorem insert
    (usable : AreUsable (before ++ after) environment)
    (writable : moved.IsWritable)
    (absent : moved.flag ∉ (before ++ after).map Assignment.flag)
    (held : environment.lookup moved.flag.variableName = some moved.value)
    (others : ∀ flag ≠ moved.flag,
      environment'.lookup flag.variableName = environment.lookup flag.variableName) :
    AreUsable (before ++ moved :: after) environment' ∧
      ∀ flag, sourceText? (before ++ moved :: after) environment' flag =
        sourceText? (before ++ after) environment flag := by
  have members {assignment : Assignment} :
      assignment ∈ before ++ moved :: after ↔
        assignment = moved ∨ assignment ∈ before ++ after := by
    simp only [List.mem_append, List.mem_cons]
    tauto
  have once : ((before ++ moved :: after).map Assignment.flag).Nodup := by
    rw [List.perm_middle.map _ |>.nodup_iff, List.map_cons, List.nodup_cons]
    exact ⟨absent, usable.once⟩
  have flags (flag : Flag) : flag ∈ (before ++ moved :: after).map Assignment.flag ↔
      flag = moved.flag ∨ flag ∈ (before ++ after).map Assignment.flag := by
    rw [List.perm_middle.map _ |>.mem_iff, List.map_cons, List.mem_cons]
  refine ⟨⟨once, fun assignment present => ?_, fun assignment present => ?_,
    fun flag given text found => ?_⟩, fun flag => ?_⟩
  · rcases members.mp present with rfl | earlier
    · exact writable
    · exact usable.writable assignment earlier
  · rcases members.mp present with rfl | earlier
    · exact usable.fallback _ absent _ held
    · exact usable.accepts assignment earlier
  · obtain ⟨other, given⟩ := not_or.mp (mt (flags flag).mpr given)
    exact usable.fallback flag given text (others flag other ▸ found)
  · by_cases same : flag = moved.flag
    · subst same
      rw [sourceText?_of_mem once (members.mpr (.inl rfl)), sourceText?_of_not_mem absent, held]
    · by_cases given : flag ∈ (before ++ after).map Assignment.flag
      · obtain ⟨assignment, present, rfl⟩ := List.mem_map.mp given
        rw [sourceText?_of_mem once (members.mpr (.inr present)),
          sourceText?_of_mem usable.once present]
      · rw [sourceText?_of_not_mem given, sourceText?_of_not_mem, others flag same]
        exact mt (flags flag).mp (not_or.mpr ⟨same, given⟩)

end AreUsable

end TransitLoad
