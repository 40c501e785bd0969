import Mathlib.Tactic.SplitIfs
import TransitLoad.Files.Folder

/-!
# Stored files

A file that was stored is found under the path that it was stored under.  Writing it
changes one place, which was no directory before, and the way to that place leads through
directories only, so the path leads to the same place afterwards.
-/

namespace TransitLoad
namespace Folder

variable {folder : Folder} {place : Place}

/-- What is read under a path: the bytes of the file that it leads to. -/
def file? (folder : Folder) (path : String) : Option (List UInt8) :=
  match folder.follow path with
  | .error _ => none
  | .ok target =>
      match locate target.directory target.name with
      | .error _ => none
      | .ok place =>
          match folder.entry? place with
          | some (.file bytes) => some bytes
          | _ => none

/-! ## One place -/

theorem entry?_put_self
    (given : place.isGiven = false)
    (entry : FolderEntry) :
    entry? (folder.put place entry) place = some entry := by
  simp [put, entry?, given]

theorem lookup_filter_ne
    {other : Place}
    (different : other ≠ place)
    (entries : List (Place × FolderEntry)) :
    (entries.filter fun (name, _) => name ≠ place).lookup other = entries.lookup other := by
  induction entries with
  | nil => rfl
  | cons entry entries hypothesis =>
      obtain ⟨name, what⟩ := entry
      by_cases same : name = place
      · subst same
        have apart : (other == name) = false := beq_eq_false_iff_ne.mpr different
        rw [List.lookup_cons, apart]
        simpa using hypothesis
      · rw [List.filter_cons, if_pos (by simpa using same), List.lookup_cons, List.lookup_cons,
          hypothesis]

theorem entry?_put_of_ne
    {other : Place}
    (different : other ≠ place)
    (entry : FolderEntry) :
    entry? (folder.put place entry) other = folder.entry? other := by
  have apart : (other == place) = false := beq_eq_false_iff_ne.mpr different
  simp only [put, entry?, List.lookup_cons, apart, lookup_filter_ne different]

/-- A directory is entered all the same when a file is put at a place that was none. -/
theorem enter_put
    {start directory : Place}
    (free : folder.entry? place ≠ some .directory)
    (entry : FolderEntry)
    (entered : folder.enter start name = .ok directory) :
    (folder.put place entry).enter start name = .ok directory := by
  simp only [enter, bind, Except.bind] at entered ⊢
  cases located : locate start name with
  | error => simp only [located] at entered; cases entered
  | ok reached =>
      simp only [located] at entered ⊢
      have kept : folder.entry? reached = some .directory := by
        cases found : folder.entry? reached with
        | none => simp only [found] at entered; cases entered
        | some what =>
            cases what with
            | directory => rfl
            | file => simp only [found] at entered; cases entered
      have different : reached ≠ place := fun same => free (same ▸ kept)
      rwa [entry?_put_of_ne different]

theorem foldlM_enter_put
    {start directory : Place}
    {names : List String}
    (free : folder.entry? place ≠ some .directory)
    (entry : FolderEntry)
    (entered : names.foldlM folder.enter start = .ok directory) :
    names.foldlM (folder.put place entry).enter start = .ok directory := by
  induction names generalizing start with
  | nil => exact entered
  | cons name names hypothesis =>
      simp only [List.foldlM_cons, bind, Except.bind] at entered ⊢
      cases first : folder.enter start name with
      | error => simp only [first] at entered; cases entered
      | ok next =>
          simp only [first, enter_put free entry first] at entered ⊢
          exact hypothesis entered

theorem follow_put
    (free : folder.entry? place ≠ some .directory)
    (entry : FolderEntry)
    (followed : folder.follow path = .ok target) :
    (folder.put place entry).follow path = .ok target := by
  simp only [follow, bind, Except.bind, throw, throwThe, MonadExceptOf.throw] at followed ⊢
  by_cases empty : path = ""
  · rw [if_pos empty] at followed
    cases followed
  by_cases null : '\x00' ∈ path.toList
  · rw [if_neg empty, if_pos null] at followed
    cases followed
  by_cases long : longestPath < path.utf8ByteSize
  · rw [if_neg empty, if_neg null, if_pos long] at followed
    cases followed
  rw [if_neg empty, if_neg null, if_neg long] at followed ⊢
  split at followed
  next => cases followed
  next directory entered => rwa [foldlM_enter_put free entry entered]

/-! ## Writing and storing -/

/-- A file that was written is read under its path. -/
theorem file?_of_writeFile
    (written : folder.writeFile path bytes = .ok later) :
    later.file? path = some bytes := by
  simp only [writeFile, bind, Except.bind, throw, throwThe, MonadExceptOf.throw] at written
  split at written
  next => cases written
  next target followed =>
    split_ifs at written with refused
    split at written
    next => cases written
    next place located =>
      split_ifs at written with occupied
      obtain rfl := Except.ok.inj written
      have given : place.isGiven = false :=
        Bool.eq_false_iff.mpr fun given => occupied (if_pos given)
      simp only [file?, follow_put occupied _ followed, located, entry?_put_self given]

/-- A file that was stored is read under its path. -/
theorem file?_of_store
    (stored : Folder.storage.store path bytes earlier = (.ok (), later)) :
    later.file? path = some bytes := by
  simp only [Storage.store, bind, StateT.bind] at stored
  split at stored
  next result prepared _ =>
    split at stored
    next => cases stored
    next =>
      simp only [storage, attempt, StateT.bind] at stored
      cases written : prepared.writeFile path bytes with
      | error => simp only [written] at stored; cases stored
      | ok changed =>
          simp only [written] at stored
          obtain rfl : changed = later := (Prod.mk.inj stored).2
          exact file?_of_writeFile written

end Folder
end TransitLoad
