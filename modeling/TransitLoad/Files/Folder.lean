import TransitLoad.Files.Storage

/-!
# Folders

A working directory with what lies below it, as a value.  Two dots lead out of a
directory; what lies outside of the working directory is kept as well, but not
listed.
-/

namespace TransitLoad

/-- The names that lead from the working directory to a place.  Places outside start
with two dots, or with a slash if they are reached from the root. -/
abbrev Place := List String

namespace Place

/-- Whether a place always is a directory. -/
def isGiven (place : Place) : Bool := place.all fun name => name = ".." ∨ name = "/"

/-- Whether a place lies below the working directory. -/
def isInside (place : Place) : Bool :=
  match place with
  | [] => false
  | name :: _ => name ≠ ".." ∧ name ≠ "/"

/-- The place that two dots lead to. -/
def above (place : Place) : Place :=
  if place = ["/"] then place
  else if place.isGiven then place ++ [".."]
  else place.dropLast

end Place

/-- What is found at a place. -/
inductive FolderEntry where
  | directory
  | file (bytes : List UInt8)
  deriving DecidableEq

/-- A working directory and what was made in it, the latest first. -/
structure Folder where
  entries : List (Place × FolderEntry)
  deriving DecidableEq

namespace Folder

/-- A working directory with nothing in it. -/
def empty : Folder := ⟨[]⟩

/-- What is found at a place. -/
def entry? (folder : Folder) (place : Place) : Option FolderEntry :=
  if place.isGiven then some .directory else folder.entries.lookup place

/-- Put something at a place. -/
def put (folder : Folder) (place : Place) (entry : FolderEntry) : Folder :=
  ⟨(place, entry) :: folder.entries.filter fun (other, _) => other ≠ place⟩

/-- The longest name that an entry may have, in bytes. -/
def longestName : Nat := 255

/-- The longest path that is looked up, in bytes. -/
def longestPath : Nat := 4095

/-- The place that a name leads to. -/
def locate (place : Place) (name : String) : Except FileError Place :=
  if name = "" ∨ name = "." then .ok place
  else if name = ".." then .ok place.above
  else if longestName < name.utf8ByteSize then .error .nameTooLong
  else .ok (place ++ [name])

/-- Go into a directory. -/
def enter (folder : Folder) (place : Place) (name : String) : Except FileError Place := do
  let place ← locate place name
  match folder.entry? place with
  | some .directory => return place
  | some (.file _) => throw .notADirectory
  | none => throw .notFound

/-- What a path leads to: the directory that its last name is looked up in, that name,
and whether a slash follows it. -/
structure Target where
  directory : Place
  name : String
  hasSlash : Bool

/-- Follow a path up to its last name. -/
def follow (folder : Folder) (path : String) : Except FileError Target := do
  if path = "" then throw .notFound
  if '\x00' ∈ path.toList then throw .nullInPath
  if longestPath < path.utf8ByteSize then throw .nameTooLong
  let names := (StoragePath.pieces path.toList).map String.ofList
  let start : Place := if path.startsWith "/" then ["/"] else []
  let kept := (names.reverse.dropWhile (· = "")).reverse
  let directory ← kept.dropLast.foldlM folder.enter start
  return ⟨directory, kept.getLastD "", names.getLast? = some "" ∧ kept ≠ []⟩

/-- Whether a name only leads to a directory. -/
def isIdleName (name : String) : Bool := name = "" ∨ name = "." ∨ name = ".."

/-- Make a directory. -/
def makeDirectory (folder : Folder) (path : String) : Except FileError Folder := do
  let target ← folder.follow path
  if isIdleName target.name then throw .alreadyExists
  let place ← locate target.directory target.name
  if (folder.entry? place).isSome then throw .alreadyExists
  return folder.put place .directory

/-- Whether a path leads to a directory. -/
def isDirectory (folder : Folder) (path : String) : Bool :=
  match folder.follow path with
  | .ok target => (folder.enter target.directory target.name).toBool
  | .error _ => false

/-- Write a file. -/
def writeFile (folder : Folder) (path : String) (bytes : List UInt8) :
    Except FileError Folder := do
  let target ← folder.follow path
  if isIdleName target.name ∨ target.hasSlash then throw .isADirectory
  let place ← locate target.directory target.name
  if folder.entry? place = some .directory then throw .isADirectory
  return folder.put place (.file bytes)

/-- Carry out a change, if it succeeds. -/
def attempt (change : Folder → Except FileError Folder) : StateM Folder (Except FileError Unit) :=
  fun folder =>
    match change folder with
    | .ok changed => (.ok (), changed)
    | .error error => (.error error, folder)

/-- A folder as a storage. -/
def storage : Storage (StateM Folder) where
  makeDirectory path := attempt (·.makeDirectory path)
  isDirectory path := do return (← get).isDirectory path
  writeFile path bytes := attempt (·.writeFile path bytes)

/-- Everything below the working directory by its path; the path of a directory ends
in a slash. -/
def listing (folder : Folder) : List (String × FolderEntry) :=
  (folder.entries.filter fun (place, _) => place.isInside).map fun (place, entry) =>
    let path := "/".intercalate place
    (if entry = .directory then path ++ "/" else path, entry)

end Folder
end TransitLoad
