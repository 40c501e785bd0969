/-!
# Storage

Where files are written: anything that can make one directory, tell whether a path
is one, and write a file.  A path is a text; its names are separated by slashes,
and empty names and names of one dot count for nothing.
-/

namespace TransitLoad

/-- Why something cannot be stored. -/
inductive FileError where
  | notFound
  | alreadyExists
  | notADirectory
  | isADirectory
  | nameTooLong
  /-- The path contains a null character. -/
  | nullInPath
  | other (text : String)
  deriving DecidableEq

/-- The text that a file error shows. -/
def FileError.message : FileError → String
  | .notFound => "No such file or directory (os error 2)"
  | .alreadyExists => "File exists (os error 17)"
  | .notADirectory => "Not a directory (os error 20)"
  | .isADirectory => "Is a directory (os error 21)"
  | .nameTooLong => "File name too long (os error 36)"
  | .nullInPath => "file name contained an unexpected NUL byte"
  | .other text => text

/-- A place to store files in, over a monad. -/
structure Storage (m : Type → Type) where
  makeDirectory : String → m (Except FileError Unit)
  isDirectory : String → m Bool
  /-- Write a file, in place of an earlier one. -/
  writeFile : String → List UInt8 → m (Except FileError Unit)

/-! ## Paths -/

namespace StoragePath

/-- The names between the slashes, empty ones included. -/
def pieces (path : List Char) : List (List Char) := path.splitOn '/'

/-- A name that counts for nothing. -/
def isIdle (piece : List Char) : Bool := piece = [] ∨ piece = ['.']

/-- What a path starts with, a slash or a lone dot, and the rest. -/
def splitStart : List Char → List Char × List Char
  | '/' :: rest => (['/'], rest)
  | ['.'] => (['.'], [])
  | '.' :: '/' :: rest => (['.'], '/' :: rest)
  | path => ([], path)

/-- The text of a start and pieces. -/
def text (start : List Char) (pieces : List (List Char)) : String :=
  String.ofList (start ++ ['/'].intercalate pieces)

/-- The directories above some pieces, given from the last to the first; the
nearest comes first. -/
def directoriesAbove (start : List Char) : List (List Char) → List String
  | [] => []
  | piece :: earlier =>
      if isIdle piece then directoriesAbove start earlier
      else
        let kept := earlier.dropWhile isIdle
        text start kept.reverse :: directoriesAbove start earlier

/-- The directories that a path lies in, the nearest first.  The last one, which
has no name, is left out. -/
def parents (path : String) : List String :=
  let (start, rest) := splitStart path.toList
  let above := directoriesAbove start (pieces rest).reverse
  (if start = ['.'] then above ++ [""] else above).filter fun parent => parent ≠ "" ∧ parent ≠ "/"

end StoragePath

/-! ## Storing -/

/-- Why a file was not stored: a directory is missing and cannot be made, or the file
itself cannot be written. -/
inductive StoreError where
  | directory (path : String) (cause : FileError)
  | file (path : String) (cause : FileError)
  deriving DecidableEq

namespace Storage

/-- Make a directory, unless it is there. -/
def ensureDirectory
    [Monad m]
    (storage : Storage m)
    (directory : String) : m (Except FileError Unit) := do
  match ← storage.makeDirectory directory with
  | .ok () => return .ok ()
  | .error error =>
      if ← storage.isDirectory directory then return .ok () else return .error error

/-- Make the first of some directories, each of which lies in the next.  The others
are only looked at if one is missing. -/
def ensureNested
    [Monad m]
    (storage : Storage m) : List String → m (Except FileError Unit)
  | [] => return .ok ()
  | directory :: parents => do
      match ← storage.ensureDirectory directory with
      | .error .notFound =>
          match ← storage.ensureNested parents with
          | .ok () => storage.ensureDirectory directory
          | .error error => return .error error
      | result => return result

/-- Store a file, making the directories that it lies in. -/
def store
    [Monad m]
    (storage : Storage m)
    (path : String)
    (bytes : List UInt8) : m (Except StoreError Unit) := do
  let parents := StoragePath.parents path
  match ← storage.ensureNested parents with
  | .error cause => return .error (.directory (parents.headD "") cause)
  | .ok () =>
      match ← storage.writeFile path bytes with
      | .error cause => return .error (.file path cause)
      | .ok () => return .ok ()

end Storage
end TransitLoad
