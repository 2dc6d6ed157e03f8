/-!
# Files that cannot be read

A file is asked for by a path: names with slashes between them, each looked up in the directory
that the names before it lead to.  `FileError` says why no text comes of it, and `FileError.ofPath`
which of the causes it is for a path that leads to no file.
-/

namespace ObjectGraph

/-- Why a file could not be read. -/
inductive FileError where
  | notFound
  | isDirectory
  | nameTooLong
  /-- The path holds the character that ends a path. -/
  | nulInPath
  /-- The bytes of the file are not the UTF-8 form of a text. -/
  | notText
  deriving DecidableEq, Repr

namespace FileError

def message : FileError → String
  | .notFound => "No such file or directory (os error 2)"
  | .isDirectory => "Is a directory (os error 21)"
  | .nameTooLong => "File name too long (os error 36)"
  | .nulInPath => "file name contained an unexpected NUL byte"
  | .notText => "stream did not contain valid UTF-8"

/-! ## Paths -/

/-- The names of a path, at least one; a name may be empty. -/
def pathNames : List Char → List String
  | [] => [""]
  | c :: cs =>
    match pathNames cs with
    | [] => []
    | name :: names => if c = '/' then "" :: name :: names else (c.toString ++ name) :: names

/-- Whether a name stays at a directory or leads to the one above it. -/
def isStep (name : String) : Bool := name == "" || name == "." || name == ".."

def maxPathBytes : Nat := 4095

def maxNameBytes : Nat := 255

/-- Why a path cannot be read where the only files are the directories on the way up.  Names are
looked up in order, so the first that would lead down decides. -/
def ofPath (path : String) : FileError :=
  if path.toList.contains '\x00' then .nulInPath
  else if path = "" then .notFound
  else if maxPathBytes < path.utf8ByteSize then .nameTooLong
  else
    match (pathNames path.toList).find? fun name => !isStep name with
    | none => .isDirectory
    | some name => if maxNameBytes < name.utf8ByteSize then .nameTooLong else .notFound

end FileError

end ObjectGraph
