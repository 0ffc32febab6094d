/-! # Paths

    A path is a text whose parts stand between slashes. -/

namespace TypeExport.Tool

/-- The parts of a path between slashes. -/
def pathParts (path : String) : List String :=
  (path.toList.splitOnP (· = '/')).map String.ofList

/-- The names on a path; empty parts and single dots lead nowhere and are left out. -/
def pathNames (path : String) : List String :=
  (pathParts path).filter fun part => part != "" && part != "."

/-- The name of the file that a path leads to. -/
def fileName? (path : String) : Option String := (pathNames path).getLast?.filter (· != "..")

/-- What follows the last dot of a file name, unless the dot is its first character. -/
def extension? (path : String) : Option String := do
  let name ← fileName? path
  let parts := name.toList.splitOnP (· = '.')
  match parts with
  | [] | [_] | [[], _] => none
  | _ => parts.getLast?.map String.ofList

/-- The path of a file in the directory that `dir` leads to. -/
def joinPath (dir name : String) : String :=
  if dir = "" ∨ dir.toList.getLast? = some '/' then dir ++ name else dir ++ "/" ++ name

/-- Whether a path begins at the root. -/
def isAbsolute (path : String) : Bool := path.toList.head? == some '/'

/-- The most bytes that a name on a path may have. -/
def nameLimit : Nat := 255

/-- The most bytes that a path may have. -/
def pathLimit : Nat := 4095

/-- Whether a path can be asked for at all: it is not empty and holds no null character, and neither
    the path nor a name on it is too long. -/
def isValidPath (path : String) : Bool :=
  path != "" && !path.toList.contains '\x00' && path.utf8ByteSize ≤ pathLimit &&
    (pathParts path).all fun part => part.utf8ByteSize ≤ nameLimit

end TypeExport.Tool
