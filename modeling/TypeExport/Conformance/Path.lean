import TypeExport.Text.ShownKey

/-! # Places in an Instance

    The check goes from a value to its parts by steps into objects and arrays.  A place is known by
    its path, a text: it begins with the name of the root, and each step adds to it. -/

namespace TypeExport

inductive PathStep where
  /-- To the entry of an object that stands for a member of an interface. -/
  | member (name : String)
  /-- To the item of an array. -/
  | index (i : Nat)
  /-- To the entry of an object that stands for a map. -/
  | key (k : String)
  deriving Repr, DecidableEq

/-- The path of the part that a step leads to from the place at `path`. -/
def extendPath (path : String) : PathStep → String
  | .member name => s!"{path}.{name}"
  | .index i => s!"{path}[{i}]"
  | .key k => s!"{path}[{Text.showKey k}]"

end TypeExport
