import TypeExport.Graph.Node
import TypeExport.Tree.Record

/-! # Type Graphs as Data

    How nodes are written as data and read back.  A node is a tagged record.  Writing leaves out
    comments that are not there and empty parameter lists of members; reading takes every form that
    the rules for records allow. -/

namespace TypeExport

/-! ## Section 1: Writing -/

/-- The entry of a text that may be missing. -/
def textEntry (name : String) : Option String → List (String × Tree)
  | some s => [(name, .text s)]
  | none => []

/-- The entry of a list that is left out when it is empty. -/
def listEntry (name : String) (items : List Tree) : List (String × Tree) :=
  if items.isEmpty then [] else [(name, .list items)]

namespace EnumMember

def toTree (m : EnumMember) : Tree := .record [("name", .text m.name), ("value", .text m.value)]

end EnumMember

namespace TypeNode

mutual

def toTree : TypeNode → Tree
  | .simple name => .record [("kind", .text "simple"), ("name", .text name)]
  | .array params => .record [("kind", .text "array"), ("params", .list (toTrees params))]
  | .map params => .record [("kind", .text "map"), ("params", .list (toTrees params))]
  | .interface name comment members =>
    .record ([("kind", .text "interface"), ("name", .text name)] ++ textEntry "comment" comment ++
      [("members", .list (membersToTrees members))])
  | .enum name comment members =>
    .record ([("kind", .text "enum"), ("name", .text name)] ++ textEntry "comment" comment ++
      [("members", .list (members.map EnumMember.toTree))])
  | .void => .record [("kind", .text "void")]

def toTrees : List TypeNode → List Tree
  | [] => []
  | n :: rest => n.toTree :: toTrees rest

def membersToTrees : List Member → List Tree
  | [] => []
  | ⟨name, type, optional, function, comment, args⟩ :: rest =>
    .record ([("name", .text name), ("type", type.toTree), ("optional", .bool optional),
      ("function", .bool function)] ++ textEntry "comment" comment ++
      listEntry "args" (argsToTrees args)) :: membersToTrees rest

def argsToTrees : List Arg → List Tree
  | [] => []
  | ⟨name, type⟩ :: rest =>
    .record [("name", .text name), ("type", type.toTree)] :: argsToTrees rest

end

end TypeNode

/-! ## Section 2: Reading -/

open TypeExport.Tree

def EnumMember.ofTree (lenient : Bool) (t : Tree) : Option EnumMember :=
  match t.slots ["name", "value"] lenient with
  | some [some (.text name), some (.text value)] => some ⟨name, value⟩
  | _ => none

namespace TypeNode

def kinds : List String := ["simple", "array", "map", "interface", "enum", "void"]

mutual

/-- Reads a node; `nested` tells that it stands inside another one. -/
def ofTree (nested : Bool) (t : Tree) : Option TypeNode :=
  match _tagged : t.tagged? with
  | none => none
  | some (tag, body) =>
    match kindOf kinds nested tag with
    | some "simple" =>
      match body.slots ["name"] false with
      | some [some (.text name)] => some (.simple name)
      | _ => none
    | some "array" =>
      match _slots : body.slots ["params"] false with
      | some [some (.list params)] => .array <$> ofTrees params
      | _ => none
    | some "map" =>
      match _slots : body.slots ["params"] false with
      | some [some (.list params)] => .map <$> ofTrees params
      | _ => none
    | some "interface" =>
      match _slots : body.slots ["name", "comment", "members"] false with
      | some [some (.text name), comment, some (.list members)] => do
        return .interface name (← optionalText comment) (← membersOfTrees members)
      | _ => none
    | some "enum" =>
      match body.slots ["name", "comment", "members"] false with
      | some [some (.text name), comment, some (.list members)] => do
        return .enum name (← optionalText comment) (← members.mapM (EnumMember.ofTree false))
      | _ => none
    | some _ => if body.isBare then some .void else none
    | none => none
termination_by sizeOf t
decreasing_by
  · exact sizeOf_lt_of_listSlot _tagged _slots (by simp)
  · exact sizeOf_lt_of_listSlot _tagged _slots (by simp)
  · exact (sizeOf_lt_of_listSlot _tagged _slots (by simp) : sizeOf members < _)

def ofTrees : List Tree → Option (List TypeNode)
  | [] => some []
  | t :: rest => do return (← ofTree true t) :: (← ofTrees rest)
termination_by ts => sizeOf ts

def membersOfTrees : List Tree → Option (List Member)
  | [] => some []
  | t :: rest =>
    match _slots : t.slots ["name", "type", "optional", "function", "comment", "args"] false with
    | some [some (.text name), some type, optional, function, comment, args] =>
      match _args : itemsOrNone args with
      | some args => do
        return ⟨name, ← ofTree true type, ← flag optional, ← flag function,
          ← optionalText comment, ← argsOfTrees args⟩ :: (← membersOfTrees rest)
      | none => none
    | _ => none
termination_by ts => sizeOf ts
decreasing_by
  · exact sizeOf_lt_of_headSlot (x := type) _slots (by simp)
  · exact sizeOf_lt_of_headOptionalSlot _slots (by simp) _args
  · simp only [List.cons.sizeOf_spec]; omega

def argsOfTrees : List Tree → Option (List Arg)
  | [] => some []
  | t :: rest =>
    match _slots : t.slots ["name", "type"] false with
    | some [some (.text name), some type] => do
      return ⟨name, ← ofTree true type⟩ :: (← argsOfTrees rest)
    | _ => none
termination_by ts => sizeOf ts
decreasing_by
  · exact sizeOf_lt_of_headSlot (x := type) _slots (by simp)
  · simp only [List.cons.sizeOf_spec]; omega

end

/-- Reads a node that stands on its own. -/
def read (t : Tree) : Option TypeNode := if t.isReadable then ofTree false t else none

def readAll : Tree → Option (List TypeNode)
  | .list items => items.mapM read
  | _ => none

end TypeNode

end TypeExport
