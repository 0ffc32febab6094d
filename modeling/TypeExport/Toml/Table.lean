import TypeExport.Tree

/-! # Tables under Construction

    A document fills its tables piece by piece.  How a table came into being decides what may still
    be added to it: a header may not be given twice, keys with dots add only to tables that such
    keys have made, and a table that merely stands on the path of a header may still get a header of
    its own.  An array of tables is entered through its last element. -/

namespace TypeExport.Toml

/-- How a table came into being. -/
inductive Origin where
  /-- By a header of its own, or as the document. -/
  | header
  /-- By standing on the path of a header. -/
  | path
  /-- By standing on the path of a key with dots. -/
  | dots
  deriving Repr, DecidableEq

mutual

/-- What stands under a key. -/
inductive Node where
  | value (t : Tree)
  | table (t : Table)
  /-- The elements of an array of tables, last first. -/
  | tables (last : Table) (others : List Table)

/-- A table and its entries, last first. -/
structure Table where
  origin : Origin
  entries : List (String × Node)

end

mutual

/-- What stands under a key, as data. -/
def Node.toTree : Node → Tree
  | .value t => t
  | .table t => t.toTree
  | .tables last others => .list (tablesToTrees others ++ [last.toTree])

/-- A table as data. -/
def Table.toTree : Table → Tree
  | ⟨_, entries⟩ => .record (entriesToTrees entries)

/-- Elements, last first, as data in their order. -/
def tablesToTrees : List Table → List Tree
  | [] => []
  | t :: rest => tablesToTrees rest ++ [t.toTree]

/-- Entries, last first, as data in their order. -/
def entriesToTrees : List (String × Node) → List (String × Tree)
  | [] => []
  | (key, n) :: rest => entriesToTrees rest ++ [(key, n.toTree)]

end

namespace Table

/-- The table without entries. -/
def empty (origin : Origin) : Table := ⟨origin, []⟩

/-- What stands under a key. -/
def find? (t : Table) (key : String) : Option Node := (t.entries.find? (·.1 == key)).map (·.2)

/-- Puts `n` under a key, in place of what stands there. -/
def put (t : Table) (key : String) (n : Node) : Table :=
  if (t.find? key).isSome then
    { t with entries := t.entries.map fun e => if e.1 = key then (key, n) else e }
  else { t with entries := (key, n) :: t.entries }

/-- Changes the table at the end of a path.  Missing tables on the way are made; `dotted` tells that
    the path is that of a key with dots. -/
def modify (dotted : Bool) (change : Table → Option Table) : List String → Table → Option Table
  | [], t => change t
  | key :: rest, t => do
    match t.find? key with
    | none =>
      let inner := empty (if dotted then .dots else .path)
      return t.put key (.table (← modify dotted change rest inner))
    | some (.value _) => none
    | some (.table inner) =>
      -- A header may lead through any table, a key with dots through no table with a header.
      if dotted ∧ inner.origin = .header then none
      else return t.put key (.table (← modify dotted change rest inner))
    | some (.tables last others) =>
      return t.put key (.tables (← modify dotted change rest last) others)

/-- Puts a value under a key, which may have dots, into a table. -/
def assign (keys : List String) (v : Tree) (t : Table) : Option Table :=
  match keys.getLast? with
  | none => none
  | some key =>
    modify true (fun inner =>
      -- A table made by dots takes keys with dots only, any other table takes plain keys only.
      if (inner.origin == .dots) == (keys.length == 1) || (inner.find? key).isSome then none
      else some (inner.put key (.value v))) keys.dropLast t

/-- Opens the table of a header. -/
def openTable (path : List String) (t : Table) : Option Table :=
  match path.getLast? with
  | none => none
  | some key =>
    modify false (fun outer =>
      match outer.find? key with
      | none => some (outer.put key (.table (empty .header)))
      | some (.table inner) =>
        -- Standing on a path is not yet a header of its own; dots count as one.
        if inner.origin = .path then some (outer.put key (.table { inner with origin := .header }))
        else none
      | some _ => none) path.dropLast t

/-- Opens a new element of the array of tables of a header. -/
def openElement (path : List String) (t : Table) : Option Table :=
  match path.getLast? with
  | none => none
  | some key =>
    modify false (fun outer =>
      match outer.find? key with
      | none => some (outer.put key (.tables (empty .header) []))
      | some (.tables last others) =>
        some (outer.put key (.tables (empty .header) (last :: others)))
      | some _ => none) path.dropLast t

end Table

end TypeExport.Toml
