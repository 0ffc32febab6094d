import TypeExport.Json.Reader

/-! # JSON Values

    A value is what JSON data means.  The entries of an object have no order of their own; they are
    kept in ascending order of their keys, one for each key, and of a repeated key the last entry
    counts.

    An integer and a double are never the same value, whatever their size. -/

namespace TypeExport.Json

inductive Value where
  | null
  | bool (b : Bool)
  | integer (i : Int)
  /-- A double, by its bits; zero has no sign. -/
  | float (bits : UInt64)
  | string (s : String)
  | array (items : List Value)
  /-- The entries of an object, by ascending distinct keys. -/
  | object (entries : List (String × Value))
  deriving Repr, Inhabited

namespace Value

/-! ## Section 1: Equality -/

mutual

def decEq : (a b : Value) → Decidable (a = b)
  | .null, .null => isTrue rfl
  | .bool a, .bool b => if h : a = b then isTrue (h ▸ rfl) else isFalse (by simp [h])
  | .integer a, .integer b => if h : a = b then isTrue (h ▸ rfl) else isFalse (by simp [h])
  | .float a, .float b => if h : a = b then isTrue (h ▸ rfl) else isFalse (by simp [h])
  | .string a, .string b => if h : a = b then isTrue (h ▸ rfl) else isFalse (by simp [h])
  | .array as, .array bs =>
    match decEqItems as bs with
    | isTrue h => isTrue (h ▸ rfl)
    | isFalse h => isFalse (by simp [h])
  | .object as, .object bs =>
    match decEqEntries as bs with
    | isTrue h => isTrue (h ▸ rfl)
    | isFalse h => isFalse (by simp [h])
  | .null, .bool _ | .null, .integer _ | .null, .float _ | .null, .string _ | .null, .array _
  | .null, .object _ | .bool _, .null | .bool _, .integer _ | .bool _, .float _
  | .bool _, .string _ | .bool _, .array _ | .bool _, .object _ | .integer _, .null
  | .integer _, .bool _ | .integer _, .float _ | .integer _, .string _ | .integer _, .array _
  | .integer _, .object _ | .float _, .null | .float _, .bool _ | .float _, .integer _
  | .float _, .string _ | .float _, .array _ | .float _, .object _ | .string _, .null
  | .string _, .bool _ | .string _, .integer _ | .string _, .float _ | .string _, .array _
  | .string _, .object _ | .array _, .null | .array _, .bool _ | .array _, .integer _
  | .array _, .float _ | .array _, .string _ | .array _, .object _ | .object _, .null
  | .object _, .bool _ | .object _, .integer _ | .object _, .float _ | .object _, .string _
  | .object _, .array _ => isFalse nofun

def decEqItems : (as bs : List Value) → Decidable (as = bs)
  | [], [] => isTrue rfl
  | [], _ :: _ | _ :: _, [] => isFalse nofun
  | a :: as, b :: bs =>
    match decEq a b, decEqItems as bs with
    | isTrue ha, isTrue hs => isTrue (by rw [ha, hs])
    | isFalse h, _ | _, isFalse h => isFalse (by simp [h])

def decEqEntries : (as bs : List (String × Value)) → Decidable (as = bs)
  | [], [] => isTrue rfl
  | [], _ :: _ | _ :: _, [] => isFalse nofun
  | (k, a) :: as, (l, b) :: bs =>
    match String.decEq k l, decEq a b, decEqEntries as bs with
    | isTrue hk, isTrue ha, isTrue hs => isTrue (by rw [hk, ha, hs])
    | isFalse h, _, _ | _, isFalse h, _ | _, _, isFalse h => isFalse (by simp [h])

end

instance : DecidableEq Value := decEq

/-! ## Section 2: Values and data -/

/-- Enters a value into ascending entries, in place of one with the same key. -/
def insertEntry (key : String) (v : Value) : List (String × Value) → List (String × Value)
  | [] => [(key, v)]
  | e :: rest =>
    if key < e.1 then (key, v) :: e :: rest
    else if key = e.1 then (key, v) :: rest
    else e :: insertEntry key v rest

/-- The object with these entries; of a repeated key the last one counts. -/
def ofEntries (entries : List (String × Value)) : Value :=
  .object (entries.foldl (fun es e => insertEntry e.1 e.2 es) [])

def lookup (key : String) (entries : List (String × Value)) : Option Value :=
  (entries.find? (·.1 == key)).map (·.2)

mutual

/-- The value that data means, if all of it denotes something. -/
def ofTree : Tree → Option Value
  | .null => some .null
  | .bool b => some (.bool b)
  | .natural n => some (.integer n)
  | .integer i => some (.integer i)
  | .float bits => some (.float bits)
  | .text s => some (.string s)
  | .list items => .array <$> ofItems items
  | .record entries => ofEntries <$> ofRecord entries
  | .unreadable => none

def ofItems : List Tree → Option (List Value)
  | [] => some []
  | t :: rest => do
    let v ← ofTree t
    let vs ← ofItems rest
    return v :: vs

def ofRecord : List (String × Tree) → Option (List (String × Value))
  | [] => some []
  | (key, t) :: rest => do
    let v ← ofTree t
    let vs ← ofRecord rest
    return (key, v) :: vs

end

mutual

def toTree : Value → Tree
  | .null => .null
  | .bool b => .bool b
  | .integer i => if 0 ≤ i then .natural i.toNat else .integer i
  | .float bits => .float bits
  | .string s => .text s
  | .array items => .list (toItems items)
  | .object entries => .record (toRecord entries)

def toItems : List Value → List Tree
  | [] => []
  | v :: rest => v.toTree :: toItems rest

def toRecord : List (String × Value) → List (String × Tree)
  | [] => []
  | (key, v) :: rest => (key, v.toTree) :: toRecord rest

end

def parse (text : String) : Option Value := read text >>= ofTree

end Value

end TypeExport.Json
