/-! # Data Trees

    A data tree is what a file says before anyone interprets it.  The formats that descriptors and
    settings are written in are read into this one type, so that one set of rules gives them their
    meaning.  A record keeps its entries as written, repeated keys included.

    Two kinds of integers are told apart, because formats differ in what they mark: `natural` is an
    integer that a format writes without a sign and knows to be unsigned, `integer` any other one.
    A well-formed piece that denotes nothing is `unreadable`; whoever needs it fails, and whoever
    passes over it does not. -/

namespace TypeExport

/-- A piece of data. -/
inductive Tree where
  | null
  | bool (b : Bool)
  | natural (n : Nat)
  | integer (i : Int)
  /-- A floating-point number, by the bits of its double-precision encoding. -/
  | float (bits : UInt64)
  | text (s : String)
  | list (items : List Tree)
  | record (entries : List (String × Tree))
  | unreadable
  deriving Repr, BEq, Inhabited

namespace Tree

/-- How many values a word of 64 bits has. -/
def wordValues : Nat := 0x10000000000000000

/-- How many values of a signed word lie below zero; one fewer lie above. -/
def negativeValues : Nat := 0x8000000000000000

mutual

/-- Whether every piece of the tree denotes something. -/
def isReadable : Tree → Bool
  | .unreadable => false
  | .list items => areReadable items
  | .record entries => entriesReadable entries
  | _ => true

/-- The check on all items of a list. -/
def areReadable : List Tree → Bool
  | [] => true
  | t :: rest => t.isReadable && areReadable rest

/-- The check on the values of all entries of a record. -/
def entriesReadable : List (String × Tree) → Bool
  | [] => true
  | (_, t) :: rest => t.isReadable && entriesReadable rest

end

end Tree

end TypeExport
