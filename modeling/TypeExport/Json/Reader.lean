import TypeExport.Json.Token

/-! # Reading JSON Text

    The reader goes over the tokens once and keeps the containers that are still open on a stack,
    innermost first.  It accepts the standard's grammar and nothing else: no comments, no trailing
    commas, nothing after the value.

    A container that stands inside 127 others is well formed but denotes nothing, and neither does
    a record with a key that denotes nothing. -/

namespace TypeExport.Json

/-! ## Section 1: Tokens -/

def tokens (cs : List Char) : Option (List Token) :=
  match cs with
  | [] => some []
  | c :: rest =>
    if isSeparator c then tokens rest
    else match _next : token (c :: rest) with
      | none => none
      | some (t, rest') => (t :: ·) <$> tokens rest'
termination_by cs.length
decreasing_by
  · simp
  · exact length_of_token _next

/-! ## Section 2: Containers -/

/-- A container that is still open, with what it holds so far, last first. -/
inductive Frame where
  | list (items : List Tree)
  /-- A record, with the key whose value is being read. -/
  | record (entries : List (Option String × Tree)) (key : Option String)

/-- How deep containers may stand inside each other. -/
def depthLimit : Nat := 128

/-- A container inside `outer` others, if that is not too deep. -/
def container (outer : Nat) (t : Tree) : Tree :=
  if outer + 1 < depthLimit then t else .unreadable

/-- The entries of a record, if all their keys denote something. -/
def readableEntries (entries : List (Option String × Tree)) : Option (List (String × Tree)) :=
  entries.mapM fun (key, t) => key.map (·, t)

/-- The record of these entries, last first. -/
def recordOf (entries : List (Option String × Tree)) : Tree :=
  match readableEntries entries.reverse with
  | some entries => .record entries
  | none => .unreadable

def textOf : Option String → Tree
  | some s => .text s
  | none => .unreadable

/-! ## Section 3: The reader -/

/-- What the reader expects next. -/
inductive State where
  /-- A value. -/
  | value (stack : List Frame)
  /-- The first item of a list, or its end. -/
  | firstItem (stack : List Frame)
  /-- The first key of a record, or its end. -/
  | firstKey (stack : List Frame)
  /-- The next key of a record with these entries. -/
  | key (stack : List Frame) (entries : List (Option String × Tree))
  /-- The colon after a key. -/
  | colon (stack : List Frame) (entries : List (Option String × Tree)) (key : Option String)
  /-- What comes after a value. -/
  | after (stack : List Frame) (t : Tree)

namespace State

/-- The step at the beginning of a value. -/
def beginValue (stack : List Frame) : Token → Option State
  | .openList => some (.firstItem stack)
  | .openRecord => some (.firstKey stack)
  | .scalar t => some (.after stack t)
  | .text s => some (.after stack (textOf s))
  | _ => none

def step : State → Token → Option State
  | .value stack, t => beginValue stack t
  | .firstItem stack, .closeList => some (.after stack (container stack.length (.list [])))
  | .firstItem stack, t => beginValue (.list [] :: stack) t
  | .firstKey stack, .closeRecord => some (.after stack (container stack.length (.record [])))
  | .firstKey stack, .text k => some (.colon stack [] k)
  | .key stack entries, .text k => some (.colon stack entries k)
  | .colon stack entries k, .colon => some (.value (.record entries k :: stack))
  | .after (.list items :: stack) t, .comma => some (.value (.list (t :: items) :: stack))
  | .after (.list items :: stack) t, .closeList =>
    some (.after stack (container stack.length (.list (t :: items).reverse)))
  | .after (.record entries k :: stack) t, .comma => some (.key stack ((k, t) :: entries))
  | .after (.record entries k :: stack) t, .closeRecord =>
    some (.after stack (container stack.length (recordOf ((k, t) :: entries))))
  | _, _ => none

/-- The value that has been read, if the text may end here. -/
def result? : State → Option Tree
  | .after [] t => some t
  | _ => none

end State

/-- The data that a text says, if it is well formed. -/
def read (text : String) : Option Tree := do
  let state ← (← tokens text.toList).foldlM State.step (.value [])
  state.result?

end TypeExport.Json
