import TypeExport.Tree

/-! # Records in Data

    A record with known fields is written in one of two ways: with an entry for each field, in any
    order, or as a list of its fields in the order of their declaration.  Entries for other names
    are passed over, even repeated ones; a repeated field is refused.  In a list, fields may be
    missing at the end.

    A record of one of several kinds is tagged: its entry `kind`, or the first item of its list,
    names the kind. -/

namespace TypeExport.Tree

/-! ## Section 1: Fields -/

/-- The only value among entries for `name`, if there is one; nothing if there are several. -/
def soleValue? (name : String) (entries : List (String × Tree)) : Option (Option Tree) :=
  match entries.filter (·.1 == name) with
  | [] => some none
  | [e] => some (some e.2)
  | _ => none

/-- What a record says for each of the fields `names`.  A list with items left over is refused
    unless `lenient`. -/
def slots (names : List String) (lenient : Bool) : Tree → Option (List (Option Tree))
  | .record entries => names.mapM (soleValue? · entries)
  | .list items =>
    if lenient || items.length ≤ names.length then
      some ((List.range names.length).map (items[·]?))
    else none
  | _ => none

/-- The tag of a tagged record, and the record itself: the entries, or the items after the tag. -/
def tagged? : Tree → Option (Tree × Tree)
  | .record entries => (soleValue? "kind" entries).bind (·.map (·, .record entries))
  | .list (tag :: items) => some (tag, .list items)
  | _ => none

/-- Whether a record without fields is written correctly. -/
def isBare : Tree → Bool
  | .record _ => true
  | .list items => items.isEmpty
  | _ => false

/-- The kind that a tag names.  Where `indexed`, an unsigned integer names a kind by its
    position. -/
def kindOf (kinds : List String) (indexed : Bool) : Tree → Option String
  | .text s => if kinds.contains s then some s else none
  | .natural n => if indexed then kinds[n]? else none
  | _ => none

/-! ## Section 2: Values of fields -/

/-- The items of a list. -/
def asItems : Tree → Option (List Tree)
  | .list items => some items
  | _ => none

/-- The items of a list that is empty by default. -/
def itemsOrNone : Option Tree → Option (List Tree)
  | none => some []
  | some t => t.asItems

/-- A truth value that is false by default. -/
def flag : Option Tree → Option Bool
  | none => some false
  | some (.bool b) => some b
  | some _ => none

/-- A text that may be left out, or given as nothing. -/
def optionalText : Option Tree → Option (Option String)
  | none | some .null => some none
  | some (.text s) => some (some s)
  | some _ => none

/-- An integer from zero to below `bound`. -/
def natBelow (bound : Nat) : Tree → Option Nat
  | .natural n => if n < bound then some n else none
  | .integer i => if 0 ≤ i ∧ i < bound then some i.toNat else none
  | _ => none

/-- A width in bits, which takes one byte and is `default` when left out. -/
def width (default : Nat) : Option Tree → Option Nat
  | none => some default
  | some t => t.natBelow 256

/-! ## Section 3: Sizes

    What is found inside a record is smaller than the record. -/

theorem sizeOf_of_soleValue? {name : String} {entries : List (String × Tree)} {t : Tree}
    (h : soleValue? name entries = some (some t)) : sizeOf t < sizeOf (Tree.record entries) := by
  unfold soleValue? at h
  split at h
  · simp at h
  · rename_i e he
    simp only [Option.some.injEq] at h
    have hm : e ∈ entries := (List.mem_filter.1 (he ▸ List.mem_singleton_self e)).1
    have := List.sizeOf_lt_of_mem hm
    obtain ⟨k, v⟩ := e
    simp only [Prod.mk.sizeOf_spec] at this
    simp only [← h, record.sizeOf_spec]
    omega
  · simp at h

theorem sizeOf_of_tagged? {t tag body : Tree} (h : t.tagged? = some (tag, body)) :
    sizeOf body ≤ sizeOf t := by
  unfold tagged? at h
  split at h
  · simp only [Option.bind_eq_some_iff, Option.map_eq_some_iff, Prod.mk.injEq] at h
    obtain ⟨_, _, _, _, _, h⟩ := h
    simp [← h]
  · simp only [Option.some.injEq, Prod.mk.injEq] at h
    simp [← h.2]
  · simp at h

theorem sizeOf_of_mem_slots {names : List String} {lenient : Bool} {t x : Tree}
    {ss : List (Option Tree)} (h : t.slots names lenient = some ss) (hx : some x ∈ ss) :
    sizeOf x < sizeOf t := by
  unfold slots at h
  split at h
  · rename_i entries
    -- In a record each slot is looked up by its own name.
    have : ∀ (ns : List String) (ss : List (Option Tree)),
        ns.mapM (soleValue? · entries) = some ss → some x ∈ ss →
          sizeOf x < sizeOf (Tree.record entries) := by
      intro ns
      induction ns with
      | nil => intro ss h hx; simp_all
      | cons n ns ih =>
        intro ss h hx
        simp only [List.mapM_cons, bind, Option.bind_eq_some_iff] at h
        obtain ⟨s, hs, rest, hrest, h⟩ := h
        simp only [pure, Option.some.injEq] at h
        rw [← h] at hx
        rcases List.mem_cons.1 hx with rfl | hx
        · exact sizeOf_of_soleValue? hs
        · exact ih rest hrest hx
    exact this names ss h hx
  -- In a list the slots are the items by their positions.
  · split at h
    · simp only [Option.some.injEq] at h
      rw [← h] at hx
      obtain ⟨i, _, hi⟩ := List.mem_map.1 hx
      have := List.sizeOf_lt_of_mem (List.mem_of_getElem? hi)
      simp only [list.sizeOf_spec]
      omega
    · simp at h
  · simp at h

theorem sizeOf_lt_of_slot {names : List String} {t tag body x : Tree} {ss : List (Option Tree)}
    (ht : t.tagged? = some (tag, body)) (h : body.slots names false = some ss)
    (hx : some x ∈ ss) : sizeOf x < sizeOf t :=
  Nat.lt_of_lt_of_le (sizeOf_of_mem_slots h hx) (sizeOf_of_tagged? ht)

theorem sizeOf_lt_of_listSlot {names : List String} {t tag body : Tree} {items : List Tree}
    {ss : List (Option Tree)} (ht : t.tagged? = some (tag, body))
    (h : body.slots names false = some ss) (hx : some (.list items) ∈ ss) :
    sizeOf items < sizeOf t := by
  have := sizeOf_lt_of_slot ht h hx
  simp only [list.sizeOf_spec] at this
  omega

theorem sizeOf_lt_of_optionalSlot {names : List String} {lenient : Bool} {t : Tree}
    {s : Option Tree} {items : List Tree} {ss : List (Option Tree)}
    (h : t.slots names lenient = some ss) (hs : s ∈ ss) (hi : itemsOrNone s = some items) :
    sizeOf items < sizeOf t := by
  match s, items, hi with
  -- Nothing given: the default is empty, and even an empty container is larger.
  | none, [], _ =>
    match t, h with
    | .record entries, _ =>
      cases entries <;>
        simp only [record.sizeOf_spec, List.nil.sizeOf_spec, List.cons.sizeOf_spec] <;> omega
    | .list items, _ =>
      cases items <;>
        simp only [list.sizeOf_spec, List.nil.sizeOf_spec, List.cons.sizeOf_spec] <;> omega
  | some (.list items), _, rfl =>
    have := sizeOf_of_mem_slots h hs
    simp only [list.sizeOf_spec] at this
    omega

theorem sizeOf_lt_of_tagged_optionalSlot {names : List String} {t tag body : Tree}
    {s : Option Tree} {items : List Tree} {ss : List (Option Tree)}
    (ht : t.tagged? = some (tag, body)) (h : body.slots names false = some ss) (hs : s ∈ ss)
    (hi : itemsOrNone s = some items) : sizeOf items < sizeOf t :=
  Nat.lt_of_lt_of_le (sizeOf_lt_of_optionalSlot h hs hi) (sizeOf_of_tagged? ht)

theorem sizeOf_lt_of_headSlot {names : List String} {t x : Tree} {rest : List Tree}
    {ss : List (Option Tree)} (h : t.slots names false = some ss) (hx : some x ∈ ss) :
    sizeOf x < sizeOf (t :: rest) := by
  have := sizeOf_of_mem_slots h hx
  simp only [List.cons.sizeOf_spec]
  omega

theorem sizeOf_lt_of_headOptionalSlot {names : List String} {t : Tree} {s : Option Tree}
    {items rest : List Tree} {ss : List (Option Tree)} (h : t.slots names false = some ss)
    (hs : s ∈ ss) (hi : itemsOrNone s = some items) : sizeOf items < sizeOf (t :: rest) := by
  have := sizeOf_lt_of_optionalSlot h hs hi
  simp only [List.cons.sizeOf_spec]
  omega

end TypeExport.Tree
