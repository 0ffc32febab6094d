import TypeExport.Json.Value
import TypeExport.Proofs.Json.RoundTrip

/-! # Data that Goes Through a Value

    Data that is turned into a value and back is not always what it was: the entries of a record
    come out in ascending order of their keys, and of a repeated key only the last one is left.
    Entries whose keys are not repeated are all there, whatever stands between them. -/

namespace TypeExport.Json.Value

open TypeExport.Tree

/-! ## Section 1: Ascending entries -/

section entries

variable {key : String} {v : Value} {es : List (String × Value)}

/-- A new key adds an entry to the others. -/
theorem insertEntry_perm (h : key ∉ es.map (·.1)) :
    (insertEntry key v es).Perm ((key, v) :: es) := by
  induction es with
  | nil => exact .refl _
  | cons e rest ih =>
    rw [List.map_cons, List.mem_cons, not_or] at h
    rw [insertEntry]
    split
    · exact .refl _
    · rw [if_neg h.1]
      exact ((ih h.2).cons e).trans (.swap _ _ _)

/-- The entries for some keys stay as they are when another key gets an entry. -/
theorem filter_insertEntry {p : String → Bool} (h : p key = false) :
    (insertEntry key v es).filter (p ·.1) = es.filter (p ·.1) := by
  induction es with
  | nil => simp [insertEntry, h]
  | cons e rest ih =>
    rw [insertEntry]
    split
    · simp [List.filter_cons, h]
    · split
      · rename_i heq
        simp [h, ← heq]
      · simp [List.filter_cons, ih]

/-- Entries for some keys that are not repeated are all there after they have been entered. -/
theorem filter_foldl_insertEntry (p : String → Bool) {vs : List (String × Value)}
    (h : ((es.filter (p ·.1) ++ vs.filter (p ·.1)).map (·.1)).Nodup) :
    ((vs.foldl (fun es e => insertEntry e.1 e.2 es) es).filter (p ·.1)).Perm
      (es.filter (p ·.1) ++ vs.filter (p ·.1)) := by
  induction vs generalizing es with
  | nil => simp
  | cons e rest ih =>
    obtain ⟨key, v⟩ := e
    rw [List.foldl_cons]
    by_cases hp : p key = true
    · rw [List.filter_cons_of_pos (by exact hp)] at h ⊢
      -- The entry is among those that are kept, so its key is a new one.
      have hmiddle : (es.filter (p ·.1) ++ (key, v) :: rest.filter (p ·.1)).Perm
          ((key, v) :: (es.filter (p ·.1) ++ rest.filter (p ·.1))) := List.perm_middle
      have hnew : key ∉ es.map (·.1) := by
        intro hmem
        obtain ⟨e, he, hkey⟩ := List.mem_map.mp hmem
        have hfiltered : e ∈ es.filter (p ·.1) := List.mem_filter.mpr ⟨he, by rwa [hkey]⟩
        have hnodup := (hmiddle.map (·.1)).nodup_iff.mp h
        rw [List.map_cons, List.nodup_cons] at hnodup
        refine hnodup.1 (List.mem_map.mpr ⟨e, ?_, hkey⟩)
        exact List.mem_append_left _ hfiltered
      have hinsert : ((insertEntry key v es).filter (p ·.1)).Perm
          ((key, v) :: es.filter (p ·.1)) := by
        have hperm := (insertEntry_perm (v := v) hnew).filter (p ·.1)
        rwa [List.filter_cons_of_pos (by exact hp)] at hperm
      have hall : ((insertEntry key v es).filter (p ·.1) ++ rest.filter (p ·.1)).Perm
          (es.filter (p ·.1) ++ (key, v) :: rest.filter (p ·.1)) :=
        (hinsert.append_right _).trans hmiddle.symm
      exact (ih ((hall.map (·.1)).nodup_iff.mpr h)).trans hall
    · have hp : p key = false := by simpa using hp
      rw [List.filter_cons_of_neg (by simp [hp])] at h ⊢
      -- An entry that is filtered out leaves no trace in what is kept.
      have hsame : (insertEntry key v es).filter (p ·.1) = es.filter (p ·.1) :=
        filter_insertEntry hp
      rw [← hsame] at h ⊢
      exact ih h

end entries

/-! ## Section 2: The value of readable data -/

/-- The value that data means; nothing stands in for what denotes nothing. -/
def meaning (t : Tree) : Value := (ofTree t).getD .null

mutual

/-- Data has a value if every piece of it denotes something. -/
theorem ofTree_eq_meaning : ∀ {t : Tree}, t.isReadable = true → ofTree t = some (meaning t)
  | .null, _ | .bool _, _ | .natural _, _ | .integer _, _ | .float _, _ | .text _, _ => rfl
  | .list items, h => by
    rw [isReadable] at h
    rw [meaning, ofTree, ofItems_eq_meaning h]
    rfl
  | .record entries, h => by
    rw [isReadable] at h
    rw [meaning, ofTree, ofRecord_eq_meaning h]
    rfl

theorem ofItems_eq_meaning : ∀ {ts : List Tree}, areReadable ts = true →
    ofItems ts = some (ts.map meaning)
  | [], _ => rfl
  | t :: rest, h => by
    rw [areReadable, Bool.and_eq_true] at h
    rw [ofItems, ofTree_eq_meaning h.1, ofItems_eq_meaning h.2]
    rfl

theorem ofRecord_eq_meaning : ∀ {es : List (String × Tree)}, entriesReadable es = true →
    ofRecord es = some (es.map fun e => (e.1, meaning e.2))
  | [], _ => rfl
  | (key, t) :: rest, h => by
    rw [entriesReadable, Bool.and_eq_true] at h
    rw [ofRecord, ofTree_eq_meaning h.1, ofRecord_eq_meaning h.2]
    rfl

end

theorem meaning_list {items : List Tree} (h : areReadable items = true) :
    meaning (.list items) = .array (items.map meaning) := by
  rw [meaning, ofTree, ofItems_eq_meaning h]
  rfl

theorem meaning_record {entries : List (String × Tree)} (h : entriesReadable entries = true) :
    meaning (.record entries) = ofEntries (entries.map fun e => (e.1, meaning e.2)) := by
  rw [meaning, ofTree, ofRecord_eq_meaning h]
  rfl

/-! ## Section 3: Back to data -/

theorem toItems_eq_map (vs : List Value) : toItems vs = vs.map toTree := by
  induction vs with
  | nil => rfl
  | cons v rest ih => rw [toItems, ih, List.map_cons]

theorem toRecord_eq_map (es : List (String × Value)) :
    toRecord es = es.map fun e => (e.1, e.2.toTree) := by
  induction es with
  | nil => rfl
  | cons e rest ih => rw [toRecord, ih, List.map_cons]

mutual

/-- Every piece of a value denotes something. -/
theorem isReadable_toTree : ∀ v : Value, v.toTree.isReadable = true
  | .null | .bool _ | .float _ | .string _ => rfl
  | .integer i => by
    rw [toTree]
    split <;> rfl
  | .array items => by
    rw [toTree, isReadable]
    exact areReadable_toItems items
  | .object entries => by
    rw [toTree, isReadable]
    exact entriesReadable_toRecord entries

theorem areReadable_toItems : ∀ vs : List Value, areReadable (toItems vs) = true
  | [] => rfl
  | v :: rest => by
    rw [toItems, areReadable, isReadable_toTree v, areReadable_toItems rest]
    rfl

theorem entriesReadable_toRecord :
    ∀ es : List (String × Value), entriesReadable (toRecord es) = true
  | [] => rfl
  | (key, v) :: rest => by
    rw [toRecord, entriesReadable, isReadable_toTree v, entriesReadable_toRecord rest]
    rfl

end

/-- The data that comes out where this data went through its value. -/
def throughValue (t : Tree) : Tree := (meaning t).toTree

theorem throughValue_natural (n : Nat) : throughValue (.natural n) = .natural n := by
  show toTree (.integer n) = _
  rw [toTree, if_pos (Int.natCast_nonneg n), Int.toNat_natCast]

theorem throughValue_list {items : List Tree} (h : areReadable items = true) :
    throughValue (.list items) = .list (items.map throughValue) := by
  rw [throughValue, meaning_list h, toTree, toItems_eq_map, List.map_map]
  rfl

/-- A record that goes through its value keeps the entries for keys that are not repeated. -/
theorem throughValue_record {entries : List (String × Tree)} (h : entriesReadable entries = true)
    {p : String → Bool} (hdistinct : ((entries.filter (p ·.1)).map (·.1)).Nodup) :
    ∃ entries', throughValue (.record entries) = .record entries' ∧
      (entries'.filter (p ·.1)).Perm
        ((entries.filter (p ·.1)).map fun e => (e.1, throughValue e.2)) := by
  rw [throughValue, meaning_record h, ofEntries, toTree, toRecord_eq_map]
  refine ⟨_, rfl, ?_⟩
  have hkeys : (entries.map fun e => (e.1, meaning e.2)).filter (p ·.1) =
      (entries.filter (p ·.1)).map fun e => (e.1, meaning e.2) := List.filter_map
  -- No entry has been put in before, so the keys of these alone have to be distinct.
  have hnodup : ((([] : List (String × Value)).filter (p ·.1) ++
      (entries.map fun e => (e.1, meaning e.2)).filter (p ·.1)).map (·.1)).Nodup := by
    rw [hkeys, List.filter_nil, List.nil_append, List.map_map]
    exact hdistinct
  have hout := (filter_foldl_insertEntry p hnodup).map fun e => (e.1, e.2.toTree)
  rw [hkeys, List.filter_nil, List.nil_append, List.map_map] at hout
  rw [List.filter_map]
  exact hout

end TypeExport.Json.Value
