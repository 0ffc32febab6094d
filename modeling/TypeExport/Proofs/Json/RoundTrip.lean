import TypeExport.Proofs.Json.Lexemes
import TypeExport.Proofs.Text.Lines

/-! # Written Data is Read Back

    The reader is a machine that keeps the open containers on a stack.  Followed along a written
    text, it comes from the state before a value to the state after it, with exactly the data that
    was written: `Leads` says this of a piece of text, whatever stands after it.

    Two things limit what can be written and read back.  The format has no exact text for floating-
    point numbers and for integers that do not fit into a word, and the reader gives up on
    containers that stand too deep. -/

namespace TypeExport

/-! ## Section 1: Data that has an exact text -/

namespace Tree

mutual

/-- How many containers stand inside each other. -/
def nesting : Tree → Nat
  | .list items => itemsNesting items + 1
  | .record entries => entriesNesting entries + 1
  | _ => 0

/-- The most containers that stand inside each other in one of the items. -/
def itemsNesting : List Tree → Nat
  | [] => 0
  | t :: rest => max t.nesting (itemsNesting rest)

/-- The most containers that stand inside each other in the value of one of the entries. -/
def entriesNesting : List (String × Tree) → Nat
  | [] => 0
  | (_, t) :: rest => max t.nesting (entriesNesting rest)

end

theorem nesting_le_items {t : Tree} {items : List Tree} (h : t ∈ items) :
    t.nesting ≤ itemsNesting items := by
  induction items with
  | nil => exact absurd h List.not_mem_nil
  | cons u rest ih =>
    rw [itemsNesting]
    rcases List.mem_cons.mp h with rfl | h
    · exact Nat.le_max_left _ _
    · exact Nat.le_trans (ih h) (Nat.le_max_right _ _)

theorem nesting_le_entries {e : String × Tree} {entries : List (String × Tree)}
    (h : e ∈ entries) : e.2.nesting ≤ entriesNesting entries := by
  induction entries with
  | nil => exact absurd h List.not_mem_nil
  | cons f rest ih =>
    obtain ⟨key, t⟩ := f
    rw [entriesNesting]
    rcases List.mem_cons.mp h with rfl | h
    · exact Nat.le_max_left _ _
    · exact Nat.le_trans (ih h) (Nat.le_max_right _ _)

/-- The data has a text that says exactly this: its numbers are integers, natural ones below 2^64
    and negative ones down to -2^63, and every piece of it denotes something. -/
inductive Exact : Tree → Prop
  | null : Exact .null
  | bool {b} : Exact (.bool b)
  | natural {n} (h : n < wordValues) : Exact (.natural n)
  | integer {i} (h : i < 0) (hmin : i.natAbs ≤ negativeValues) : Exact (.integer i)
  | text {s} : Exact (.text s)
  | list {items} (h : ∀ t ∈ items, Exact t) : Exact (.list items)
  | record {entries} (h : ∀ e ∈ entries, Exact e.2) : Exact (.record entries)

theorem areReadable_iff {items : List Tree} :
    areReadable items = true ↔ ∀ t ∈ items, t.isReadable = true := by
  induction items with
  | nil => simp [areReadable]
  | cons t rest ih => simp [areReadable, ih]

theorem entriesReadable_iff {entries : List (String × Tree)} :
    entriesReadable entries = true ↔ ∀ e ∈ entries, e.2.isReadable = true := by
  induction entries with
  | nil => simp [entriesReadable]
  | cons e rest ih =>
    obtain ⟨key, t⟩ := e
    simp [entriesReadable, ih]

theorem Exact.isReadable {t : Tree} (h : t.Exact) : t.isReadable = true := by
  induction h with
  | list _ ih =>
    rw [Tree.isReadable]
    exact areReadable_iff.mpr ih
  | record _ ih =>
    rw [Tree.isReadable]
    exact entriesReadable_iff.mpr ih
  | _ => rfl

end Tree

namespace Json

/-! ## Section 2: The reader along a text -/

/-- What the reader makes of the characters that are left when it is in state `s`. -/
def readFrom (s : State) (cs : List Char) : Option Tree := do
  let s' ← (← tokens cs).foldlM State.step s
  s'.result?

/-- The piece of text `cs` leads the reader from `s` to `s'`, whatever it reads after that. -/
def Leads (s : State) (cs : List Char) (s' : State) : Prop :=
  ∀ rest, EndsNumber rest → ∀ t, readFrom s' rest = some t → readFrom s (cs ++ rest) = some t

theorem tokens_separator {c : Char} (h : isSeparator c = true) (rest : List Char) :
    tokens (c :: rest) = tokens rest := by
  rw [tokens, if_pos h]

theorem isSeparator_iff {c : Char} :
    isSeparator c = true ↔ c = ' ' ∨ c = '\n' ∨ c = '\t' ∨ c = '\r' := by
  simp [isSeparator, or_assoc]

/-- No token begins with a separator. -/
theorem not_isSeparator_of_token {c : Char} {rest after : List Char} {t : Token}
    (h : token (c :: rest) = some (t, after)) : isSeparator c = false := by
  by_contra hc
  have hnone : token (c :: rest) = none := by
    rcases isSeparator_iff.mp (by simpa using hc) with rfl | rfl | rfl | rfl <;> rfl
  rw [hnone] at h
  exact absurd h (by simp)

theorem tokens_of_token {cs rest : List Char} {t : Token} (h : token cs = some (t, rest)) :
    tokens cs = (tokens rest).map (t :: ·) := by
  cases cs with
  | nil => exact absurd h (by simp [token, numeral, unsignedNumeral, wholePart, digits1, digits])
  | cons c cs =>
    have hc := not_isSeparator_of_token h
    rw [tokens, if_neg (by simp [hc])]
    split
    · rename_i hnone
      rw [h] at hnone
      exact absurd hnone (by simp)
    · rename_i t' rest' hsome
      rw [h] at hsome
      obtain ⟨rfl, rfl⟩ := Prod.mk.inj (Option.some.inj hsome)
      rfl

theorem readFrom_nil {s : State} : readFrom s [] = s.result? := by
  rw [readFrom, tokens]
  rfl

/-- White space does not change the state. -/
theorem readFrom_separators {seps : List Char} (h : ∀ c ∈ seps, isSeparator c = true) (s : State)
    (rest : List Char) : readFrom s (seps ++ rest) = readFrom s rest := by
  induction seps with
  | nil => rfl
  | cons c seps ih =>
    obtain ⟨hc, hseps⟩ := List.forall_mem_cons.mp h
    rw [← ih hseps, List.cons_append, readFrom, tokens_separator hc]
    rfl

/-- A token leads the reader one step on. -/
theorem readFrom_token {s s' : State} {cs rest : List Char} {t : Token}
    (h : token cs = some (t, rest)) (hstep : s.step t = some s') :
    readFrom s cs = readFrom s' rest := by
  rw [readFrom, readFrom, tokens_of_token h]
  cases tokens rest with
  | none => rfl
  | some ts =>
    simp only [Option.map_some, bind, Option.bind, List.foldlM_cons, hstep]

/-- A list that is still empty is ready for a value, so a value may be its first item. -/
theorem readFrom_firstItem {stack : List Frame} {cs : List Char} {t : Tree}
    (h : readFrom (.value (.list [] :: stack)) cs = some t) :
    readFrom (.firstItem stack) cs = some t := by
  rw [readFrom] at h ⊢
  cases hts : tokens cs with
  | none =>
    rw [hts] at h
    exact absurd h (by simp)
  | some ts =>
    rw [hts] at h
    cases ts with
    | nil => exact absurd h (by simp [State.result?])
    | cons tok ts =>
      -- The two states differ only on the bracket that closes the list, which begins no value.
      cases tok with
      | closeList => exact absurd h (by simp [State.step, State.beginValue])
      | _ => exact h

/-! ## Section 3: Pieces of text -/

variable {s s' s'' : State}

theorem Leads.trans {a b : List Char} (ha : Leads s a s') (hb : Leads s' b s'')
    (hends : ∀ rest, EndsNumber rest → EndsNumber (b ++ rest)) : Leads s (a ++ b) s'' := by
  intro rest hrest t ht
  rw [List.append_assoc]
  exact ha (b ++ rest) (hends rest hrest) t (hb rest hrest t ht)

/-- A piece that is one token. -/
theorem Leads.token {cs : List Char} {t : Token}
    (h : ∀ rest, EndsNumber rest → Json.token (cs ++ rest) = some (t, rest))
    (hstep : s.step t = some s') : Leads s cs s' := by
  intro rest hrest r hr
  rw [readFrom_token (h rest hrest) hstep]
  exact hr

theorem isSeparator_of_mem_lineBreak {layout : Layout} {c : Char}
    (h : c ∈ layout.lineBreak.toList) : isSeparator c = true := by
  cases layout with
  | compact => exact absurd h (by simp [Layout.lineBreak])
  | lines level =>
    have hmem : c = '\n' ∨ c ∈ List.replicate (2 * level) ' ' := by
      simpa [Layout.lineBreak] using h
    rcases hmem with rfl | hmem
    · rfl
    · rw [List.eq_of_mem_replicate hmem]
      rfl

/-- No number runs into white space, or into what no number runs into. -/
theorem endsNumber_separators {seps rest : List Char} (h : ∀ c ∈ seps, isSeparator c = true)
    (hrest : EndsNumber rest) : EndsNumber (seps ++ rest) := by
  cases seps with
  | nil => exact hrest
  | cons c seps =>
    rcases isSeparator_iff.mp (h c List.mem_cons_self) with rfl | rfl | rfl | rfl <;>
      simp [EndsNumber, isDigit]

/-- White space and then a piece. -/
theorem Leads.afterSeparators {seps cs : List Char} (h : ∀ c ∈ seps, isSeparator c = true)
    (hcs : Leads s cs s') : Leads s (seps ++ cs) s' := by
  intro rest hrest t ht
  rw [List.append_assoc, readFrom_separators h]
  exact hcs rest hrest t ht

theorem token_comma (rest : List Char) : Json.token (',' :: rest) = some (.comma, rest) := rfl

theorem token_colon (rest : List Char) : Json.token (':' :: rest) = some (.colon, rest) := rfl

theorem token_openList (rest : List Char) : Json.token ('[' :: rest) = some (.openList, rest) := rfl

theorem token_closeList (rest : List Char) :
    Json.token (']' :: rest) = some (.closeList, rest) := rfl

theorem token_openRecord (rest : List Char) :
    Json.token ('\x7b' :: rest) = some (.openRecord, rest) := rfl

theorem token_closeRecord (rest : List Char) :
    Json.token ('\x7d' :: rest) = some (.closeRecord, rest) := rfl

/-- A mark that is a token of its own, and then a piece. -/
theorem Leads.afterMark {c : Char} {cs : List Char} {t : Token}
    (h : ∀ rest, Json.token (c :: rest) = some (t, rest)) (hstep : s.step t = some s')
    (hcs : Leads s' cs s'') : Leads s (c :: cs) s'' := by
  intro rest hrest r hr
  rw [List.cons_append, readFrom_token (h (cs ++ rest)) hstep]
  exact hcs rest hrest r hr

/-- A piece that is a mark of its own. -/
theorem Leads.mark {c : Char} {t : Token} (h : ∀ rest, Json.token (c :: rest) = some (t, rest))
    (hstep : s.step t = some s') : Leads s [c] s' :=
  .token (fun rest _ => h rest) hstep

/-- A key, and then a piece. -/
theorem Leads.afterText {key : String} {cs : List Char}
    (hstep : s.step (.text (some key)) = some s') (hcs : Leads s' cs s'') :
    Leads s ((writeText key).toList ++ cs) s'' := by
  intro rest hrest r hr
  rw [List.append_assoc, readFrom_token (token_writeText key (cs ++ rest)) hstep]
  exact hcs rest hrest r hr

/-! ## Section 4: Containers -/

/-- What stands after the first piece in a container: the other pieces, each after a comma, and the
    closing bracket. -/
def restOf (layout : Layout) (pieces : List (List Char)) (close : Char) : List Char :=
  pieces.flatMap (fun piece => ',' :: (layout.deeper.lineBreak.toList ++ piece)) ++
    (layout.lineBreak.toList ++ [close])

theorem restOf_cons (layout : Layout) (piece : List Char) (pieces : List (List Char))
    (close : Char) :
    restOf layout (piece :: pieces) close =
      ',' :: (layout.deeper.lineBreak.toList ++ (piece ++ restOf layout pieces close)) := by
  simp only [restOf, List.flatMap_cons, List.cons_append, List.append_assoc]

/-- No number runs into what stands after a piece in a container. -/
theorem endsNumber_restOf (layout : Layout) (pieces : List (List Char)) {close : Char}
    (hclose : close = ']' ∨ close = '\x7d') {rest : List Char} :
    EndsNumber (restOf layout pieces close ++ rest) := by
  cases pieces with
  | nil =>
    rw [restOf, List.flatMap_nil, List.nil_append, List.append_assoc]
    refine endsNumber_separators (fun _ h => isSeparator_of_mem_lineBreak h) ?_
    rcases hclose with rfl | rfl <;> simp [EndsNumber, isDigit]
  | cons piece pieces =>
    rw [restOf_cons]
    simp [EndsNumber, isDigit]

/-- The text of a container that is not empty. -/
theorem toList_enclose_cons (layout : Layout) (first : String) (rest : List String)
    {left right : String} {opening close : Char} (hleft : left.toList = [opening])
    (hright : right.toList = [close]) :
    (layout.enclose left right (first :: rest)).toList =
      opening :: (layout.deeper.lineBreak.toList ++
        (first.toList ++ restOf layout (rest.map String.toList) close)) := by
  have hcomma : ",".toList = [','] := rfl
  simp only [Layout.enclose, List.isEmpty_cons, Bool.false_eq_true, if_false, List.map_cons,
    String.toList_append, Text.toList_intercalate_cons, List.flatMap_map, hcomma, hleft, hright,
    restOf, List.append_assoc, List.cons_append, List.nil_append]

theorem writeItems_eq_map (layout : Layout) (items : List Tree) :
    writeItems layout items = items.map (write layout) := by
  induction items with
  | nil => rfl
  | cons t rest ih => rw [writeItems, ih, List.map_cons]

/-- The text of one entry of a record. -/
def writeEntry (layout : Layout) (e : String × Tree) : String :=
  writeText e.1 ++ layout.keyMark ++ write layout e.2

theorem writeEntries_eq_map (layout : Layout) (entries : List (String × Tree)) :
    writeEntries layout entries = entries.map (writeEntry layout) := by
  induction entries with
  | nil => rfl
  | cons e rest ih =>
    obtain ⟨key, t⟩ := e
    rw [writeEntries, ih, List.map_cons, writeEntry]

/-- With `depth` open containers around it, the text of `t` leads from before a value to after
    `t`. -/
def ReadsBack (layout : Layout) (depth : Nat) (t : Tree) : Prop :=
  ∀ stack : List Frame, stack.length = depth →
    Leads (.value stack) (write layout t).toList (.after stack t)

variable {layout : Layout} {stack : List Frame}

/-- The items of a list after the first one, up to the end of the list. -/
theorem items_lead {items : List Tree}
    (h : ∀ t ∈ items, ReadsBack layout.deeper (stack.length + 1) t) (acc : List Tree) (x : Tree) :
    Leads (.after (.list acc :: stack) x)
      (restOf layout (items.map fun t => (write layout.deeper t).toList) ']')
      (.after stack (container stack.length (.list ((x :: acc).reverse ++ items)))) := by
  induction items generalizing acc x with
  | nil =>
    rw [List.append_nil, List.map_nil, restOf, List.flatMap_nil, List.nil_append]
    refine .afterSeparators (fun _ h => isSeparator_of_mem_lineBreak h) ?_
    exact .mark token_closeList rfl
  -- A comma, the white space of a line, and then the next item.
  | cons t rest ih =>
    obtain ⟨ht, hrest⟩ := List.forall_mem_cons.mp h
    have hafter := ih hrest (x :: acc) t
    rw [List.reverse_cons, List.append_assoc, List.singleton_append] at hafter
    rw [List.map_cons, restOf_cons]
    refine .afterMark token_comma rfl ?_
    refine .afterSeparators (fun _ h => isSeparator_of_mem_lineBreak h) ?_
    exact (ht _ rfl).trans hafter fun _ _ => endsNumber_restOf layout _ (.inl rfl)

/-- A key of a record and its value, when the reader expects a key. -/
theorem entry_leads {e : String × Tree}
    (h : ReadsBack layout (stack.length + 1) e.2) {acc : List (Option String × Tree)}
    (hkey : s.step (.text (some e.1)) = some (.colon stack acc (some e.1))) :
    Leads s (writeEntry layout e).toList (.after (.record acc (some e.1) :: stack) e.2) := by
  rw [writeEntry, String.toList_append, String.toList_append, List.append_assoc]
  refine .afterText hkey ?_
  have hvalue := h (.record acc (some e.1) :: stack) rfl
  cases layout with
  | compact =>
    have hmark : Layout.compact.keyMark.toList = [':'] := rfl
    rw [hmark]
    exact .afterMark token_colon rfl hvalue
  | lines level =>
    have hmark : (Layout.lines level).keyMark.toList = [':', ' '] := by simp [Layout.keyMark]
    rw [hmark]
    have hblank : ∀ c ∈ [' '], isSeparator c = true := List.forall_mem_singleton.mpr (by decide)
    exact .afterMark token_colon rfl (.afterSeparators hblank hvalue)

/-- The entries of a record after the first one, up to the end of the record. -/
theorem entries_lead {entries : List (String × Tree)}
    (h : ∀ e ∈ entries, ReadsBack layout.deeper (stack.length + 1) e.2)
    (acc : List (Option String × Tree)) (e : String × Tree) :
    Leads (.after (.record acc (some e.1) :: stack) e.2)
      (restOf layout (entries.map fun e => (writeEntry layout.deeper e).toList) '\x7d')
      (.after stack (container stack.length (recordOf
        ((entries.map fun e => (some e.1, e.2)).reverse ++ (some e.1, e.2) :: acc)))) := by
  induction entries generalizing acc e with
  | nil =>
    rw [List.map_nil, restOf, List.flatMap_nil, List.nil_append]
    refine .afterSeparators (fun _ h => isSeparator_of_mem_lineBreak h) ?_
    exact .mark token_closeRecord rfl
  -- The value of one entry is followed by a comma and the key of the next one.
  | cons e' rest ih =>
    obtain ⟨he', hrest⟩ := List.forall_mem_cons.mp h
    have hafter := ih hrest ((some e.1, e.2) :: acc) e'
    rw [List.map_cons, restOf_cons, List.map_cons, List.reverse_cons, List.append_assoc,
      List.singleton_append]
    refine .afterMark token_comma rfl ?_
    refine .afterSeparators (fun _ h => isSeparator_of_mem_lineBreak h) ?_
    exact (entry_leads he' rfl).trans hafter fun _ _ => endsNumber_restOf layout _ (.inr rfl)

/-- Entries whose keys all denote something are a record. -/
theorem recordOf_some (entries : List (String × Tree)) :
    recordOf (entries.map fun e => (some e.1, e.2)).reverse = .record entries := by
  have hkeys : readableEntries (entries.map fun e => (some e.1, e.2)) = some entries := by
    induction entries with
    | nil => rfl
    | cons e rest ih =>
      rw [readableEntries] at ih ⊢
      rw [List.map_cons, List.mapM_cons, ih]
      rfl
  rw [recordOf, List.reverse_reverse, hkeys]

/-! ## Section 5: All data -/

/-- A container that is not too deep denotes what it holds. -/
theorem container_eq {outer : Nat} (h : outer + 1 < depthLimit) (t : Tree) :
    container outer t = t := by
  rw [container, if_pos h]

theorem list_readsBack {items : List Tree} (h : stack.length + 1 < depthLimit)
    (hitems : ∀ t ∈ items, ReadsBack layout.deeper (stack.length + 1) t) :
    Leads (.value stack) (write layout (.list items)).toList (.after stack (.list items)) := by
  rw [write, writeItems_eq_map]
  cases items with
  | nil =>
    have htext : (layout.enclose "[" "]" []).toList = ['[', ']'] := by simp [Layout.enclose]
    rw [List.map_nil, htext]
    refine .afterMark token_openList rfl (.mark token_closeList ?_)
    rw [State.step, container_eq h]
  | cons t rest =>
    obtain ⟨ht, hrest⟩ := List.forall_mem_cons.mp hitems
    -- The first item comes right behind the bracket, and the others each behind a comma.
    have hafter := items_lead hrest [] t
    rw [container_eq h] at hafter
    rw [List.map_cons, toList_enclose_cons layout _ _ rfl rfl, List.map_map]
    refine .afterMark token_openList rfl ?_
    refine .afterSeparators (fun _ h => isSeparator_of_mem_lineBreak h) ?_
    intro after hends r hr
    refine readFrom_firstItem ?_
    have hitem := (ht (.list [] :: stack) rfl).trans hafter
      fun _ _ => endsNumber_restOf layout _ (.inl rfl)
    exact hitem after hends r hr

theorem record_readsBack {entries : List (String × Tree)} (h : stack.length + 1 < depthLimit)
    (hentries : ∀ e ∈ entries, ReadsBack layout.deeper (stack.length + 1) e.2) :
    Leads (.value stack) (write layout (.record entries)).toList
      (.after stack (.record entries)) := by
  rw [write, writeEntries_eq_map]
  cases entries with
  | nil =>
    have htext : (layout.enclose "\x7b" "\x7d" []).toList = ['\x7b', '\x7d'] := by
      simp [Layout.enclose]
    rw [List.map_nil, htext]
    refine .afterMark token_openRecord rfl (.mark token_closeRecord ?_)
    rw [State.step, container_eq h]
  | cons e rest =>
    obtain ⟨he, hrest⟩ := List.forall_mem_cons.mp hentries
    -- The first entry follows the bracket, and each further one a comma.
    have hafter := entries_lead hrest [] e
    have hrecord := recordOf_some (e :: rest)
    rw [List.map_cons, List.reverse_cons] at hrecord
    rw [hrecord, container_eq h] at hafter
    rw [List.map_cons, toList_enclose_cons layout _ _ rfl rfl, List.map_map]
    refine .afterMark token_openRecord rfl ?_
    refine .afterSeparators (fun _ h => isSeparator_of_mem_lineBreak h) ?_
    exact (entry_leads he rfl).trans hafter fun _ _ => endsNumber_restOf layout _ (.inr rfl)

/-- Data that has an exact text is read back from it, if it is not too deep. -/
theorem exact_readsBack {t : Tree} (h : t.Exact) (layout : Layout) {depth : Nat}
    (hdepth : depth + t.nesting < depthLimit) : ReadsBack layout depth t := by
  induction h generalizing layout depth with
  | null => exact fun _ _ => .token (fun rest _ => token_null rest) rfl
  | @bool b => exact fun _ _ => .token (fun rest _ => token_bool b rest) rfl
  | natural hn => exact fun _ _ => .token (fun rest hrest => token_natural hn hrest) rfl
  | integer hi hmin => exact fun _ _ => .token (fun rest hrest => token_integer hi hmin hrest) rfl
  | @text s => exact fun _ _ => .token (fun rest _ => token_writeText s rest) rfl
  -- One level is used up by the list itself, and the rest is left for its items.
  | @list items _ ih =>
    rintro stack rfl
    rw [Tree.nesting] at hdepth
    refine list_readsBack (by omega) fun t ht => ih t ht layout.deeper ?_
    have hle := Tree.nesting_le_items ht
    omega
  | @record entries _ ih =>
    rintro stack rfl
    rw [Tree.nesting] at hdepth
    refine record_readsBack (by omega) fun e he => ih e he layout.deeper ?_
    have hle := Tree.nesting_le_entries he
    omega

/-- Data that has an exact text and is not too deep is what its text says, also with white space
    after it. -/
theorem read_write {t : Tree} (h : t.Exact) (hdepth : t.nesting < depthLimit) (layout : Layout)
    {after : String} (hafter : ∀ c ∈ after.toList, isSeparator c = true) :
    read (write layout t ++ after) = some t := by
  have hstart : ReadsBack layout 0 t := exact_readsBack h layout (by omega)
  have hend : readFrom (.after [] t) after.toList = some t := by
    rw [← List.append_nil after.toList, readFrom_separators hafter, readFrom_nil]
    rfl
  have hends : EndsNumber after.toList := by
    rw [← List.append_nil after.toList]
    exact endsNumber_separators hafter trivial
  have hread := hstart [] rfl after.toList hends t hend
  rw [← String.toList_append] at hread
  exact hread

end Json

end TypeExport
