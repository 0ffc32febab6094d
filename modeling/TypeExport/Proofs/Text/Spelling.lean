import TypeExport.Declaration.MemberName
import TypeExport.Proofs.Text.Lines
import TypeExport.Proofs.Text.Quoting

/-! # Where Names and Lines End

    Pieces of text are put one after the other, and it has to be seen again where one ends and the
    next one begins.  A bare name ends before the first character that cannot go on a name.  A
    literal ends at its second quote that is not escaped.  A line ends at its line feed, if what
    stands before that is not white space: then the clean-up changes nothing in it.

    Each lemma named `append_inj` says this for one kind of piece: two texts that begin with such
    pieces are the same only if the pieces are the same, and so is what follows. -/

namespace TypeExport

namespace Text

/-! ## Section 1: Runs of characters -/

/-- A run of characters with a property ends where the property ends. -/
theorem run_append_inj {p : Char → Bool} {xs ys after after' : List Char}
    (hxs : ∀ c ∈ xs, p c = true) (hys : ∀ c ∈ ys, p c = true)
    (hafter : ∀ c, after.head? = some c → p c = false)
    (hafter' : ∀ c, after'.head? = some c → p c = false) (h : xs ++ after = ys ++ after') :
    xs = ys ∧ after = after' := by
  have htake : ∀ {zs rest : List Char}, (∀ c ∈ zs, p c = true) →
      (∀ c, rest.head? = some c → p c = false) → (zs ++ rest).takeWhile p = zs := by
    intro zs rest hzs hrest
    rw [List.takeWhile_append_of_pos hzs]
    cases rest with
    | nil => simp
    | cons c rest => rw [List.takeWhile_cons_of_neg (by simp [hrest c rfl]), List.append_nil]
  have heq : xs = ys := by rw [← htake hxs hafter, h, htake hys hafter']
  subst heq
  exact ⟨rfl, List.append_cancel_left h⟩

/-- A line ends at the first line feed. -/
theorem line_append_inj {line line' after after' : List Char} (hline : '\n' ∉ line)
    (hline' : '\n' ∉ line') (h : line ++ '\n' :: after = line' ++ '\n' :: after') :
    line = line' ∧ after = after' := by
  have hrun : ∀ {xs : List Char}, '\n' ∉ xs → ∀ c ∈ xs, decide (c ≠ '\n') = true := by
    intro xs hxs c hc
    rw [decide_eq_true_iff]
    rintro rfl
    exact hxs hc
  have hend : ∀ (rest : List Char) (c : Char), ('\n' :: rest).head? = some c →
      decide (c ≠ '\n') = false := by
    intro rest c hc
    simpa using hc.symm
  obtain ⟨hsame, hrest⟩ := run_append_inj (hrun hline) (hrun hline') (hend _) (hend _) h
  exact ⟨hsame, (List.cons.inj hrest).2⟩

/-! ## Section 2: String literals -/

/-- A literal denotes one string, and it shows where it ends. -/
theorem quote_append_inj {s t : String} {after after' : List Char}
    (h : (quote s).toList ++ after = (quote t).toList ++ after') : s = t ∧ after = after' := by
  have hread : some (s, after) = some (t, after') := by
    rw [← readLiteral_quote s after, h, readLiteral_quote t after']
  exact Prod.mk.inj (Option.some.inj hread)

theorem newline_not_mem_quote (s : String) : '\n' ∉ (quote s).toList := by
  simp [toList_quote, (not_mem_flatMap_escapeChar s.toList).1]

end Text

/-! ## Section 3: Names -/

open Text

/-- A name does not go on here. -/
def EndsName (after : List Char) : Prop := ∀ c, after.head? = some c → continuesName c = false

/-- Punctuation is not part of bare names. -/
theorem continuesName_punctuation : ∀ c ∈ ['"', '(', ')', ',', ':', ';', '=', '?', '[', ']',
    '\x7b', '\x7d', ' ', '\n'], continuesName c = false := by
  have hall : ['"', '(', ')', ',', ':', ';', '=', '?', '[', ']', '\x7b', '\x7d', ' ', '\n'].all
      (!continuesName ·) = true := by decide +kernel
  intro c hc
  simpa using List.all_eq_true.mp hall c hc

/-- So a name ends in front of it. -/
theorem endsName_punctuation {c : Char} (hc : c ∈ ['"', '(', ')', ',', ':', ';', '=', '?', '[',
    ']', '\x7b', '\x7d', ' ', '\n']) (after : List Char) : EndsName (c :: after) := by
  intro d hd
  obtain rfl : c = d := by simpa using hd
  exact continuesName_punctuation c hc

theorem continuesName_of_isBareName {name : String} (h : isBareName name = true) :
    ∀ c ∈ name.toList, continuesName c = true := by
  unfold isBareName at h
  split at h
  · exact absurd h (by simp)
  · rename_i c rest hname
    rw [Bool.and_eq_true, List.all_eq_true] at h
    have hc : continuesName c = true := by
      have hbegins := h.1
      simp only [beginsName, continuesName, isAlphanumeric, Bool.or_eq_true] at hbegins ⊢
      tauto
    rw [hname]
    exact List.forall_mem_cons.mpr ⟨hc, h.2⟩

theorem isBareName.ne_nil {name : String} (h : isBareName name = true) :
    ∃ c rest, name.toList = c :: rest ∧ continuesName c = true := by
  have hall := continuesName_of_isBareName h
  unfold isBareName at h
  split at h
  · exact absurd h (by simp)
  · rename_i c rest hname
    rw [hname] at hall
    exact ⟨c, rest, hname, hall c List.mem_cons_self⟩

/-- A bare name ends where a name cannot go on. -/
theorem bareName_append_inj {a b : String} (ha : isBareName a = true) (hb : isBareName b = true)
    {after after' : List Char} (hafter : EndsName after) (hafter' : EndsName after')
    (h : a.toList ++ after = b.toList ++ after') : a = b ∧ after = after' := by
  obtain ⟨hab, hrest⟩ := run_append_inj (continuesName_of_isBareName ha)
    (continuesName_of_isBareName hb) hafter hafter' h
  exact ⟨String.toList_injective hab, hrest⟩

/-- A bare name does not begin with punctuation. -/
theorem bareName_append_ne {a : String} (ha : isBareName a = true) {c : Char}
    (hc : continuesName c = false) (after after' : List Char) :
    a.toList ++ after ≠ c :: after' := by
  intro h
  obtain ⟨d, rest, hname, hd⟩ := isBareName.ne_nil ha
  rw [hname, List.cons_append] at h
  rw [(List.cons.inj h).1, hc] at hd
  exact absurd hd (by simp)

theorem bareName_append_ne_quote {a : String} (ha : isBareName a = true) (b : String)
    (after after' : List Char) : a.toList ++ after ≠ (quote b).toList ++ after' := by
  rw [toList_quote, List.cons_append]
  exact bareName_append_ne ha (continuesName_punctuation _ (by simp)) _ _

/-- A member name is read as it was, however it is written. -/
theorem memberName_append_inj {a b : String} {after after' : List Char}
    (hafter : EndsName after) (hafter' : EndsName after')
    (h : (memberName a).toList ++ after = (memberName b).toList ++ after') :
    a = b ∧ after = after' := by
  unfold memberName at h
  split at h
  · rename_i ha
    split at h
    · rename_i hb
      exact bareName_append_inj ha hb hafter hafter' h
    · exact absurd h (bareName_append_ne_quote ha b _ _)
  · split at h
    · rename_i hb
      exact absurd h.symm (bareName_append_ne_quote hb a _ _)
    · exact quote_append_inj h

theorem newline_not_mem_bareName {name : String} (h : isBareName name = true) :
    '\n' ∉ name.toList := by
  intro hmem
  have hc := continuesName_of_isBareName h _ hmem
  rw [continuesName_punctuation _ (by simp)] at hc
  exact absurd hc (by simp)

theorem newline_not_mem_memberName (name : String) : '\n' ∉ (memberName name).toList := by
  unfold memberName
  split
  · rename_i h
    exact newline_not_mem_bareName h
  · exact newline_not_mem_quote name

/-! ## Section 4: Closed lines -/

namespace Text

/-- Every line feed comes right after a character that is not white space. -/
def ClosesLines (text : List Char) : Prop :=
  ∀ before after, text = before ++ '\n' :: after →
    ∃ c, before.getLast? = some c ∧ isBlank c = false

theorem ClosesLines.of_not_mem {text : List Char} (h : '\n' ∉ text) : ClosesLines text := by
  intro before after heq
  refine absurd ?_ h
  rw [heq]
  simp

theorem ClosesLines.append {xs ys : List Char} (hxs : ClosesLines xs) (hys : ClosesLines ys) :
    ClosesLines (xs ++ ys) := by
  intro before after heq
  rcases List.append_eq_append_iff.mp heq with ⟨zs, rfl, rfl⟩ | ⟨zs, rfl, hzs⟩
  · obtain ⟨c, hc, hblank⟩ := hys zs after rfl
    exact ⟨c, by rw [List.getLast?_append, hc]; rfl, hblank⟩
  · cases zs with
    | nil =>
      obtain ⟨c, hc, _⟩ := hys [] after hzs.symm
      exact absurd hc (by simp)
    | cons d zs =>
      obtain ⟨rfl, -⟩ := List.cons.inj hzs
      exact hxs before zs rfl

/-- A line feed closes a line that ends in something visible. -/
theorem ClosesLines.newline {xs : List Char} (hxs : ClosesLines xs) {c : Char}
    (hlast : xs.getLast? = some c) (hc : isBlank c = false) : ClosesLines (xs ++ ['\n']) := by
  intro before after heq
  cases after using List.reverseRecOn with
  | nil =>
    obtain ⟨rfl, -⟩ := List.append_inj' heq rfl
    exact ⟨c, hlast, hc⟩
  | append_singleton after d =>
    rw [← List.cons_append, ← List.append_assoc] at heq
    obtain ⟨rfl, -⟩ := List.append_inj' heq rfl
    exact hxs before after rfl

/-- The text is empty or its last line is ended. -/
def EndsLine (text : List Char) : Prop := text = [] ∨ ∃ before, text = before ++ ['\n']

/-- What follows an ended line begins a line. -/
theorem EndsLine.lines_append {text : List Char} (h : EndsLine text) (rest : List Char) :
    lines (text ++ rest) = lines text ++ lines rest := by
  rcases h with rfl | ⟨before, rfl⟩
  · rfl
  · rw [List.append_assoc, List.singleton_append, lines_append_newline]

theorem EndsLine.append {xs ys : List Char} (hxs : EndsLine xs) (hys : EndsLine ys) :
    EndsLine (xs ++ ys) := by
  rcases hys with rfl | ⟨before, rfl⟩
  · rwa [List.append_nil]
  · exact .inr ⟨xs ++ before, by rw [List.append_assoc]⟩

theorem EndsLine.tail {line rest : List Char} (h : EndsLine (line ++ '\n' :: rest)) :
    EndsLine rest := by
  rcases h with hnil | ⟨before, hbefore⟩
  · exact absurd hnil (by simp)
  · cases rest using List.reverseRecOn with
    | nil => exact .inl rfl
    | append_singleton rest c =>
      rw [← List.cons_append, ← List.append_assoc] at hbefore
      exact .inr ⟨rest, by rw [(List.append_inj' hbefore rfl).2]⟩

theorem ClosesLines.tail {line rest : List Char} (h : ClosesLines (line ++ '\n' :: rest)) :
    ClosesLines rest := by
  rintro before after rfl
  obtain ⟨c, hlast, hc⟩ := h (line ++ '\n' :: before) after (by simp)
  refine ⟨c, ?_, hc⟩
  -- The line feed in front is white space, so there is something between the two.
  cases before with
  | nil =>
    obtain rfl : '\n' = c := by simpa using hlast
    exact absurd hc (by decide)
  | cons d before => simpa using hlast

/-- A text of closed lines is empty, or it is a line that ends in something visible and another such
    text. -/
theorem ClosesLines.induction {motive : List Char → Prop} (nil : motive [])
    (line : ∀ line rest c, '\n' ∉ line → line.getLast? = some c → isBlank c = false →
      motive rest → motive (line ++ '\n' :: rest))
    {text : List Char} (h : ClosesLines text) (hend : EndsLine text) : motive text := by
  -- Each line that is split off leaves a shorter text.
  induction hk : text.length using Nat.strongRecOn generalizing text with
  | _ k ih =>
    by_cases hnil : text = []
    · subst hnil
      exact nil
    · have hmem : '\n' ∈ text := by
        obtain ⟨before, rfl⟩ := hend.resolve_left hnil
        simp
      obtain ⟨first, rest, rfl, hfirst⟩ := List.eq_append_cons_of_mem hmem
      obtain ⟨c, hlast, hc⟩ := h first rest rfl
      have hlength : rest.length < k := by
        rw [← hk, List.length_append, List.length_cons]
        omega
      exact line first rest c hfirst hlast hc (ih rest.length hlength h.tail hend.tail rfl)

/-- A text of closed lines stays as it is, line by line. -/
theorem ClosesLines.lines_spec {text : List Char} (h : ClosesLines text) (hend : EndsLine text) :
    keptLines (lines text) = lines text ∧ (lines text).flatMap (· ++ ['\n']) = text := by
  refine ClosesLines.induction (motive := fun text => keptLines (lines text) = lines text ∧
    (lines text).flatMap (· ++ ['\n']) = text) ⟨rfl, rfl⟩ ?_ h hend
  rintro line rest c hline hlast hc ⟨hkept, hjoin⟩
  rw [lines_closed hline hlast hc, keptLines_closed hlast hc, hkept, List.flatMap_cons, hjoin,
    List.append_assoc, List.singleton_append]
  exact ⟨rfl, rfl⟩

end Text

end TypeExport
