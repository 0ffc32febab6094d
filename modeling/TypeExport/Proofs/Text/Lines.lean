import Mathlib.Data.List.DropRight
import Mathlib.Data.List.Infix
import TypeExport.Text.Lines

/-! # Lines and Blank Lines

    Where a text is split into lines, and what the clean-up of blank lines leaves of them: the lines
    that are not blank, with no white space at their ends.  Pieces that are joined by a separator
    are split off from the front. -/

namespace TypeExport.Text

/-! ## Section 1: Splitting -/

/-- The text `c :: rest` begins with the end of a line. -/
def BeginsWithEnd (c : Char) (rest : List Char) : Prop :=
  c = '\n' ∨ c = '\r' ∧ rest.head? = some '\n'

theorem lines_nil : lines [] = [] := rfl

theorem lines_newline (rest : List Char) : lines ('\n' :: rest) = [] :: lines rest := rfl

theorem lines_return_newline (rest : List Char) :
    lines ('\r' :: '\n' :: rest) = [] :: lines rest := rfl

/-- Any other character belongs to the first line of the rest. -/
theorem lines_cons_eq {c : Char} {rest : List Char} (h : ¬ BeginsWithEnd c rest) :
    lines (c :: rest) = match lines rest with
      | [] => [[c]]
      | line :: more => (c :: line) :: more := by
  rw [lines]
  · exact if_neg fun hc => h (.inl hc)
  · rintro rest' rfl rfl
    exact h (.inr ⟨rfl, rfl⟩)

theorem lines_cons {c : Char} {rest line : List Char} {more : List (List Char)}
    (h : ¬ BeginsWithEnd c rest) (hrest : lines rest = line :: more) :
    lines (c :: rest) = (c :: line) :: more := by
  rw [lines_cons_eq h, hrest]

theorem lines_singleton {c : Char} (h : c ≠ '\n') : lines [c] = [[c]] := by
  rw [lines_cons_eq (by simp [BeginsWithEnd, h]), lines_nil]

theorem lines_eq_nil_iff {text : List Char} : lines text = [] ↔ text = [] := by
  constructor
  · fun_cases lines text <;> simp
  · rintro rfl
    exact lines_nil

/-- The first line of a text begins with its first character, unless that belongs to the end of the
    line. -/
theorem lines_cons_cases (c : Char) (rest : List Char) :
    (∃ more, lines (c :: rest) = [] :: more ∧ (c = '\n' ∨ c = '\r')) ∨
      ∃ line more, lines (c :: rest) = (c :: line) :: more := by
  by_cases h : BeginsWithEnd c rest
  · left
    rcases h with rfl | ⟨rfl, h⟩
    · exact ⟨_, lines_newline rest, .inl rfl⟩
    · cases rest with
      | nil => simp at h
      | cons d rest =>
        obtain rfl : d = '\n' := by simpa using h
        exact ⟨_, lines_return_newline rest, .inr rfl⟩
  · right
    cases hrest : lines rest with
    | nil =>
      rw [lines_eq_nil_iff.mp hrest]
      exact ⟨_, _, lines_singleton fun hc => h (.inl hc)⟩
    | cons line more => exact ⟨_, _, lines_cons h hrest⟩

/-- Whether a text begins with the end of a line is decided by its first two characters. -/
theorem BeginsWithEnd.append_iff {c d : Char} {rest after : List Char} :
    BeginsWithEnd c (d :: rest ++ after) ↔ BeginsWithEnd c (d :: rest) := by
  simp [BeginsWithEnd]

/-- A line feed divides a text: what follows does not change the lines before. -/
theorem lines_append_newline (text rest : List Char) :
    lines (text ++ '\n' :: rest) = lines (text ++ ['\n']) ++ lines rest := by
  fun_induction lines text with
  | case1 => rfl
  | case2 tail ih =>
    simp only [List.cons_append, lines_return_newline, ih]
  | case3 tail _ ih => simp only [List.cons_append, lines_newline, ih]
  -- The last line of the text has one character, which may be a carriage return.
  | case4 c tail hreturn hc htail =>
    obtain rfl := lines_eq_nil_iff.mp htail
    by_cases hr : c = '\r'
    · subst hr
      simp only [List.cons_append, List.nil_append, lines_return_newline, lines_nil]
    · have hne : ∀ after, ¬ BeginsWithEnd c ('\n' :: after) := by
        simp [BeginsWithEnd, hc, hr]
      simp only [List.cons_append, List.nil_append]
      rw [lines_cons (hne _) (lines_newline _), lines_cons (hne _) (lines_newline _)]
      simp [lines_nil]
  -- The character belongs to a line that the rest of the text goes on with.
  | case5 c tail hreturn hc line more htail ih =>
    obtain ⟨d, tail, rfl⟩ := List.exists_cons_of_ne_nil
      (fun hnil => absurd (htail.symm.trans (lines_eq_nil_iff.mpr hnil)) (by simp))
    have hne : ¬ BeginsWithEnd c (d :: tail) := by
      rintro (h | ⟨rfl, h⟩)
      · exact hc h
      · exact hreturn tail rfl (by simpa using h)
    obtain ⟨first, others, hfirst⟩ := List.exists_cons_of_ne_nil
      (fun hnil => absurd (lines_eq_nil_iff.mp hnil) (by simp) : lines (d :: tail ++ ['\n']) ≠ [])
    rw [hfirst] at ih
    have hafter : ∀ after, ¬ BeginsWithEnd c (d :: tail ++ after) :=
      fun after => BeginsWithEnd.append_iff.not.mpr hne
    show lines (c :: (d :: tail ++ '\n' :: rest)) = lines (c :: (d :: tail ++ ['\n'])) ++ lines rest
    rw [lines_cons (hafter _) ih, lines_cons (hafter _) hfirst]
    rfl

/-- A line that is closed by a line feed stands for itself. -/
theorem lines_line {line : List Char} (h : '\n' ∉ line) (hr : line.getLast? ≠ some '\r')
    (rest : List Char) : lines (line ++ '\n' :: rest) = line :: lines rest := by
  induction line with
  | nil => exact lines_newline rest
  | cons c line ih =>
    have hline : lines (line ++ '\n' :: rest) = line :: lines rest := by
      refine ih (fun hmem => h (List.mem_cons_of_mem _ hmem)) ?_
      cases line with
      | nil => simp
      | cons d line => simpa using hr
    refine lines_cons ?_ hline
    -- A carriage return would end the line only with a line feed behind it.
    rintro (rfl | ⟨rfl, hhead⟩)
    · exact h List.mem_cons_self
    · cases line with
      | nil => exact hr rfl
      | cons d line =>
        obtain rfl : d = '\n' := by simpa using hhead
        exact h (by simp)

/-- Lines that are closed by line feeds stand for themselves. -/
theorem lines_flatMap {ls : List (List Char)}
    (h : ∀ line ∈ ls, '\n' ∉ line ∧ line.getLast? ≠ some '\r') (rest : List Char) :
    lines (ls.flatMap (· ++ ['\n']) ++ rest) = ls ++ lines rest := by
  induction ls with
  | nil => rfl
  | cons line ls ih =>
    obtain ⟨⟨hline, hr⟩, hls⟩ := List.forall_mem_cons.mp h
    rw [List.flatMap_cons, List.append_assoc, List.append_assoc, List.cons_append,
      List.nil_append, lines_line hline hr, ih hls]
    rfl

/-- No line holds a line feed. -/
theorem newline_not_mem_of_mem_lines {text line : List Char} (h : line ∈ lines text) :
    '\n' ∉ line := by
  fun_induction lines text generalizing line with
  | case1 => exact absurd h (by simp)
  | case2 rest ih =>
    rcases List.mem_cons.mp h with rfl | h
    · simp
    · exact ih h
  | case3 rest _ ih =>
    rcases List.mem_cons.mp h with rfl | h
    · simp
    · exact ih h
  | case4 c rest _ hc =>
    rw [List.mem_singleton.mp h]
    simpa using fun heq => hc heq.symm
  -- The character goes to the first line, and it is no line feed.
  | case5 c rest _ hc first more hrest ih =>
    rw [hrest] at ih
    rcases List.mem_cons.mp h with rfl | h
    · have hfirst := ih List.mem_cons_self
      simp [hfirst, Ne.symm hc]
    · exact ih (List.mem_cons_of_mem _ h)

/-! ## Section 2: White space at the ends of lines -/

theorem trimEnd_isPrefix (line : List Char) : trimEnd line <+: line :=
  List.rdropWhile_prefix isBlank line

theorem newline_not_mem_trimEnd {line : List Char} (h : '\n' ∉ line) : '\n' ∉ trimEnd line := by
  intro hmem
  exact h ((trimEnd_isPrefix line).mem hmem)

/-- A trimmed line does not end in white space. -/
theorem isBlank_of_getLast?_trimEnd {line : List Char} {c : Char}
    (h : (trimEnd line).getLast? = some c) : isBlank c = false := by
  have hne : trimEnd line ≠ [] := by
    rintro hnil
    simp [hnil] at h
  have hlast := List.rdropWhile_last_not isBlank line hne
  rw [List.getLast?_eq_some_getLast hne, Option.some.injEq] at h
  have heq : (List.rdropWhile isBlank line).getLast hne = c := h
  rwa [heq, Bool.not_eq_true] at hlast

/-- What does not end in white space is trimmed. -/
theorem trimEnd_eq_self {line : List Char} (h : ∀ c, line.getLast? = some c → isBlank c = false) :
    trimEnd line = line := by
  refine List.rdropWhile_eq_self_iff.mpr fun hne => ?_
  rw [h _ (List.getLast?_eq_some_getLast hne)]
  simp

/-- Trimming cuts off white space and nothing else. -/
theorem trimEnd_append_blanks (line : List Char) :
    trimEnd line ++ line.rtakeWhile isBlank = line := List.rdropWhile_append_rtakeWhile

theorem isBlankLine_trimEnd (line : List Char) : isBlankLine (trimEnd line) = isBlankLine line := by
  have hblanks : (line.rtakeWhile isBlank).all isBlank = true :=
    List.all_eq_true.mpr fun _ hc => List.mem_rtakeWhile_imp hc
  conv => rhs; rw [← trimEnd_append_blanks line]
  rw [isBlankLine, isBlankLine, List.all_append, hblanks, Bool.and_true]

/-- What is left of a line that is not blank ends in something visible. -/
theorem trimEnd_endsVisible {line : List Char} (h : isBlankLine line = false) :
    ∃ c, (trimEnd line).getLast? = some c ∧ isBlank c = false := by
  have hne : trimEnd line ≠ [] := by
    intro hnil
    have htrim := isBlankLine_trimEnd line
    rw [hnil, h] at htrim
    exact absurd htrim (by decide)
  have hlast := List.getLast?_eq_some_getLast hne
  exact ⟨_, hlast, isBlank_of_getLast?_trimEnd hlast⟩

/-- A line that ends in something visible is not divided at a carriage return. -/
theorem lines_closed {line : List Char} {c : Char} (hline : '\n' ∉ line)
    (hlast : line.getLast? = some c) (hc : isBlank c = false) (rest : List Char) :
    lines (line ++ '\n' :: rest) = line :: lines rest := by
  refine lines_line hline (fun hr => ?_) rest
  obtain rfl : c = '\r' := by rwa [hlast, Option.some.injEq] at hr
  exact absurd hc (by decide)

/-- Nor is a line that is not blank, once it is trimmed. -/
theorem lines_trimEnd {line : List Char} (hline : '\n' ∉ line) (h : isBlankLine line = false)
    (rest : List Char) : lines (trimEnd line ++ '\n' :: rest) = trimEnd line :: lines rest := by
  obtain ⟨c, hlast, hc⟩ := trimEnd_endsVisible h
  exact lines_closed (newline_not_mem_trimEnd hline) hlast hc rest

/-- A line that ends in something visible is not blank, and there is nothing to trim. -/
theorem isBlankLine_closed {line : List Char} {c : Char} (hlast : line.getLast? = some c)
    (hc : isBlank c = false) : isBlankLine line = false ∧ trimEnd line = line := by
  constructor
  · rw [isBlankLine, List.all_eq_false]
    exact ⟨c, List.mem_of_getLast? hlast, by simp [hc]⟩
  · refine trimEnd_eq_self fun d hd => ?_
    obtain rfl : c = d := by rwa [hlast, Option.some.injEq] at hd
    exact hc

/-! ## Section 3: The clean-up of blank lines -/

/-- The lines that are not blank, trimmed. -/
def keptLines (ls : List (List Char)) : List (List Char) :=
  (ls.filter (!isBlankLine ·)).map trimEnd

theorem keptLines_cons_blank {line : List Char} (h : isBlankLine line = true)
    (rest : List (List Char)) : keptLines (line :: rest) = keptLines rest := by
  simp [keptLines, h]

theorem keptLines_cons {line : List Char} (h : isBlankLine line = false)
    (rest : List (List Char)) : keptLines (line :: rest) = trimEnd line :: keptLines rest := by
  simp [keptLines, h]

theorem keptLines_append (ls more : List (List Char)) :
    keptLines (ls ++ more) = keptLines ls ++ keptLines more := by
  simp [keptLines]

/-- Without the blank lines at the beginning the same lines are kept. -/
theorem keptLines_dropWhile (ls : List (List Char)) :
    keptLines (ls.dropWhile isBlankLine) = keptLines ls := by
  induction ls with
  | nil => rfl
  | cons line more ih =>
    cases h : isBlankLine line with
    | true => rw [List.dropWhile_cons_of_pos h, ih, keptLines_cons_blank h]
    | false => rw [List.dropWhile_cons_of_neg (by simp [h])]

/-- A line that ends in something visible is kept as it is. -/
theorem keptLines_closed {line : List Char} {c : Char} (hlast : line.getLast? = some c)
    (hc : isBlank c = false) (more : List (List Char)) :
    keptLines (line :: more) = line :: keptLines more := by
  obtain ⟨hblank, htrim⟩ := isBlankLine_closed hlast hc
  rw [keptLines_cons hblank, htrim]

/-- The lines that are written are the kept ones, and blank ones between them. -/
theorem filter_lines_writeLines (gap : Bool) {ls : List (List Char)}
    (h : ∀ line ∈ ls, '\n' ∉ line) :
    (lines (writeLines gap ls)).filter (!isBlankLine ·) = keptLines ls := by
  induction ls generalizing gap with
  | nil => simp [writeLines, lines, keptLines]
  | cons line rest ih =>
    obtain ⟨hline, hrest⟩ := List.forall_mem_cons.mp h
    cases hb : isBlankLine line with
    | true => rw [writeLines, if_pos hb, ih true hrest, keptLines_cons_blank hb]
    | false =>
      have htrim : isBlankLine (trimEnd line) = false := (isBlankLine_trimEnd line).trans hb
      have hkept : (lines (trimEnd line ++ '\n' :: writeLines false rest)).filter
          (!isBlankLine ·) = keptLines (line :: rest) := by
        rw [lines_trimEnd hline hb, List.filter_cons, htrim, ih false hrest, keptLines_cons hb]
        rfl
      rw [writeLines, hb]
      -- The empty line that the flag stands for is filtered out again.
      cases gap with
      | false => exact hkept
      | true =>
        show (lines ('\n' :: (trimEnd line ++ '\n' :: writeLines false rest))).filter _ = _
        rw [lines_newline]
        exact hkept

/-- After the clean-up the lines that are not blank are the kept ones. -/
theorem filter_lines_collapseBlankLines (text : String) :
    (lines (collapseBlankLines text).toList).filter (!isBlankLine ·) =
      keptLines (lines text.toList) := by
  have hlines : ∀ line ∈ (lines text.toList).dropWhile isBlankLine, '\n' ∉ line :=
    fun line hmem => newline_not_mem_of_mem_lines ((List.dropWhile_sublist _).mem hmem)
  rw [collapseBlankLines, String.toList_ofList, filter_lines_writeLines false hlines,
    keptLines_dropWhile]

/-! ## Section 4: Joined pieces -/

/-- Each piece after the first one stands behind a separator. -/
theorem toList_intercalate_cons (sep first : String) (rest : List String) :
    (sep.intercalate (first :: rest)).toList =
      first.toList ++ rest.flatMap fun piece => sep.toList ++ piece.toList := by
  induction rest generalizing first with
  | nil => simp
  | cons second rest ih =>
    rw [String.intercalate_cons_cons, String.toList_append, String.toList_append, ih,
      List.flatMap_cons]
    simp only [List.append_assoc]

end TypeExport.Text
