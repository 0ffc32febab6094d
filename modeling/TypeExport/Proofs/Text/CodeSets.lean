import Mathlib
import TypeExport.Text.CodeSet

/-! # Comparing Sets of Code Points

    Two properties of characters can be compared for all characters at once, although each of them
    is a table of hundreds of runs: what the first table has and the second one lacks is a table
    again, and it is computed in one pass over both.

    The look-up stops at the first run that ends late enough, so it says the right thing of tables
    that ascend.  `contains_diff` carries the difference of two such tables over to their look-ups;
    for given tables its assumptions are evaluated. -/

namespace TypeExport.Text

/-! ## Section 1: Ascending tables -/

namespace CodeSet

/-- The code point lies between the ends of one of the runs. -/
def Spans (t : CodeSet) (n : Nat) : Prop := ∃ r ∈ t, r.first ≤ n ∧ n ≤ r.last

/-- Unbroken runs that hold something, each behind the one before it and the first not below
    `low`. -/
def ascendsFrom (low : Nat) : CodeSet → Bool
  | [] => true
  | r :: rest =>
    decide (low ≤ r.first) && decide (r.first ≤ r.last) && r.step == 1 &&
      ascendsFrom (r.last + 1) rest

/-- The table ascends. -/
def Ascends (t : CodeSet) : Prop := t.ascendsFrom 0 = true

instance (t : CodeSet) : Decidable t.Ascends := inferInstanceAs (Decidable (_ = true))

variable {s t d : CodeSet} {r : Run} {low n : Nat}

theorem ascendsFrom_cons : ascendsFrom low (r :: t) = true ↔
    low ≤ r.first ∧ r.first ≤ r.last ∧ r.step = 1 ∧ ascendsFrom (r.last + 1) t = true := by
  simp [ascendsFrom, and_assoc]

theorem not_spans_nil : ¬ Spans [] n := by
  rintro ⟨r, hr, -⟩
  exact absurd hr List.not_mem_nil

theorem spans_cons : Spans (r :: t) n ↔ (r.first ≤ n ∧ n ≤ r.last) ∨ Spans t n := by
  simp [Spans]

theorem spans_append : Spans (s ++ t) n ↔ Spans s n ∨ Spans t n := by
  simp [Spans, or_and_right, exists_or]

/-- Nothing lies below the first run. -/
theorem le_of_spans (h : ascendsFrom low t = true) (hn : Spans t n) : low ≤ n := by
  induction t generalizing low with
  | nil => exact absurd hn not_spans_nil
  | cons r t ih =>
    obtain ⟨hlow, hrun, -, hrest⟩ := ascendsFrom_cons.mp h
    rcases spans_cons.mp hn with ⟨hfirst, -⟩ | hn
    · omega
    · have := ih hrest hn
      omega

/-- A look-up finds what an ascending table spans. -/
theorem contains_iff_spans (h : ascendsFrom low t = true) : contains t n = true ↔ Spans t n := by
  induction t generalizing low with
  | nil => simp [contains, not_spans_nil]
  | cons r t ih =>
    obtain ⟨-, hrun, hstep, hrest⟩ := ascendsFrom_cons.mp h
    rw [contains, spans_cons]
    by_cases hlast : n ≤ r.last
    · -- Behind this run everything is greater.
      have hnone : ¬ Spans t n := by
        intro hn
        have := le_of_spans hrest hn
        omega
      simp [hlast, Run.holds, hstep, hnone, Nat.mod_one]
    · rw [if_neg hlast, ih hrest]
      simp [hlast]

/-! ## Section 2: Differences -/

/-- The part of a run that lies in none of the runs of an ascending table. -/
def remains (first last : Nat) : CodeSet → CodeSet
  | [] => [⟨first, last, 1⟩]
  | u :: rest =>
    if last < u.first then [⟨first, last, 1⟩]
    else if u.last < first then remains first last rest
    else
      (if first < u.first then [⟨first, u.first - 1, 1⟩] else []) ++
        if u.last < last then remains (u.last + 1) last rest else []

/-- What the first of two ascending tables has and the second one lacks.  Both are gone through only
    once: runs that end before the current one do not come back. -/
def diff : CodeSet → CodeSet → CodeSet
  | [], _ => []
  | r :: rest, t =>
    let ahead := t.dropWhile (·.last < r.first)
    remains r.first r.last ahead ++ diff rest ahead

theorem spans_single {first last : Nat} : Spans [⟨first, last, 1⟩] n ↔ first ≤ n ∧ n ≤ last := by
  simp [Spans]

theorem spans_remains {first last : Nat} (h : ascendsFrom low t = true) :
    Spans (remains first last t) n ↔ (first ≤ n ∧ n ≤ last) ∧ ¬ Spans t n := by
  induction t generalizing first low with
  | nil => simp [remains, spans_single, not_spans_nil]
  | cons u t ih =>
    obtain ⟨-, hrun, -, hrest⟩ := ascendsFrom_cons.mp h
    -- What the rest of the table spans lies behind the run in front.
    have hbehind : Spans t n → u.last < n := fun hn => le_of_spans hrest hn
    rw [remains, spans_cons]
    split_ifs <;> simp only [spans_append, spans_single, ih hrest, not_spans_nil] <;> grind

/-- Runs that end before a code point do not span it. -/
theorem spans_dropWhile {first : Nat} (hn : first ≤ n) :
    Spans (t.dropWhile (·.last < first)) n ↔ Spans t n := by
  induction t with
  | nil => rfl
  | cons u t ih =>
    by_cases hu : u.last < first
    · rw [List.dropWhile_cons_of_pos (by simpa using hu), ih, spans_cons]
      constructor
      · exact .inr
      · rintro (⟨-, hlast⟩ | hn)
        · omega
        · exact hn
    · rw [List.dropWhile_cons_of_neg (by simpa using hu)]

theorem exists_ascendsFrom_dropWhile {p : Run → Bool} (h : ascendsFrom low t = true) :
    ∃ low', ascendsFrom low' (t.dropWhile p) = true := by
  induction t generalizing low with
  | nil => exact ⟨low, h⟩
  | cons u t ih =>
    obtain ⟨-, -, -, hrest⟩ := ascendsFrom_cons.mp h
    rw [List.dropWhile_cons]
    split
    · exact ih hrest
    · exact ⟨low, h⟩

theorem spans_diff {low' : Nat} (hs : ascendsFrom low s = true) (ht : ascendsFrom low' t = true) :
    Spans (diff s t) n ↔ Spans s n ∧ ¬ Spans t n := by
  induction s generalizing low low' t with
  | nil => simp [diff, not_spans_nil]
  | cons r s ih =>
    obtain ⟨-, hrun, -, hrest⟩ := ascendsFrom_cons.mp hs
    obtain ⟨low'', hahead⟩ := exists_ascendsFrom_dropWhile (p := (·.last < r.first)) ht
    rw [diff, spans_append, spans_remains hahead, ih hrest hahead, spans_cons]
    -- Whatever is spanned here lies at or behind the beginning of the run.
    by_cases hn : r.first ≤ n
    · rw [spans_dropWhile hn]
      tauto
    · have hnone : ¬ Spans s n := by
        intro h
        have := le_of_spans hrest h
        omega
      simp [hn, hnone]

/-- Where the difference of two tables is known, the look-ups differ on just what it holds. -/
theorem contains_diff (hs : Ascends s) (ht : Ascends t) (hd : Ascends d) (h : diff s t = d) :
    contains d n = (contains s n && !contains t n) := by
  rw [Bool.eq_iff_iff, contains_iff_spans hd, ← h, spans_diff hs ht, Bool.and_eq_true,
    contains_iff_spans hs, Bool.not_eq_true', ← Bool.not_eq_true, contains_iff_spans ht]

end CodeSet

end TypeExport.Text
