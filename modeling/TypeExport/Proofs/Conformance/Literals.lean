import Mathlib
import TypeExport.Proofs.Conformance.Judgement
import TypeExport.Proofs.Json.RoundTrip
import TypeExport.Proofs.Text.Spelling

/-! # Literals of Enumerations as JSON Text

    The value of a member is text that was written for the target language, and the check reads it
    as JSON.  The two languages agree on what stands between quotes with one exception.  A string
    literal of the target language may hold any control character but the line breaks, and five
    characters are escaped in it; a JSON string may hold no control character at all.

    So a literal says in JSON what it was made for as long as each control character of the string
    is a line feed, a carriage return or a tab.  The literal of any other string is no JSON text:
    its member describes no value, not even the string itself.  Integers always agree, from one end
    of the signed words to the other. -/

namespace TypeExport

open Json Text

namespace Text

/-! ## Section 1: Strings -/

/-- A control character that stands for itself in a literal. -/
def isRawControl (c : Char) : Bool := c.toNat < 0x20 && c != '\n' && c != '\r' && c != '\t'

/-- Apart from the raw control characters, a literal spells every character as JSON does. -/
theorem escapeChar_eq_writeChar {c : Char} (h : isRawControl c = false) :
    escapeChar c = writeChar c := by
  unfold escapeChar writeChar
  -- The backspace and the form feed, which JSON knows by a letter, are raw.
  split <;> split <;> simp_all [isRawControl]

/-- A raw control character is spelled as it is. -/
theorem escapeChar_rawControl {c : Char} (h : isRawControl c = true) : escapeChar c = [c] := by
  unfold escapeChar
  split <;> simp_all [isRawControl]

/-- A string without raw control characters is spelled the same in both languages. -/
theorem quote_eq_writeText {s : String} (h : ∀ c ∈ s.toList, isRawControl c = false) :
    quote s = writeText s := by
  have hcs : s.toList.flatMap escapeChar = s.toList.flatMap writeChar :=
    List.flatMap_congr fun c hc => escapeChar_eq_writeChar (h c hc)
  rw [quote, writeText, hcs]

/-- The reader does not come past a control character. -/
theorem stringUnits_rawControl {c : Char} (h : isRawControl c = true) (rest : List Char) :
    stringUnits (c :: rest) = none := by
  have hcontrol : c.toNat < 0x20 := by
    simp only [isRawControl, Bool.and_eq_true, decide_eq_true_eq] at h
    exact h.1.1.1
  have hne : ∀ d : Char, 0x20 ≤ d.toNat → c ≠ d := by
    intro d hd hcd
    subst hcd
    omega
  rw [stringUnits]
  · rw [if_pos (.inl hcontrol)]
  · exact hne '"' (by decide)
  · intro _ _ _ _ _ hc
    exact absurd hc (hne '\\' (by decide))
  · intro _ _ hc
    exact absurd hc (hne '\\' (by decide))

/-- A string that holds a raw control character is read no further than that. -/
theorem stringUnits_of_mem_rawControl {cs : List Char} (h : ∃ c ∈ cs, isRawControl c = true)
    (rest : List Char) : stringUnits (cs.flatMap escapeChar ++ rest) = none := by
  induction cs with
  | nil =>
    obtain ⟨c, hc, -⟩ := h
    exact absurd hc List.not_mem_nil
  | cons c cs ih =>
    rw [List.flatMap_cons, List.append_assoc]
    by_cases hc : isRawControl c = true
    · rw [escapeChar_rawControl hc, List.singleton_append, stringUnits_rawControl hc]
    · obtain ⟨d, hd, hraw⟩ := h
      have hmem : d ∈ cs := by
        rcases List.mem_cons.mp hd with rfl | hmem
        · exact absurd hraw hc
        · exact hmem
      -- The head is spelled as in JSON, so it is read, and the fault is in the rest.
      rw [escapeChar_eq_writeChar (by simpa using hc), stringUnits_writeChar, ih ⟨d, hmem, hraw⟩]
      rfl

/-- Data that is no container is what its text says, if it has an exact text. -/
theorem read_leaf {t : Tree} (h : t.Exact) (hleaf : t.nesting = 0) :
    Json.read (write .compact t) = some t := by
  have hdepth : t.nesting < depthLimit := by
    rw [hleaf]
    decide
  have hread : Json.read (write .compact t ++ "") = some t :=
    read_write h hdepth .compact (by simp)
  rwa [String.append_empty] at hread

/-- The literal of a string says this string in JSON, or nothing. -/
theorem parse_quote (s : String) :
    Value.parse (quote s) =
      if s.toList.any isRawControl then none else some (.string s) := by
  by_cases h : s.toList.any isRawControl = true
  · -- Without its units there is no token, and a text that is no sequence of tokens says nothing.
    rw [if_pos h]
    have hunits : stringUnits (s.toList.flatMap escapeChar ++ ['"']) = none :=
      stringUnits_of_mem_rawControl (by simpa using h) ['"']
    have htoken : token (quote s).toList = none := by
      rw [toList_quote, token, hunits]
      rfl
    have htokens : tokens (quote s).toList = none := by
      rw [toList_quote] at htoken ⊢
      rw [tokens, if_neg (by decide)]
      split
      · rfl
      · rename_i hsome
        rw [htoken] at hsome
        exact absurd hsome (by simp)
    rw [Value.parse, Json.read, htokens]
    rfl
  -- Without raw control characters the literal is what the writer of JSON puts out.
  · rw [if_neg h, quote_eq_writeText (by simpa using h)]
    have hread := read_leaf (t := .text s) .text rfl
    rw [write] at hread
    rw [Value.parse, hread]
    rfl

end Text

/-! ## Section 2: Integers -/

/-- The literal of an integer says this integer in JSON, if it fits into a signed word. -/
theorem parse_toString {i : Int} (hmin : -2 ^ 63 ≤ i) (hmax : i < 2 ^ 63) :
    Value.parse (toString i) = some (.integer i) := by
  by_cases hi : 0 ≤ i
  · -- There is room for more natural numbers than these: words without a sign go twice as far.
    have hword : i.toNat < Tree.wordValues := by
      simp only [Tree.wordValues]
      omega
    have hread := read_leaf (.natural hword) rfl
    rw [write] at hread
    have htext : toString i = toString i.toNat := by
      obtain ⟨n, rfl⟩ := Int.eq_ofNat_of_zero_le hi
      rfl
    rw [Value.parse, htext, hread]
    show some (Value.integer i.toNat) = some (.integer i)
    rw [Int.toNat_of_nonneg hi]
  · have hword : i.natAbs ≤ Tree.negativeValues := by
      simp only [Tree.negativeValues]
      omega
    have hread := read_leaf (.integer (by omega) hword) rfl
    rw [write] at hread
    rw [Value.parse, hread]
    rfl

/-! ## Section 3: Members -/

/-- What a member of an enumeration is made from. -/
inductive MemberSource where
  | string (name text : String)
  | integer (name : String) (i : Int64)

namespace MemberSource

/-- The member that is made. -/
def member : MemberSource → EnumMember
  | string name text => .string name text
  | integer name i => .integer name i.toInt

/-- The value it is made for. -/
def value : MemberSource → Value
  | string _ text => .string text
  | integer _ i => .integer i.toInt

/-- The literal is JSON text. -/
def isReadable : MemberSource → Bool
  | string _ text => !text.toList.any isRawControl
  | integer _ _ => true

theorem parse_member (source : MemberSource) :
    Value.parse source.member.value = if source.isReadable then some source.value else none := by
  cases source with
  | string name text =>
    show Value.parse (quote text) = _
    rw [parse_quote, isReadable]
    cases text.toList.any isRawControl <;> rfl
  | integer name i =>
    show Value.parse (toString i.toInt) = some (.integer i.toInt)
    exact parse_toString i.le_toInt i.toInt_lt

/-- A member denotes the value it was made for and no other, and none if its literal is not
    readable. -/
theorem denotes_member {source : MemberSource} {v : Value} :
    Conformance.denotes source.member v = true ↔ source.isReadable = true ∧ source.value = v := by
  rw [Conformance.denotes, parse_member, beq_iff_eq]
  cases source.isReadable <;> simp

end MemberSource

/-! ## Section 4: Enumerations -/

/-- One of the readable members is made for the value. -/
def IsMadeFor (sources : List MemberSource) (v : Value) : Prop :=
  ∃ source ∈ sources, source.isReadable = true ∧ source.value = v

/-- The check of a value against an enumeration whose members are made from `sources`. -/
theorem checkEnum_sources_eq_ok_iff (name : String) (sources : List MemberSource) (v : Value)
    (path : String) :
    Conformance.checkEnum name (sources.map (·.member)) v path = .ok () ↔
      IsMadeFor sources v := by
  have hany : (sources.map (·.member)).any (Conformance.denotes · v) = true ↔
      IsMadeFor sources v := by
    simp only [List.any_map, List.any_eq_true, Function.comp_apply,
      MemberSource.denotes_member, IsMadeFor]
  rw [← hany, Conformance.checkEnum, Conformance.expect]
  split
  · rename_i h
    simp [h]
  · rename_i h
    simp [h]

/-- A value is accepted by an enumeration, looked up or inline, just if one of the readable members
    is made for it.  The literal of an integer says this integer, and the literal of a string says
    this string if it holds no raw control character; else the literal says nothing. -/
theorem checkInstance_enum_iff {graph : List TypeNode} {root : String} {comment : Option String}
    {sources : List MemberSource} (hroot : root ∉ primitiveNames)
    (hfind : graph.find? (·.name == root) = some (.enum root comment (sources.map (·.member)))) :
    (∀ v, checkInstance graph root v = .ok () ↔ IsMadeFor sources v) ∧
      (∀ v path, Conformance.check graph (.enum root comment (sources.map (·.member))) v path =
        .ok () ↔ IsMadeFor sources v) ∧
      (∀ v, ¬ IsMadeFor sources v → checkInstance graph root v =
        .error (.mismatch root s!"a member of {root}" v.kind)) ∧
      (∀ name text, Value.parse (EnumMember.string name text).value =
        if text.toList.any isRawControl then none else some (.string text)) ∧
      ∀ (name : String) (i : Int64),
        Value.parse (EnumMember.integer name i.toInt).value = some (.integer i.toInt) := by
  -- The root leads to its own node, and an enumeration is checked there.
  have hcheck : ∀ v path, Conformance.check graph (.simple root) v path =
      Conformance.checkEnum root (sources.map (·.member)) v path := fun v path =>
    (Conformance.check_of_named hroot hfind .enum v path).trans (by rw [Conformance.check])
  refine ⟨?_, ?_, ?_, ?_, ?_⟩
  · intro v
    rw [checkInstance, hcheck]
    exact checkEnum_sources_eq_ok_iff root sources v root
  · intro v path
    rw [Conformance.check]
    exact checkEnum_sources_eq_ok_iff root sources v path
  · intro v hv
    have hrefused := mt (checkEnum_sources_eq_ok_iff root sources v root).mp hv
    rw [checkInstance, hcheck]
    rw [Conformance.checkEnum, Conformance.expect] at hrefused ⊢
    split at hrefused
    · exact absurd rfl hrefused
    · rename_i hnone
      rw [if_neg hnone]
  · intro name text
    exact parse_quote text
  · intro name i
    exact (MemberSource.integer name i).parse_member

/-- Strings that have to be escaped, the two ends of the signed words, and a bell. -/
def signalSources : List MemberSource := [
  .string "Quoted" "say \"hi\"\n", .string "Path" "C:\\temp\t", .integer "Lowest" Int64.minValue,
  .integer "Highest" Int64.maxValue, .string "Bell" "\x07"]

def signalGraph : List TypeNode := [.enum "Signal" none (signalSources.map (·.member))]

theorem signals_described :
    "Signal" ∉ primitiveNames ∧
      checkInstance signalGraph "Signal" (.string "say \"hi\"\n") = .ok () ∧
      checkInstance signalGraph "Signal" (.integer (-9223372036854775808)) = .ok () ∧
      checkInstance signalGraph "Signal" (.string "\x07") =
        .error (.mismatch "Signal" "a member of Signal" "string") := by
  have hroot : "Signal" ∉ primitiveNames := by decide
  obtain ⟨hiff, -, hrefused, -⟩ :=
    @checkInstance_enum_iff signalGraph "Signal" none signalSources hroot rfl
  refine ⟨hroot, (hiff _).mpr ?_, (hiff _).mpr ?_, hrefused _ ?_⟩
  · exact ⟨_, List.mem_cons_self, by decide, rfl⟩
  · exact ⟨.integer "Lowest" Int64.minValue, by simp [signalSources], rfl, by decide⟩
  · rintro ⟨source, hs, hreadable, hvalue⟩
    simp only [signalSources, List.mem_cons, List.not_mem_nil, or_false] at hs
    -- The first four are made for other values, and the bell is not readable.
    rcases hs with rfl | rfl | rfl | rfl | rfl <;>
      simp_all [MemberSource.value, MemberSource.isReadable, isRawControl]

/-- The literal that is made for a control character does not describe it. -/
theorem control_refused :
    checkInstance [.enum "Mark" none [EnumMember.string "Start" "\x01"]] "Mark"
        (.string "\x01") =
      .error (.mismatch "Mark" "a member of Mark" "string") := by
  cbv

end TypeExport
