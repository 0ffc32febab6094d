import Mathlib
import TypeExport.Proofs.Walk.Plain

/-! # Tags of Fields

    Two readers take the tag of a field apart.  One parses it into a new name and a flag, and is
    what a walk goes by; the other says under which name the field is serialized, and is what
    everybody else asks.  Both cut the tag at its commas, and this has one answer: the segments are
    the texts without commas that give the tag back when they are joined.

    The readers agree on every tag, so the members of a struct can be told from its fields by the
    second reader alone: which fields become members, under which names, and in which order. -/

namespace TypeExport

/-! ## Section 1: Segments -/

namespace FieldTag

theorem segments_eq_splitOn (tag : String) :
    segments tag = (tag.toList.splitOn ',').map String.ofList := by
  rw [List.splitOn_eq_splitOnP]
  rfl

/-- What stands between commas holds none. -/
theorem comma_not_mem_of_mem_splitOn {cs piece : List Char} (h : piece ∈ cs.splitOn ',') :
    ',' ∉ piece := by
  rw [List.splitOn_eq_splitOnP] at h
  induction cs generalizing piece with
  | nil =>
    rw [List.splitOnP_nil, List.mem_singleton] at h
    rw [h]
    exact List.not_mem_nil
  | cons c cs ih =>
    rw [List.splitOnP_cons_eq_if_modifyHead] at h
    split at h
    · rcases List.mem_cons.mp h with rfl | h
      · exact List.not_mem_nil
      · exact ih h
    · rename_i hc
      -- The character goes in front of the first piece, which was there before.
      cases hpieces : cs.splitOnP (· == ',') with
      | nil => exact absurd hpieces (List.splitOnP_ne_nil _ _)
      | cons first rest =>
        rw [hpieces] at h ih
        rcases List.mem_cons.mp h with rfl | h
        · have hfirst : ',' ∉ first := ih List.mem_cons_self
          have hne : ',' ≠ c := by
            rintro rfl
            exact hc rfl
          exact List.not_mem_cons_of_ne_of_not_mem hne hfirst
        · exact ih (List.mem_cons_of_mem _ h)

/-- Joined texts without commas are cut where they were joined. -/
theorem segments_intercalate {pieces : List String} (hne : pieces ≠ [])
    (hcomma : ∀ s ∈ pieces, ',' ∉ s.toList) : segments (",".intercalate pieces) = pieces := by
  have hjoin : (",".intercalate pieces).toList = [','].intercalate (pieces.map String.toList) :=
    String.toList_intercalate
  have hpieces : (",".intercalate pieces).toList.splitOn ',' = pieces.map String.toList := by
    rw [hjoin]
    exact List.splitOn_intercalate ',' (by simpa using hcomma) (by simpa using hne)
  rw [segments_eq_splitOn, hpieces, List.map_map]
  simp

/-- The segments of a tag are the texts without commas that it is joined of. -/
theorem segments_eq_iff {tag : String} {pieces : List String} :
    segments tag = pieces ↔
      pieces ≠ [] ∧ (∀ s ∈ pieces, ',' ∉ s.toList) ∧ ",".intercalate pieces = tag := by
  constructor
  · rintro rfl
    rw [segments_eq_splitOn]
    refine ⟨?_, ?_, ?_⟩
    · intro hnil
      rw [List.map_eq_nil_iff, List.splitOn_eq_splitOnP] at hnil
      exact List.splitOnP_ne_nil _ _ hnil
    · intro s hs
      obtain ⟨piece, hpiece, rfl⟩ := List.mem_map.mp hs
      rw [String.toList_ofList]
      exact comma_not_mem_of_mem_splitOn hpiece
    -- Joined by commas the pieces are the tag again.
    · apply String.toList_injective
      have hjoin : (",".intercalate ((tag.toList.splitOn ',').map String.ofList)).toList =
          [','].intercalate (((tag.toList.splitOn ',').map String.ofList).map String.toList) :=
        String.toList_intercalate
      rw [hjoin, List.map_map]
      simp [Function.comp_def]
  · rintro ⟨hne, hcomma, rfl⟩
    exact segments_intercalate hne hcomma

/-- A tag that is made of a name and options says just these. -/
theorem parse_intercalate {rename : String} {options : List String} (hrename : ',' ∉ rename.toList)
    (hoptions : ∀ option ∈ options, ',' ∉ option.toList) :
    parse (",".intercalate (rename :: options)) =
      ⟨if rename = "" then none else some rename, options.contains "omitempty"⟩ := by
  rw [parse, segments_intercalate (by simp) (List.forall_mem_cons.mpr ⟨hrename, hoptions⟩)]

end FieldTag

/-! ## Section 2: Readers -/

namespace HostField

/-- The segments of the tag behind its first one. -/
def options (f : HostField) : List String :=
  match f.tag with
  | none => []
  | some tag => (FieldTag.segments tag).tail

theorem parsedTag_optional (f : HostField) :
    f.parsedTag.optional = f.options.contains "omitempty" := by
  obtain ⟨name, type, tag⟩ := f
  cases tag with
  | none => rfl
  | some tag =>
    cases h : FieldTag.segments tag with
    | nil => simp [parsedTag, FieldTag.parse, options, h]
    | cons first rest => simp [parsedTag, FieldTag.parse, options, h]

theorem isExported_iff {f : HostField} :
    f.isExported = true ↔ ∃ c rest, f.name.toList = c :: rest ∧ Text.isUppercase c = true := by
  unfold isExported
  cases f.name.toList with
  | nil => simp
  | cons c rest => simp

end HostField

/-! ## Section 3: Members -/

namespace ExtractPolicy

variable {policy : ExtractPolicy} {visit : Visit}

/-- The visible fields of a struct become its members one after the other. -/
theorem structMembers_eq_mapM (owner : String) (fields : List HostField) :
    policy.structMembers visit owner fields =
      (visibleFields fields).mapM fun f => do
        let node ← policy.resolve visit (f.site owner) (some f) f.type
        return f.property node := by
  induction fields with
  | nil => rfl
  | cons f rest ih =>
    rw [structMembers_cons, ih]
    by_cases hv : f.isVisible
    · have hvis : visibleFields (f :: rest) = f :: visibleFields rest := by
        simp [visibleFields, hv]
      rw [if_pos hv, hvis, List.mapM_cons, bind_assoc]
      simp only [pure_bind]
      rfl
    · have hvis : visibleFields (f :: rest) = visibleFields rest := by simp [visibleFields, hv]
      rw [if_neg hv, hvis]

/-- In the order of discovery a struct gets one member for each field that begins with a capital and
    is not serialized as `-`, in the order of the fields.  The member has the serialized name and
    the resolved type of its field, it is optional just if `omitempty` is among the options, and it
    is no method, has no parameters and no comment.  The serialized name is the parsed one or else
    the name of the field; the segments of a tag are the texts without commas that it is joined of;
    and a tag joined of a name and options says this name, if it is not empty, and whether
    `omitempty` is among the options. -/
theorem structMembers_tags_exact (hsort : policy.sort = .discovery) :
    (∀ (visit : Visit) (owner : String) (fields : List HostField),
      policy.arrange <$> policy.structMembers visit owner fields =
        (fields.filter fun f => f.isExported && f.serializedName != "-").mapM fun f => do
          let type ← policy.resolve visit (f.site owner) (some f) f.type
          return { name := f.serializedName, type, optional := f.options.contains "omitempty",
                   function := false, comment := none, args := [] }) ∧
    (∀ f : HostField, f.isExported = true ↔
      ∃ c rest, f.name.toList = c :: rest ∧ Text.isUppercase c = true) ∧
    (∀ f : HostField, f.serializedName = f.parsedTag.rename.getD f.name) ∧
    (∀ tag pieces, FieldTag.segments tag = pieces ↔
      pieces ≠ [] ∧ (∀ s ∈ pieces, ',' ∉ s.toList) ∧ ",".intercalate pieces = tag) ∧
    ∀ rename options, ',' ∉ rename.toList → (∀ option ∈ options, ',' ∉ option.toList) →
      FieldTag.parse (",".intercalate (rename :: options)) =
        ⟨if rename = "" then none else some rename, options.contains "omitempty"⟩ := by
  refine ⟨?_, fun f => f.isExported_iff, fun f => f.rename_getD.symm,
    fun tag pieces => FieldTag.segments_eq_iff,
    fun rename options => FieldTag.parse_intercalate⟩
  intro visit owner fields
  have harrange : policy.arrange = id := funext (arrange_discovery hsort)
  rw [harrange, id_map, structMembers_eq_mapM]
  -- The member that a walk makes is the one described, with the flag of the parsed tag.
  simp only [HostField.property, HostField.parsedTag_optional]
  rfl

/-- Fields with tags of all sorts: options without a name, an option in the place of the name, the
    name that hides a field with an option behind it, and no tag. -/
def badgeFields : List HostField :=
  [⟨"Label", .string, some ",string,,omitempty"⟩, ⟨"Level", .int 8 true, some "omitempty"⟩,
    ⟨"Secret", .string, some "-,omitempty"⟩, ⟨"owner", .string, some "Owner"⟩,
    ⟨"Seen", .bool, none⟩]

/-- The members of a struct with these fields. -/
theorem badgeFields_members :
    ExtractPolicy.default.sort = .discovery ∧
      ExtractPolicy.default.arrange <$> ExtractPolicy.default.structMembers
        (ExtractPolicy.default.visit {} ["Badge"]) "Badge" badgeFields =
          pure [⟨"Label", .string, true, false, none, []⟩,
            ⟨"omitempty", .number, false, false, none, []⟩,
            ⟨"Seen", .boolean, false, false, none, []⟩] := by
  refine ⟨rfl, ?_⟩
  rw [(structMembers_tags_exact rfl).1]
  rfl

end ExtractPolicy

end TypeExport
