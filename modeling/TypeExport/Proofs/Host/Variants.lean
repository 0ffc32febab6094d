import Mathlib.Data.List.Nodup
import TypeExport.Host.Tree
import TypeExport.Proofs.Json.Values

/-! # Other Ways to Write a Descriptor

    A descriptor that has been written may be changed without changing what it says.  In every
    record of it the entries may stand in another order, there may be more entries for names that
    the record has no field for, and a field may be left out when it holds its default.

    Which names are fields depends on what the record stands for, its role; the fields of a type
    depend on its kind too.  `Variant` makes all of these changes at once, at every depth, and
    `Variant.slot` says what a reader of the changed record finds for a field. -/

namespace TypeExport

open TypeExport.Tree

/-! ## Section 1: Fields -/

/-- What a piece of a descriptor stands for. -/
inductive Role where
  | module
  | decl
  | type
  | field
  | method
  | param
  | signature
  | enumMember
  /-- A text, a number or a truth value. -/
  | plain
  /-- A list of pieces of one role. -/
  | list (item : Role)

/-- A field of a record. -/
structure FieldRule where
  name : String
  role : Role
  /-- What the field holds when it is left out, if that is not nothing. -/
  default : Option Tree

namespace Role

/-- The fields of a signature; in a method they stand beside the others. -/
def signatureFields : List FieldRule :=
  [⟨"params", .list .param, some (.list [])⟩, ⟨"results", .list .type, some (.list [])⟩,
    ⟨"variadic", .plain, some (.bool false)⟩]

/-- The fields of a type of the given kind, beside its tag. -/
def kindFields : String → List FieldRule
  | "int" => [⟨"bits", .plain, some (.natural 64)⟩, ⟨"unsigned", .plain, some (.bool false)⟩]
  | "float" => [⟨"bits", .plain, some (.natural 64)⟩]
  | "complex" => [⟨"bits", .plain, some (.natural 128)⟩]
  | "slice" | "pointer" | "chan" => [⟨"elem", .type, none⟩]
  | "array" => [⟨"len", .plain, none⟩, ⟨"elem", .type, none⟩]
  | "map" => [⟨"key", .type, none⟩, ⟨"value", .type, none⟩]
  | "struct" => [⟨"fields", .list .field, some (.list [])⟩]
  | "interface" => [⟨"methods", .list .method, some (.list [])⟩]
  | "func" => [⟨"signature", .signature, none⟩]
  | "named" => [⟨"name", .plain, none⟩]
  | _ => []

/-- The kind that the tag of a record names. -/
def kindOfRecord (entries : List (String × Tree)) : String :=
  match soleValue? "kind" entries with
  | some (some (.text kind)) => kind
  | _ => ""

/-- The fields of a record with these entries. -/
def fields : Role → List (String × Tree) → List FieldRule
  | .module, _ => [⟨"package", .plain, none⟩, ⟨"types", .list .decl, some (.list [])⟩]
  | .decl, _ => [⟨"name", .plain, none⟩, ⟨"type", .type, none⟩, ⟨"docs", .plain, none⟩,
      ⟨"enum", .list .enumMember, none⟩]
  | .type, entries => ⟨"kind", .plain, none⟩ :: kindFields (kindOfRecord entries)
  | .field, _ => [⟨"name", .plain, none⟩, ⟨"type", .type, none⟩, ⟨"tag", .plain, none⟩]
  | .method, _ => ⟨"name", .plain, none⟩ :: signatureFields ++ [⟨"docs", .plain, none⟩]
  | .param, _ => [⟨"name", .plain, none⟩, ⟨"type", .type, none⟩]
  | .signature, _ => signatureFields
  | .enumMember, _ => [⟨"name", .plain, none⟩, ⟨"value", .plain, none⟩]
  | .plain, _ | .list _, _ => []

end Role

/-! ## Section 2: Variants -/

/-- The entries for names that have a field. -/
def knownEntries (rules : List FieldRule) (entries : List (String × Tree)) :
    List (String × Tree) :=
  entries.filter fun e => (rules.map (·.name)).contains e.1

mutual

/-- The second piece of data is another way to write the first one, which stands for something of
    the given role. -/
inductive Variant : Role → Tree → Tree → Prop
  | text {s} : Variant .plain (.text s) (.text s)
  | natural {n} : Variant .plain (.natural n) (.natural n)
  | bool {b} : Variant .plain (.bool b) (.bool b)
  | list {item ts us} (h : VariantItems item ts us) : Variant (.list item) (.list ts) (.list us)
  /-- Some of the written fields are kept.  They may stand in any order, and between any entries for
      other names. -/
  | record {role written kept entries} (h : VariantFields (role.fields written) written kept)
    (hdistinct : (kept.map (·.1)).Nodup)
    (hknown : (knownEntries (role.fields written) entries).Perm kept)
    (hother : ∀ e ∈ entries, e.1 ∉ (role.fields written).map (·.name) → e.2.isReadable = true) :
    Variant role (.record written) (.record entries)

inductive VariantItems : Role → List Tree → List Tree → Prop
  | nil {item} : VariantItems item [] []
  | cons {item t u ts us} (h : Variant item t u) (hs : VariantItems item ts us) :
    VariantItems item (t :: ts) (u :: us)

/-- The second list has the fields of the first one that are kept, in their order. -/
inductive VariantFields : List FieldRule → List (String × Tree) → List (String × Tree) → Prop
  | nil {rules} : VariantFields rules [] []
  | keep {rules rule t u written kept} (hrule : rule ∈ rules) (h : Variant rule.role t u)
    (hs : VariantFields rules written kept) :
    VariantFields rules ((rule.name, t) :: written) ((rule.name, u) :: kept)
  /-- A field that holds its default may be left out. -/
  | leaveOut {rules rule t written kept} (hrule : rule ∈ rules) (h : rule.default = some t)
    (hs : VariantFields rules written kept) :
    VariantFields rules ((rule.name, t) :: written) kept

end

/-! ## Section 3: What is found in a variant -/

namespace Tree

/-- What is found for a field does not depend on the order of the entries. -/
theorem soleValue?_eq_of_perm {name : String} {entries others : List (String × Tree)}
    (h : (entries.filter (·.1 == name)).Perm (others.filter (·.1 == name))) :
    soleValue? name entries = soleValue? name others := by
  unfold soleValue?
  generalize entries.filter (·.1 == name) = es at h
  generalize others.filter (·.1 == name) = fs at h
  match es, h with
  | [], h => rw [h.symm.eq_nil]
  | [e], h => rw [List.perm_singleton.mp h.symm]
  | _ :: _ :: _, h =>
    have hlength := h.length_eq
    match fs, hlength with
    | _ :: _ :: _, _ => rfl

theorem soleValue?_cons_ne {name key : String} (h : key ≠ name) (t : Tree)
    (entries : List (String × Tree)) :
    soleValue? name ((key, t) :: entries) = soleValue? name entries := by
  simp only [soleValue?, List.filter_cons, beq_eq_false_iff_ne.mpr h, Bool.false_eq_true, if_false]

/-- An entry that is found is the only one for its name. -/
theorem soleValue?_cons_self {key : String} {t : Tree} {entries : List (String × Tree)}
    {s : Option Tree} :
    soleValue? key ((key, t) :: entries) = some s ↔
      soleValue? key entries = some none ∧ s = some t := by
  simp only [soleValue?, List.filter_cons, beq_self_eq_true, if_true]
  generalize entries.filter (·.1 == key) = found
  match found with
  | [] => exact ⟨fun h => ⟨rfl, (Option.some.inj h).symm⟩, fun ⟨_, h⟩ => congrArg some h.symm⟩
  | [_] => exact ⟨nofun, fun ⟨h, _⟩ => absurd (Option.some.inj h) (Option.some_ne_none _)⟩
  | _ :: _ :: _ => exact ⟨nofun, fun ⟨h, _⟩ => absurd h.symm (Option.some_ne_none _)⟩

/-- What is found for a field among all entries is found among those for fields. -/
theorem soleValue?_knownEntries {rules : List FieldRule} {rule : FieldRule} (h : rule ∈ rules)
    (entries : List (String × Tree)) :
    soleValue? rule.name (knownEntries rules entries) = soleValue? rule.name entries := by
  refine soleValue?_eq_of_perm ?_
  have hname : rule.name ∈ rules.map (·.name) := List.mem_map_of_mem h
  have hfilter : ∀ e : String × Tree,
      (e.1 == rule.name && (rules.map (·.name)).contains e.1) = (e.1 == rule.name) := by
    intro e
    by_cases he : e.1 = rule.name
    · rw [he, List.contains_iff_mem.mpr hname, Bool.and_true]
    · rw [beq_eq_false_iff_ne.mpr he, Bool.false_and]
  rw [knownEntries, List.filter_filter]
  simp only [hfilter]
  exact .refl _

end Tree

/-- What a field may become in a variant: it stays missing, it stays with a variant of what it
    holds, or it is left out because it holds its default. -/
inductive VariantSlot (rule : FieldRule) : Option Tree → Option Tree → Prop
  | missing : VariantSlot rule none none
  | kept {t u} (h : Variant rule.role t u) : VariantSlot rule (some t) (some u)
  | leftOut {t} (h : rule.default = some t) : VariantSlot rule (some t) none

/-- Fields that have the same name are the same. -/
theorem eq_of_rule_name {rules : List FieldRule} (h : (rules.map (·.name)).Nodup)
    {rule rule' : FieldRule} (hrule : rule ∈ rules) (hrule' : rule' ∈ rules)
    (hname : rule.name = rule'.name) : rule = rule' :=
  List.inj_on_of_nodup_map h hrule hrule' hname

/-- What is found for a field among the kept fields. -/
theorem VariantFields.slot {rules : List FieldRule} (hrules : (rules.map (·.name)).Nodup)
    {rule : FieldRule} (hrule : rule ∈ rules) {written kept : List (String × Tree)}
    (h : VariantFields rules written kept) {s : Option Tree}
    (hs : soleValue? rule.name written = some s) :
    ∃ s', soleValue? rule.name kept = some s' ∧ VariantSlot rule s s' := by
  induction written generalizing kept s with
  | nil =>
    cases h with
    | nil =>
      obtain rfl : none = s := Option.some.inj hs
      exact ⟨none, rfl, .missing⟩
  | cons e rest ih =>
    cases h with
    | @keep _ rule' t u _ kept hrule' h hrest =>
      by_cases hname : rule'.name = rule.name
      · -- The value of the slot is this one, and there is no other.
        obtain rfl := eq_of_rule_name hrules hrule' hrule hname
        obtain ⟨hnone, rfl⟩ := soleValue?_cons_self.mp hs
        obtain ⟨s', hs', hslot⟩ := ih hrest hnone
        cases hslot with
        | missing => exact ⟨some u, soleValue?_cons_self.mpr ⟨hs', rfl⟩, .kept h⟩
      · rw [soleValue?_cons_ne hname] at hs ⊢
        exact ih hrest hs
    | @leaveOut _ rule' t _ _ hrule' h hrest =>
      -- An entry that is left out has a default, so its slot becomes empty.
      by_cases hname : rule'.name = rule.name
      · obtain rfl := eq_of_rule_name hrules hrule' hrule hname
        obtain ⟨hnone, rfl⟩ := soleValue?_cons_self.mp hs
        obtain ⟨s', hs', hslot⟩ := ih hrest hnone
        cases hslot with
        | missing => exact ⟨none, hs', .leftOut h⟩
      · rw [soleValue?_cons_ne hname] at hs
        exact ih hrest hs

/-- No role has two fields of one name. -/
theorem Role.nodup_fields (role : Role) (entries : List (String × Tree)) :
    ((role.fields entries).map (·.name)).Nodup := by
  cases role with
  | type =>
    rw [fields]
    generalize kindOfRecord entries = kind
    unfold kindFields
    split <;> decide
  | list item => exact List.nodup_nil
  | _ =>
    simp only [fields, signatureFields]
    decide

/-- The tag of a type decides its other fields. -/
theorem Role.fields_type {written : List (String × Tree)} {kind : String}
    (h : soleValue? "kind" written = some (some (.text kind))) :
    Role.fields .type written = ⟨"kind", .plain, none⟩ :: kindFields kind := by
  rw [fields, kindOfRecord, h]

/-- What a reader of a variant finds for a field. -/
theorem Variant.slot {role : Role} {written : List (String × Tree)} {t : Tree}
    (h : Variant role (.record written) t) :
    ∃ entries, t = .record entries ∧ ∀ rule ∈ role.fields written, ∀ s,
      soleValue? rule.name written = some s →
        ∃ s', soleValue? rule.name entries = some s' ∧ VariantSlot rule s s' := by
  cases h with
  | @record _ _ kept entries h _ hknown _ =>
    refine ⟨entries, rfl, fun rule hrule s hs => ?_⟩
    obtain ⟨s', hs', hslot⟩ := h.slot (role.nodup_fields written) hrule hs
    refine ⟨s', ?_, hslot⟩
    rw [← soleValue?_knownEntries hrule entries, ← hs']
    exact soleValue?_eq_of_perm (hknown.filter _)

inductive VariantSlots : List FieldRule → List (Option Tree) → List (Option Tree) → Prop
  | nil : VariantSlots [] [] []
  | cons {rule rules s ss s' ss'} (h : VariantSlot rule s s') (hs : VariantSlots rules ss ss') :
    VariantSlots (rule :: rules) (s :: ss) (s' :: ss')

/-- What a reader of a variant finds for several fields. -/
theorem Variant.slots {role : Role} {written : List (String × Tree)} {t : Tree}
    (h : Variant role (.record written) t) {rules : List FieldRule}
    (hrules : ∀ rule ∈ rules, rule ∈ role.fields written) {lenient : Bool}
    {ss : List (Option Tree)}
    (hss : (Tree.record written).slots (rules.map (·.name)) lenient = some ss) :
    ∃ ss', t.slots (rules.map (·.name)) lenient = some ss' ∧ VariantSlots rules ss ss' := by
  obtain ⟨entries, rfl, hfind⟩ := h.slot
  simp only [Tree.slots] at hss ⊢
  induction rules generalizing ss with
  | nil =>
    obtain rfl : [] = ss := Option.some.inj hss
    exact ⟨[], rfl, .nil⟩
  | cons rule rules ih =>
    obtain ⟨hrule, hrules⟩ := List.forall_mem_cons.mp hrules
    rw [List.map_cons, List.mapM_cons] at hss ⊢
    simp only [bind, Option.bind_eq_some_iff, pure, Option.some.injEq] at hss
    -- The slots are found one by one, so each is what became of its own field.
    obtain ⟨s, hs, ss, hss, rfl⟩ := hss
    obtain ⟨s', hs', hslot⟩ := hfind rule hrule s hs
    obtain ⟨ss', hss', hslots⟩ := ih hrules hss
    refine ⟨s' :: ss', ?_, .cons hslot hslots⟩
    rw [hs', hss']
    rfl

section few

variable {r₁ r₂ r₃ : FieldRule} {s₁ s₂ s₃ : Option Tree} {ss : List (Option Tree)}

theorem VariantSlots.one (h : VariantSlots [r₁] [s₁] ss) :
    ∃ x, ss = [x] ∧ VariantSlot r₁ s₁ x := by
  cases h with | cons h₁ h =>
  cases h
  exact ⟨_, rfl, h₁⟩

theorem VariantSlots.two (h : VariantSlots [r₁, r₂] [s₁, s₂] ss) :
    ∃ x y, ss = [x, y] ∧ VariantSlot r₁ s₁ x ∧ VariantSlot r₂ s₂ y := by
  cases h with | cons h₁ h =>
  obtain ⟨y, rfl, h₂⟩ := h.one
  exact ⟨_, y, rfl, h₁, h₂⟩

theorem VariantSlots.three (h : VariantSlots [r₁, r₂, r₃] [s₁, s₂, s₃] ss) :
    ∃ x y z, ss = [x, y, z] ∧ VariantSlot r₁ s₁ x ∧ VariantSlot r₂ s₂ y ∧
      VariantSlot r₃ s₃ z := by
  cases h with | cons h₁ h =>
  obtain ⟨y, z, rfl, h₂, h₃⟩ := h.two
  exact ⟨_, y, z, rfl, h₁, h₂, h₃⟩

end few

/-! ## Section 4: What a reader makes of it -/

namespace VariantSlot

variable {name : String} {x : Option Tree}

/-- A text that has to be there. -/
theorem text {s : String} (h : VariantSlot ⟨name, .plain, none⟩ (some (.text s)) x) :
    x = some (.text s) := by
  cases h with
  | kept h => cases h; rfl
  | leftOut h => cases h

theorem natural {n : Nat} (h : VariantSlot ⟨name, .plain, none⟩ (some (.natural n)) x) :
    x = some (.natural n) := by
  cases h with
  | kept h => cases h; rfl
  | leftOut h => cases h

/-- A text that may be missing. -/
theorem optionalText {s : Option String}
    (h : VariantSlot ⟨name, .plain, none⟩ (s.map .text) x) : optionalText x = some s := by
  cases s with
  | none => cases h; rfl
  | some s => rw [h.text, Tree.optionalText]

theorem width {default bits : Nat} (hbits : bits < 256)
    (h : VariantSlot ⟨name, .plain, some (.natural default)⟩ (some (.natural bits)) x) :
    width default x = some bits := by
  cases h with
  | kept h => cases h; exact if_pos hbits
  | leftOut h => cases h; rfl

theorem flag {b : Bool} (h : VariantSlot ⟨name, .plain, some (.bool false)⟩ (some (.bool b)) x) :
    flag x = some b := by
  cases h with
  | kept h => cases h; rfl
  | leftOut h => cases h; rfl

/-- A piece that has to be there. -/
theorem piece {role : Role} {t : Tree} (h : VariantSlot ⟨name, role, none⟩ (some t) x) :
    ∃ u, x = some u ∧ Variant role t u := by
  cases h with
  | kept h => exact ⟨_, rfl, h⟩
  | leftOut h => cases h

/-- A list that is empty by default. -/
theorem items {item : Role} {ts : List Tree}
    (h : VariantSlot ⟨name, .list item, some (.list [])⟩ (some (.list ts)) x) :
    ∃ us, itemsOrNone x = some us ∧ VariantItems item ts us := by
  cases h with
  | kept h => cases h with | list h => exact ⟨_, rfl, h⟩
  | leftOut h => cases h; exact ⟨[], rfl, .nil⟩

end VariantSlot

/-- A tagged record keeps its tag, and what a reader finds for the fields of its kind. -/
theorem Variant.tagged {written : List (String × Tree)} {t : Tree} {kind : String}
    {ss : List (Option Tree)} (h : Variant .type (.record written) t)
    (hkind : soleValue? "kind" written = some (some (.text kind)))
    (hss : (Tree.record written).slots ((Role.kindFields kind).map (·.name)) false = some ss) :
    t.tagged? = some (.text kind, t) ∧
      ∃ ss', t.slots ((Role.kindFields kind).map (·.name)) false = some ss' ∧
        VariantSlots (Role.kindFields kind) ss ss' := by
  have hrules : ∀ rule ∈ Role.kindFields kind, rule ∈ Role.fields .type written := by
    rw [Role.fields_type hkind]
    exact fun rule => List.mem_cons_of_mem _
  refine ⟨?_, h.slots hrules hss⟩
  obtain ⟨entries, rfl, hfind⟩ := h.slot
  obtain ⟨s', hs', hslot⟩ := hfind ⟨"kind", .plain, none⟩ (List.mem_cons_self ..) _ hkind
  rw [hslot.text] at hs'
  rw [Tree.tagged?, hs']
  rfl

/-! ## Section 5: Variants are data like others -/

mutual

/-- Every piece of a variant denotes something. -/
theorem Variant.isReadable {role : Role} {t u : Tree} :
    Variant role t u → t.isReadable = true → u.isReadable = true
  | .text, _ | .natural, _ | .bool, _ => rfl
  | .list h, ht => by
    rw [Tree.isReadable] at ht ⊢
    exact areReadable_iff.mpr (h.isReadable (areReadable_iff.mp ht))
  | @Variant.record role written kept entries h _ hknown hother, ht => by
    rw [Tree.isReadable] at ht ⊢
    have hkept := h.isReadable (entriesReadable_iff.mp ht)
    refine entriesReadable_iff.mpr fun e he => ?_
    by_cases hname : e.1 ∈ (role.fields written).map (·.name)
    · refine hkept e (hknown.mem_iff.mp ?_)
      exact List.mem_filter.mpr ⟨he, List.contains_iff_mem.mpr hname⟩
    · exact hother e he hname

theorem VariantItems.isReadable {item : Role} {ts us : List Tree} :
    VariantItems item ts us → (∀ t ∈ ts, t.isReadable = true) → ∀ u ∈ us, u.isReadable = true
  | .nil, h => h
  | .cons h hs, ht => by
    obtain ⟨ht, hts⟩ := List.forall_mem_cons.mp ht
    exact List.forall_mem_cons.mpr ⟨h.isReadable ht, hs.isReadable hts⟩

theorem VariantFields.isReadable {rules : List FieldRule} {written kept : List (String × Tree)} :
    VariantFields rules written kept → (∀ e ∈ written, e.2.isReadable = true) →
      ∀ e ∈ kept, e.2.isReadable = true
  | .nil, h => h
  | .keep _ h hs, ht => by
    obtain ⟨ht, hts⟩ := List.forall_mem_cons.mp ht
    exact List.forall_mem_cons.mpr ⟨h.isReadable ht, hs.isReadable hts⟩
  | .leaveOut _ _ hs, ht => hs.isReadable (List.forall_mem_cons.mp ht).2

end

open Json.Value (throughValue throughValue_natural throughValue_list throughValue_record
  isReadable_toTree)

mutual

/-- A variant that goes through its value is a variant still. -/
theorem Variant.throughValue {role : Role} {t u : Tree} :
    Variant role t u → u.isReadable = true → Variant role t (throughValue u)
  | .text, _ => .text
  | .natural, _ => by
    rw [throughValue_natural]
    exact .natural
  | .bool, _ => .bool
  | .list h, hu => by
    rw [Tree.isReadable] at hu
    rw [throughValue_list hu]
    exact .list (h.throughValue (areReadable_iff.mp hu))
  | @Variant.record role written kept entries h hdistinct hknown hother, hu => by
    rw [Tree.isReadable] at hu
    have hreadable := entriesReadable_iff.mp hu
    -- Of keys that stand twice the last counts, but fields stand once.
    have hnodup : ((knownEntries (role.fields written) entries).map (·.1)).Nodup :=
      (hknown.map _).nodup_iff.mpr hdistinct
    obtain ⟨entries', hthrough, hknown'⟩ := throughValue_record hu hnodup
    have hout : Tree.isReadable (.record entries') = true := hthrough ▸ isReadable_toTree _
    rw [hthrough]
    refine .record (h.throughValue fun e he => ?_) ?_ (hknown'.trans (hknown.map _)) ?_
    · exact hreadable e (List.mem_filter.mp (hknown.mem_iff.mpr he)).1
    · rw [List.map_map]
      exact hdistinct
    · rw [Tree.isReadable] at hout
      exact fun e he _ => entriesReadable_iff.mp hout e he

theorem VariantItems.throughValue {item : Role} {ts us : List Tree} :
    VariantItems item ts us → (∀ u ∈ us, u.isReadable = true) →
      VariantItems item ts (us.map Json.Value.throughValue)
  | .nil, _ => .nil
  | .cons h hs, hu => by
    obtain ⟨hu, hus⟩ := List.forall_mem_cons.mp hu
    exact .cons (h.throughValue hu) (hs.throughValue hus)

theorem VariantFields.throughValue {rules : List FieldRule}
    {written kept : List (String × Tree)} :
    VariantFields rules written kept → (∀ e ∈ kept, e.2.isReadable = true) →
      VariantFields rules written (kept.map fun e => (e.1, Json.Value.throughValue e.2))
  | .nil, _ => .nil
  | .keep hrule h hs, hk => by
    obtain ⟨hk, hks⟩ := List.forall_mem_cons.mp hk
    exact .keep hrule (h.throughValue hk) (hs.throughValue hks)
  | .leaveOut hrule h hs, hk => .leaveOut hrule h (hs.throughValue hk)

end

end TypeExport
