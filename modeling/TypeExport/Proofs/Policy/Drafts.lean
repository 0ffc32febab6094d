import Mathlib
import TypeExport.Policy.ExtractPolicy

/-! # Drafts Hold What Was Set Last

    A draft has one slot for each choice, and a setting writes into one slot or two.  Settings of
    different kinds may write into the same slot: a namer of declarations and a casing, an order and
    the alphabetical one, and the setting that promotes anonymous structs and gives their namer at
    once writes into the slots of both.

    So the history of a draft is of no interest but for the last thing written into each slot.
    `ofSettings_eq` says that a draft is made of these; everything else here looks at them alone. -/

namespace TypeExport

/-! ## Section 1: Slots -/

inductive PolicySlot where
  | embedStructs
  | followStructs
  | nameAnonStructs
  | anonNamer
  | typeNamer
  | sort
  | enums
  | docs
  | preserveParamNames
  deriving Repr, DecidableEq

/-- What can be written into a slot. -/
def PolicySlot.Value : PolicySlot → Type
  | .embedStructs | .followStructs | .nameAnonStructs | .preserveParamNames => Bool
  | .anonNamer => HostField → String
  | .typeNamer => TypeDecl → String
  | .sort => SortOrder
  | .enums => EnumProvider
  | .docs => DocProvider

/-- What a setting writes into a slot, if it writes into it at all. -/
def PolicySetting.written : PolicySetting → (slot : PolicySlot) → Option slot.Value
  | .embedStructs on, .embedStructs => some on
  | .followStructs on, .followStructs => some on
  | .nameAnonStructs on, .nameAnonStructs => some on
  | .anonNamer namer, .anonNamer => some namer
  | .nameAnonStructsWith _, .nameAnonStructs => some true
  | .nameAnonStructsWith namer, .anonNamer => some namer
  | .typeNamer namer, .typeNamer => some namer
  | .typeNaming style, .typeNamer => some style.typeNamer
  | .sort order, .sort => some order
  | .sortAlphabetically, .sort => some .alphabetical
  | .enums provider, .enums => some provider
  | .docs provider, .docs => some provider
  | .preserveParamNames on, .preserveParamNames => some on
  | _, _ => none

/-- What was written last into a slot, if anything was. -/
def lastWritten (settings : List PolicySetting) (slot : PolicySlot) : Option slot.Value :=
  settings.reverse.findSome? (·.written slot)

/-- The two settings have no slot in common. -/
def PolicySetting.Apart (a b : PolicySetting) : Prop :=
  ∀ slot, a.written slot = none ∨ b.written slot = none

variable {settings : List PolicySetting} {slot : PolicySlot}

theorem lastWritten_append (before after : List PolicySetting) :
    lastWritten (before ++ after) slot =
      (lastWritten after slot).or (lastWritten before slot) := by
  rw [lastWritten, List.reverse_append, List.findSome?_append]
  rfl

theorem lastWritten_cons (x : PolicySetting) (after : List PolicySetting) :
    lastWritten (x :: after) slot = (lastWritten after slot).or (x.written slot) := by
  simp [lastWritten]

/-- Nothing is in a slot that no setting writes into. -/
theorem lastWritten_eq_none_iff :
    lastWritten settings slot = none ↔ ∀ x ∈ settings, x.written slot = none := by
  simp [lastWritten]

/-- Neighbours without a common slot may change places. -/
theorem PolicySetting.Apart.lastWritten_swap {a b : PolicySetting} (h : a.Apart b)
    (before after : List PolicySetting) :
    lastWritten (before ++ b :: a :: after) slot =
      lastWritten (before ++ a :: b :: after) slot := by
  simp only [lastWritten_append, lastWritten_cons]
  rcases h slot with ha | hb
  · simp only [ha, Option.or_none]
  · simp only [hb, Option.or_none]

/-! ## Section 2: Drafts -/

namespace PolicyDraft

/-- The draft with these contents, and with defaults in the slots that are empty. -/
def ofSlots (last : (slot : PolicySlot) → Option slot.Value) : PolicyDraft where
  embedStructs := (last .embedStructs).getD false
  followStructs := (last .followStructs).getD false
  nameAnonStructs := (last .nameAnonStructs).getD false
  anonNamer := last .anonNamer
  typeNamer := last .typeNamer
  sort := (last .sort).getD .discovery
  enums := last .enums
  docs := last .docs
  preserveParamNames := (last .preserveParamNames).getD false

/-- A setting replaces what is in its slots and leaves the others alone. -/
theorem set_ofSlots (last : (slot : PolicySlot) → Option slot.Value) (x : PolicySetting) :
    (ofSlots last).set x = ofSlots fun slot => (x.written slot).or (last slot) := by
  cases x <;> rfl

/-- A draft holds what was written last into each of its slots. -/
theorem ofSettings_eq (settings : List PolicySetting) :
    ofSettings settings = ofSlots (lastWritten settings) := by
  induction settings using List.reverseRecOn with
  | nil => rfl
  | append_singleton settings x ih =>
    have hset : ofSettings (settings ++ [x]) = (ofSettings settings).set x := by
      rw [ofSettings, List.foldl_concat, ofSettings]
    have hlast : lastWritten (settings ++ [x]) =
        fun slot => (x.written slot).or (lastWritten settings slot) := by
      funext slot
      rw [lastWritten_append, lastWritten_cons]
      rfl
    rw [hset, ih, set_ofSlots, hlast]

/-! ## Section 3: Policies -/

theorem follow_of_embed (d : PolicyDraft) (h : d.embedStructs = true) :
    (d.followStructs || d.embedStructs) = true := by
  rw [h, Bool.or_true]

/-- The policy of a draft, if it is not the namer of anonymous structs that is missing. -/
def policy (d : PolicyDraft) : ExtractPolicy where
  embedStructs := d.embedStructs
  followStructs := d.followStructs || d.embedStructs
  anonNamer := if d.nameAnonStructs then d.anonNamer else none
  typeNamer := d.typeNamer.getD CaseStyle.upperCamel.typeNamer
  sort := d.sort
  enums := d.enums
  docs := d.docs.getD .none
  preserveParamNames := d.preserveParamNames
  follow_of_embed := d.follow_of_embed

theorem build_eq (d : PolicyDraft) : d.build =
    if d.nameAnonStructs = true ∧ d.anonNamer = none then .error .missingAnonNamer
    else .ok d.policy := by
  unfold build chosenAnonNamer policy
  cases d.nameAnonStructs with
  | false => rfl
  | true => cases d.anonNamer <;> rfl

variable {d : PolicyDraft} {p : ExtractPolicy}

/-- Only the namer of anonymous structs can be missing. -/
theorem build_eq_error_iff {e : PolicyError} : d.build = .error e ↔
    e = .missingAnonNamer ∧ d.nameAnonStructs = true ∧ d.anonNamer = none := by
  rw [build_eq]
  by_cases hmissing : d.nameAnonStructs = true ∧ d.anonNamer = none
  · rw [if_pos hmissing, Except.error.injEq, eq_comm, and_iff_left hmissing]
  · rw [if_neg hmissing]
    exact iff_of_false (by simp) fun h => hmissing h.2

theorem build_eq_ok_iff : d.build = .ok p ↔
    (d.nameAnonStructs = true → d.anonNamer ≠ none) ∧ p = d.policy := by
  rw [build_eq, ← not_and]
  by_cases hmissing : d.nameAnonStructs = true ∧ d.anonNamer = none
  · rw [if_pos hmissing]
    exact iff_of_false (by simp) fun h => h.1 hmissing
  · rw [if_neg hmissing, Except.ok.injEq, eq_comm, and_iff_right hmissing]

/-- A draft that can be built promotes anonymous structs if and only if it has a namer for them. -/
theorem isSome_anonNamer_policy (h : d.nameAnonStructs = true → d.anonNamer ≠ none) :
    d.policy.anonNamer.isSome = d.nameAnonStructs := by
  unfold policy
  cases hflag : d.nameAnonStructs with
  | false => rfl
  | true => exact Option.isSome_iff_ne_none.mpr (h hflag)

/-- The namer that counts is the one that was given. -/
theorem anonNamer_of_policy {namer : HostField → String} (h : d.policy.anonNamer = some namer) :
    d.anonNamer = some namer :=
  (Option.ite_none_right_eq_some.mp h).2

end PolicyDraft

/-! ## Section 4: Histories -/

/-- The choices of a policy are what was written last into the slots, and defaults where nothing
    was.  Embedding includes following, and a namer of anonymous structs counts if they are
    promoted. -/
structure ExtractPolicy.Reflects (p : ExtractPolicy)
    (last : (slot : PolicySlot) → Option slot.Value) : Prop where
  embedStructs : p.embedStructs = true ↔ last .embedStructs = some true
  followStructs : p.followStructs = true ↔
    last .followStructs = some true ∨ last .embedStructs = some true
  isSome_anonNamer : p.anonNamer.isSome = true ↔ last .nameAnonStructs = some true
  anonNamer : ∀ namer, p.anonNamer = some namer → last .anonNamer = some namer
  typeNamer : p.typeNamer = (last .typeNamer).getD CaseStyle.upperCamel.typeNamer
  sort : p.sort = (last .sort).getD .discovery
  enums : p.enums = last .enums
  docs : p.docs = (last .docs).getD .none
  preserveParamNames : p.preserveParamNames = true ↔ last .preserveParamNames = some true

namespace PolicyDraft

theorem getD_false_eq_true_iff {o : Option Bool} : o.getD false = true ↔ o = some true := by
  cases o <;> simp

theorem reflects_policy {last : (slot : PolicySlot) → Option slot.Value}
    (h : (ofSlots last).nameAnonStructs = true → (ofSlots last).anonNamer ≠ none) :
    (ofSlots last).policy.Reflects last where
  embedStructs := getD_false_eq_true_iff
  followStructs :=
    Bool.or_eq_true_iff.trans (or_congr getD_false_eq_true_iff getD_false_eq_true_iff)
  isSome_anonNamer := by
    rw [isSome_anonNamer_policy h]
    exact getD_false_eq_true_iff
  anonNamer _ := anonNamer_of_policy
  typeNamer := rfl
  sort := rfl
  enums := rfl
  docs := rfl
  preserveParamNames := getD_false_eq_true_iff

/-- A policy depends on what was set last in each slot and on nothing else in the history of its
    draft, so settings without a common slot may change places.  There is none if and only if
    anonymous structs are to be promoted in the end and no namer was ever given, and where there is
    one it reflects what was set last. -/
theorem build_last_written (settings : List PolicySetting) :
    (∀ others, (∀ slot, lastWritten others slot = lastWritten settings slot) →
      (ofSettings others).build = (ofSettings settings).build) ∧
    (∀ before a b after, settings = before ++ a :: b :: after → a.Apart b →
      (ofSettings (before ++ b :: a :: after)).build = (ofSettings settings).build) ∧
    (∀ e, (ofSettings settings).build = .error e ↔ e = .missingAnonNamer ∧
      lastWritten settings .nameAnonStructs = some true ∧
      ∀ x ∈ settings, x.written .anonNamer = none) ∧
    ∀ p, (ofSettings settings).build = .ok p → p.Reflects (lastWritten settings) := by
  -- The draft is its last writes, and nothing else is looked at.
  have hsame : ∀ others, (∀ slot, lastWritten others slot = lastWritten settings slot) →
      (ofSettings others).build = (ofSettings settings).build := by
    intro others h
    rw [ofSettings_eq, ofSettings_eq, funext h]
  refine ⟨hsame, ?_, ?_, ?_⟩
  · rintro before a b after rfl hapart
    exact hsame _ fun slot => hapart.lastWritten_swap before after
  · intro e
    rw [ofSettings_eq, build_eq_error_iff, ← lastWritten_eq_none_iff]
    exact and_congr_right' (and_congr_left' getD_false_eq_true_iff)
  · intro p h
    rw [ofSettings_eq, build_eq_ok_iff] at h
    obtain ⟨hnamer, rfl⟩ := h
    exact reflects_policy hnamer

example : (ofSettings []).build = .ok .default := rfl

/-- A draft on which following is switched off after embedding was switched on, and promoting after
    a namer was given; the namer of declarations and the order are replaced. -/
def revisedSettings : List PolicySetting := [
  .embedStructs true, .followStructs false, .nameAnonStructsWith CaseStyle.snake.fieldNamer,
  .typeNaming .snake, .sortAlphabetically, .typeNamer (·.name), .nameAnonStructs false,
  .sort .discovery]

/-- What counts of these settings, in another order. -/
def lastSettings : List PolicySetting := [
  .sort .discovery, .typeNamer (·.name), .nameAnonStructs false,
  .anonNamer CaseStyle.snake.fieldNamer, .followStructs false, .embedStructs true]

/-- The settings with the first two of them in the other order. -/
def swappedSettings : List PolicySetting :=
  .followStructs false :: .embedStructs true :: revisedSettings.drop 2

theorem revisedSettings_build :
    (∀ slot, lastWritten lastSettings slot = lastWritten revisedSettings slot) ∧
      (PolicySetting.embedStructs true).Apart (.followStructs false) ∧
      (ofSettings lastSettings).build = (ofSettings revisedSettings).build ∧
      (ofSettings swappedSettings).build = (ofSettings revisedSettings).build ∧
      (ofSettings [.nameAnonStructs true]).build = .error .missingAnonNamer ∧
      ∃ p, (ofSettings revisedSettings).build = .ok p ∧ p.Reflects (lastWritten revisedSettings) ∧
        p.followStructs = true ∧ p.anonNamer = none := by
  have hlast : ∀ slot, lastWritten lastSettings slot = lastWritten revisedSettings slot := by
    intro slot
    cases slot <;> rfl
  have hapart : (PolicySetting.embedStructs true).Apart (.followStructs false) := by
    intro slot
    cases slot <;> simp [PolicySetting.written]
  have hbuild : (ofSettings revisedSettings).build = .ok (ofSettings revisedSettings).policy := rfl
  obtain ⟨hothers, hswap, -, hreflects⟩ := build_last_written revisedSettings
  refine ⟨hlast, hapart, hothers _ hlast, hswap [] _ _ _ rfl hapart, ?_, _, hbuild,
    hreflects _ hbuild, rfl, rfl⟩
  refine ((build_last_written _).2.2.1 _).mpr ⟨rfl, rfl, fun x hx => ?_⟩
  obtain rfl := List.mem_singleton.mp hx
  rfl

end PolicyDraft

end TypeExport
