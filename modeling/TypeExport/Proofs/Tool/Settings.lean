import Mathlib
import TypeExport.Proofs.Policy.Drafts
import TypeExport.Tool.Settings

/-! # Settings and Arguments

    Settings are switches and choices.  `isOn` and `value` look at them one at a time, and at the
    arguments of a call in the same way, where a choice may be left open.  So merging becomes a
    disjunction for every switch and a replacement for every choice, and two merged settings are the
    same if they are in each of these (`Settings.ext_of`).

    Merged settings always make a policy: promoting anonymous structs is only ever asked for
    together with a way to name them.  They also make a preamble of two parts, and both of them end
    their last line, whatever the texts given for them. -/

namespace TypeExport.Tool

/-! ## Section 1: Switches and choices -/

/-- The settings that are on or off. -/
inductive Switch where
  | followStructs
  | embedStructs
  | nameAnonStructs
  | enums
  | docs
  | preserveParamNames
  | enumsAsSumTypes
  deriving Repr, DecidableEq

/-- The settings that have a value. -/
inductive Choice where
  | anonStructNaming
  | typeNaming
  | sort
  | namespaceName
  | preamble
  | additionalPreamble
  deriving Repr, DecidableEq

def Choice.Value : Choice → Type
  | .anonStructNaming => AnonStructNaming
  | .typeNaming => CaseStyle
  | .sort => SortKey
  | .namespaceName | .preamble | .additionalPreamble => Option String

def Settings.isOn (s : Settings) : Switch → Bool
  | .followStructs => s.extract.followStructs
  | .embedStructs => s.extract.embedStructs
  | .nameAnonStructs => s.extract.nameAnonStructs
  | .enums => s.extract.enums
  | .docs => s.extract.docs
  | .preserveParamNames => s.extract.preserveParamNames
  | .enumsAsSumTypes => s.render.enumsAsSumTypes

def Settings.value (s : Settings) : (c : Choice) → c.Value
  | .anonStructNaming => s.extract.anonStructNaming
  | .typeNaming => s.extract.typeNaming
  | .sort => s.extract.sort
  | .namespaceName => s.render.namespaceName
  | .preamble => s.render.preamble
  | .additionalPreamble => s.render.additionalPreamble

def Arguments.isOn (args : Arguments) : Switch → Bool
  | .followStructs => args.followStructs
  | .embedStructs => args.embedStructs
  | .nameAnonStructs => args.nameAnonStructs
  | .enums => args.enums
  | .docs => args.docs
  | .preserveParamNames => args.preserveParamNames
  | .enumsAsSumTypes => args.enumsAsSumTypes

/-- The value that arguments give to a choice.  How anonymous structs are named is left to the
    settings. -/
def Arguments.value? (args : Arguments) : (c : Choice) → Option c.Value
  | .anonStructNaming => none
  | .typeNaming => args.typeNaming
  | .sort => args.sort
  | .namespaceName => args.namespaceName.map some
  | .preamble => args.preamble.map some
  | .additionalPreamble => args.additionalPreamble.map some

namespace Settings

variable {s s' : Settings} {args : Arguments}

/-- There is nothing in settings but their switches and choices. -/
theorem ext_of (hon : ∀ w, s.isOn w = s'.isOn w) (hvalue : ∀ c, s.value c = s'.value c) :
    s = s' := by
  obtain ⟨⟨follow, embed, nameAnon, naming, typeNaming, sort, enums, docs, preserve⟩,
    ⟨name, preamble, additional, sumTypes⟩⟩ := s
  obtain rfl : follow = _ := hon .followStructs
  obtain rfl : embed = _ := hon .embedStructs
  obtain rfl : nameAnon = _ := hon .nameAnonStructs
  obtain rfl : naming = _ := hvalue .anonStructNaming
  obtain rfl : typeNaming = _ := hvalue .typeNaming
  obtain rfl : sort = _ := hvalue .sort
  obtain rfl : enums = _ := hon .enums
  obtain rfl : docs = _ := hon .docs
  obtain rfl : preserve = _ := hon .preserveParamNames
  obtain rfl : name = _ := hvalue .namespaceName
  obtain rfl : preamble = _ := hvalue .preamble
  obtain rfl : additional = _ := hvalue .additionalPreamble
  obtain rfl : sumTypes = _ := hon .enumsAsSumTypes
  rfl

/-! ## Section 2: Merging -/

theorem isOn_apply (w : Switch) : (s.apply args).isOn w = (s.isOn w || args.isOn w) := by
  cases w <;> rfl

theorem getD_map_some {α : Type} (given held : Option α) :
    (given <|> held) = (given.map some).getD held := by
  cases given <;> rfl

theorem value_apply (c : Choice) :
    (s.apply args).value c = (args.value? c).getD (s.value c) := by
  cases c with
  | anonStructNaming | typeNaming | sort => rfl
  | namespaceName | preamble | additionalPreamble => exact getD_map_some _ _

/-- Arguments change nothing if they say what the settings say already. -/
theorem apply_eq_self_iff : s.apply args = s ↔
    (∀ w, args.isOn w = true → s.isOn w = true) ∧
      ∀ c v, args.value? c = some v → s.value c = v := by
  constructor
  · intro h
    refine ⟨fun w hw => ?_, fun c v hv => ?_⟩
    · rw [← h, isOn_apply, hw, Bool.or_true]
    · rw [← h, value_apply, hv, Option.getD_some]
  · rintro ⟨hon, hvalue⟩
    refine ext_of (fun w => ?_) fun c => ?_
    · rw [isOn_apply]
      cases hw : args.isOn w with
      | false => exact Bool.or_false _
      | true => rw [hon w hw, Bool.or_true]
    · rw [value_apply]
      cases hv : args.value? c with
      | none => rfl
      | some v => exact (hvalue c v hv).symm

/-- Saying something again adds nothing. -/
theorem apply_apply : (s.apply args).apply args = s.apply args := by
  refine apply_eq_self_iff.mpr ⟨fun w hw => ?_, fun c v hv => ?_⟩
  · rw [isOn_apply, hw, Bool.or_true]
  · rw [value_apply, hv, Option.getD_some]

/-- Saying nothing adds nothing. -/
theorem apply_of_silent (hon : ∀ w, args.isOn w = false) (hvalue : ∀ c, args.value? c = none) :
    s.apply args = s :=
  apply_eq_self_iff.mpr ⟨fun w hw => absurd (hw.symm.trans (hon w)) (by simp),
    fun c _ hv => absurd (hv.symm.trans (hvalue c)) (by simp)⟩

/-! ## Section 3: Policies -/

/-- The draft that settings are written to. -/
def draft (s : Settings) : PolicyDraft where
  embedStructs := s.isOn .embedStructs
  followStructs := s.isOn .followStructs
  nameAnonStructs := s.isOn .nameAnonStructs
  anonNamer := if s.isOn .nameAnonStructs then some s.extract.anonStructNaming.namer else none
  typeNamer := some s.extract.typeNaming.typeNamer
  sort := if s.extract.sort = .alphabetical then .alphabetical else .discovery
  enums := if s.isOn .enums then some .declared else none
  docs := if s.isOn .docs then some .declared else none
  preserveParamNames := s.isOn .preserveParamNames

theorem ofSettings_policySettings : PolicyDraft.ofSettings s.extract.policySettings = s.draft := by
  obtain ⟨⟨follow, embed, nameAnon, naming, typeNaming, sort, enums, docs, preserve⟩, render⟩ := s
  cases nameAnon <;> cases sort <;> cases enums <;> cases docs <;> rfl

/-- The choices of a policy are those that the settings stand for.  Embedding includes following,
    and anonymous structs are promoted by the namer of the settings. -/
structure Means (s : Settings) (p : ExtractPolicy) : Prop where
  embedStructs : p.embedStructs = s.isOn .embedStructs
  followStructs : p.followStructs = (s.isOn .followStructs || s.isOn .embedStructs)
  anonNamer : p.anonNamer =
    if s.isOn .nameAnonStructs then some s.extract.anonStructNaming.namer else none
  typeNamer : p.typeNamer = s.extract.typeNaming.typeNamer
  sort : p.sort = if s.extract.sort = .alphabetical then .alphabetical else .discovery
  enums : p.enums = if s.isOn .enums then some .declared else none
  docs : p.docs = if s.isOn .docs then .declared else .none
  preserveParamNames : p.preserveParamNames = s.isOn .preserveParamNames

/-- Settings always make a policy: there is a namer of anonymous structs whenever they are to be
    promoted. -/
theorem exists_policy (s : Settings) : ∃ p, s.policy = .ok p ∧ s.Means p := by
  -- The draft has a namer whenever it promotes, so building it cannot fail.
  have hnamer : s.draft.nameAnonStructs = true → s.draft.anonNamer ≠ none := by
    intro hon
    rw [show s.draft.anonNamer = some s.extract.anonStructNaming.namer from if_pos hon]
    exact Option.some_ne_none _
  refine ⟨s.draft.policy, ?_, ?_⟩
  · rw [policy, ofSettings_policySettings, PolicyDraft.build_eq_ok_iff]
    exact ⟨hnamer, rfl⟩
  · exact {
      embedStructs := rfl
      followStructs := rfl
      anonNamer := by cases hon : s.isOn .nameAnonStructs <;> simp [draft, PolicyDraft.policy, hon]
      typeNamer := rfl
      sort := rfl
      enums := rfl
      docs := by cases hon : s.isOn .docs <;> simp [draft, PolicyDraft.policy, hon]
      preserveParamNames := rfl }

end Settings

/-! ## Section 4: Preambles -/

/-- A text without an open line: it has no line at all, or its last line is ended. -/
def EndsLines (text : String) : Prop := text = "" ∨ ∃ before, text = before ++ "\n"

/-- How a text comes from the one given for it, if any.  A given text takes the place of the default
    and has its last line ended. -/
inductive Supplied (default : String) : Option String → String → Prop where
  | default : Supplied default none default
  | asGiven {text : String} : EndsLines text → Supplied default (some text) text
  | ended {text : String} : ¬EndsLines text → Supplied default (some text) (text ++ "\n")

variable {text left right : String}

theorem endsLines_iff : EndsLines text ↔ text = "" ∨ text.toList.getLast? = some '\n' := by
  refine or_congr_right ⟨?_, fun hlast => ?_⟩
  · rintro ⟨before, rfl⟩
    rw [String.toList_append]
    exact List.getLast?_concat
  · obtain ⟨before, hbefore⟩ := List.getLast?_eq_some_iff.mp hlast
    refine ⟨String.ofList before, String.toList_injective ?_⟩
    rw [String.toList_append, String.toList_ofList, hbefore]
    rfl

theorem EndsLines.append (hl : EndsLines left) (hr : EndsLines right) :
    EndsLines (left ++ right) := by
  rcases hr with rfl | ⟨before, rfl⟩
  · rwa [String.append_empty]
  · exact .inr ⟨left ++ before, (String.append_assoc ..).symm⟩

/-- What is supplied has no open line, if the default has none. -/
theorem Supplied.endsLines {default : String} {given : Option String} {text : String}
    (hdefault : EndsLines default) (h : Supplied default given text) : EndsLines text := by
  cases h with
  | default => exact hdefault
  | asGiven hends => exact hends
  | ended _ => exact .inr ⟨_, rfl⟩

theorem supplied_withNewline (default : String) (given : Option String) :
    Supplied default given ((given.map withNewline).getD default) := by
  cases given with
  | none => exact .default
  | some text =>
    rw [Option.map_some, Option.getD_some, withNewline]
    split
    · exact .asGiven (endsLines_iff.mpr ‹_›)
    · exact .ended (mt endsLines_iff.mp ‹_›)

theorem endsLines_defaultPreamble : EndsLines defaultPreamble :=
  endsLines_iff.mpr (.inr (by decide))

namespace Settings

/-- A preamble is `head ++ tail`: the replacement or the banner, and the additional text, which
    begins a line. -/
structure Preamble (s : Settings) (head tail : String) : Prop where
  renders : s.renderOptions.preamble = head ++ tail
  supplied : Supplied defaultPreamble s.render.preamble head
  supplied_additional : Supplied "" s.render.additionalPreamble tail
  endsLines_head : EndsLines head
  endsLines : EndsLines (head ++ tail)

theorem preamble_renderOptions (s : Settings) : s.renderOptions.preamble =
    (s.render.preamble.map withNewline).getD defaultPreamble ++
      (s.render.additionalPreamble.map withNewline).getD "" := by
  obtain ⟨extract, ⟨name, preamble, additional, sumTypes⟩⟩ := s
  cases name <;> cases preamble <;> cases additional <;>
    simp [renderOptions, RenderOptions.withSumTypes, RenderOptions.withNamespace,
      RenderOptions.withPreamble, RenderOptions.appendPreamble]

theorem exists_preamble (s : Settings) : ∃ head tail, s.Preamble head tail := by
  have hhead := supplied_withNewline defaultPreamble s.render.preamble
  have htail := supplied_withNewline "" s.render.additionalPreamble
  have hends := hhead.endsLines endsLines_defaultPreamble
  exact ⟨_, _, s.preamble_renderOptions, hhead, htail, hends,
    hends.append (htail.endsLines (.inl rfl))⟩

/-! ## Section 5: Settings after the arguments -/

/-- Arguments switch on and replace.  What they leave always makes a policy, in which a setting from
    either side has its effect, and a preamble whose parts end their lines. -/
theorem apply_sound (s : Settings) (args : Arguments) :
    (∀ w, (s.apply args).isOn w = true ↔ s.isOn w = true ∨ args.isOn w = true) ∧
    (∀ c, (s.apply args).value c = (args.value? c).getD (s.value c)) ∧
    (s.apply args).apply args = s.apply args ∧
    (∀ silent : Arguments, (∀ w, silent.isOn w = false) → (∀ c, silent.value? c = none) →
      s.apply silent = s) ∧
    (∃ p, (s.apply args).policy = .ok p ∧ (s.apply args).Means p ∧
      (p.followStructs = true ↔
        (s.isOn .followStructs = true ∨ args.isOn .followStructs = true) ∨
          (s.isOn .embedStructs = true ∨ args.isOn .embedStructs = true)) ∧
      (p.anonNamer.isSome = true ↔
        s.isOn .nameAnonStructs = true ∨ args.isOn .nameAnonStructs = true)) ∧
    ∃ head tail, (s.apply args).Preamble head tail := by
  have hon : ∀ w, (s.apply args).isOn w = true ↔ s.isOn w = true ∨ args.isOn w = true := by
    intro w
    rw [isOn_apply, Bool.or_eq_true_iff]
  obtain ⟨p, hp, hmeans⟩ := (s.apply args).exists_policy
  refine ⟨hon, fun _ => value_apply _, apply_apply, fun _ => apply_of_silent,
    ⟨p, hp, hmeans, ?_, ?_⟩, (s.apply args).exists_preamble⟩
  · rw [hmeans.followStructs, Bool.or_eq_true_iff, hon, hon]
  · rw [hmeans.anonNamer, ← hon]
    cases (s.apply args).isOn .nameAnonStructs <;> simp

/-- Settings of a file: it embeds structs, promotes anonymous structs by a namer of its own, and has
    a preamble with an open line. -/
def fileSettings : Settings where
  extract := {
    embedStructs := true
    nameAnonStructs := true
    anonStructNaming := .upperCamel
    typeNaming := .snake }
  render := { preamble := some "/* generated */", enumsAsSumTypes := true }

/-- Arguments that replace a choice and add a text. -/
def addingArguments : Arguments where
  descriptors := "module.json"
  roots := ["Root"]
  typeNaming := some .preserve
  docs := true
  additionalPreamble := some "import x"

/-- Arguments that only say what is to be done. -/
def silentArguments : Arguments where
  descriptors := "module.json"
  roots := ["Root"]

theorem fileSettings_apply :
    fileSettings.apply silentArguments = fileSettings ∧
      (fileSettings.apply addingArguments).isOn .docs = true ∧
      (fileSettings.apply addingArguments).renderOptions.preamble =
        "/* generated */\nimport x\n" ∧
      ∃ p, (fileSettings.apply addingArguments).policy = .ok p ∧
        p.followStructs = true ∧ p.anonNamer.isSome = true ∧
        p.typeNamer = CaseStyle.preserve.typeNamer := by
  obtain ⟨hon, -, -, hsilent, ⟨p, hp, hmeans, hfollow, hnamer⟩, -⟩ :=
    apply_sound fileSettings addingArguments
  refine ⟨hsilent silentArguments ?_ ?_, (hon .docs).mpr (.inr rfl), by decide, p, hp,
    hfollow.mpr (.inr (.inl rfl)), hnamer.mpr (.inl rfl), hmeans.typeNamer⟩
  · intro w
    cases w <;> rfl
  · intro c
    cases c <;> rfl

end Settings

end TypeExport.Tool
