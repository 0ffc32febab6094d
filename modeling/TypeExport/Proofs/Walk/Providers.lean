import Mathlib
import TypeExport.Proofs.Walk.Methods
import TypeExport.Proofs.Walk.Parallel

/-! # Providers of Enumerations

    A walk asks a provider about the declarations that names stand for, and about no others.  So two
    providers may take each other's place if they answer alike for these, however they come to their
    answers: one looks at the annotation of the declaration, the other looks its name up in a table.

    A provider is at fault when it claims a declaration and then has no members for it.
    `extract_justified` says that an extraction blames no provider without such a fault, and the
    providers here have none. -/

namespace TypeExport

/-! ## Section 1: Answers -/

namespace EnumTable

/-- The members that a name has in the end are the ones that were entered for it last. -/
theorem get?_ofList (entries : List (String × List EnumMember)) (name : String) :
    (ofList entries).get? name = entries.reverse.lookup name := by
  induction entries using List.reverseRecOn with
  | nil => rfl
  | append_singleton entries e ih =>
    have hlast : ofList (entries ++ [e]) = (ofList entries).insert e.1 e.2 := by
      rw [ofList, List.foldl_concat, ofList]
    rw [hlast, get?_insert, List.reverse_concat, List.lookup_cons, ih]
    by_cases h : e.1 = name
    · simp [h]
    · simp [h, beq_eq_false_iff_ne.mpr (Ne.symm h)]

end EnumTable

/-- The provider has members for all declarations that it claims. -/
def EnumProvider.IsTotal (provider : EnumProvider) : Prop :=
  ∀ d, provider.isEnum d = true → ∃ members, provider.members d = .ok members

theorem exists_membersOr {name : String} {answer : Option (List EnumMember)}
    (h : answer.isSome = true) : ∃ members, membersOr name answer = .ok members := by
  obtain ⟨members, rfl⟩ := Option.isSome_iff_exists.mp h
  exact ⟨members, rfl⟩

theorem EnumProvider.isTotal_declared : EnumProvider.declared.IsTotal :=
  fun _ h => exists_membersOr h

theorem EnumTable.isTotal_provider (table : EnumTable) : table.provider.IsTotal :=
  fun _ h => exists_membersOr h

/-! ## Section 2: Walks with two providers -/

/-- The providers claim the same ones of the declarations that names stand for, and have the same
    members for them. -/
def AnswerAlike (m : HostModule) (p q : EnumProvider) : Prop :=
  ∀ d, m.lookup d.name = some d →
    p.isEnum d = q.isEnum d ∧ (p.isEnum d = true → p.members d = q.members d)

theorem Member.mapTypes_id : Member.mapTypes id = id := by
  have hargs : Arg.mapType id = id := funext fun ⟨_, _⟩ => rfl
  funext ⟨name, type, optional, function, comment, args⟩
  rw [Member.mapTypes, hargs, List.map_id]
  rfl

/-- Every computation agrees with itself. -/
theorem Agree.refl {α : Type} (x : Walk α) : Agree Eq id x x := by
  rintro s _ rfl
  cases x s with
  | error e => exact rfl
  | ok r => exact ⟨rfl, rfl⟩

namespace ExtractPolicy

/-- The policy with enumerations from `provider`. -/
def withEnums (policy : ExtractPolicy) (provider : EnumProvider) : ExtractPolicy :=
  { policy with enums := some provider }

variable {policy : ExtractPolicy} {m : HostModule} {p q : EnumProvider} {root : TypeDecl}
  {d : TypeDecl}

theorem claims_withEnums :
    (policy.withEnums p).claims? d = if p.isEnum d = true then some p else none :=
  Option.filter_some

/-- Enumerations are declared in the same steps with the same members. -/
theorem enumeration_agree (h : p.members d = q.members d) :
    Agree Eq id ((policy.withEnums p).enumeration p d) ((policy.withEnums q).enumeration q d) := by
  have heq : (policy.withEnums p).enumeration p d = (policy.withEnums q).enumeration q d := by
    unfold enumeration
    rw [h]
    rfl
  rw [heq]
  exact Agree.refl _

/-- The provider makes no difference to the steps of a walk. -/
theorem alike_withEnums (h : AnswerAlike m p q) :
    Alike m root Eq id (policy.withEnums p) (policy.withEnums q) where
  embedStructs := rfl
  followStructs := rfl
  methodDocs := rfl
  argName := rfl
  declared hR := by rw [hR]
  leaf _ := rfl
  void := rfl
  array _ := rfl
  map _ _ := rfl
  mentioned _ _ := rfl
  embedded _ := by
    rw [Member.mapTypes_id, List.map_id]
    rfl
  anonymous _ _ := by
    rw [Member.mapTypes_id, List.map_id]
    exact Agree.refl _
  declare _ := by
    rw [Member.mapTypes_id, List.map_id]
    exact Agree.refl _
  claims {d} hd _ := by
    obtain ⟨hclaim, hmembers⟩ := h d hd
    rw [claims_withEnums, claims_withEnums, ← hclaim]
    by_cases hp : p.isEnum d = true
    · rw [if_pos hp, if_pos hp]
      exact .inr ⟨p, q, rfl, rfl, enumeration_agree (hmembers hp)⟩
    · rw [if_neg hp, if_neg hp]
      exact .inl ⟨rfl, rfl⟩

/-- Providers that answer alike make the same graph, or the same error. -/
theorem extract_eq_of_answerAlike (h : AnswerAlike m p q) (root : HostType) :
    extract m root (policy.withEnums p) = extract m root (policy.withEnums q) := by
  have hagree : Agree Eq id ((policy.withEnums p).walkRoot m root)
      ((policy.withEnums q).walkRoot m root) :=
    Alike.walkRoot fun d _ _ => alike_withEnums h
  unfold extract StateT.run
  rcases hagree.outcome rfl with ⟨e, hp, hq⟩ | ⟨a, s, r, hp, hq, rfl⟩
  · rw [hp, hq]
    rfl
  · rw [hp, hq]
    rfl

/-! ## Section 3: Faults of providers -/

/-- An error that blames a provider names a declaration that it claims and has no members for. -/
def Justified (policy : ExtractPolicy) (m : HostModule) : ExtractError → Prop
  | .enumProvider name cause => ∃ d provider, m.lookup name = some d ∧
      policy.claims? d = some provider ∧ provider.members d = .error cause
  | _ => True

variable {s : Progress} {e : ExtractError}

theorem leaf_justified {site : String} {t : HostType} (h : leaf site t = .error e) :
    policy.Justified m e := by
  cases t <;> cases h <;> trivial

mutual

/-- A type is refused with a justified error. -/
theorem Fails.justified {path : List String} {field : Option HostField} {t : HostType}
    {s : Progress} {e : ExtractError} : policy.Fails m path field t s e → policy.Justified m e
  | .leaf h => leaf_justified h
  | .slice h | .array h | .key h | .value _ h | .pointer h | .shape _ _ _ h => h.justified
  | .struct h | .embedded _ _ _ _ h | .followed _ _ _ _ _ _ h => h.justified
  | .unknown _ | .embeddedAgain _ _ _ _ | .interface _ _ _ | .shapeAgain _ _ _ => trivial
  | .provider hd _ hc _ hm => ⟨_, _, hd, hc, hm⟩

/-- The same for several places. -/
theorem FailsAll.justified {path : List String} {ps : List Position} {s : Progress}
    {e : ExtractError} : policy.FailsAll m path ps s e → policy.Justified m e
  | .head h => h.justified
  | .tail _ h => h.justified

end

theorem resolution_justified {method : HostMethod} {t : HostType}
    (h : policy.resolution m d method t s = .error e) : policy.Justified m e := by
  have hvisit : policy.VisitDerives m [d.name] (policy.visit m [d.name]) := visit_outcome _
  have hout := resolve_outcome hvisit t s!"{d.name}.{method.name}" none s
  rw [resolution] at h
  rw [h] at hout
  exact Fails.justified hout

theorem ResultsOffend.justified {method : HostMethod}
    (h : policy.ResultsOffend m d method s e) : policy.Justified m e := by
  cases h with
  | unresolved _ _ _ hfails => exact resolution_justified hfails
  | _ => trivial

/-- A method is refused with a justified error. -/
theorem Offends.justified {method : HostMethod} (h : policy.Offends m d method s e) :
    policy.Justified m e := by
  cases h with
  | variadic => trivial
  | results _ h => exact h.justified
  | params _ _ _ hfails =>
    obtain ⟨_, _, _, _, _, _, _, hrefuses⟩ := hfails
    exact resolution_justified hrefuses

theorem throw_justified {thrown : ExtractError} (h : (throw thrown : Walk Unit) s = .error e)
    (ht : policy.Justified m thrown) : policy.Justified m e := by
  rw [Walk.throw_apply, Except.error.injEq] at h
  exact h ▸ ht

/-- An extraction that fails because of a provider has come to a fault of it. -/
theorem extract_justified {root : HostType} (h : extract m root policy = .error e) :
    policy.Justified m e := by
  have hwalk := extract_eq_error_iff.mp h
  cases hroot : root.deref with
  | named name =>
    cases hd : m.lookup name with
    | none =>
      simp only [walkRoot, hroot, hd] at hwalk
      exact throw_justified hwalk trivial
    | some d =>
      obtain rfl := HostModule.name_of_lookup hd
      -- Only structs and interfaces are walked at all.
      cases hs : d.type.deref with
      | struct fields => exact (extract_struct_error hroot hd hs h).justified
      | interface methods =>
        obtain ⟨_, _, _, _, _, _, _, hoffends⟩ :=
          (walkRoot_interface_eq_error_iff hroot hd hs).mp hwalk
        exact hoffends.justified
      | _ =>
        simp only [walkRoot, hroot, hd, hs] at hwalk
        exact throw_justified hwalk trivial
  | _ =>
    simp only [walkRoot, hroot] at hwalk
    exact throw_justified hwalk trivial

/-- A provider that has members for all that it claims is never blamed. -/
theorem extract_ne_enumProvider (hp : p.IsTotal) (root : HostType) (name : String)
    (cause : ProviderError) :
    extract m root (policy.withEnums p) ≠ .error (.enumProvider name cause) := by
  intro h
  obtain ⟨d, provider, -, hclaim, hfault⟩ := extract_justified h
  rw [claims_withEnums] at hclaim
  obtain ⟨hd, heq⟩ := Option.ite_none_right_eq_some.mp hclaim
  obtain rfl := Option.some.inj heq
  obtain ⟨members, hmembers⟩ := hp d hd
  exact absurd (hmembers.symm.trans hfault) (by simp)

/-! ## Section 4: The providers at hand -/

/-- A table that lists what declarations are annotated with answers as the annotations do. -/
theorem answerAlike_ofList {entries : List (String × List EnumMember)}
    (h : ∀ name d, m.lookup name = some d → entries.reverse.lookup name = d.enum) :
    AnswerAlike m (EnumTable.ofList entries).provider .declared := by
  intro d hd
  have hentry : (EnumTable.ofList entries).get? d.name = d.enum :=
    (EnumTable.get?_ofList entries d.name).trans (h d.name d hd)
  constructor
  · exact congrArg Option.isSome hentry
  · intro _
    exact congrArg (membersOr d.name) hentry

/-- Neither annotations nor a table are ever blamed.  A table does what the annotations do if the
    members that were entered last for a name are those that its declaration is annotated with, and
    none were entered if it has no annotation; what else is in the table, and in which order it was
    filled, makes no difference. -/
theorem builtin_providers_coherent (m : HostModule) (root : HostType) (policy : ExtractPolicy) :
    (∀ name cause,
      extract m root (policy.withEnums .declared) ≠ .error (.enumProvider name cause)) ∧
    (∀ (table : EnumTable) name cause,
      extract m root (policy.withEnums table.provider) ≠ .error (.enumProvider name cause)) ∧
    ∀ entries : List (String × List EnumMember),
      (∀ name d, m.lookup name = some d → entries.reverse.lookup name = d.enum) →
        extract m root (policy.withEnums (EnumTable.ofList entries).provider) =
          extract m root (policy.withEnums .declared) := by
  refine ⟨?_, ?_, ?_⟩
  · exact extract_ne_enumProvider EnumProvider.isTotal_declared root
  · exact fun table => extract_ne_enumProvider table.isTotal_provider root
  · exact fun entries h => extract_eq_of_answerAlike (answerAlike_ofList h) root

def panelLevels : List EnumMember := [.integer "Low" 0, .integer "High" 1]

/-- A panel, with two declarations of levels and two of modes.  The panel itself is annotated too,
    but structs are no enumerations. -/
def panelModule : HostModule where
  types := [
    ⟨"Panel", .struct [⟨"Level", .pointer (.named "Level"), none⟩,
      ⟨"Modes", .map (.named "Mode") (.named "Level"), none⟩, ⟨"Tint", .named "Tint", none⟩],
      none, some panelLevels⟩,
    ⟨"Level", .word, none, some panelLevels⟩,
    ⟨"Level", .string, none, none⟩,
    ⟨"Mode", .string, none, none⟩,
    ⟨"Mode", .string, none, some panelLevels⟩,
    ⟨"Tint", .chan .bool, none, some []⟩]

/-- What is entered into a table for the panel.  Levels and tints are replaced on the way, and
    nobody declares a spare. -/
def panelEntries : List (String × List EnumMember) :=
  [("Level", [.integer "Middle" 5]), ("Tint", panelLevels), ("Spare", []), ("Level", panelLevels),
    ("Tint", []), ("Panel", panelLevels)]

def panelGraph : List TypeNode :=
  [.enum "Level" none panelLevels, .enum "Tint" none [],
    .interface "Panel" none [.property "Level" (.simple "Level"),
      .property "Modes" (.map [.string, .simple "Level"]), .property "Tint" (.simple "Tint")]]

theorem panel_from_table :
    (∀ name d, panelModule.lookup name = some d → panelEntries.reverse.lookup name = d.enum) ∧
      extract panelModule (.named "Panel")
        (following.withEnums (EnumTable.ofList panelEntries).provider) = .ok panelGraph := by
  have hentries : ∀ name d, panelModule.lookup name = some d →
      panelEntries.reverse.lookup name = d.enum := by
    intro name d hd
    have hmem := HostModule.mem_of_lookup hd
    obtain rfl := HostModule.name_of_lookup hd
    simp only [panelModule, List.mem_cons, List.not_mem_nil, or_false] at hmem
    -- The second declarations of levels and modes are not what their names stand for.
    rcases hmem with rfl | rfl | rfl | rfl | rfl | rfl
    · rfl
    · rfl
    · exact absurd hd (by simp [panelModule, HostModule.lookup])
    · rfl
    · exact absurd hd (by simp [panelModule, HostModule.lookup])
    · rfl
  refine ⟨hentries, ?_⟩
  rw [(builtin_providers_coherent panelModule (.named "Panel") following).2.2 _ hentries]
  cbv

end ExtractPolicy

end TypeExport
