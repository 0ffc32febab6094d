import TypeExport.Declaration.Options
import TypeExport.Policy.ExtractPolicy
import TypeExport.Tool.Arguments
import TypeExport.Tree.Record

/-! # Settings

    Settings come from a file with two sections and from the arguments of the call.  An argument
    switches a setting on or replaces its value; none switches a setting off. -/

namespace TypeExport.Tool

/-- The file that settings are taken from when the arguments name no other. -/
def settingsFile : String := "typebridge.toml"

/-- How promoted anonymous structs are named. -/
inductive AnonStructNaming where
  /-- By their field as written. -/
  | field
  /-- By their field with every word capitalized. -/
  | upperCamel
  deriving Repr, DecidableEq

/-- The name of a way of naming. -/
def AnonStructNaming.label : AnonStructNaming → String
  | .field => "field"
  | .upperCamel => "upper-camel"

/-- The way of naming of a given name. -/
def AnonStructNaming.ofLabel? (name : String) : Option AnonStructNaming :=
  [AnonStructNaming.field, .upperCamel].find? (·.label == name)

/-- The section on extraction. -/
structure ExtractSettings where
  followStructs : Bool := false
  embedStructs : Bool := false
  nameAnonStructs : Bool := false
  anonStructNaming : AnonStructNaming := .field
  typeNaming : CaseStyle := .upperCamel
  sort : SortKey := .discovery
  /-- Use the annotations of enumerations. -/
  enums : Bool := false
  /-- Use the documentation in the descriptors. -/
  docs : Bool := false
  preserveParamNames : Bool := false
  deriving Repr, DecidableEq

/-- The section on rendering. -/
structure RenderSettings where
  namespaceName : Option String := none
  preamble : Option String := none
  additionalPreamble : Option String := none
  enumsAsSumTypes : Bool := false
  deriving Repr, DecidableEq

/-- All settings. -/
structure Settings where
  extract : ExtractSettings := {}
  render : RenderSettings := {}
  deriving Repr, DecidableEq

/-! ## Section 1: Reading -/

open TypeExport.Tree

/-- A choice by its name: a text, or a record whose one entry has that name and holds nothing. -/
def choiceName : Tree → Option String
  | .text s => some s
  | .record [(name, .record [])] | .record [(name, .list [])] => some name
  | _ => none

/-- A choice with a default. -/
def choiceOr {α : Type} (default : α) (ofLabel? : String → Option α) : Option Tree → Option α
  | none => some default
  | some t => choiceName t >>= ofLabel?

/-- Reads the section on extraction. -/
def ExtractSettings.ofTree (t : Tree) : Option ExtractSettings :=
  match t.slots ["follow_structs", "embed_structs", "name_anon_structs", "anon_struct_naming",
      "type_naming", "sort", "enums", "docs", "preserve_param_names"] true with
  | some [follow, embed, nameAnon, anonNaming, typeNaming, sort, enums, docs, preserve] => do
    return {
      followStructs := ← flag follow
      embedStructs := ← flag embed
      nameAnonStructs := ← flag nameAnon
      anonStructNaming := ← choiceOr .field AnonStructNaming.ofLabel? anonNaming
      typeNaming := ← choiceOr .upperCamel CaseStyle.ofLabel? typeNaming
      sort := ← choiceOr .discovery SortKey.ofLabel? sort
      enums := ← flag enums
      docs := ← flag docs
      preserveParamNames := ← flag preserve }
  | _ => none

/-- Reads the section on rendering. -/
def RenderSettings.ofTree (t : Tree) : Option RenderSettings :=
  match t.slots ["namespace", "preamble", "additional_preamble", "enums_as_sum_types"] true with
  | some [name, preamble, additional, sumTypes] => do
    return ⟨← optionalText name, ← optionalText preamble, ← optionalText additional,
      ← flag sumTypes⟩
  | _ => none

/-- A section with a default. -/
def sectionOr {α : Type} (default : α) (ofTree : Tree → Option α) : Option Tree → Option α
  | none => some default
  | some t => ofTree t

/-- Reads settings. -/
def Settings.ofTree (t : Tree) : Option Settings :=
  match t.slots ["extract", "render"] true with
  | some [extract, render] => do
    return ⟨← sectionOr {} ExtractSettings.ofTree extract,
      ← sectionOr {} RenderSettings.ofTree render⟩
  | _ => none

/-! ## Section 2: Merging -/

/-- The settings after the arguments have been taken into account. -/
def Settings.apply (s : Settings) (args : Arguments) : Settings where
  extract := { s.extract with
    followStructs := s.extract.followStructs || args.followStructs
    embedStructs := s.extract.embedStructs || args.embedStructs
    nameAnonStructs := s.extract.nameAnonStructs || args.nameAnonStructs
    typeNaming := args.typeNaming.getD s.extract.typeNaming
    sort := args.sort.getD s.extract.sort
    enums := s.extract.enums || args.enums
    docs := s.extract.docs || args.docs
    preserveParamNames := s.extract.preserveParamNames || args.preserveParamNames }
  render := {
    namespaceName := args.namespaceName <|> s.render.namespaceName
    preamble := args.preamble <|> s.render.preamble
    additionalPreamble := args.additionalPreamble <|> s.render.additionalPreamble
    enumsAsSumTypes := s.render.enumsAsSumTypes || args.enumsAsSumTypes }

/-! ## Section 3: Meaning -/

/-- The namer of promoted structs. -/
def AnonStructNaming.namer : AnonStructNaming → HostField → String
  | .field => CaseStyle.preserve.fieldNamer
  | .upperCamel => CaseStyle.upperCamel.fieldNamer

/-- The settings of a policy that a section on extraction stands for. -/
def ExtractSettings.policySettings (s : ExtractSettings) : List PolicySetting :=
  [.followStructs s.followStructs, .embedStructs s.embedStructs, .typeNaming s.typeNaming,
    .preserveParamNames s.preserveParamNames] ++
  (if s.nameAnonStructs then [.nameAnonStructsWith s.anonStructNaming.namer] else []) ++
  (if s.sort = .alphabetical then [.sort .alphabetical] else []) ++
  (if s.enums then [.enums .declared] else []) ++
  (if s.docs then [.docs .declared] else [])

/-- The extraction policy. -/
def Settings.policy (s : Settings) : Except PolicyError ExtractPolicy :=
  (PolicyDraft.ofSettings s.extract.policySettings).build

/-- A text that is empty or ends with a line feed. -/
def withNewline (text : String) : String :=
  if text = "" ∨ text.toList.getLast? = some '\n' then text else text ++ "\n"

/-- The rendering options. -/
def Settings.renderOptions (s : Settings) : RenderOptions :=
  let options := ({} : RenderOptions).withSumTypes s.render.enumsAsSumTypes
  let options := s.render.namespaceName.elim options options.withNamespace
  let options := s.render.preamble.elim options (options.withPreamble <| withNewline ·)
  s.render.additionalPreamble.elim options (options.appendPreamble <| withNewline ·)

end TypeExport.Tool
