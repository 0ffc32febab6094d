import TypeExport.Casing
import TypeExport.Policy.Providers
import TypeExport.Policy.SortOrder

/-! # Extraction Policies

    A policy is the set of choices that a walk over declarations follows.  It is made by a draft,
    on which every choice may be set any number of times; the last setting counts.  Only one
    combination is refused: promoting anonymous structs to declarations without a way to name
    them. -/

namespace TypeExport

/-! ## Section 1: Policies -/

/-- The choices a walk follows. -/
structure ExtractPolicy where
  /-- Write nested structs inline. -/
  embedStructs : Bool
  /-- Declare the named structs that are met on the way. -/
  followStructs : Bool
  /-- Names anonymous structs after the field they appear in, if they are promoted to
      declarations. -/
  anonNamer : Option (HostField → String)
  /-- Names declarations in the target language. -/
  typeNamer : TypeDecl → String
  sort : SortOrder
  enums : Option EnumProvider
  docs : DocProvider
  /-- Keep parameter names that descriptors know. -/
  preserveParamNames : Bool
  /-- Embedding implies following. -/
  follow_of_embed : embedStructs = true → followStructs = true := by simp

/-- Names declarations by casing their host name. -/
def CaseStyle.typeNamer (style : CaseStyle) (decl : TypeDecl) : String := style.apply decl.name

/-- Names anonymous structs by casing the name of their field. -/
def CaseStyle.fieldNamer (style : CaseStyle) (field : HostField) : String := style.apply field.name

/-- Shown truth values. -/
def showBool (b : Bool) : String := if b then "true" else "false"

def ExtractPolicy.describe (p : ExtractPolicy) : String :=
  "ExtractConfig \x7b embed_structs: " ++ showBool p.embedStructs ++
  ", follow_structs: " ++ showBool p.followStructs ++
  ", name_anon_structs: " ++ showBool p.anonNamer.isSome ++
  ", sort: " ++ p.sort.label ++
  ", enums: " ++ showBool p.enums.isSome ++
  ", preserve_param_names: " ++ showBool p.preserveParamNames ++ ", .. \x7d"

/-! ## Section 2: Drafts -/

/-- Why a draft makes no policy. -/
inductive PolicyError where
  | missingAnonNamer
  deriving Repr, DecidableEq

def PolicyError.message : PolicyError → String
  | .missingAnonNamer => "name_anon_structs is enabled but no anonymous struct namer was given"

/-- A policy in the making: each choice as it was last set. -/
structure PolicyDraft where
  embedStructs : Bool := false
  followStructs : Bool := false
  nameAnonStructs : Bool := false
  anonNamer : Option (HostField → String) := none
  typeNamer : Option (TypeDecl → String) := none
  sort : SortOrder := .discovery
  enums : Option EnumProvider := none
  docs : Option DocProvider := none
  preserveParamNames : Bool := false

inductive PolicySetting where
  | embedStructs (on : Bool)
  | followStructs (on : Bool)
  | nameAnonStructs (on : Bool)
  | anonNamer (namer : HostField → String)
  /-- Promotes anonymous structs and gives their namer at once. -/
  | nameAnonStructsWith (namer : HostField → String)
  | typeNamer (namer : TypeDecl → String)
  | typeNaming (style : CaseStyle)
  | sort (order : SortOrder)
  | sortAlphabetically
  | enums (provider : EnumProvider)
  | docs (provider : DocProvider)
  | preserveParamNames (on : Bool)

namespace PolicyDraft

/-- The draft after one more setting. -/
def set (d : PolicyDraft) : PolicySetting → PolicyDraft
  | .embedStructs on => { d with embedStructs := on }
  | .followStructs on => { d with followStructs := on }
  | .nameAnonStructs on => { d with nameAnonStructs := on }
  | .anonNamer namer => { d with anonNamer := some namer }
  | .nameAnonStructsWith namer => { d with nameAnonStructs := true, anonNamer := some namer }
  | .typeNamer namer => { d with typeNamer := some namer }
  | .typeNaming style => { d with typeNamer := some style.typeNamer }
  | .sort order => { d with sort := order }
  | .sortAlphabetically => { d with sort := .alphabetical }
  | .enums provider => { d with enums := some provider }
  | .docs provider => { d with docs := some provider }
  | .preserveParamNames on => { d with preserveParamNames := on }

/-- The draft after a series of settings. -/
def ofSettings (settings : List PolicySetting) : PolicyDraft := settings.foldl set {}

/-- The namer that promoted structs get, if they are to be promoted. -/
def chosenAnonNamer (d : PolicyDraft) : Except PolicyError (Option (HostField → String)) :=
  if d.nameAnonStructs then
    match d.anonNamer with
    | some namer => .ok (some namer)
    | none => .error .missingAnonNamer
  else .ok none

/-- The policy that a draft describes.  Embedding switches following on. -/
def build (d : PolicyDraft) : Except PolicyError ExtractPolicy := do
  let anonNamer ← d.chosenAnonNamer
  return {
    embedStructs := d.embedStructs
    followStructs := d.followStructs || d.embedStructs
    anonNamer
    typeNamer := d.typeNamer.getD CaseStyle.upperCamel.typeNamer
    sort := d.sort
    enums := d.enums
    docs := d.docs.getD .none
    preserveParamNames := d.preserveParamNames
    follow_of_embed := by simp_all }

end PolicyDraft

/-- The policy without any setting. -/
def ExtractPolicy.default : ExtractPolicy where
  embedStructs := false
  followStructs := false
  anonNamer := none
  typeNamer := CaseStyle.upperCamel.typeNamer
  sort := .discovery
  enums := none
  docs := .none
  preserveParamNames := false

end TypeExport
