import Mathlib.Logic.Relation
import TypeExport.Extraction.Walk

/-! # Names in Visible Places

    What a walk can meet inside a type is decided by the type alone: the names that stand in
    visible places, in the order in which they are visited.  Pointers, collections and the visible
    fields of anonymous structs are looked through; channels, functions and hidden fields are not.

    Three roles of a declaration decide what happens where its name stands: a struct or an
    enumeration gets a declaration of its own, and any other declaration is an alias, which stands
    for its shape.  Names of aliases are followed without leaving the type they stand in. -/

namespace TypeExport

/-! ## Section 1: Visible fields -/

namespace HostField

/-- The name that a tag gives, or else the field's own name, is the serialized name. -/
theorem rename_getD (f : HostField) : f.parsedTag.rename.getD f.name = f.serializedName := by
  obtain ⟨name, type, tag⟩ := f
  cases tag with
  | none => rfl
  | some tag =>
    cases h : FieldTag.segments tag with
    | nil => simp [parsedTag, FieldTag.parse, serializedName, h]
    | cons first options =>
      by_cases hf : first = "" <;> simp [parsedTag, FieldTag.parse, serializedName, h, hf]

/-- The property that the field becomes when its type is written as `node`. -/
def property (f : HostField) (node : TypeNode) : Member :=
  { Member.property f.serializedName node with optional := f.parsedTag.optional }

end HostField

/-- A place whose type is resolved: the type, and the field it stands in directly, if any. -/
structure Position where
  field : Option HostField
  type : HostType

def HostField.position (f : HostField) : Position := ⟨some f, f.type⟩

/-- The place of a type that stands in no field. -/
def HostType.position (t : HostType) : Position := ⟨none, t⟩

/-- The fields that are part of the serialized form. -/
def visibleFields (fields : List HostField) : List HostField := fields.filter (·.isVisible)

def visiblePositions (fields : List HostField) : List Position :=
  (visibleFields fields).map HostField.position

/-- What holds at the places of the visible fields holds for the fields. -/
theorem forall_visiblePositions {P : Position → Prop} {fields : List HostField} :
    (∀ p ∈ visiblePositions fields, P p) ↔ ∀ f ∈ visibleFields fields, P f.position := by
  simp [visiblePositions]

/-- The members of a struct whose visible fields have been written as `nodes`. -/
def fieldMembers (fields : List HostField) (nodes : List TypeNode) : List Member :=
  List.zipWith HostField.property (visibleFields fields) nodes

/-! ## Section 2: Mentions -/

mutual

/-- The names in visible places of a type, in the order of a walk. -/
def HostType.mentions : HostType → List String
  | .slice elem | .array _ elem | .pointer elem => elem.mentions
  | .map key value => key.mentions ++ value.mentions
  | .struct fields => fieldMentions fields
  | .named name => [name]
  | _ => []

/-- The names in visible places of the visible fields. -/
def fieldMentions : List HostField → List String
  | [] => []
  | field@⟨_, type, _⟩ :: rest =>
    if field.isVisible then type.mentions ++ fieldMentions rest else fieldMentions rest

end

/-- The names in visible places of several types. -/
def positionMentions (positions : List Position) : List String :=
  positions.flatMap (·.type.mentions)

theorem fieldMentions_eq (fields : List HostField) :
    fieldMentions fields = positionMentions (visiblePositions fields) := by
  induction fields with
  | nil => rfl
  | cons f rest ih =>
    obtain ⟨name, type, tag⟩ := f
    by_cases h : (HostField.mk name type tag).isVisible
    · simp_all [fieldMentions, positionMentions, visiblePositions, visibleFields,
        HostField.position]
    · simp_all [fieldMentions, positionMentions, visiblePositions, visibleFields]

/-- Leading pointers hide nothing. -/
theorem mentions_deref (t : HostType) : t.deref.mentions = t.mentions := by
  induction t using HostType.deref.induct with
  | case1 elem ih => simpa [HostType.deref, HostType.mentions] using ih
  | case2 t h => rw [HostType.deref]; exact h

/-- A struct mentions what its visible fields mention. -/
theorem mentions_struct {t : HostType} {fields : List HostField} (h : t.deref = .struct fields) :
    t.mentions = positionMentions (visiblePositions fields) := by
  rw [← mentions_deref, h, HostType.mentions, fieldMentions_eq]

/-! ## Section 3: Roles of declarations -/

namespace HostModule

variable {m : HostModule} {a d : TypeDecl}

/-- A name stands for one declaration. -/
theorem lookup_inj {name : String} (ha : m.lookup name = some a) (hd : m.lookup name = some d) :
    a = d := by
  rw [ha] at hd
  exact Option.some.inj hd

/-- Declarations that their own names stand for are told apart by their names. -/
theorem eq_of_name_eq (ha : m.lookup a.name = some a) (hd : m.lookup d.name = some d)
    (h : d.name = a.name) : a = d := by
  rw [h] at hd
  exact lookup_inj ha hd

end HostModule

/-- The declaration is a struct, possibly behind pointers. -/
def TypeDecl.IsStruct (d : TypeDecl) : Prop := ∃ fields, d.type.deref = .struct fields

namespace ExtractPolicy

variable (policy : ExtractPolicy) (m : HostModule)

/-- The declaration is no struct and the provider claims it. -/
def IsEnum (d : TypeDecl) : Prop := ¬ d.IsStruct ∧ (policy.claims? d).isSome

/-- The declaration is neither a struct nor an enumeration: it stands for its shape. -/
def IsAlias (d : TypeDecl) : Prop := ¬ d.IsStruct ∧ policy.claims? d = none

/-- The declaration is a struct or an enumeration: it can be declared in the target language. -/
def IsDeclarable (d : TypeDecl) : Prop := d.IsStruct ∨ policy.IsEnum d

theorem not_isDeclarable_of_isAlias {d : TypeDecl} (h : policy.IsAlias d) :
    ¬ policy.IsDeclarable d := by
  rintro (hs | he)
  · exact h.1 hs
  · rw [IsEnum, h.2] at he
    exact absurd he.2 (by simp)

/-- The name `a` stands for an alias whose shape mentions the name `b`. -/
def AliasStep (a b : String) : Prop :=
  ∃ d, m.lookup a = some d ∧ policy.IsAlias d ∧ b ∈ d.type.mentions

/-- Following aliases from the name `a` leads to the name `b`. -/
def AliasReach : String → String → Prop := Relation.ReflTransGen (policy.AliasStep m)

/-- Only aliases lead anywhere. -/
theorem eq_of_aliasReach {a b : String} {d : TypeDecl} (hd : m.lookup a = some d)
    (ha : ¬ policy.IsAlias d) (h : policy.AliasReach m a b) : a = b := by
  rcases Relation.ReflTransGen.cases_head h with rfl | ⟨c, ⟨d', hd', halias, _⟩, _⟩
  · rfl
  · obtain rfl := HostModule.lookup_inj hd hd'
    exact absurd halias ha

end ExtractPolicy

end TypeExport
