import Mathlib
import TypeExport.Proofs.Walk.Root

/-! # Hidden Fields and Unreachable Declarations

    What a walk does not look at has no influence on it.  Two modules may differ in the hidden
    fields of their structs, at any depth, and in all declarations that cannot be reached from the
    root; the walk makes the same graph from both, or fails with the same error.

    The argument has two halves.  Within one module, a walk over a type is the walk over the type
    without its hidden fields (`withoutHidden`).  Between two modules, walks agree as long as they
    agree on the names that are mentioned.  The lemmas of Section 4 say both at once: in a module
    that agrees on the names in `S`, the walk over the reduced type is the walk over the type. -/

namespace TypeExport

/-! ## Section 1: Without hidden fields -/

mutual

def HostType.withoutHidden : HostType → HostType
  | .slice elem => .slice elem.withoutHidden
  | .array len elem => .array len elem.withoutHidden
  | .map key value => .map key.withoutHidden value.withoutHidden
  | .pointer elem => .pointer elem.withoutHidden
  | .struct fields => .struct (fieldsWithoutHidden fields)
  | .interface methods => .interface (methodsWithoutHidden methods)
  | .chan elem => .chan elem.withoutHidden
  | .func signature => .func signature.withoutHidden
  | .bool => .bool
  | .int bits unsigned => .int bits unsigned
  | .float bits => .float bits
  | .complex bits => .complex bits
  | .string => .string
  | .error => .error
  | .named name => .named name

/-- The visible ones of these fields, with their types without hidden fields. -/
def fieldsWithoutHidden : List HostField → List HostField
  | [] => []
  | field@⟨name, type, tag⟩ :: rest =>
    if field.isVisible then ⟨name, type.withoutHidden, tag⟩ :: fieldsWithoutHidden rest
    else fieldsWithoutHidden rest

/-- The signature without the hidden fields in its types. -/
def Signature.withoutHidden : Signature → Signature
  | ⟨params, results, variadic⟩ =>
    ⟨paramsWithoutHidden params, typesWithoutHidden results, variadic⟩

/-- Methods without the hidden fields in their signatures. -/
def methodsWithoutHidden : List HostMethod → List HostMethod
  | [] => []
  | ⟨name, signature, docs⟩ :: rest =>
    ⟨name, signature.withoutHidden, docs⟩ :: methodsWithoutHidden rest

/-- Parameters without the hidden fields in their types. -/
def paramsWithoutHidden : List HostParam → List HostParam
  | [] => []
  | ⟨name, type⟩ :: rest => ⟨name, type.withoutHidden⟩ :: paramsWithoutHidden rest

def typesWithoutHidden : List HostType → List HostType
  | [] => []
  | t :: rest => t.withoutHidden :: typesWithoutHidden rest

end

def HostField.withoutHidden (f : HostField) : HostField := { f with type := f.type.withoutHidden }

/-- The parameter without the hidden fields in its type. -/
def HostParam.withoutHidden (p : HostParam) : HostParam := { p with type := p.type.withoutHidden }

/-- The method without the hidden fields in its signature. -/
def HostMethod.withoutHidden (method : HostMethod) : HostMethod :=
  { method with signature := method.signature.withoutHidden }

/-- The declaration without the hidden fields in its type. -/
def TypeDecl.withoutHidden (d : TypeDecl) : TypeDecl := { d with type := d.type.withoutHidden }

theorem paramsWithoutHidden_eq (params : List HostParam) :
    paramsWithoutHidden params = params.map (·.withoutHidden) := by
  induction params with
  | nil => rfl
  | cons p rest ih =>
    obtain ⟨name, type⟩ := p
    rw [paramsWithoutHidden, ih, List.map_cons, HostParam.withoutHidden]

theorem typesWithoutHidden_eq (ts : List HostType) :
    typesWithoutHidden ts = ts.map (·.withoutHidden) := by
  induction ts with
  | nil => rfl
  | cons t rest ih => rw [typesWithoutHidden, ih, List.map_cons]

theorem methodsWithoutHidden_eq (methods : List HostMethod) :
    methodsWithoutHidden methods = methods.map (·.withoutHidden) := by
  induction methods with
  | nil => rfl
  | cons method rest ih =>
    obtain ⟨name, signature, docs⟩ := method
    rw [methodsWithoutHidden, ih, List.map_cons, HostMethod.withoutHidden]

theorem Signature.withoutHidden_eq (signature : Signature) :
    signature.withoutHidden =
      ⟨signature.params.map (·.withoutHidden), signature.results.map (·.withoutHidden),
        signature.variadic⟩ := by
  obtain ⟨params, results, variadic⟩ := signature
  rw [withoutHidden, paramsWithoutHidden_eq, typesWithoutHidden_eq]

/-- Leading pointers are looked through before or after. -/
theorem HostType.deref_withoutHidden (t : HostType) :
    t.withoutHidden.deref = t.deref.withoutHidden := by
  induction t using HostType.deref.induct with
  | case1 elem ih => rw [withoutHidden, deref, deref, ih]
  | case2 t h =>
    cases t with
    | pointer elem => exact absurd rfl (h elem)
    | _ => rfl

theorem HostType.eq_struct_of_withoutHidden {t : HostType} {fields : List HostField}
    (h : t.withoutHidden = .struct fields) : ∃ fields', t = .struct fields' := by
  cases t with
  | struct fields' => exact ⟨fields', rfl⟩
  | _ => exact absurd h (by simp [withoutHidden])

theorem HostType.eq_interface_of_withoutHidden {t : HostType} {methods : List HostMethod}
    (h : t.withoutHidden = .interface methods) : ∃ methods', t = .interface methods' := by
  cases t with
  | interface methods' => exact ⟨methods', rfl⟩
  | _ => exact absurd h (by simp [withoutHidden])

/-! ## Section 2: Names that a walk can reach -/

/-- The names in visible places of the signature of a method. -/
def HostMethod.mentions (method : HostMethod) : List String :=
  method.signature.results.flatMap (·.mentions) ++
    method.signature.params.flatMap (·.type.mentions)

def TypeDecl.methods (d : TypeDecl) : List HostMethod :=
  match d.type.deref with
  | .interface methods => methods
  | _ => []

/-- The names in visible places of a declaration. -/
def TypeDecl.exposes (d : TypeDecl) : List String :=
  d.type.mentions ++ d.methods.flatMap (·.mentions)

/-- The name can be reached from `root` through visible places of declarations of `m`. -/
inductive HostModule.Exposes (m : HostModule) (root : String) : String → Prop
  | root : Exposes m root root
  | step {name d next} (h : Exposes m root name) (hd : m.lookup name = some d)
    (hnext : next ∈ d.exposes) : Exposes m root next

/-- The second module says what the first one says for the names in `S`, hidden fields aside, and
    what is said for them mentions no other names. -/
structure HostModule.SameFor (S : String → Prop) (m m' : HostModule) : Prop where
  lookup : ∀ {name}, S name →
    (m'.lookup name).map TypeDecl.withoutHidden = (m.lookup name).map TypeDecl.withoutHidden
  closed : ∀ {name d next}, S name → m.lookup name = some d → next ∈ d.exposes → S next

theorem HostModule.SameFor.refl (m : HostModule) : SameFor (fun _ => True) m m :=
  ⟨fun _ => rfl, fun _ _ _ => trivial⟩

/-- Both modules declare the name, or neither does. -/
theorem HostModule.SameFor.cases {S : String → Prop} {m m' : HostModule} (h : SameFor S m m')
    {name : String} (hS : S name) :
    (m.lookup name = none ∧ m'.lookup name = none) ∨
      ∃ d d', m.lookup name = some d ∧ m'.lookup name = some d' ∧
        d'.withoutHidden = d.withoutHidden := by
  have hsame := h.lookup hS
  cases hd : m.lookup name with
  | none =>
    rw [hd, Option.map_none, Option.map_eq_none_iff] at hsame
    exact .inl ⟨rfl, hsame⟩
  | some d =>
    rw [hd, Option.map_some, Option.map_eq_some_iff] at hsame
    obtain ⟨d', hd', hsame⟩ := hsame
    exact .inr ⟨d, d', rfl, hd', hsame⟩

/-! ## Section 3: Errors -/

namespace HostModule

variable {S : String → Prop} {m m' : HostModule}

/-- The test for errors does not see hidden fields. -/
theorem errorLikeFrom_withoutHidden (m : HostModule) (path : List String) (t : HostType) :
    m.errorLikeFrom path t.withoutHidden = m.errorLikeFrom path t := by
  rw [errorLikeFrom, errorLikeFrom, HostType.deref_withoutHidden]
  cases t.deref with
  | interface methods =>
    simp only [HostType.withoutHidden, methodsWithoutHidden_eq, List.any_map]
    congr 2
    funext method
    simp only [Function.comp_apply, HostMethod.withoutHidden, Signature.withoutHidden_eq,
      List.isEmpty_map]
    -- The only result must be the type of texts, which is what it is with or without the others.
    match method.signature.results with
    | [] => rfl
    | [t] => cases t <;> rfl
    | t :: t' :: rest => cases t <;> rfl
  | _ => rfl

/-- A chain of names leads to the same end in both modules. -/
theorem SameFor.errorLikeFrom (h : SameFor S m m') :
    ∀ {path : List String} {t : HostType}, (∀ name ∈ t.mentions, S name) →
      m'.errorLikeFrom path t = m.errorLikeFrom path t := by
  intro path
  -- Each name that is passed leaves fewer declarations to pass.
  induction hk : m.unentered path using Nat.strongRecOn generalizing path with
  | _ k ih =>
    intro t ht
    rw [← mentions_deref] at ht
    cases hname : t.deref with
    | named name =>
      have hS : S name := ht name (by simp [hname, HostType.mentions])
      by_cases hp : name ∈ path
      · rw [errorLikeFrom_again hname hp, errorLikeFrom_again hname hp]
      · rcases h.cases hS with ⟨hd, hd'⟩ | ⟨d, d', hd, hd', hsame⟩
        · rw [errorLikeFrom_unknown hname hp hd, errorLikeFrom_unknown hname hp hd']
        · obtain rfl := name_of_lookup hd
          have hlt := unentered_lt (mem_of_lookup hd) hp
          have htype : d'.type.withoutHidden = d.type.withoutHidden := congrArg TypeDecl.type hsame
          rw [errorLikeFrom_known hname hp hd, errorLikeFrom_known hname hp hd',
            ← errorLikeFrom_withoutHidden m' _ d'.type, htype, errorLikeFrom_withoutHidden]
          exact ih _ (hk ▸ hlt) rfl fun next hnext =>
            h.closed hS hd (List.mem_append_left _ hnext)
    | _ => rw [HostModule.errorLikeFrom, HostModule.errorLikeFrom, hname]

end HostModule

namespace ExtractPolicy

/-! ## Section 4: Policies that go by names -/

/-- The policy names declarations and fields by their host names, and its providers are the built-in
    ones. -/
structure GoesByNames (p : ExtractPolicy) : Prop where
  typeNamer : ∀ {d d' : TypeDecl}, d.name = d'.name → p.typeNamer d = p.typeNamer d'
  anonNamer : ∀ {namer}, p.anonNamer = some namer → ∀ {f f' : HostField}, f.name = f'.name →
    namer f = namer f'
  enums : p.enums = none ∨ p.enums = some .declared ∨
    ∃ table, p.enums = some (EnumTable.provider table)
  docs : p.docs = .none ∨ p.docs = .declared

namespace GoesByNames

variable {p : ExtractPolicy}

/-- The built-in namers case the host names. -/
theorem of_casing (style style' : CaseStyle) (htype : p.typeNamer = style.typeNamer)
    (hanon : p.anonNamer = none ∨ p.anonNamer = some style'.fieldNamer)
    (henums : p.enums = none ∨ p.enums = some .declared ∨
      ∃ table, p.enums = some (EnumTable.provider table))
    (hdocs : p.docs = .none ∨ p.docs = .declared) : p.GoesByNames where
  typeNamer h := by rw [htype, CaseStyle.typeNamer, CaseStyle.typeNamer, h]
  anonNamer := by
    intro namer hnamer f f' h
    rcases hanon with hnone | hsome
    · rw [hnone] at hnamer
      exact absurd hnamer (by simp)
    · rw [hsome] at hnamer
      obtain rfl := Option.some.inj hnamer
      exact congrArg style'.apply h
  enums := henums
  docs := hdocs

/-! Another type changes nothing that a policy which goes by names asks a declaration, a field or a
    method for. -/

theorem typeNamer_type (hp : p.GoesByNames) (d : TypeDecl) (t : HostType) :
    p.typeNamer { d with type := t } = p.typeNamer d := hp.typeNamer rfl

/-- What the providers say about a declaration does not depend on its type. -/
theorem provider_type (hp : p.GoesByNames) {provider : EnumProvider}
    (h : p.enums = some provider) (d : TypeDecl) (t : HostType) :
    provider.isEnum { d with type := t } = provider.isEnum d ∧
      provider.members { d with type := t } = provider.members d := by
  rcases hp.enums with hnone | hdeclared | ⟨table, htable⟩
  · rw [hnone] at h
    exact absurd h (by simp)
  · rw [hdeclared] at h
    obtain rfl := Option.some.inj h
    exact ⟨rfl, rfl⟩
  · rw [htable] at h
    obtain rfl := Option.some.inj h
    exact ⟨rfl, rfl⟩

theorem claims_type (hp : p.GoesByNames) (d : TypeDecl) (t : HostType) :
    p.claims? { d with type := t } = p.claims? d := by
  unfold claims?
  cases h : p.enums with
  | none => rfl
  | some provider => simp only [Option.filter_some, (hp.provider_type h d t).1]

theorem declComment_type (hp : p.GoesByNames) (d : TypeDecl) (t : HostType) :
    p.declComment { d with type := t } = p.declComment d := by
  unfold declComment
  rcases hp.docs with h | h <;> rw [h] <;> rfl

theorem methodComment_signature (hp : p.GoesByNames) (d : TypeDecl) (t : HostType)
    (method : HostMethod) (signature : Signature) :
    p.docs.forMethod { d with type := t } { method with signature } =
      p.docs.forMethod d method := by
  rcases hp.docs with h | h <;> rw [h] <;> rfl

/-- Promoted structs go by the name of their field. -/
theorem anonymousStruct_field (hp : p.GoesByNames) {field field' : Option HostField}
    (h : field'.map (·.name) = field.map (·.name)) (members : List Member) :
    p.anonymousStruct field' members = p.anonymousStruct field members := by
  unfold anonymousStruct
  cases field' with
  | none =>
    obtain rfl : field = none := Option.map_eq_none_iff.mp h.symm
    rfl
  | some field' =>
    obtain ⟨field, rfl, hname⟩ := Option.map_eq_some_iff.mp h.symm
    cases hnamer : p.anonNamer with
    | none => rfl
    | some namer => simp only [hp.anonNamer hnamer hname.symm]

theorem declare_type (hp : p.GoesByNames) (d : TypeDecl) (t : HostType) (members : List Member) :
    p.declare { d with type := t } members = p.declare d members := by
  unfold declare
  rw [hp.typeNamer_type, hp.declComment_type]

theorem enumeration_type (hp : p.GoesByNames) {provider : EnumProvider}
    (h : p.enums = some provider) (d : TypeDecl) (t : HostType) :
    p.enumeration provider { d with type := t } = p.enumeration provider d := by
  unfold enumeration
  rw [hp.typeNamer_type, hp.declComment_type, (hp.provider_type h d t).2]

/-! The same for declarations and methods without their hidden fields. -/

theorem typeNamer_withoutHidden (hp : p.GoesByNames) (d : TypeDecl) :
    p.typeNamer d.withoutHidden = p.typeNamer d := hp.typeNamer_type d _

theorem claims_withoutHidden (hp : p.GoesByNames) (d : TypeDecl) :
    p.claims? d.withoutHidden = p.claims? d := hp.claims_type d _

theorem declComment_withoutHidden (hp : p.GoesByNames) (d : TypeDecl) :
    p.declComment d.withoutHidden = p.declComment d := hp.declComment_type d _

theorem methodComment_withoutHidden (hp : p.GoesByNames) (d : TypeDecl) (method : HostMethod) :
    p.docs.forMethod d.withoutHidden method.withoutHidden = p.docs.forMethod d method :=
  hp.methodComment_signature d _ method _

theorem anonymousStruct_withoutHidden (hp : p.GoesByNames) (field : Option HostField)
    (members : List Member) :
    p.anonymousStruct (field.map (·.withoutHidden)) members =
      p.anonymousStruct field members :=
  hp.anonymousStruct_field (by cases field <;> rfl) members

theorem declare_withoutHidden (hp : p.GoesByNames) (d : TypeDecl) (members : List Member) :
    p.declare d.withoutHidden members = p.declare d members := hp.declare_type d _ members

theorem enumeration_withoutHidden (hp : p.GoesByNames) {provider : EnumProvider}
    (h : p.enums = some provider) (d : TypeDecl) :
    p.enumeration provider d.withoutHidden = p.enumeration provider d :=
  hp.enumeration_type h d _

end GoesByNames

/-! ## Section 5: Types and references -/

variable {p : ExtractPolicy} {S : String → Prop} {m m' : HostModule} {visit visit' : Visit}

/-- The second visitor does what the first one does with the names in `S`. -/
def VisitsSame (S : String → Prop) (visit visit' : Visit) : Prop :=
  ∀ name, S name → ∀ site, visit' name site = visit name site

theorem VisitsSame.refl (S : String → Prop) (visit : Visit) : VisitsSame S visit visit :=
  fun _ _ _ => rfl

/-- Whether a field is visible does not depend on its type. -/
theorem structMembers_cons_withoutHidden {field : HostField} {rest : List HostField}
    {owner : String}
    (hfield : field.isVisible = true → ∀ site,
      p.resolve visit' site (some field.withoutHidden) field.type.withoutHidden =
        p.resolve visit site (some field) field.type)
    (hrest : p.structMembers visit' owner (fieldsWithoutHidden rest) =
      p.structMembers visit owner rest) :
    p.structMembers visit' owner (fieldsWithoutHidden (field :: rest)) =
      p.structMembers visit owner (field :: rest) := by
  obtain ⟨name, type, tag⟩ := field
  rw [structMembers_cons, fieldsWithoutHidden]
  by_cases hv : (HostField.mk name type tag).isVisible
  · have hv' : (HostField.mk name type.withoutHidden tag).isVisible = true := hv
    have hnode : ∀ site, p.resolve visit' site (some ⟨name, type.withoutHidden, tag⟩)
        type.withoutHidden = p.resolve visit site (some ⟨name, type, tag⟩) type := hfield hv
    rw [if_pos hv, if_pos hv, structMembers_cons, if_pos hv', hrest]
    simp only [hnode]
    rfl
  · -- A field that is not visible is passed over before its type is looked at.
    rw [if_neg hv, if_neg hv, hrest]

mutual

/-- A type without its hidden fields is resolved as the type is. -/
theorem GoesByNames.resolve_withoutHidden (hp : p.GoesByNames)
    (hvisit : VisitsSame S visit visit') :
    ∀ (t : HostType) (site : String) (field : Option HostField), (∀ name ∈ t.mentions, S name) →
      p.resolve visit' site (field.map (·.withoutHidden)) t.withoutHidden =
        p.resolve visit site field t
  | .slice elem, site, field, h => by
    have helem := hp.resolve_withoutHidden hvisit elem site none h
    simp only [HostType.withoutHidden, resolve]
    rw [← helem]
    rfl
  | .array len elem, site, field, h => by
    have helem := hp.resolve_withoutHidden hvisit elem site none h
    simp only [HostType.withoutHidden, resolve]
    rw [← helem]
    rfl
  | .map key value, site, field, h => by
    rw [HostType.mentions, List.forall_mem_append] at h
    have hkey := hp.resolve_withoutHidden hvisit key site none h.1
    have hvalue := hp.resolve_withoutHidden hvisit value site none h.2
    simp only [HostType.withoutHidden, resolve]
    rw [← hkey, ← hvalue]
    rfl
  | .pointer elem, site, field, h => by
    simp only [HostType.withoutHidden, resolve]
    exact hp.resolve_withoutHidden hvisit elem site field h
  -- The field itself is seen by the namer of anonymous structs only, which goes by its name.
  | .struct fields, site, field, h => by
    simp only [HostType.withoutHidden, resolve]
    rw [hp.structMembers_withoutHidden hvisit fields site h]
    exact bind_congr fun members => hp.anonymousStruct_withoutHidden field _
  | .named name, site, field, h => by
    simp only [HostType.withoutHidden, resolve]
    exact hvisit name (h name (List.mem_singleton_self _)) site
  | .bool, _, _, _ | .int .., _, _, _ | .float _, _, _, _ | .complex _, _, _, _
  | .string, _, _, _ | .interface _, _, _, _ | .error, _, _, _ | .chan _, _, _, _
  | .func _, _, _, _ => rfl

/-- The same for the fields of a struct: hidden fields make no members. -/
theorem GoesByNames.structMembers_withoutHidden (hp : p.GoesByNames)
    (hvisit : VisitsSame S visit visit') :
    ∀ (fields : List HostField) (owner : String), (∀ name ∈ fieldMentions fields, S name) →
      p.structMembers visit' owner (fieldsWithoutHidden fields) =
        p.structMembers visit owner fields
  | [], _, _ => rfl
  | ⟨name, type, tag⟩ :: rest, owner, h => by
    -- Of a hidden field nothing is mentioned, so the rest mentions no more than the whole.
    have hrest : ∀ name ∈ fieldMentions rest, S name := by
      intro next hnext
      refine h next ?_
      rw [fieldMentions]
      split
      · exact List.mem_append_right _ hnext
      · exact hnext
    refine structMembers_cons_withoutHidden (fun hv site => ?_)
      (hp.structMembers_withoutHidden hvisit rest owner hrest)
    refine hp.resolve_withoutHidden hvisit type site (some ⟨name, type, tag⟩) fun next hnext => ?_
    refine h next ?_
    rw [fieldMentions, if_pos hv]
    exact List.mem_append_left _ hnext

end

/-- What two modules know of visiting the references inside a declaration: in neither of them is
    there a visitor, or in both, and these do the same. -/
inductive InsideSame (S : String → Prop) : Option Visit → Option Visit → Prop
  | none : InsideSame S none none
  | some {v v' : Visit} (h : VisitsSame S v v') : InsideSame S (some v) (some v')

theorem InsideSame.refl (S : String → Prop) (inside : Option Visit) :
    InsideSame S inside inside := by
  cases inside with
  | none => exact .none
  | some visit => exact .some (VisitsSame.refl S visit)

section references

variable {d : TypeDecl} {inside inside' : Option Visit}

theorem GoesByNames.reference_struct_withoutHidden (hp : p.GoesByNames) {fields : List HostField}
    (hs : d.type.deref = .struct fields) (hinside : InsideSame S inside inside')
    (hd : ∀ name ∈ d.type.mentions, S name) (site : String) :
    p.reference d.withoutHidden site inside' = p.reference d site inside := by
  have hderef : d.withoutHidden.type.deref = .struct (fieldsWithoutHidden fields) := by
    rw [TypeDecl.withoutHidden, HostType.deref_withoutHidden, hs, HostType.withoutHidden]
  have hfields : ∀ name ∈ fieldMentions fields, S name := by
    rw [← mentions_deref, hs] at hd
    exact hd
  simp only [reference, hderef, hs, hp.typeNamer_withoutHidden, hp.declComment_withoutHidden,
    hp.declare_withoutHidden]
  -- Both references are asked in places where the struct is on the path, or in places where it is
  -- not.
  cases hinside with
  | none => rfl
  | some hvisit =>
    have hmembers := hp.structMembers_withoutHidden hvisit fields d.name hfields
    have hname : d.withoutHidden.name = d.name := rfl
    simp only [hname, hmembers]

theorem GoesByNames.reference_shape_withoutHidden (hp : p.GoesByNames) (hs : ¬ d.IsStruct)
    (hinside : InsideSame S inside inside') (hd : ∀ name ∈ d.type.mentions, S name)
    (site : String) :
    p.reference d.withoutHidden site inside' = p.reference d site inside := by
  have hderef : d.withoutHidden.type.deref = d.type.deref.withoutHidden :=
    d.type.deref_withoutHidden
  have hs' : ¬ d.withoutHidden.IsStruct := by
    rintro ⟨fields, hfields⟩
    exact hs (HostType.eq_struct_of_withoutHidden (hderef ▸ hfields))
  have hc' := hp.claims_withoutHidden d
  -- The provider goes by the name, so it claims both or none.
  cases hc : p.claims? d with
  | some provider =>
    rw [hc] at hc'
    rw [reference_enum hs hc, reference_enum hs' hc']
    exact hp.enumeration_withoutHidden (Option.filter_eq_some_iff.mp hc).1 d
  | none =>
    rw [hc] at hc'
    by_cases hi : ∃ methods, d.type.deref = .interface methods
    · obtain ⟨methods, hi⟩ := hi
      rw [hi] at hderef
      rw [reference_interface hc hi, reference_interface hc' hderef]
    · have hi' : ∀ methods, d.withoutHidden.type.deref ≠ .interface methods := fun methods h =>
        hi (HostType.eq_interface_of_withoutHidden (hderef ▸ h))
      rw [reference_alias ⟨hs, hc⟩ fun methods h => hi ⟨methods, h⟩,
        reference_alias ⟨hs', hc'⟩ hi']
      cases hinside with
      | none => rfl
      | some hvisit => exact hp.resolve_withoutHidden hvisit d.type site none hd

/-- A reference to a declaration is a reference to it without its hidden fields. -/
theorem GoesByNames.reference_withoutHidden (hp : p.GoesByNames)
    (hinside : InsideSame S inside inside') (hd : ∀ name ∈ d.type.mentions, S name)
    (site : String) :
    p.reference d.withoutHidden site inside' = p.reference d site inside := by
  by_cases hs : d.IsStruct
  · obtain ⟨fields, hs⟩ := hs
    exact hp.reference_struct_withoutHidden hs hinside hd site
  · exact hp.reference_shape_withoutHidden hs hinside hd site

end references

/-- Visitors of both modules do the same with the names in `S`, whatever the path. -/
theorem GoesByNames.visit_same (hp : p.GoesByNames) (h : HostModule.SameFor S m m')
    (path : List String) : VisitsSame S (p.visit m path) (p.visit m' path) := by
  -- Each reference that is entered leaves fewer declarations to enter.
  induction hk : m.unentered path using Nat.strongRecOn generalizing path with
  | _ k ih =>
    intro name hS site
    rcases h.cases hS with ⟨hd, hd'⟩ | ⟨d, d', hd, hd', hsame⟩
    · rw [visit_unknown hd, visit_unknown hd']
    · obtain rfl := HostModule.name_of_lookup hd
      have hname : d'.name = d.name := HostModule.name_of_lookup hd'
      rw [visit_known hd, visit_known hd', hname]
      have hinside : InsideSame S
          (if d.name ∈ path then none else some (p.visit m (d.name :: path)))
          (if d.name ∈ path then none else some (p.visit m' (d.name :: path))) := by
        by_cases hpath : d.name ∈ path
        · rw [if_pos hpath, if_pos hpath]
          exact .none
        · rw [if_neg hpath, if_neg hpath]
          have hlt := HostModule.unentered_lt (HostModule.mem_of_lookup hd) hpath
          exact .some (ih _ (hk ▸ hlt) (d.name :: path) rfl)
      have hmentions : ∀ next ∈ d.type.mentions, S next := fun next hnext =>
        h.closed hS hd (List.mem_append_left _ hnext)
      -- Both declarations are the same one without their hidden fields.
      rw [← hp.reference_withoutHidden (.refl (fun _ => True) _) (fun _ _ => trivial), hsame]
      exact hp.reference_withoutHidden hinside hmentions site

/-! ## Section 6: Methods and roots -/

theorem errorLike_withoutHidden (h : HostModule.SameFor S m m') {t : HostType}
    (ht : ∀ name ∈ t.mentions, S name) : errorLike m' t.withoutHidden = errorLike m t := by
  unfold errorLike HostModule.isErrorLike
  rw [HostModule.errorLikeFrom_withoutHidden, h.errorLikeFrom ht]

theorem GoesByNames.returned_withoutHidden (hp : p.GoesByNames) (h : HostModule.SameFor S m m')
    (hvisit : VisitsSame S visit visit') {t : HostType} (ht : ∀ name ∈ t.mentions, S name)
    (site : String) :
    p.returned m' visit' site t.withoutHidden = p.returned m visit site t := by
  unfold returned
  rw [errorLike_withoutHidden h ht]
  refine bind_congr fun b => ?_
  cases b with
  | true => rfl
  | false => exact hp.resolve_withoutHidden hvisit t site none ht

theorem GoesByNames.methodReturns_withoutHidden (hp : p.GoesByNames)
    (h : HostModule.SameFor S m m') (hvisit : VisitsSame S visit visit') (d : TypeDecl)
    {method : HostMethod} (hmethod : ∀ t ∈ method.signature.results, ∀ name ∈ t.mentions, S name) :
    p.methodReturns m' visit' d.withoutHidden method.withoutHidden =
      p.methodReturns m visit d method := by
  obtain ⟨name, ⟨params, results, variadic⟩, docs⟩ := method
  simp only [methodReturns, HostMethod.withoutHidden, Signature.withoutHidden_eq]
  match results, hmethod with
  | [], _ => rfl
  | [only], hmethod =>
    exact hp.returned_withoutHidden h hvisit (hmethod only (List.mem_singleton_self _)) _
  -- The second result is judged first; hidden fields play no part in that.
  | [first, second], hmethod =>
    simp only [List.map_cons, List.map_nil]
    rw [errorLike_withoutHidden h (hmethod second (by simp))]
    refine bind_congr fun b => ?_
    cases b with
    | true => exact hp.returned_withoutHidden h hvisit (hmethod first (by simp)) _
    | false => rfl
  | first :: second :: third :: rest, _ => rfl

/-- Parameters are resolved one by one. -/
theorem GoesByNames.args_withoutHidden (hp : p.GoesByNames) (hvisit : VisitsSame S visit visit')
    (site : String) {params : List HostParam}
    (hparams : ∀ param ∈ params, ∀ name ∈ param.type.mentions, S name) (i : Nat) :
    (((params.map (·.withoutHidden)).zipIdx i).mapM fun (param, i) => do
        return (⟨p.argName i param, ← p.resolve visit' site none param.type⟩ : Arg)) =
      (params.zipIdx i).mapM fun (param, i) => do
        return (⟨p.argName i param, ← p.resolve visit site none param.type⟩ : Arg) := by
  induction params generalizing i with
  | nil => rfl
  | cons param rest ih =>
    obtain ⟨hparam, hrest⟩ := List.forall_mem_cons.mp hparams
    have htype : p.resolve visit' site none param.withoutHidden.type =
        p.resolve visit site none param.type :=
      hp.resolve_withoutHidden hvisit param.type site none hparam
    simp only [List.map_cons, List.zipIdx_cons, List.mapM_cons, htype, ih hrest]
    rfl

theorem GoesByNames.methodMember_withoutHidden (hp : p.GoesByNames)
    (h : HostModule.SameFor S m m') (hvisit : VisitsSame S visit visit') (d : TypeDecl)
    {method : HostMethod} (hmethod : ∀ name ∈ method.mentions, S name) :
    p.methodMember m' visit' d.withoutHidden method.withoutHidden =
      p.methodMember m visit d method := by
  obtain ⟨hresults, hparams⟩ := List.forall_mem_append.mp hmethod
  have hreturns := hp.methodReturns_withoutHidden h hvisit d fun t ht name hname =>
    hresults name (List.mem_flatMap.mpr ⟨t, ht, hname⟩)
  have hargs := hp.args_withoutHidden hvisit s!"{d.name}.{method.name}"
    (fun param hparam name hname =>
      hparams name (List.mem_flatMap.mpr ⟨param, hparam, hname⟩)) 0
  have hsignature : method.withoutHidden.signature = _ := method.signature.withoutHidden_eq
  have hname : d.withoutHidden.name = d.name := rfl
  have hmethodName : method.withoutHidden.name = method.name := rfl
  rw [methodMember_eq, methodMember_eq, hreturns, hname, hmethodName, hsignature]
  -- Names and comments are made of what has no hidden part.
  have hfinish : p.finishMethod visit' d.withoutHidden method.withoutHidden =
      p.finishMethod visit d method := by
    funext returns
    unfold finishMethod
    rw [hsignature, hname, hmethodName]
    simp only [hargs]
    refine bind_congr fun args => ?_
    unfold methodOf
    rw [hp.methodComment_withoutHidden]
    rfl
  rw [hfinish]

/-- The members of an interface. -/
theorem GoesByNames.methods_withoutHidden (hp : p.GoesByNames) (h : HostModule.SameFor S m m')
    (hvisit : VisitsSame S visit visit') (d : TypeDecl) {methods : List HostMethod}
    (hmethods : ∀ method ∈ methods, ∀ name ∈ method.mentions, S name) :
    (methodsWithoutHidden methods).mapM (p.methodMember m' visit' d.withoutHidden) =
      methods.mapM (p.methodMember m visit d) := by
  rw [methodsWithoutHidden_eq]
  induction methods with
  | nil => rfl
  | cons method rest ih =>
    obtain ⟨hmethod, hrest⟩ := List.forall_mem_cons.mp hmethods
    rw [List.map_cons, List.mapM_cons, List.mapM_cons, ih hrest,
      hp.methodMember_withoutHidden h hvisit d hmethod]

/-- The walk from a root that has been looked up. -/
def declareRoot (p : ExtractPolicy) (m : HostModule) (visit : Visit) (d : TypeDecl) : Walk Unit :=
  match d.type.deref with
  | .struct fields => p.structMembers visit d.name fields >>= p.declare d
  | .interface methods => methods.mapM (p.methodMember m visit d) >>= p.declare d
  | shape => throw (.unsuitableRoot d.name shape.kind)

theorem walkRoot_known {name : String} {d : TypeDecl} (hd : m.lookup name = some d) :
    p.walkRoot m (.named name) = p.declareRoot m (p.visit m [d.name]) d := by
  simp only [walkRoot, HostType.deref, hd]
  rfl

theorem walkRoot_unknown {name : String} (hd : m.lookup name = none) :
    p.walkRoot m (.named name) = throw (.unknownType name "root") := by
  simp only [walkRoot, HostType.deref, hd]

theorem GoesByNames.declareRoot_withoutHidden (hp : p.GoesByNames)
    (h : HostModule.SameFor S m m') (hvisit : VisitsSame S visit visit') {d : TypeDecl}
    (hd : ∀ name ∈ d.exposes, S name) :
    p.declareRoot m' visit' d.withoutHidden = p.declareRoot m visit d := by
  obtain ⟨htype, hmethods⟩ := List.forall_mem_append.mp hd
  have hderef : d.withoutHidden.type.deref = d.type.deref.withoutHidden :=
    d.type.deref_withoutHidden
  unfold declareRoot
  rw [hderef]
  cases hs : d.type.deref with
  | struct fields =>
    -- Hidden fields do not become members.
    rw [← mentions_deref, hs] at htype
    have hmembers := hp.structMembers_withoutHidden hvisit fields d.name htype
    have hname : d.withoutHidden.name = d.name := rfl
    simp only [HostType.withoutHidden, hname, hmembers]
    exact bind_congr fun members => hp.declare_withoutHidden d members
  | interface methods =>
    -- A method hides nothing, so all names in it are among those on which the modules agree.
    have hnames : ∀ method ∈ methods, ∀ name ∈ method.mentions, S name := by
      intro method hmethod name hname
      refine hmethods name (List.mem_flatMap.mpr ⟨method, ?_, hname⟩)
      rw [TypeDecl.methods, hs]
      exact hmethod
    simp only [HostType.withoutHidden, hp.methods_withoutHidden h hvisit d hnames]
    exact bind_congr fun members => hp.declare_withoutHidden d members
  | _ => rfl

/-! ## Section 7: Extraction -/

/-- The names that can be reached from a root are enough for the walk from it. -/
theorem HostModule.sameFor_exposes {m m' : HostModule} {root : String}
    (h : ∀ name, m.Exposes root name →
      (m'.lookup name).map TypeDecl.withoutHidden = (m.lookup name).map TypeDecl.withoutHidden) :
    HostModule.SameFor (m.Exposes root) m m' :=
  ⟨fun hname => h _ hname, fun hname hd hnext => .step hname hd hnext⟩

/-- A walk from a root makes the same graph from two modules, or fails with the same error, if for
    every name that it can reach both declare nothing or the same up to hidden fields. -/
theorem GoesByNames.extractNamed_eq (hp : p.GoesByNames) {root : String}
    (h : ∀ name, m.Exposes root name →
      (m'.lookup name).map TypeDecl.withoutHidden = (m.lookup name).map TypeDecl.withoutHidden) :
    extractNamed m' root p = extractNamed m root p := by
  have hsame := HostModule.sameFor_exposes h
  have hwalk : p.walkRoot m' (.named root) = p.walkRoot m (.named root) := by
    rcases hsame.cases .root with ⟨hd, hd'⟩ | ⟨d, d', hd, hd', heq⟩
    · rw [walkRoot_unknown hd, walkRoot_unknown hd']
    · obtain rfl := HostModule.name_of_lookup hd
      have hname : d'.name = d.name := HostModule.name_of_lookup hd'
      rw [walkRoot_known hd, walkRoot_known hd', hname,
        ← hp.declareRoot_withoutHidden (.refl m') (VisitsSame.refl _ _) (fun _ _ => trivial), heq]
      exact hp.declareRoot_withoutHidden hsame (hp.visit_same hsame _) fun next hnext =>
        .step .root hd hnext
  unfold extractNamed extract
  rw [hwalk]

/-- A struct with lines of an anonymous struct. -/
def billModule : HostModule where
  types := [
    ⟨"Bill", .struct [⟨"Kind", .named "Kind", none⟩,
      ⟨"Lines", .slice (.struct [⟨"Text", .string, none⟩]), none⟩], some "A bill.", none⟩,
    ⟨"Kind", .string, none, some [.string "Open" "open"]⟩]

/-- The same struct with hidden fields of types that cannot be written, among them a struct that
    contains itself, and with a declaration that nothing mentions. -/
def billModuleWithHidden : HostModule where
  types := [
    ⟨"Loop", .struct [⟨"Loop", .named "Loop", none⟩], none, none⟩,
    ⟨"Bill", .struct [⟨"Done", .chan .bool, some "-"⟩, ⟨"Kind", .named "Kind", none⟩,
      ⟨"Lines", .slice (.struct [⟨"loop", .named "Loop", none⟩, ⟨"Text", .string, none⟩,
        ⟨"Cost", .named "Money", some "-,omitempty"⟩]), none⟩], some "A bill.", none⟩,
    ⟨"Kind", .string, none, some [.string "Open" "open"]⟩]

/-- The policy that writes everything inline that it can. -/
def inlining : ExtractPolicy where
  embedStructs := true
  followStructs := true
  anonNamer := some CaseStyle.preserve.fieldNamer
  typeNamer := CaseStyle.preserve.typeNamer
  sort := .discovery
  enums := some .declared
  docs := .declared
  preserveParamNames := true

def billGraph : List TypeNode :=
  [.enum "Kind" none [.string "Open" "open"],
    .interface "Bill" (some "A bill.") [.property "Kind" (.simple "Kind"),
      .property "Lines" (.array [.interface "" none [.property "Text" .string]])]]

theorem billModuleWithHidden_same : inlining.GoesByNames ∧
    (∀ name, billModule.Exposes "Bill" name →
      (billModuleWithHidden.lookup name).map TypeDecl.withoutHidden =
        (billModule.lookup name).map TypeDecl.withoutHidden) ∧
    extractNamed billModuleWithHidden "Bill" inlining = .ok billGraph := by
  have hp : inlining.GoesByNames :=
    .of_casing .preserve .preserve rfl (.inr rfl) (.inr (.inl rfl)) (.inr rfl)
  have hclosed : ∀ name ∈ ["Bill", "Kind"],
      ∀ next ∈ ((billModule.lookup name).map TypeDecl.exposes).getD [],
        next ∈ ["Bill", "Kind"] := by
    decide +kernel
  -- The two names are closed under going on, and the root is one of them.
  have hexposed : ∀ name, billModule.Exposes "Bill" name → name ∈ ["Bill", "Kind"] := by
    intro name h
    induction h with
    | root => simp
    | @step name d next _ hd hnext ih =>
      have hmem := hclosed name ih next
      rw [hd] at hmem
      exact hmem hnext
  have hsame : ∀ name, billModule.Exposes "Bill" name →
      (billModuleWithHidden.lookup name).map TypeDecl.withoutHidden =
        (billModule.lookup name).map TypeDecl.withoutHidden := by
    intro name h
    rcases List.mem_cons.mp (hexposed name h) with rfl | h
    · rfl
    · obtain rfl := List.mem_singleton.mp h
      rfl
  have hgraph : extractNamed billModule "Bill" inlining = .ok billGraph := by cbv
  exact ⟨hp, hsame, (hp.extractNamed_eq hsame).trans hgraph⟩

end ExtractPolicy

end TypeExport
