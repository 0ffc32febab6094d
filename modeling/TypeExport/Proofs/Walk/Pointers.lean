import TypeExport.Proofs.Walk.Hidden

/-! # Pointers are Transparent

    Pointers are looked through wherever a walk looks at a type: at the root, in a field, behind the
    name of a declaration, in the elements of collections and in the test for errors.  So a module
    and a root without any pointers make the same graph, or fail with the same error.

    There is one place where a pointer is seen.  What makes an interface an error is a method
    `Error` whose only result is the type of texts itself, so the results of methods of this name
    stay as they are.

    As for hidden fields the argument has two halves.  Within one module a walk over a type is the
    walk over the type without pointers, with the same visitor for the names in it.  Between the
    module and the module without pointers, visitors are the same because each declaration is
    visited as the one without pointers is. -/

namespace TypeExport

/-! ## Section 1: Without pointers -/

mutual

/-- The type without the pointers in it. -/
def HostType.withoutPointers : HostType → HostType
  | .slice elem => .slice elem.withoutPointers
  | .array len elem => .array len elem.withoutPointers
  | .map key value => .map key.withoutPointers value.withoutPointers
  | .pointer elem => elem.withoutPointers
  | .struct fields => .struct (fieldsWithoutPointers fields)
  | .interface methods => .interface (methodsWithoutPointers methods)
  | .chan elem => .chan elem.withoutPointers
  | .func signature => .func signature.withoutPointers
  | .bool => .bool
  | .int bits unsigned => .int bits unsigned
  | .float bits => .float bits
  | .complex bits => .complex bits
  | .string => .string
  | .error => .error
  | .named name => .named name

def fieldsWithoutPointers : List HostField → List HostField
  | [] => []
  | ⟨name, type, tag⟩ :: rest => ⟨name, type.withoutPointers, tag⟩ :: fieldsWithoutPointers rest

def Signature.withoutPointers : Signature → Signature
  | ⟨params, results, variadic⟩ =>
    ⟨paramsWithoutPointers params, typesWithoutPointers results, variadic⟩

def methodsWithoutPointers : List HostMethod → List HostMethod
  | [] => []
  | ⟨name, ⟨params, results, variadic⟩, docs⟩ :: rest =>
    ⟨name, ⟨paramsWithoutPointers params,
      if name = "Error" then results else typesWithoutPointers results, variadic⟩, docs⟩ ::
        methodsWithoutPointers rest

def paramsWithoutPointers : List HostParam → List HostParam
  | [] => []
  | ⟨name, type⟩ :: rest => ⟨name, type.withoutPointers⟩ :: paramsWithoutPointers rest

def typesWithoutPointers : List HostType → List HostType
  | [] => []
  | t :: rest => t.withoutPointers :: typesWithoutPointers rest

end

def HostField.withoutPointers (f : HostField) : HostField :=
  { f with type := f.type.withoutPointers }

def HostParam.withoutPointers (p : HostParam) : HostParam :=
  { p with type := p.type.withoutPointers }

/-- The results of the method without the pointers in them, unless they decide whether it makes an
    error. -/
def HostMethod.resultsWithoutPointers (method : HostMethod) : List HostType :=
  if method.name = "Error" then method.signature.results
  else method.signature.results.map (·.withoutPointers)

/-- The method without the pointers in its parameters and results. -/
def HostMethod.withoutPointers (method : HostMethod) : HostMethod :=
  { method with signature := { method.signature with
      params := method.signature.params.map (·.withoutPointers)
      results := method.resultsWithoutPointers } }

def TypeDecl.withoutPointers (d : TypeDecl) : TypeDecl :=
  { d with type := d.type.withoutPointers }

/-- The module without the pointers in its declarations. -/
def HostModule.withoutPointers (m : HostModule) : HostModule :=
  { m with types := m.types.map (·.withoutPointers) }

theorem paramsWithoutPointers_eq (params : List HostParam) :
    paramsWithoutPointers params = params.map (·.withoutPointers) := by
  induction params with
  | nil => rfl
  | cons p rest ih =>
    obtain ⟨name, type⟩ := p
    rw [paramsWithoutPointers, ih, List.map_cons, HostParam.withoutPointers]

theorem typesWithoutPointers_eq (ts : List HostType) :
    typesWithoutPointers ts = ts.map (·.withoutPointers) := by
  induction ts with
  | nil => rfl
  | cons t rest ih => rw [typesWithoutPointers, ih, List.map_cons]

theorem methodsWithoutPointers_eq (methods : List HostMethod) :
    methodsWithoutPointers methods = methods.map (·.withoutPointers) := by
  induction methods with
  | nil => rfl
  | cons method rest ih =>
    obtain ⟨name, ⟨params, results, variadic⟩, docs⟩ := method
    rw [methodsWithoutPointers, ih, List.map_cons, HostMethod.withoutPointers,
      paramsWithoutPointers_eq, typesWithoutPointers_eq]
    rfl

theorem HostModule.lookup_withoutPointers (m : HostModule) (name : String) :
    m.withoutPointers.lookup name = (m.lookup name).map TypeDecl.withoutPointers := by
  rw [lookup, lookup, withoutPointers, List.find?_map]
  rfl

/-- A type without pointers has none in front. -/
theorem HostType.deref_withoutPointers (t : HostType) :
    t.withoutPointers.deref = t.deref.withoutPointers := by
  induction t using HostType.deref.induct with
  | case1 elem ih => rw [withoutPointers, deref, ih]
  | case2 t h =>
    cases t with
    | pointer elem => exact absurd rfl (h elem)
    | _ => rfl

theorem HostType.eq_struct_of_deref_withoutPointers {t : HostType} {fields : List HostField}
    (h : t.withoutPointers.deref = .struct fields) : ∃ fields', t.deref = .struct fields' := by
  rw [deref_withoutPointers] at h
  cases ht : t.deref with
  | struct fields' => exact ⟨fields', rfl⟩
  | pointer elem => exact absurd ht (t.deref_ne_pointer elem)
  | _ =>
    rw [ht] at h
    exact absurd h (by simp [withoutPointers])

theorem HostType.eq_interface_of_deref_withoutPointers {t : HostType} {methods : List HostMethod}
    (h : t.withoutPointers.deref = .interface methods) :
    ∃ methods', t.deref = .interface methods' := by
  rw [deref_withoutPointers] at h
  cases ht : t.deref with
  | interface methods' => exact ⟨methods', rfl⟩
  | pointer elem => exact absurd ht (t.deref_ne_pointer elem)
  | _ =>
    rw [ht] at h
    exact absurd h (by simp [withoutPointers])

/-! ## Section 2: Within one module -/

/-- A method makes an interface an error with or without the pointers in its signature. -/
theorem HostModule.errorLikeFrom_withoutPointers (m : HostModule) (path : List String)
    (t : HostType) : m.errorLikeFrom path t.withoutPointers = m.errorLikeFrom path t := by
  rw [errorLikeFrom, errorLikeFrom, HostType.deref_withoutPointers]
  cases h : t.deref with
  | pointer elem => exact absurd h (t.deref_ne_pointer elem)
  | interface methods =>
    simp only [HostType.withoutPointers, methodsWithoutPointers_eq, List.any_map]
    congr 2
    funext method
    simp only [Function.comp_apply, HostMethod.withoutPointers, List.isEmpty_map]
    by_cases hname : method.name = "Error"
    · -- The results that are looked at are those that were left alone.
      simp only [HostMethod.resultsWithoutPointers, if_pos hname]
    · simp only [beq_eq_false_iff_ne.mpr hname, Bool.false_and]
  | _ => rfl

namespace ExtractPolicy

variable {p : ExtractPolicy} {m : HostModule} {visit : Visit}

theorem errorLike_withoutPointers (m : HostModule) (t : HostType) :
    errorLike m t.withoutPointers = errorLike m t := by
  unfold errorLike HostModule.isErrorLike
  rw [m.errorLikeFrom_withoutPointers]

namespace GoesByNames

mutual

/-- A type without its pointers is resolved as the type is. -/
theorem resolve_withoutPointers (hp : p.GoesByNames) :
    ∀ (t : HostType) (site : String) (field : Option HostField),
      p.resolve visit site (field.map (·.withoutPointers)) t.withoutPointers =
        p.resolve visit site field t
  | .slice elem, site, field => by
    have helem := hp.resolve_withoutPointers elem site none
    simp only [HostType.withoutPointers, resolve]
    rw [← helem]
    rfl
  | .array len elem, site, field => by
    have helem := hp.resolve_withoutPointers elem site none
    simp only [HostType.withoutPointers, resolve]
    rw [← helem]
    rfl
  | .map key value, site, field => by
    have hkey := hp.resolve_withoutPointers key site none
    have hvalue := hp.resolve_withoutPointers value site none
    simp only [HostType.withoutPointers, resolve]
    rw [← hkey, ← hvalue]
    rfl
  | .pointer elem, site, field => by
    -- A pointer hands its field on, so the type behind it stands where the pointer stood.
    simp only [HostType.withoutPointers, resolve]
    exact hp.resolve_withoutPointers elem site field
  | .struct fields, site, field => by
    simp only [HostType.withoutPointers, resolve]
    rw [hp.structMembers_withoutPointers fields site]
    exact bind_congr fun members =>
      hp.anonymousStruct_field (by cases field <;> rfl) _
  | .named _, _, _ | .bool, _, _ | .int .., _, _ | .float _, _, _ | .complex _, _, _
  | .string, _, _ | .interface _, _, _ | .error, _, _ | .chan _, _, _ | .func _, _, _ => rfl

/-- The same for the fields of a struct. -/
theorem structMembers_withoutPointers (hp : p.GoesByNames) :
    ∀ (fields : List HostField) (owner : String),
      p.structMembers visit owner (fieldsWithoutPointers fields) =
        p.structMembers visit owner fields
  | [], _ => rfl
  | ⟨name, type, tag⟩ :: rest, owner => by
    have hrest := hp.structMembers_withoutPointers rest owner
    have htype : ∀ site, p.resolve visit site (some ⟨name, type.withoutPointers, tag⟩)
        type.withoutPointers = p.resolve visit site (some ⟨name, type, tag⟩) type :=
      fun site => hp.resolve_withoutPointers type site (some ⟨name, type, tag⟩)
    rw [fieldsWithoutPointers, structMembers_cons, structMembers_cons, hrest]
    simp only [htype]
    rfl

end

/-- A type that stands in no field. -/
theorem resolve_none_withoutPointers (hp : p.GoesByNames) (t : HostType) (site : String) :
    p.resolve visit site none t.withoutPointers = p.resolve visit site none t :=
  hp.resolve_withoutPointers t site none

/-- A reference to a declaration is a reference to it without its pointers. -/
theorem reference_withoutPointers (hp : p.GoesByNames) (d : TypeDecl) (site : String)
    (inside : Option Visit) :
    p.reference d.withoutPointers site inside = p.reference d site inside := by
  have hderef : d.withoutPointers.type.deref = d.type.deref.withoutPointers :=
    d.type.deref_withoutPointers
  have hname : d.withoutPointers.name = d.name := rfl
  have hclaims : p.claims? d.withoutPointers = p.claims? d := hp.claims_type d _
  by_cases hs : d.IsStruct
  · obtain ⟨fields, hs⟩ := hs
    have htypeNamer : p.typeNamer d.withoutPointers = p.typeNamer d := hp.typeNamer_type d _
    have hcomment : p.declComment d.withoutPointers = p.declComment d := hp.declComment_type d _
    have hdeclare : ∀ members, p.declare d.withoutPointers members = p.declare d members :=
      hp.declare_type d _
    rw [hs, HostType.withoutPointers] at hderef
    simp only [reference, hderef, hs, hname, htypeNamer, hcomment, hdeclare,
      hp.structMembers_withoutPointers]
  · have hs' : ¬ d.withoutPointers.IsStruct := by
      rintro ⟨fields, hfields⟩
      exact hs (HostType.eq_struct_of_deref_withoutPointers hfields)
    -- The provider goes by the name, so both declarations are claimed or none of them is.
    cases hc : p.claims? d with
    | some provider =>
      rw [reference_enum hs hc, reference_enum hs' (hclaims.trans hc)]
      exact hp.enumeration_type (Option.filter_eq_some_iff.mp hc).1 d _
    | none =>
      by_cases hi : ∃ methods, d.type.deref = .interface methods
      · obtain ⟨methods, hi⟩ := hi
        rw [hi, HostType.withoutPointers] at hderef
        rw [reference_interface hc hi, reference_interface (hclaims.trans hc) hderef]
      · have hi' : ∀ methods, d.withoutPointers.type.deref ≠ .interface methods := fun methods h =>
          hi (HostType.eq_interface_of_deref_withoutPointers h)
        rw [reference_alias ⟨hs, hc⟩ fun methods h => hi ⟨methods, h⟩,
          reference_alias ⟨hs', hclaims.trans hc⟩ hi']
        cases inside with
        | none => rfl
        | some visit => exact hp.resolve_none_withoutPointers d.type site

/-- What a method returns. -/
theorem returned_withoutPointers (hp : p.GoesByNames) (t : HostType) (site : String) :
    p.returned m visit site t.withoutPointers = p.returned m visit site t := by
  unfold returned
  rw [errorLike_withoutPointers]
  simp only [hp.resolve_none_withoutPointers]

theorem methodReturns_withoutPointers (hp : p.GoesByNames) (d : TypeDecl) (method : HostMethod) :
    p.methodReturns m visit d.withoutPointers method.withoutPointers =
      p.methodReturns m visit d method := by
  have hname : d.withoutPointers.name = d.name := rfl
  have hmethodName : method.withoutPointers.name = method.name := rfl
  have hresults : method.withoutPointers.signature.results = method.resultsWithoutPointers := rfl
  unfold methodReturns
  rw [hname, hmethodName, hresults, HostMethod.resultsWithoutPointers]
  by_cases h : method.name = "Error"
  · rw [if_pos h]
  · rw [if_neg h]
    match method.signature.results with
    | [] => rfl
    | [only] => exact hp.returned_withoutPointers only _
    | [first, second] =>
      simp only [List.map_cons, List.map_nil, errorLike_withoutPointers,
        hp.returned_withoutPointers]
    | first :: second :: third :: rest => rfl

/-- Parameters are resolved one by one. -/
theorem args_withoutPointers (hp : p.GoesByNames) (site : String) (params : List HostParam)
    (i : Nat) :
    (((params.map (·.withoutPointers)).zipIdx i).mapM fun (param, i) => do
        return (⟨p.argName i param, ← p.resolve visit site none param.type⟩ : Arg)) =
      (params.zipIdx i).mapM fun (param, i) => do
        return (⟨p.argName i param, ← p.resolve visit site none param.type⟩ : Arg) := by
  induction params generalizing i with
  | nil => rfl
  | cons param rest ih =>
    have htype : p.resolve visit site none param.withoutPointers.type =
        p.resolve visit site none param.type := hp.resolve_none_withoutPointers param.type site
    simp only [List.map_cons, List.zipIdx_cons, List.mapM_cons, htype, ih]
    rfl

theorem methodMember_withoutPointers (hp : p.GoesByNames) (d : TypeDecl) (method : HostMethod) :
    p.methodMember m visit d.withoutPointers method.withoutPointers =
      p.methodMember m visit d method := by
  have hname : d.withoutPointers.name = d.name := rfl
  have hmethodName : method.withoutPointers.name = method.name := rfl
  have hvariadic : method.withoutPointers.signature.variadic = method.signature.variadic := rfl
  -- Results are looked at apart from parameters.
  have hfinish : p.finishMethod visit d.withoutPointers method.withoutPointers =
      p.finishMethod visit d method := by
    have hparams : method.withoutPointers.signature.params =
        method.signature.params.map (·.withoutPointers) := rfl
    funext returns
    unfold finishMethod
    rw [hparams, hname, hmethodName, hp.args_withoutPointers]
    refine bind_congr fun args => ?_
    have hcomment : p.docs.forMethod d.withoutPointers method.withoutPointers =
        p.docs.forMethod d method := hp.methodComment_signature d _ method _
    unfold methodOf
    rw [hcomment]
    rfl
  rw [methodMember_eq, methodMember_eq, hp.methodReturns_withoutPointers, hfinish, hvariadic,
    hname, hmethodName]

/-- The walk from a root that has been looked up. -/
theorem declareRoot_withoutPointers (hp : p.GoesByNames) (d : TypeDecl) :
    p.declareRoot m visit d.withoutPointers = p.declareRoot m visit d := by
  have hderef : d.withoutPointers.type.deref = d.type.deref.withoutPointers :=
    d.type.deref_withoutPointers
  have hname : d.withoutPointers.name = d.name := rfl
  have hdeclare : p.declare d.withoutPointers = p.declare d := funext (hp.declare_type d _)
  unfold declareRoot
  rw [hderef, hname, hdeclare]
  cases hs : d.type.deref with
  | struct fields => simp only [HostType.withoutPointers, hp.structMembers_withoutPointers]
  | interface methods =>
    simp only [HostType.withoutPointers, methodsWithoutPointers_eq, List.mapM_map]
    have hmethod : p.methodMember m visit d.withoutPointers ∘ HostMethod.withoutPointers =
        p.methodMember m visit d := funext (hp.methodMember_withoutPointers d)
    rw [hmethod]
  | pointer elem => exact absurd hs (d.type.deref_ne_pointer elem)
  | _ => rfl

end GoesByNames

/-! ## Section 3: Between the modules -/

/-- A chain of names leads to the same end in both modules. -/
theorem errorLikeFrom_module (m : HostModule) (path : List String) (t : HostType) :
    m.withoutPointers.errorLikeFrom path t = m.errorLikeFrom path t := by
  -- Each name that is passed leaves fewer declarations to pass.
  induction hk : m.unentered path using Nat.strongRecOn generalizing path t with
  | _ k ih =>
    cases hname : t.deref with
    | named name =>
      have hlookup := m.lookup_withoutPointers name
      by_cases hpath : name ∈ path
      · rw [HostModule.errorLikeFrom_again hname hpath, HostModule.errorLikeFrom_again hname hpath]
      · cases hd : m.lookup name with
        | none =>
          rw [hd, Option.map_none] at hlookup
          rw [HostModule.errorLikeFrom_unknown hname hpath hd,
            HostModule.errorLikeFrom_unknown hname hpath hlookup]
        | some d =>
          rw [hd, Option.map_some] at hlookup
          obtain rfl := HostModule.name_of_lookup hd
          have hlt := HostModule.unentered_lt (HostModule.mem_of_lookup hd) hpath
          rw [HostModule.errorLikeFrom_known hname hpath hd,
            HostModule.errorLikeFrom_known hname hpath hlookup, TypeDecl.withoutPointers,
            HostModule.errorLikeFrom_withoutPointers]
          exact ih _ (hk ▸ hlt) _ _ rfl
    | _ => rw [HostModule.errorLikeFrom, HostModule.errorLikeFrom, hname]

/-- A method looks at its module in the test for errors only. -/
theorem methodMember_module (p : ExtractPolicy) (m : HostModule) (visit : Visit) (d : TypeDecl) :
    p.methodMember m.withoutPointers visit d = p.methodMember m visit d := by
  have herror : errorLike m.withoutPointers = errorLike m := by
    funext t
    unfold errorLike HostModule.isErrorLike
    rw [errorLikeFrom_module]
  funext method
  unfold methodMember returned
  rw [herror]

/-- References are visited as they are in the module with pointers, whatever the path. -/
theorem GoesByNames.visit_withoutPointers (hp : p.GoesByNames) (path : List String) :
    p.visit m.withoutPointers path = p.visit m path := by
  -- Each reference that is entered leaves fewer declarations to enter.
  induction hk : m.unentered path using Nat.strongRecOn generalizing path with
  | _ k ih =>
    funext name site
    have hlookup := m.lookup_withoutPointers name
    cases hd : m.lookup name with
    | none =>
      rw [hd, Option.map_none] at hlookup
      rw [visit_unknown hd, visit_unknown hlookup]
    | some d =>
      rw [hd, Option.map_some] at hlookup
      obtain rfl := HostModule.name_of_lookup hd
      have hname : d.withoutPointers.name = d.name := rfl
      rw [visit_known hd, visit_known hlookup, hp.reference_withoutPointers, hname]
      by_cases hpath : d.name ∈ path
      · rw [if_pos hpath, if_pos hpath]
      · have hlt := HostModule.unentered_lt (HostModule.mem_of_lookup hd) hpath
        rw [if_neg hpath, if_neg hpath, ih _ (hk ▸ hlt) (d.name :: path) rfl]

/-! ## Section 4: Extraction -/

/-- A root behind pointers is the root itself. -/
theorem walkRoot_of_named {root : HostType} {name : String} (h : root.deref = .named name) :
    p.walkRoot m root = p.walkRoot m (.named name) := by
  unfold walkRoot
  rw [h]
  rfl

theorem GoesByNames.walkRoot_withoutPointers (hp : p.GoesByNames) (root : HostType) :
    p.walkRoot m.withoutPointers root.withoutPointers = p.walkRoot m root := by
  have hderef := root.deref_withoutPointers
  cases hroot : root.deref with
  | named name =>
    rw [hroot, HostType.withoutPointers] at hderef
    rw [walkRoot_of_named hroot, walkRoot_of_named hderef]
    have hlookup := m.lookup_withoutPointers name
    cases hd : m.lookup name with
    | none =>
      rw [hd, Option.map_none] at hlookup
      rw [walkRoot_unknown hd, walkRoot_unknown hlookup]
    | some d =>
      rw [hd, Option.map_some] at hlookup
      have hname : d.withoutPointers.name = d.name := rfl
      rw [walkRoot_known hd, walkRoot_known hlookup, hname, hp.visit_withoutPointers,
        hp.declareRoot_withoutPointers]
      unfold declareRoot
      rw [methodMember_module]
  | pointer elem => exact absurd hroot (root.deref_ne_pointer elem)
  -- All other roots are refused by their kind.
  | _ =>
    rw [hroot] at hderef
    unfold walkRoot
    rw [hderef, hroot]
    rfl

/-- Taking all pointers out of the root and of the module leaves the outcome of an extraction as it
    is: the same nodes in the same order, or the same error. -/
theorem GoesByNames.extract_withoutPointers (hp : p.GoesByNames) (m : HostModule)
    (root : HostType) :
    extract m.withoutPointers root.withoutPointers p = extract m root p := by
  unfold extract
  rw [hp.walkRoot_withoutPointers]

/-- An interface behind a pointer, whose method takes a pointer and returns two of them; the struct
    that it hands out is itself behind a pointer and points back to itself. -/
def deskModule : HostModule where
  types := [
    ⟨"Desk", .pointer (.interface [⟨"Find", ⟨[⟨some "key", .pointer .string⟩],
      [.pointer (.pointer (.named "Guest")), .pointer (.named "Fault")], false⟩, none⟩]),
      none, none⟩,
    ⟨"Guest", .pointer (.struct [⟨"Name", .pointer .string, some "name,omitempty"⟩,
      ⟨"Friends", .map .string (.slice (.pointer (.named "Guest"))), none⟩]), none, none⟩,
    ⟨"Fault", .interface [⟨"Error", ⟨[], [.string], false⟩, none⟩], none, none⟩]

def deskGraph : List TypeNode :=
  [.interface "Guest" none [{ Member.property "name" .string with optional := true },
      .property "Friends" (.map [.string, .array [.simple "Guest"]])],
    .interface "Desk" none [.method "Find" (.simple "Guest") [⟨"arg0", .string⟩]]]

theorem deskModule_withoutPointers : following.GoesByNames ∧
    extract deskModule (.pointer (.pointer (.named "Desk"))) following = .ok deskGraph ∧
    extract deskModule.withoutPointers (.named "Desk") following = .ok deskGraph := by
  have hp : following.GoesByNames :=
    .of_casing .preserve .preserve rfl (.inl rfl) (.inr (.inl rfl)) (.inl rfl)
  have hgraph : extract deskModule (.pointer (.pointer (.named "Desk"))) following =
      .ok deskGraph := by cbv
  exact ⟨hp, hgraph, (hp.extract_withoutPointers deskModule _).trans hgraph⟩

end ExtractPolicy

end TypeExport
