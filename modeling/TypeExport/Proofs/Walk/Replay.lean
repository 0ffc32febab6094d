import TypeExport.Proofs.Walk.Root

/-! # Derivations are Computed

    Every outcome of a walk has a derivation.  Here is the way back for walks that succeed: what has
    a derivation is what the walk computes.  So a walk may be changed into another one by changing
    its derivation.

    For roots that are interfaces a derivation of the types that their methods expose is not all:
    the shapes of the methods are judged, too.  But this judgement, `Exportable`, is the same under
    all policies. -/

namespace TypeExport

namespace ExtractPolicy

variable {policy : ExtractPolicy} {m : HostModule}

/-! ## Section 1: Members -/

/-- With this visitor several places are resolved one after the other. -/
inductive Computes (policy : ExtractPolicy) (visit : Visit) :
    List Position → Progress → List TypeNode → Progress → Prop
  | nil {s} : Computes policy visit [] s [] s
  | cons {p ps s n s₁ ns s'}
    (h : ∀ site, policy.resolve visit site p.field p.type s = .ok (n, s₁))
    (hs : Computes policy visit ps s₁ ns s') : Computes policy visit (p :: ps) s (n :: ns) s'

variable {visit : Visit} {path : List String}

/-- The members of a struct are made of what is computed for its visible fields. -/
theorem Computes.structMembers_eq {owner : String} : ∀ {fields : List HostField} {s s' : Progress}
    {ns : List TypeNode}, policy.Computes visit (visiblePositions fields) s ns s' →
      policy.structMembers visit owner fields s = .ok (fieldMembers fields ns, s')
  | [], s, s', ns, h => by
    cases h
    rfl
  | f :: rest, s, s', ns, h => by
    rw [structMembers_cons]
    by_cases hv : f.isVisible
    · have hpos : visiblePositions (f :: rest) = f.position :: visiblePositions rest := by
        simp [visiblePositions, visibleFields, hv]
      rw [hpos] at h
      cases h with
      | @cons _ _ _ n s₁ ns _ h hs =>
        have hfirst : policy.resolve visit s!"{owner}.{f.name}" (some f) f.type s = .ok (n, s₁) :=
          h _
        have hmembers : fieldMembers (f :: rest) (n :: ns) =
            f.property n :: fieldMembers rest ns := by
          simp [fieldMembers, visibleFields, hv]
        simp only [hv, if_true, Walk.bind_apply, hfirst, hs.structMembers_eq, hmembers]
        rfl
    -- A hidden field takes no position and yields no member.
    · have hvis : visibleFields (f :: rest) = visibleFields rest := by simp [visibleFields, hv]
      rw [visiblePositions, hvis] at h
      simpa only [hv, Bool.false_eq_true, if_false, fieldMembers, hvis] using h.structMembers_eq

/-! ## Section 2: References -/

theorem resolve_leaf {t : HostType} {site : String} {n : TypeNode} (h : leaf site t = .ok n)
    (site' : String) (field : Option HostField) (s : Progress) :
    policy.resolve visit site' field t s = .ok (n, s) := by
  cases t <;> simp_all [leaf, resolve, liftExcept, Walk.pure_apply]

/-- A shape that is resolved is no interface. -/
theorem Resolves.deref_ne_interface {path : List String} {field : Option HostField} {t : HostType}
    {s s' : Progress} {n : TypeNode} (h : policy.Resolves m path field t s n s')
    (methods : List HostMethod) : t.deref ≠ .interface methods := by
  induction t using HostType.deref.induct generalizing field with
  | case1 elem ih =>
    cases h with
    | leaf h => cases h
    | pointer h => exact ih h
  | case2 t hne =>
    rw [HostType.deref]
    · rintro rfl
      cases h with
      | leaf h => cases h
    · exact hne

section

variable {d : TypeDecl} {s s' : Progress} {ns : List TypeNode} {fields : List HostField}
  {site : String}

theorem visit_embedded (hd : m.lookup d.name = some d) (hs : d.type.deref = .struct fields)
    (he : policy.embedStructs = true) (hp : d.name ∉ path)
    (h : policy.Computes (policy.visit m (d.name :: path)) (visiblePositions fields) s ns s') :
    policy.visit m path d.name site s =
      .ok (.interface "" (policy.declComment d) (policy.arrange (fieldMembers fields ns)), s') := by
  rw [visit_known hd, if_neg hp]
  simp only [reference, hs, he, if_true, Walk.bind_apply, h.structMembers_eq]
  rfl

theorem visit_mentioned (hd : m.lookup d.name = some d) (hs : d.IsStruct)
    (he : policy.embedStructs = false)
    (hk : policy.followStructs = true → d.name ∈ path ∨ d.name ∈ s.declared) :
    policy.visit m path d.name site s = .ok (.simple (policy.typeNamer d), s) := by
  obtain ⟨fields, hs⟩ := hs
  rw [visit_known hd]
  by_cases hf : policy.followStructs
  · by_cases hp : d.name ∈ path
    · simp only [reference, hs, he, hf, if_pos hp, if_true, Bool.false_eq_true, if_false]
      rfl
    · have hc : s.declared.contains d.name = true := by simpa using (hk hf).resolve_left hp
      simp only [reference, hs, he, hf, if_neg hp, if_true, Bool.false_eq_true, if_false,
        Walk.bind_apply, Walk.get_apply, hc]
      rfl
  · simp only [reference, hs, he, hf, Bool.false_eq_true, if_false]
    rfl

theorem visit_followed (hd : m.lookup d.name = some d) (hs : d.type.deref = .struct fields)
    (he : policy.embedStructs = false) (hf : policy.followStructs = true) (hp : d.name ∉ path)
    (hn : d.name ∉ s.declared)
    (h : policy.Computes (policy.visit m (d.name :: path)) (visiblePositions fields) s ns s') :
    policy.visit m path d.name site s = .ok (.simple (policy.typeNamer d),
      s'.declare d.name (policy.interfaceOf d (fieldMembers fields ns))) := by
  have hc : s.declared.contains d.name = false := by simpa using hn
  rw [visit_known hd, if_neg hp]
  simp only [reference, hs, he, hf, if_true, Bool.false_eq_true, if_false, Walk.bind_apply,
    Walk.get_apply, hc, h.structMembers_eq, declare_apply]
  rfl

theorem visit_enum {provider : EnumProvider} (hd : m.lookup d.name = some d) (hs : ¬ d.IsStruct)
    (hc : policy.claims? d = some provider) :
    policy.visit m path d.name site = policy.enumeration provider d := by
  rw [visit_known hd, reference_enum hs hc]

theorem enumeration_known {provider : EnumProvider} (hk : d.name ∈ s.declared) :
    policy.enumeration provider d s = .ok (.simple (policy.typeNamer d), s) := by
  have hc : s.declared.contains d.name = true := by simpa using hk
  simp only [enumeration, Walk.bind_apply, Walk.get_apply, hc]
  rfl

theorem enumeration_new {provider : EnumProvider} {members : List EnumMember}
    (hn : d.name ∉ s.declared) (hm : provider.members d = .ok members) :
    policy.enumeration provider d s =
      .ok (.simple (policy.typeNamer d), s.declare d.name (policy.enumOf d members)) := by
  have hc : s.declared.contains d.name = false := by simpa using hn
  simp only [enumeration, Walk.bind_apply, Walk.get_apply, hc, hm]
  rfl

theorem visit_shape (hd : m.lookup d.name = some d) (ha : policy.IsAlias d) (hp : d.name ∉ path)
    (hi : ∀ methods, d.type.deref ≠ .interface methods) :
    policy.visit m path d.name site =
      policy.resolve (policy.visit m (d.name :: path)) site none d.type := by
  rw [visit_known hd, if_neg hp, reference_alias ha hi]

end

/-! ## Section 3: Walks -/

mutual

/-- What has a derivation is what a walk computes. -/
theorem Resolves.resolve_eq {path : List String} {field : Option HostField} {t : HostType}
    {s s' : Progress} {n : TypeNode} : policy.Resolves m path field t s n s' →
    ∀ site, policy.resolve (policy.visit m path) site field t s = .ok (n, s')
  | .leaf h, site => resolve_leaf h site _ _
  -- Each rule is the equation of the walk for its shape, with the answers for the parts put in.
  | .slice h, site => by
    simp only [resolve, Walk.bind_apply, h.resolve_eq]
    rfl
  | .array h, site => by
    simp only [resolve, Walk.bind_apply, h.resolve_eq]
    rfl
  | .map hk hv, site => by
    simp only [resolve, Walk.bind_apply, hk.resolve_eq, hv.resolve_eq]
    rfl
  | .pointer h, site => by
    rw [resolve]
    exact h.resolve_eq site
  -- Not promoted means that there is no namer or that the struct stands in no field.
  | .inline hn h, site => by
    simp only [resolve, Walk.bind_apply, h.computes.structMembers_eq]
    rcases hn with hn | rfl
    · simp only [anonymousStruct, hn]
      rfl
    · cases hn : policy.anonNamer <;> simp only [anonymousStruct, hn] <;> rfl
  | .promoted hn h, site => by
    simp only [resolve, Walk.bind_apply, h.computes.structMembers_eq, anonymousStruct, hn]
    rfl
  | .embedded hd hs he hp h, site => by
    rw [resolve, visit_embedded hd hs he hp h.computes]
  | .mentioned hd hs he hk, site => by
    rw [resolve, visit_mentioned hd hs he hk]
  | .followed hd hs he hf hp hn h, site => by
    rw [resolve, visit_followed hd hs he hf hp hn h.computes]
  | .known hd he hk, site => by
    obtain ⟨provider, hc⟩ := Option.isSome_iff_exists.mp he.2
    rw [resolve, visit_enum hd he.1 hc, enumeration_known hk]
  | .enumerated hd hs hc hn hm, site => by
    rw [resolve, visit_enum hd hs hc, enumeration_new hn hm]
  | .shape hd ha hp h, site => by
    rw [resolve, visit_shape hd ha hp h.deref_ne_interface]
    exact h.resolve_eq site

/-- The same for several places. -/
theorem ResolvesAll.computes {path : List String} {ps : List Position} {s s' : Progress}
    {ns : List TypeNode} : policy.ResolvesAll m path ps s ns s' →
    policy.Computes (policy.visit m path) ps s ns s'
  | .nil => .nil
  | .cons h hs => .cons h.resolve_eq hs.computes

end

/-! ## Section 4: Roots -/

/-- What is asked of a method beside its types, whatever the policy: no variable number of
    parameters, a test for errors that ends, and at most two results, the second an error. -/
def Exportable (m : HostModule) (method : HostMethod) : Prop :=
  method.signature.variadic = false ∧
    match method.signature.results with
    | [] => True
    | [only] => ∃ b, m.isErrorLike only = .ok b
    | [first, second] => m.isErrorLike second = .ok true ∧ ∃ b, m.isErrorLike first = .ok b
    | _ => False

/-- All methods are exportable if the root is an interface. -/
def ExportableRoot (m : HostModule) (d : TypeDecl) : Prop :=
  ∀ methods, d.type.deref = .interface methods → ∀ method ∈ methods, Exportable m method

section methods

variable {d : TypeDecl} {method : HostMethod} {s s₁ s' : Progress} {ns : List TypeNode}

/-- The test for errors of a result has an answer when the result is resolved. -/
theorem returned_judged {t : HostType} {site : String} {n : TypeNode}
    (h : policy.returned m visit site t s = .ok (n, s')) : ∃ b, m.isErrorLike t = .ok b := by
  obtain ⟨b, s₁, hb, _⟩ := Walk.bind_ok h
  exact ⟨b, (errorLike_ok hb).1⟩

/-- A method that becomes a member is exportable. -/
theorem exportable_of_methodMember {member : Member}
    (h : policy.methodMember m visit d method s = .ok (member, s')) : Exportable m method := by
  rw [methodMember_eq] at h
  by_cases hv : method.signature.variadic
  · rw [if_pos hv] at h
    exact absurd h (by simp [Walk.throw_apply])
  rw [if_neg hv] at h
  obtain ⟨returns, s₁, hreturns, _⟩ := Walk.bind_ok h
  refine ⟨by simpa using hv, ?_⟩
  unfold methodReturns at hreturns
  -- Results that do not fit have been refused before the first one was resolved.
  match hr : method.signature.results with
  | [] => trivial
  | [only] =>
    rw [hr] at hreturns
    exact returned_judged hreturns
  | [first, second] =>
    rw [hr] at hreturns
    obtain ⟨b, s₂, hb, hreturns⟩ := Walk.bind_ok hreturns
    cases b with
    | true => exact ⟨(errorLike_ok hb).1, returned_judged hreturns⟩
    | false => exact absurd hreturns (by simp [Walk.throw_apply])
  | first :: second :: third :: rest =>
    rw [hr] at hreturns
    exact absurd hreturns (by simp [Walk.throw_apply])

theorem errorLike_apply {t : HostType} {b : Bool} (h : m.isErrorLike t = .ok b) :
    errorLike m t s = .ok (b, s) := by
  simp only [errorLike, h, Walk.pure_apply]

/-- An error is not returned. -/
theorem returned_error {t : HostType} {site : String} (h : m.isErrorLike t = .ok true) :
    policy.returned m visit site t s = .ok (.void, s) := by
  simp only [returned, Walk.bind_apply, errorLike_apply h, if_true]
  rfl

/-- All else is returned as it is resolved. -/
theorem returned_type {t : HostType} {site : String} (h : m.isErrorLike t = .ok false) :
    policy.returned m visit site t s = policy.resolve visit site none t s := by
  simp only [returned, Walk.bind_apply, errorLike_apply h, Bool.false_eq_true, if_false]

/-- The test for errors of a first result has an answer. -/
theorem Exportable.judged {t : HostType} {rest : List HostType} (hx : Exportable m method)
    (hr : method.signature.results = t :: rest) : ∃ b, m.isErrorLike t = .ok b := by
  obtain ⟨-, hresults⟩ := hx
  rw [hr] at hresults
  match rest with
  | [] => exact hresults
  | [second] => exact hresults.2
  | second :: third :: rest => exact hresults.elim

/-- When the results fit, a method starts with the look at its first one. -/
theorem methodReturns_of_fit {visit : Visit} {first : HostType} {rest : List HostType}
    (hr : method.signature.results = first :: rest) (hfit : m.ResultsFit method) :
    policy.methodReturns m visit d method s =
      policy.returned m visit s!"{d.name}.{method.name}" first s := by
  unfold methodReturns
  rw [hr]
  match rest with
  | [] => rfl
  | [second] =>
    have he := hfit.second_error first second hr
    simp only [Walk.bind_apply, errorLike_apply he, if_true]
  | second :: third :: rest =>
    have hlen := hfit.length_le
    rw [hr] at hlen
    exact absurd hlen (by simp)

/-- The results of an exportable method fit. -/
theorem Exportable.fit (hx : Exportable m method) : m.ResultsFit method := by
  obtain ⟨-, hresults⟩ := hx
  match hr : method.signature.results with
  | [] => exact m.resultsFit_of_length_le (by simp [hr])
  | [only] => exact m.resultsFit_of_length_le (by simp [hr])
  | [first, second] =>
    rw [hr] at hresults
    exact m.resultsFit_pair hr hresults.1
  | first :: second :: third :: rest =>
    rw [hr] at hresults
    exact hresults.elim

/-- What an exportable method returns is decided by its first result. -/
theorem Exportable.methodReturns_eq {t : HostType} {rest : List HostType}
    (hx : Exportable m method) (hr : method.signature.results = t :: rest) :
    policy.methodReturns m visit d method s =
      policy.returned m visit s!"{d.name}.{method.name}" t s :=
  methodReturns_of_fit hr hx.fit

/-- A method returns nothing when it has no result that counts. -/
theorem Exportable.methodReturns_none (hx : Exportable m method) (hnone : m.result? method = none) :
    policy.methodReturns m visit d method s = .ok (.void, s) := by
  match hr : method.signature.results with
  | [] => simp only [methodReturns, hr, Walk.pure_apply]
  | t :: rest =>
    obtain ⟨b, hb⟩ := hx.judged hr
    cases b with
    | true => rw [hx.methodReturns_eq hr, returned_error hb]
    | false => exact absurd (m.result?_eq_some hr (by simp [hb])) (by simp [hnone])

/-- Otherwise it returns what that result is resolved to. -/
theorem Exportable.methodReturns_some (hx : Exportable m method) {t : HostType}
    (hsome : m.result? method = some t) {n : TypeNode}
    (h : ∀ site, policy.resolve visit site none t s = .ok (n, s₁)) :
    policy.methodReturns m visit d method s = .ok (n, s₁) := by
  match hr : method.signature.results with
  | [] => simp [HostModule.result?, hr] at hsome
  | t' :: rest =>
    obtain ⟨b, hb⟩ := hx.judged hr
    cases b with
    | true => exact absurd (m.result?_eq_none hr hb) (by simp [hsome])
    | false =>
      obtain rfl := Option.some.inj ((m.result?_eq_some hr (by simp [hb])).symm.trans hsome)
      rw [hx.methodReturns_eq hr, returned_type hb, h]

/-- The parameters of a method become its arguments. -/
theorem Computes.args_eq {site : String} : ∀ {params : List (HostParam × Nat)} {s s' : Progress}
    {ns : List TypeNode}, policy.Computes visit (params.map (·.1.type.position)) s ns s' →
      (params.mapM fun (p : HostParam × Nat) => do
        let type ← policy.resolve visit site none p.1.type
        return (⟨policy.argName p.2 p.1, type⟩ : Arg)) s =
        .ok (List.zipWith (fun p node => ⟨policy.argName p.2 p.1, node⟩) params ns, s')
  | [], _, _, _, h => by
    cases h
    rfl
  | p :: rest, s, s', _, h => by
    rw [List.map_cons] at h
    cases h with
    | @cons _ _ _ n s₁ ns _ h hs =>
      have hfirst : policy.resolve visit site none p.1.type s = .ok (n, s₁) := h site
      rw [List.mapM_cons]
      simp only [Walk.bind_apply, hfirst, Walk.pure_apply, hs.args_eq, List.zipWith_cons_cons]

theorem Computes.finishMethod_eq {returns : TypeNode}
    (h : policy.Computes visit (method.signature.params.map (·.type.position)) s ns s') :
    policy.finishMethod visit d method returns s =
      .ok (policy.methodOf d method returns (policy.argsOf method.signature.params ns), s') := by
  have hparams : method.signature.params.zipIdx.map (·.1.type.position) =
      method.signature.params.map (·.type.position) := by
    rw [show (fun x : HostParam × Nat => x.1.type.position) =
      (fun p : HostParam => p.type.position) ∘ Prod.fst from rfl, ← List.map_map,
      List.zipIdx_map_fst]
  rw [← hparams] at h
  simp only [finishMethod, Walk.bind_apply, h.args_eq, Walk.pure_apply, argsOf]

/-- An exportable method becomes the member made of what is computed for its exposed types. -/
theorem Computes.methodMember_eq_ok {member : Member} (hx : Exportable m method)
    (h : policy.Computes visit (m.exposedPositions method) s ns s')
    (his : policy.IsMethod m d method ns member) :
    policy.methodMember m visit d method s = .ok (member, s') := by
  rw [methodMember_eq, if_neg (by simp [hx.1]), Walk.bind_apply]
  unfold IsMethod at his
  cases hr : m.result? method with
  | none =>
    rw [hr] at his
    rw [m.exposedPositions_of_none hr] at h
    rw [hx.methodReturns_none hr, his]
    exact h.finishMethod_eq
  | some t =>
    rw [hr] at his
    obtain ⟨returns, rest, rfl, rfl⟩ := his
    rw [m.exposedPositions_of_some hr] at h
    cases h with
    | cons h hs =>
      rw [hx.methodReturns_some hr h]
      exact hs.finishMethod_eq

end methods

/-- What is computed for a list of places is computed for its parts. -/
theorem Computes.of_append : ∀ {ps qs : List Position} {s s' : Progress} {ns ms : List TypeNode},
    ps.length = ns.length → policy.Computes visit (ps ++ qs) s (ns ++ ms) s' →
      ∃ s₁, policy.Computes visit ps s ns s₁ ∧ policy.Computes visit qs s₁ ms s'
  | [], _, s, _, [], _, _, h => ⟨s, .nil, h⟩
  | _ :: _, _, _, _, _ :: _, _, hlen, .cons h hs => by
    obtain ⟨s₁, hps, hqs⟩ := of_append (Nat.succ.inj hlen) hs
    exact ⟨s₁, .cons h hps, hqs⟩

/-- The methods of an interface become its members. -/
theorem AreMethods.mapM_eq {d : TypeDecl} {methods : List HostMethod} {ns : List TypeNode}
    {members : List Member} (hare : policy.AreMethods m d methods ns members)
    (hx : ∀ method ∈ methods, Exportable m method) {s s' : Progress}
    (h : policy.Computes visit (methods.flatMap m.exposedPositions) s ns s') :
    methods.mapM (policy.methodMember m visit d) s = .ok (members, s') := by
  induction hare generalizing s with
  | nil =>
    cases h
    rfl
  | cons hlen his _ ih =>
    rw [List.flatMap_cons] at h
    obtain ⟨s₁, hfirst, hrest⟩ := h.of_append hlen
    obtain ⟨hmethod, hmethods⟩ := List.forall_mem_cons.mp hx
    rw [List.mapM_cons]
    simp only [Walk.bind_apply, hfirst.methodMember_eq_ok hmethod his, ih hmethods hrest,
      Walk.pure_apply]

/-- What a method exposes can be put together to a member. -/
theorem exists_isMethod {d : TypeDecl} {method : HostMethod} {ns : List TypeNode}
    (hlen : (m.exposedPositions method).length = ns.length) :
    ∃ member, policy.IsMethod m d method ns member := by
  unfold IsMethod
  cases hr : m.result? method with
  | none => exact ⟨_, rfl⟩
  | some t =>
    rw [m.exposedPositions_of_some hr] at hlen
    match ns with
    | returns :: rest => exact ⟨_, returns, rest, rfl, rfl⟩

theorem exists_areMethods {d : TypeDecl} : ∀ {methods : List HostMethod} {ns : List TypeNode},
    (methods.flatMap m.exposedPositions).length = ns.length →
      ∃ members, policy.AreMethods m d methods ns members
  | [], [], _ => ⟨[], .nil⟩
  | method :: methods, ns, hlen => by
    rw [List.flatMap_cons, List.length_append] at hlen
    have hfirst : (m.exposedPositions method).length =
        (ns.take (m.exposedPositions method).length).length := by
      rw [List.length_take]
      omega
    obtain ⟨member, hmember⟩ : ∃ member, policy.IsMethod m d method _ member :=
      exists_isMethod hfirst
    have hrest : (methods.flatMap m.exposedPositions).length =
        (ns.drop (m.exposedPositions method).length).length := by
      rw [List.length_drop]
      omega
    obtain ⟨members, hmembers⟩ := exists_areMethods hrest
    have hall := AreMethods.cons hfirst hmember hmembers
    rw [List.take_append_drop] at hall
    exact ⟨_, hall⟩

variable {root : HostType}

/-- The root of a walk that succeeds is a struct or has exportable methods. -/
theorem exportableRoot_of_walkRoot {d : TypeDecl} {s : Progress}
    (hroot : root.deref = .named d.name) (hd : m.lookup d.name = some d)
    (h : policy.walkRoot m root {} = .ok ((), s)) : ExportableRoot m d := by
  intro methods hi
  rw [walkRoot_interface hroot hd hi] at h
  obtain ⟨members, s₁, hmembers, -⟩ := Walk.bind_ok h
  clear hi h
  generalize ({} : Progress) = s₀ at hmembers
  induction methods generalizing s₀ members with
  | nil => exact fun method hmem => absurd hmem (by simp)
  | cons method rest ih =>
    rw [List.mapM_cons] at hmembers
    obtain ⟨member, s₂, hmember, hmembers⟩ := Walk.bind_ok hmembers
    obtain ⟨members', s₃, hrest, hmembers⟩ := Walk.bind_ok hmembers
    simp only [Walk.pure_apply, Except.ok.injEq, Prod.mk.injEq] at hmembers
    obtain ⟨-, rfl⟩ := hmembers
    exact List.forall_mem_cons.mpr ⟨exportable_of_methodMember hmember, ih _ _ hrest⟩

/-- A walk that can be put together is computed. -/
theorem RootWalk.walkRoot_eq (w : policy.RootWalk m root) (hx : ExportableRoot m w.decl) :
    policy.walkRoot m root {} = .ok ((), w.found) := by
  have hcomputes := w.resolves.computes
  have hmembers := w.members_eq
  unfold AreRootMembers at hmembers
  unfold HostModule.rootPositions at hcomputes
  cases hs : w.decl.type.deref with
  | struct fields =>
    rw [hs] at hcomputes hmembers
    rw [walkRoot_struct w.root_eq w.lookup_eq hs, Walk.bind_apply, hcomputes.structMembers_eq,
      ← hmembers]
    rfl
  | interface methods =>
    rw [hs] at hcomputes hmembers
    rw [walkRoot_interface w.root_eq w.lookup_eq hs, Walk.bind_apply,
      hmembers.mapM_eq (hx methods hs) hcomputes]
    rfl
  | _ =>
    rw [hs] at hmembers
    exact hmembers.elim

/-- When the walk from a root succeeds under one policy, and under another one all places under the
    root can be resolved, then the walk succeeds there, too. -/
theorem walkRoot_of_resolves {policy' : ExtractPolicy} {d : TypeDecl} {s s' : Progress}
    {ns : List TypeNode} (h : policy.walkRoot m root {} = .ok ((), s))
    (hroot : root.deref = .named d.name) (hd : m.lookup d.name = some d)
    (hns : policy'.ResolvesAll m [d.name] (m.rootPositions d) {} ns s') :
    ∃ members, policy'.walkRoot m root {} =
      .ok ((), s'.declare d.name (policy'.interfaceOf d members)) := by
  have hx := exportableRoot_of_walkRoot hroot hd h
  have hmembers : ∃ members, policy'.AreRootMembers m d ns members := by
    obtain ⟨d', hroot', hd', hkind⟩ := walkRoot_ok_root h
    rw [hroot, HostType.named.injEq] at hroot'
    rw [← hroot'] at hd'
    obtain rfl := HostModule.lookup_inj hd hd'
    unfold AreRootMembers
    -- A walk that has succeeded once started at a struct or at an interface.
    rcases hkind with ⟨fields, hs⟩ | ⟨methods, hi⟩
    · rw [hs]
      exact ⟨_, rfl⟩
    · have hlen := hns.length_eq
      rw [HostModule.rootPositions, hi] at hlen
      rw [hi]
      exact exists_areMethods hlen
  obtain ⟨members, hmembers⟩ := hmembers
  exact ⟨members, RootWalk.walkRoot_eq ⟨d, ns, members, s', hroot, hd, hns, hmembers⟩ hx⟩

end ExtractPolicy

end TypeExport
