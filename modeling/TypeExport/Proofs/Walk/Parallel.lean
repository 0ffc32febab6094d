import TypeExport.Proofs.Graph.Rebuild
import TypeExport.Proofs.Walk.Writing

/-! # Walks Side by Side

    Two policies may differ and still take the same steps through a module: they come to the same
    places in the same order, they declare the same things, and they fail with the same error.  What
    the one writes is what the other writes, up to a change of nodes.

    `Agree` is the relation between two computations that take the same steps.  `Alike` lists what
    two policies must have in common: it speaks of the few steps that look at a policy, not of
    walks, and of anonymous structs only where they stand under the root.  `Alike.walkRoot` says
    that the walks of such policies agree. -/

namespace TypeExport

/-! ## Section 1: Computations that agree -/

/-- From related states both computations fail with the same error, or both succeed, in related
    states, and `g` leads from the answer of the first to that of the second. -/
def Agree (R : Progress → Progress → Prop) {α β : Type} (g : α → β) (x : Walk α) (y : Walk β) :
    Prop :=
  ∀ s r, R s r → match x s, y r with
    | .ok (a, s'), .ok (b, r') => b = g a ∧ R s' r'
    | .error e, .error e' => e = e'
    | _, _ => False

namespace Agree

variable {R : Progress → Progress → Prop} {α β α' β' : Type}

theorem pure {g : α → β} {a : α} {b : β} (h : b = g a) :
    Agree R g (pure a : Walk α) (pure b : Walk β) := fun _ _ hR => ⟨h, hR⟩

theorem throw {g : α → β} (e : ExtractError) :
    Agree R g (throw e : Walk α) (throw e : Walk β) := fun _ _ _ => rfl

/-- Computations that agree fail together or succeed together. -/
theorem outcome {g : α → β} {x : Walk α} {y : Walk β} (h : Agree R g x y) {s r : Progress}
    (hR : R s r) :
    (∃ e, x s = .error e ∧ y r = .error e) ∨
      ∃ a s' r', x s = .ok (a, s') ∧ y r = .ok (g a, r') ∧ R s' r' := by
  -- One failing and the other not is ruled out by the agreement itself.
  have hsr := h s r hR
  cases hx : x s with
  | error e =>
    rw [hx] at hsr
    cases hy : y r with
    | error e' =>
      rw [hy] at hsr
      exact .inl ⟨e, rfl, congrArg Except.error hsr.symm⟩
    | ok b => exact absurd hsr (by rw [hy]; exact id)
  | ok a =>
    rw [hx] at hsr
    cases hy : y r with
    | error e => exact absurd hsr (by rw [hy]; exact id)
    | ok b =>
      rw [hy] at hsr
      obtain ⟨hb, hR'⟩ := hsr
      exact .inr ⟨a.1, a.2, b.2, rfl, by rw [← hb], hR'⟩

theorem bind {g : α → β} {g' : α' → β'} {x : Walk α} {y : Walk β} {f : α → Walk α'}
    {k : β → Walk β'} (h : Agree R g x y) (hf : ∀ a, Agree R g' (f a) (k (g a))) :
    Agree R g' (x >>= f) (y >>= k) := by
  intro s r hR
  rw [Walk.bind_apply, Walk.bind_apply]
  rcases h.outcome hR with ⟨e, hx, hy⟩ | ⟨a, s', r', hx, hy, hR'⟩
  · rw [hx, hy]
  · rw [hx, hy]
    exact hf a s' r' hR'

/-- Both may look at their states before they decide on a step. -/
theorem get_bind {g : α → β} {f : Progress → Walk α} {k : Progress → Walk β}
    (h : ∀ s r, R s r → Agree R g (f s) (k r)) : Agree R g (get >>= f) (get >>= k) :=
  fun s r hR => h s r hR s r hR

/-- The test on errors looks at the module only. -/
theorem errorLike_bind {m : HostModule} {t : HostType} {g : α → β} {f : Bool → Walk α}
    {k : Bool → Walk β} (h : ∀ b, m.isErrorLike t = .ok b → Agree R g (f b) (k b)) :
    Agree R g (ExtractPolicy.errorLike m t >>= f) (ExtractPolicy.errorLike m t >>= k) := by
  unfold ExtractPolicy.errorLike
  cases hb : m.isErrorLike t with
  | ok b => exact h b hb
  | error name => exact throw _

theorem mapM {γ : Type} {g : α → β} {f : γ → Walk α} {k : γ → Walk β} :
    ∀ {items : List γ}, (∀ x ∈ items, Agree R g (f x) (k x)) →
      Agree R (List.map g) (items.mapM f) (items.mapM k)
  | [], _ => by
    rw [List.mapM_nil, List.mapM_nil]
    exact pure rfl
  | x :: items, h => by
    rw [List.mapM_cons, List.mapM_cons]
    refine (h x List.mem_cons_self).bind fun a => ?_
    exact (mapM fun x hx => h x (List.mem_cons_of_mem _ hx)).bind fun as => pure rfl

end Agree

namespace ExtractPolicy

/-! ## Section 2: Policies that are alike -/

/-- Wherever a walk from `root` looks at its policy, `q` decides as `p` does, and what `q` writes is
    what `p` writes with `f` done to it. -/
structure Alike (m : HostModule) (root : TypeDecl) (R : Progress → Progress → Prop)
    (f : TypeNode → TypeNode) (p q : ExtractPolicy) : Prop where
  embedStructs : q.embedStructs = p.embedStructs
  followStructs : q.followStructs = p.followStructs
  methodDocs : q.docs.forMethod = p.docs.forMethod
  argName : q.argName = p.argName
  /-- The same declarations have been met. -/
  declared : ∀ {s r}, R s r → r.declared = s.declared
  leaf : ∀ {t site n}, leaf site t = .ok n → f n = n
  void : f .void = .void
  array : ∀ n, f (.array [n]) = .array [f n]
  map : ∀ k v, f (.map [k, v]) = .map [f k, f v]
  mentioned : ∀ {d}, m.lookup d.name = some d → d.IsStruct →
    f (.simple (p.typeNamer d)) = .simple (q.typeNamer d)
  embedded : ∀ {d members}, m.lookup d.name = some d →
    f (.interface "" (p.declComment d) (p.arrange members)) =
      .interface "" (q.declComment d) (q.arrange (members.map (Member.mapTypes f)))
  anonymous : ∀ {field fields}, p.Stands m root field (.struct fields) → ∀ members,
    Agree R f (p.anonymousStruct field (p.arrange members))
      (q.anonymousStruct field (q.arrange (members.map (Member.mapTypes f))))
  declare : ∀ {d members}, m.lookup d.name = some d →
    Agree R id (p.declare d members) (q.declare d (members.map (Member.mapTypes f)))
  /-- The same declarations are enumerations. -/
  claims : ∀ {d}, m.lookup d.name = some d → ¬ d.IsStruct →
    (p.claims? d = none ∧ q.claims? d = none) ∨
      ∃ provider provider', p.claims? d = some provider ∧ q.claims? d = some provider' ∧
        Agree R f (p.enumeration provider d) (q.enumeration provider' d)

variable {p q : ExtractPolicy} {m : HostModule} {root : TypeDecl}
  {R : Progress → Progress → Prop} {f : TypeNode → TypeNode} {visit visit' : Visit}

/-- Two visitors take the same steps for the names that stand under the root. -/
def VisitsAgree (p : ExtractPolicy) (m : HostModule) (root : TypeDecl)
    (R : Progress → Progress → Prop) (f : TypeNode → TypeNode) (visit visit' : Visit) : Prop :=
  ∀ field name, p.Stands m root field (.named name) →
    ∀ site, Agree R f (visit name site) (visit' name site)

/-- Types without types inside are leaves for every policy. -/
theorem Alike.leaf_agree (h : Alike m root R f p q) (site : String) (t : HostType) :
    Agree R f (liftExcept (TypeExport.leaf site t)) (liftExcept (TypeExport.leaf site t)) := by
  cases hn : TypeExport.leaf site t with
  | ok n => exact .pure (h.leaf hn).symm
  | error e => exact .throw e

/-- The members made of a list of fields, from those made of the first and of the rest. -/
theorem Alike.structMembers_cons_agree {field : HostField} {rest : List HostField}
    {owner : String}
    (hfield : field.isVisible = true → ∀ site, Agree R f
      (p.resolve visit site (some field) field.type)
      (q.resolve visit' site (some field) field.type))
    (hrest : Agree R (List.map (Member.mapTypes f)) (p.structMembers visit owner rest)
      (q.structMembers visit' owner rest)) :
    Agree R (List.map (Member.mapTypes f)) (p.structMembers visit owner (field :: rest))
      (q.structMembers visit' owner (field :: rest)) := by
  rw [structMembers_cons, structMembers_cons]
  by_cases hv : field.isVisible
  · rw [if_pos hv, if_pos hv]
    exact (hfield hv _).bind fun node => hrest.bind fun members => .pure rfl
  · rw [if_neg hv, if_neg hv]
    exact hrest

/-! ## Section 3: Types and references -/

mutual

/-- A type is resolved in the same steps, when names are visited in the same steps. -/
theorem Alike.resolve_agree (h : Alike m root R f p q)
    (hvisit : p.VisitsAgree m root R f visit visit') :
    ∀ (t : HostType) (site : String) (field : Option HostField), p.Stands m root field t →
    Agree R f (p.resolve visit site field t) (q.resolve visit' site field t)
  | .slice elem, site, field, ht => by
    simp only [resolve]
    exact (h.resolve_agree hvisit elem site none ht.slice).bind fun n => .pure (h.array n).symm
  | .array len elem, site, field, ht => by
    simp only [resolve]
    exact (h.resolve_agree hvisit elem site none ht.array).bind fun n => .pure (h.array n).symm
  | .map key value, site, field, ht => by
    simp only [resolve]
    exact (h.resolve_agree hvisit key site none ht.key).bind fun k =>
      (h.resolve_agree hvisit value site none ht.value).bind fun v => .pure (h.map k v).symm
  | .pointer elem, site, field, ht => by
    simp only [resolve]
    exact h.resolve_agree hvisit elem site field ht.pointer
  -- What becomes of a struct without a name is a matter of the policies.
  | .struct fields, site, field, ht => by
    simp only [resolve]
    exact (h.structMembers_agree hvisit fields site fun _ hf => ht.struct hf).bind fun members =>
      h.anonymous ht members
  | .named name, site, field, ht => by
    simp only [resolve]
    exact hvisit field name ht site
  -- The others are leaves, which no choice of a policy touches.
  | .bool, site, _, _ => h.leaf_agree site .bool
  | .int bits unsigned, site, _, _ => h.leaf_agree site (.int bits unsigned)
  | .float bits, site, _, _ => h.leaf_agree site (.float bits)
  | .complex bits, site, _, _ => h.leaf_agree site (.complex bits)
  | .string, site, _, _ => h.leaf_agree site .string
  | .interface methods, site, _, _ => h.leaf_agree site (.interface methods)
  | .error, site, _, _ => h.leaf_agree site .error
  | .chan elem, site, _, _ => h.leaf_agree site (.chan elem)
  | .func signature, site, _, _ => h.leaf_agree site (.func signature)

/-- The same for the fields of a struct. -/
theorem Alike.structMembers_agree (h : Alike m root R f p q)
    (hvisit : p.VisitsAgree m root R f visit visit') :
    ∀ (fields : List HostField) (owner : String),
    (∀ x ∈ visibleFields fields, p.Stands m root (some x) x.type) →
    Agree R (List.map (Member.mapTypes f)) (p.structMembers visit owner fields)
      (q.structMembers visit' owner fields)
  | [], _, _ => .pure rfl
  | ⟨name, type, tag⟩ :: rest, owner, hfields =>
    structMembers_cons_agree
      (fun hv site => h.resolve_agree hvisit type site _
        (hfields ⟨name, type, tag⟩ (List.mem_filter.mpr ⟨List.mem_cons_self, hv⟩)))
      (h.structMembers_agree hvisit rest owner fun x hx =>
        hfields x (((List.sublist_cons_self _ rest).filter _).subset hx))

end

/-- What two policies know of visiting the references inside `d`: both have no visitor, or both have
    one and these take the same steps. -/
inductive InsideAgrees (p : ExtractPolicy) (m : HostModule) (root : TypeDecl)
    (R : Progress → Progress → Prop) (f : TypeNode → TypeNode) :
    Option Visit → Option Visit → Prop
  | none : InsideAgrees p m root R f none none
  | some {v v' : Visit} (h : p.VisitsAgree m root R f v v') :
    InsideAgrees p m root R f (some v) (some v')

section references

variable {d : TypeDecl} {inside inside' : Option Visit} {site : String}

/-- A reference to a struct. -/
theorem Alike.reference_struct_agree (h : Alike m root R f p q) {fields : List HostField}
    {field : Option HostField} (hstands : p.Stands m root field (.named d.name))
    (hd : m.lookup d.name = some d) (hs : d.type.deref = .struct fields)
    (hinside : p.InsideAgrees m root R f inside inside') :
    Agree R f (p.reference d site inside) (q.reference d site inside') := by
  have hmention : Agree R f (pure (.simple (p.typeNamer d))) (pure (.simple (q.typeNamer d))) :=
    .pure (h.mentioned hd ⟨fields, hs⟩).symm
  have hfields : p.followStructs = true → ∀ x ∈ visibleFields fields,
      p.Stands m root (some x) x.type := fun hfollow x hx => hstands.declared hfollow hd hs hx
  simp only [reference, hs, h.embedStructs, h.followStructs]
  by_cases he : p.embedStructs
  · simp only [he, if_true]
    cases hinside with
    | none => exact .throw _
    | some hinside =>
      exact (h.structMembers_agree hinside fields d.name
        (hfields (p.follow_of_embed he))).bind fun members => .pure (h.embedded hd).symm
  · simp only [he]
    by_cases hf : p.followStructs
    · simp only [hf, if_true]
      cases hinside with
      | none => exact hmention
      | some hinside =>
        -- Whether the struct has been declared is the same in both states.
        refine .get_bind fun s r hR => ?_
        rw [h.declared hR]
        by_cases hn : s.declared.contains d.name
        · simp only [hn, if_true]
          exact hmention
        · simp only [hn]
          exact (h.structMembers_agree hinside fields d.name (hfields hf)).bind fun members =>
            (h.declare hd).bind fun _ => hmention
    · simp only [hf]
      exact hmention

/-- A reference to a declaration that is no struct. -/
theorem Alike.reference_shape_agree (h : Alike m root R f p q) {field : Option HostField}
    (hstands : p.Stands m root field (.named d.name)) (hd : m.lookup d.name = some d)
    (hs : ¬ d.IsStruct) (hinside : p.InsideAgrees m root R f inside inside') :
    Agree R f (p.reference d site inside) (q.reference d site inside') := by
  rcases h.claims hd hs with ⟨hp, hq⟩ | ⟨provider, provider', hp, hq, henum⟩
  · by_cases hi : ∃ methods, d.type.deref = .interface methods
    · obtain ⟨methods, hi⟩ := hi
      rw [reference_interface hp hi, reference_interface hq hi]
      exact .throw _
    · have hnot : ∀ methods, d.type.deref ≠ .interface methods := fun methods h => hi ⟨methods, h⟩
      rw [reference_alias ⟨hs, hp⟩ hnot, reference_alias ⟨hs, hq⟩ hnot]
      cases hinside with
      | none => exact .throw _
      | some hinside => exact h.resolve_agree hinside d.type site none (hstands.shape hd ⟨hs, hp⟩)
  · rw [reference_enum hs hp, reference_enum hs hq]
    exact henum

end references

/-- References are visited in the same steps, whatever the path. -/
theorem Alike.visit_agree (h : Alike m root R f p q) (path : List String) :
    p.VisitsAgree m root R f (p.visit m path) (q.visit m path) := by
  -- Each reference that is entered leaves fewer declarations to enter.
  induction hk : m.unentered path using Nat.strongRecOn generalizing path with
  | _ k ih =>
    intro field name hstands site
    cases hd : m.lookup name with
    | none =>
      rw [visit_unknown hd, visit_unknown hd]
      exact .throw _
    | some d =>
      rw [visit_known hd, visit_known hd]
      obtain rfl := HostModule.name_of_lookup hd
      have hinside : p.InsideAgrees m root R f
          (if d.name ∈ path then none else some (p.visit m (d.name :: path)))
          (if d.name ∈ path then none else some (q.visit m (d.name :: path))) := by
        by_cases hp : d.name ∈ path
        · rw [if_pos hp, if_pos hp]
          exact .none
        · rw [if_neg hp, if_neg hp]
          have hlt := HostModule.unentered_lt (HostModule.mem_of_lookup hd) hp
          exact .some (ih _ (hk ▸ hlt) (d.name :: path) rfl)
      by_cases hs : d.IsStruct
      · obtain ⟨fields, hs⟩ := hs
        exact h.reference_struct_agree hstands hd hs hinside
      · exact h.reference_shape_agree hstands hd hs hinside

/-! ## Section 4: Methods and roots -/

theorem Alike.returned_agree (h : Alike m root R f p q)
    (hvisit : p.VisitsAgree m root R f visit visit') {t : HostType}
    (ht : m.isErrorLike t ≠ .ok true → p.Stands m root none t) (site : String) :
    Agree R f (p.returned m visit site t) (q.returned m visit' site t) := by
  refine .errorLike_bind fun b hb => ?_
  cases b with
  | true => exact .pure h.void.symm
  | false => exact h.resolve_agree hvisit t site none (ht (by simp [hb]))

section methods

variable {method : HostMethod}
  (hstands : ∀ x ∈ m.exposedPositions method, p.Stands m root x.field x.type)

include hstands

/-- What a method returns. -/
theorem Alike.methodReturns_agree (h : Alike m root R f p q)
    (hvisit : p.VisitsAgree m root R f visit visit') (d : TypeDecl) :
    Agree R f (p.methodReturns m visit d method) (q.methodReturns m visit' d method) := by
  have hresult : ∀ {t rest}, method.signature.results = t :: rest → m.isErrorLike t ≠ .ok true →
      p.Stands m root none t := by
    intro t rest hr hne
    refine hstands t.position ?_
    rw [m.exposedPositions_of_some (m.result?_eq_some hr hne)]
    exact List.mem_cons_self
  unfold methodReturns
  match hr : method.signature.results with
  | [] => exact .pure h.void.symm
  | [only] => exact h.returned_agree hvisit (hresult hr) _
  | [first, second] =>
    refine .errorLike_bind fun b _ => ?_
    cases b with
    | true => exact h.returned_agree hvisit (hresult hr) _
    | false => exact .throw _
  | first :: second :: third :: rest => exact .throw _

theorem Alike.methodMember_agree (h : Alike m root R f p q)
    (hvisit : p.VisitsAgree m root R f visit visit') (d : TypeDecl) :
    Agree R (Member.mapTypes f) (p.methodMember m visit d method)
      (q.methodMember m visit' d method) := by
  rw [methodMember_eq, methodMember_eq]
  by_cases hv : method.signature.variadic
  · rw [if_pos hv, if_pos hv]
    exact .throw _
  · rw [if_neg hv, if_neg hv]
    refine (h.methodReturns_agree hstands hvisit d).bind fun returns => ?_
    unfold finishMethod
    rw [h.argName]
    -- The parameters are exposed, so they are resolved alike; names and order are the same.
    have hargs : ∀ x ∈ method.signature.params.zipIdx, Agree R (Arg.mapType f)
        (do return (⟨p.argName x.2 x.1,
          ← p.resolve visit s!"{d.name}.{method.name}" none x.1.type⟩ : Arg))
        (do return (⟨p.argName x.2 x.1,
          ← q.resolve visit' s!"{d.name}.{method.name}" none x.1.type⟩ : Arg)) := by
      intro x hx
      have hparam : x.1.type.position ∈ m.exposedPositions method :=
        List.mem_append_right _ (List.mem_map_of_mem (List.fst_mem_of_mem_zipIdx hx))
      exact (h.resolve_agree hvisit x.1.type _ none (hstands _ hparam)).bind
        fun node => .pure rfl
    refine (Agree.mapM hargs).bind fun args => .pure ?_
    simp only [methodOf, Member.mapTypes, Member.method, h.methodDocs]

end methods

/-- Policies that are alike under a root take the same steps from it. -/
theorem Alike.walkRoot {type : HostType}
    (h : ∀ d, m.lookup d.name = some d → type.deref = .named d.name → Alike m d R f p q) :
    Agree R id (p.walkRoot m type) (q.walkRoot m type) := by
  unfold ExtractPolicy.walkRoot
  cases htype : type.deref with
  | named name =>
    cases hd : m.lookup name with
    | none =>
      simp only [hd]
      exact .throw _
    | some d =>
      obtain rfl := HostModule.name_of_lookup hd
      have halike := h d hd htype
      have hvisit := halike.visit_agree [d.name]
      -- The places under the root are where the two policies have to be alike.
      have hroot : ∀ x ∈ m.rootPositions d, p.Stands m d x.field x.type := fun x hx => .root hx
      simp only [hd]
      cases hs : d.type.deref with
      | struct fields =>
        rw [HostModule.rootPositions, hs] at hroot
        exact (halike.structMembers_agree hvisit fields d.name
          (forall_visiblePositions.mp hroot)).bind fun members => halike.declare hd
      | interface methods =>
        rw [HostModule.rootPositions, hs] at hroot
        refine (Agree.mapM fun method hmem => ?_).bind fun members => halike.declare hd
        refine halike.methodMember_agree (fun x hx => hroot x ?_) hvisit d
        exact List.mem_flatMap.mpr ⟨method, hmem, hx⟩
      | _ => exact .throw _
  | _ => exact .throw _

end ExtractPolicy

end TypeExport
