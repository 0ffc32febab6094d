import TypeExport.Proofs.Walk.Mentions

/-! # Derivations of a Walk

    A walk is a computation with state and failure.  Here each of its outcomes gets a derivation,
    one rule for each way in which a type can be resolved: `Resolves` for a node and a new state,
    `Fails` for an error.  `resolve_outcome` and `visit_outcome` say that every outcome has one, so
    that whatever holds of all walks is shown by induction on derivations and nobody opens the
    computation again.

    Sites are left out of the rules.  They decide the texts of errors and nothing else. -/

namespace TypeExport

/-! ## Section 1: Steps of the state -/

namespace Progress

def put (s : Progress) (node : TypeNode) : Progress :=
  { s with nodes := upsert TypeNode.name node s.nodes }

/-- The state with one more declaration. -/
def declare (s : Progress) (name : String) (node : TypeNode) : Progress :=
  ⟨upsert TypeNode.name node s.nodes, name :: s.declared⟩

@[simp] theorem nodes_put (s : Progress) (node : TypeNode) :
    (s.put node).nodes = upsert TypeNode.name node s.nodes := rfl

@[simp] theorem declared_put (s : Progress) (node : TypeNode) :
    (s.put node).declared = s.declared := rfl

@[simp] theorem nodes_declare (s : Progress) (name : String) (node : TypeNode) :
    (s.declare name node).nodes = upsert TypeNode.name node s.nodes := rfl

@[simp] theorem declared_declare (s : Progress) (name : String) (node : TypeNode) :
    (s.declare name node).declared = name :: s.declared := rfl

def names (s : Progress) : List String := s.nodes.map (·.name)

theorem names_put_of_mem {s : Progress} {node : TypeNode} (h : node.name ∈ s.names) :
    (s.put node).names = s.names := by
  unfold names at h ⊢
  rw [nodes_put, keys_upsert, if_pos h]

theorem names_put_of_not_mem {s : Progress} {node : TypeNode} (h : node.name ∉ s.names) :
    (s.put node).names = s.names ++ [node.name] := by
  unfold names at h ⊢
  rw [nodes_put, keys_upsert, if_neg h]

/-- A node that is added brings its name and no other. -/
theorem mem_names_put {s : Progress} {node : TypeNode} {k : String} :
    k ∈ (s.put node).names ↔ k = node.name ∨ k ∈ s.names := by
  by_cases h : node.name ∈ s.names
  · rw [names_put_of_mem h]
    constructor
    · exact .inr
    · rintro (rfl | hk)
      · exact h
      · exact hk
  · rw [names_put_of_not_mem h, List.mem_append, List.mem_singleton]
    exact Or.comm

theorem names_subset_put (s : Progress) (node : TypeNode) : s.names ⊆ (s.put node).names :=
  fun _ hk => mem_names_put.mpr (.inr hk)

/-- A node of a known name takes the place of the earlier one. -/
theorem nodup_names_put {s : Progress} {node : TypeNode} (h : s.names.Nodup) :
    (s.put node).names.Nodup := by
  by_cases hn : node.name ∈ s.names
  · rwa [names_put_of_mem hn]
  · rw [names_put_of_not_mem hn]
    refine List.nodup_append.mpr ⟨h, by simp, ?_⟩
    intro a ha b hb heq
    exact hn (List.mem_singleton.mp hb ▸ heq ▸ ha)

theorem names_declare (s : Progress) (name : String) (node : TypeNode) :
    (s.declare name node).names = (s.put node).names := rfl

end Progress

namespace ExtractPolicy

variable (policy : ExtractPolicy) (m : HostModule)

def interfaceOf (d : TypeDecl) (members : List Member) : TypeNode :=
  .interface (policy.typeNamer d) (policy.declComment d) (policy.arrange members)

def enumOf (d : TypeDecl) (members : List EnumMember) : TypeNode :=
  .enum (policy.typeNamer d) (policy.declComment d) (policy.sort.sortBy (·.name) members)

variable {policy} in
/-- In discovery order members stay as they are found. -/
theorem arrange_discovery (h : policy.sort = .discovery) (members : List Member) :
    policy.arrange members = members := by
  rw [arrange, h]
  rfl

/-! ## Section 2: Rules -/

mutual

/-- `Resolves path field t s n s'`: from a place with the names `path` on the way to it, in the
    state `s`, the type `t` that stands in `field` is written as `n`, which leads to the state
    `s'`. -/
inductive Resolves :
    List String → Option HostField → HostType → Progress → TypeNode → Progress → Prop
  | leaf {path field t site s n} (h : leaf site t = .ok n) : Resolves path field t s n s
  | slice {path field elem s n s'} (h : Resolves path none elem s n s') :
    Resolves path field (.slice elem) s (.array [n]) s'
  | array {path field len elem s n s'} (h : Resolves path none elem s n s') :
    Resolves path field (.array len elem) s (.array [n]) s'
  | map {path field key value s k s₁ v s'} (hk : Resolves path none key s k s₁)
    (hv : Resolves path none value s₁ v s') :
    Resolves path field (.map key value) s (.map [k, v]) s'
  | pointer {path field elem s n s'} (h : Resolves path field elem s n s') :
    Resolves path field (.pointer elem) s n s'
  /-- An anonymous struct that is not promoted stands inline. -/
  | inline {path field fields s ns s'} (hf : policy.anonNamer = none ∨ field = none)
    (h : ResolvesAll path (visiblePositions fields) s ns s') :
    Resolves path field (.struct fields) s
      (.interface "" none (policy.arrange (fieldMembers fields ns))) s'
  | promoted {path field fields namer s ns s'} (hn : policy.anonNamer = some namer)
    (h : ResolvesAll path (visiblePositions fields) s ns s') :
    Resolves path (some field) (.struct fields) s (.simple (namer field))
      (s'.put (.interface (namer field) none (policy.arrange (fieldMembers fields ns))))
  | embedded {path field d fields s ns s'} (hd : m.lookup d.name = some d)
    (hs : d.type.deref = .struct fields) (he : policy.embedStructs = true) (hp : d.name ∉ path)
    (h : ResolvesAll (d.name :: path) (visiblePositions fields) s ns s') :
    Resolves path field (.named d.name) s
      (.interface "" (policy.declComment d) (policy.arrange (fieldMembers fields ns))) s'
  /-- A struct that is not entered, because it was met before or because structs never are. -/
  | mentioned {path field d s} (hd : m.lookup d.name = some d) (hs : d.IsStruct)
    (he : policy.embedStructs = false)
    (hk : policy.followStructs = true → d.name ∈ path ∨ d.name ∈ s.declared) :
    Resolves path field (.named d.name) s (.simple (policy.typeNamer d)) s
  | followed {path field d fields s ns s'} (hd : m.lookup d.name = some d)
    (hs : d.type.deref = .struct fields) (he : policy.embedStructs = false)
    (hf : policy.followStructs = true) (hp : d.name ∉ path) (hn : d.name ∉ s.declared)
    (h : ResolvesAll (d.name :: path) (visiblePositions fields) s ns s') :
    Resolves path field (.named d.name) s (.simple (policy.typeNamer d))
      (s'.declare d.name (policy.interfaceOf d (fieldMembers fields ns)))
  | known {path field d s} (hd : m.lookup d.name = some d) (he : policy.IsEnum d)
    (hk : d.name ∈ s.declared) :
    Resolves path field (.named d.name) s (.simple (policy.typeNamer d)) s
  | enumerated {path field d provider members s} (hd : m.lookup d.name = some d)
    (hs : ¬ d.IsStruct) (hc : policy.claims? d = some provider) (hn : d.name ∉ s.declared)
    (hm : provider.members d = .ok members) :
    Resolves path field (.named d.name) s (.simple (policy.typeNamer d))
      (s.declare d.name (policy.enumOf d members))
  /-- An alias stands for its shape. -/
  | shape {path field d s n s'} (hd : m.lookup d.name = some d) (ha : policy.IsAlias d)
    (hp : d.name ∉ path) (h : Resolves (d.name :: path) none d.type s n s') :
    Resolves path field (.named d.name) s n s'

/-- Several places are resolved one after the other. -/
inductive ResolvesAll :
    List String → List Position → Progress → List TypeNode → Progress → Prop
  | nil {path s} : ResolvesAll path [] s [] s
  | cons {path p ps s n s₁ ns s'} (h : Resolves path p.field p.type s n s₁)
    (hs : ResolvesAll path ps s₁ ns s') : ResolvesAll path (p :: ps) s (n :: ns) s'

end

mutual

/-- `Fails path field t s e`: resolving the type `t` that stands in `field`, from a place with the
    names `path` on the way to it and in the state `s`, ends in the error `e`. -/
inductive Fails : List String → Option HostField → HostType → Progress → ExtractError → Prop
  | leaf {path field t site s e} (h : leaf site t = .error e) : Fails path field t s e
  | slice {path field elem s e} (h : Fails path none elem s e) : Fails path field (.slice elem) s e
  | array {path field len elem s e} (h : Fails path none elem s e) :
    Fails path field (.array len elem) s e
  | key {path field key value s e} (h : Fails path none key s e) :
    Fails path field (.map key value) s e
  | value {path field key value s k s₁ e} (hk : Resolves policy m path none key s k s₁)
    (h : Fails path none value s₁ e) : Fails path field (.map key value) s e
  | pointer {path field elem s e} (h : Fails path field elem s e) :
    Fails path field (.pointer elem) s e
  | struct {path field fields s e} (h : FailsAll path (visiblePositions fields) s e) :
    Fails path field (.struct fields) s e
  | unknown {path field name site s} (hd : m.lookup name = none) :
    Fails path field (.named name) s (.unknownType name site)
  /-- A struct would have to be written inside itself. -/
  | embeddedAgain {path field d s} (hd : m.lookup d.name = some d) (hs : d.IsStruct)
    (he : policy.embedStructs = true) (hp : d.name ∈ path) :
    Fails path field (.named d.name) s (.cyclicType d.name)
  | embedded {path field d fields s e} (hd : m.lookup d.name = some d)
    (hs : d.type.deref = .struct fields) (he : policy.embedStructs = true) (hp : d.name ∉ path)
    (h : FailsAll (d.name :: path) (visiblePositions fields) s e) :
    Fails path field (.named d.name) s e
  | followed {path field d fields s e} (hd : m.lookup d.name = some d)
    (hs : d.type.deref = .struct fields) (he : policy.embedStructs = false)
    (hf : policy.followStructs = true) (hp : d.name ∉ path) (hn : d.name ∉ s.declared)
    (h : FailsAll (d.name :: path) (visiblePositions fields) s e) :
    Fails path field (.named d.name) s e
  | provider {path field d provider cause s} (hd : m.lookup d.name = some d)
    (hs : ¬ d.IsStruct) (hc : policy.claims? d = some provider) (hn : d.name ∉ s.declared)
    (hm : provider.members d = .error cause) :
    Fails path field (.named d.name) s (.enumProvider d.name cause)
  | interface {path field d methods site s} (hd : m.lookup d.name = some d)
    (ha : policy.IsAlias d) (hi : d.type.deref = .interface methods) :
    Fails path field (.named d.name) s (.unsupportedKind "interface" site)
  /-- An alias would have to stand for itself. -/
  | shapeAgain {path field d s} (hd : m.lookup d.name = some d) (ha : policy.IsAlias d)
    (hp : d.name ∈ path) : Fails path field (.named d.name) s (.cyclicType d.name)
  | shape {path field d s e} (hd : m.lookup d.name = some d) (ha : policy.IsAlias d)
    (hp : d.name ∉ path) (h : Fails (d.name :: path) none d.type s e) :
    Fails path field (.named d.name) s e

/-- Of several places one fails after those before it have been resolved. -/
inductive FailsAll : List String → List Position → Progress → ExtractError → Prop
  | head {path p ps s e} (h : Fails path p.field p.type s e) : FailsAll path (p :: ps) s e
  | tail {path p ps s n s₁ e} (h : Resolves policy m path p.field p.type s n s₁)
    (hs : FailsAll path ps s₁ e) : FailsAll path (p :: ps) s e

end

/-! ## Section 3: Every outcome has a derivation -/

/-- The outcome of resolving a type has a derivation. -/
def Derives (path : List String) (field : Option HostField) (t : HostType) (s : Progress) :
    Except ExtractError (TypeNode × Progress) → Prop
  | .ok (n, s') => policy.Resolves m path field t s n s'
  | .error e => policy.Fails m path field t s e

/-- The outcome of resolving the fields of a struct has a derivation. -/
def DerivesMembers (path : List String) (fields : List HostField) (s : Progress) :
    Except ExtractError (List Member × Progress) → Prop
  | .ok (members, s') => ∃ ns, policy.ResolvesAll m path (visiblePositions fields) s ns s' ∧
      members = fieldMembers fields ns
  | .error e => policy.FailsAll m path (visiblePositions fields) s e

end ExtractPolicy

/-- One step after the other: an error in the first is the error of both. -/
theorem Walk.bind_apply {α β : Type} (x : Walk α) (f : α → Walk β) (s : Progress) :
    (x >>= f) s = match x s with
      | .ok (a, s') => f a s'
      | .error e => .error e := by
  show (x s >>= fun p => f p.1 p.2) = _
  cases x s <;> rfl

theorem Walk.pure_apply {α : Type} (a : α) (s : Progress) : (pure a : Walk α) s = .ok (a, s) := rfl

theorem Walk.get_apply (s : Progress) : (get : Walk Progress) s = .ok (s, s) := rfl

theorem Walk.throw_apply {α : Type} (e : ExtractError) (s : Progress) :
    (throw e : Walk α) s = .error e := rfl

namespace ExtractPolicy

variable {policy : ExtractPolicy} {m : HostModule}

/-- Whatever a visitor answers from a place with this path has a derivation. -/
def VisitDerives (policy : ExtractPolicy) (m : HostModule) (path : List String)
    (visit : Visit) : Prop :=
  ∀ name site field s, policy.Derives m path field (.named name) s (visit name site s)

variable {path : List String} {visit : Visit}

/-- A field counts when it is visible, and goes by its serialized name. -/
theorem structMembers_cons (owner : String) (f : HostField) (rest : List HostField) :
    policy.structMembers visit owner (f :: rest) =
      if f.isVisible then do
        let node ← policy.resolve visit s!"{owner}.{f.name}" (some f) f.type
        let members ← policy.structMembers visit owner rest
        return f.property node :: members
      else policy.structMembers visit owner rest := by
  -- The walk falls back on the field's own name itself, and this is the serialized name.
  have h := f.rename_getD
  obtain ⟨name, type, tag⟩ := f
  simp only [structMembers, HostField.isVisible, HostField.property] at h ⊢
  rw [h]
  rfl

/-- The outcome for a list of fields, from the outcomes for the first and for the rest. -/
theorem structMembers_cons_outcome {f : HostField} {rest : List HostField} {owner : String}
    (hf : ∀ s, policy.Derives m path (some f) f.type s
      (policy.resolve visit s!"{owner}.{f.name}" (some f) f.type s))
    (hrest : ∀ s, policy.DerivesMembers m path rest s (policy.structMembers visit owner rest s))
    (s : Progress) : policy.DerivesMembers m path (f :: rest) s
      (policy.structMembers visit owner (f :: rest) s) := by
  rw [structMembers_cons]
  by_cases hv : f.isVisible
  · have hpos : visiblePositions (f :: rest) = f.position :: visiblePositions rest := by
      simp [visiblePositions, visibleFields, hv]
    have ih := hf s
    simp only [hv, if_true, Walk.bind_apply]
    cases h : policy.resolve visit s!"{owner}.{f.name}" (some f) f.type s with
    | error e =>
      rw [h] at ih
      show policy.FailsAll m path (visiblePositions (f :: rest)) s e
      rw [hpos]
      exact .head ih
    | ok r =>
      -- The rest is resolved from where the field leads to.
      rw [h] at ih
      have ihs := hrest r.2
      cases hs : policy.structMembers visit owner rest r.2 with
      | error e =>
        rw [hs] at ihs
        simp only [hs]
        show policy.FailsAll m path (visiblePositions (f :: rest)) s e
        rw [hpos]
        exact .tail ih ihs
      | ok r' =>
        rw [hs] at ihs
        obtain ⟨ns, hns, hmem⟩ := ihs
        simp only [hs]
        refine ⟨r.1 :: ns, ?_, ?_⟩
        · rw [hpos]
          exact .cons ih hns
        · simp [fieldMembers, visibleFields, hv, hmem]
  · have hvis : visibleFields (f :: rest) = visibleFields rest := by simp [visibleFields, hv]
    simpa only [hv, Bool.false_eq_true, if_false, DerivesMembers, visiblePositions, fieldMembers,
      hvis] using hrest s

/-- The leaves: no name and no other type inside. -/
theorem leaf_outcome (t : HostType) (site : String) (field : Option HostField) (s : Progress) :
    policy.Derives m path field t s ((liftExcept (leaf site t) : Walk TypeNode) s) := by
  cases h : leaf site t with
  | ok n => exact .leaf h
  | error e => exact .leaf h

mutual

/-- Resolving a type, with a visitor for the names in it. -/
theorem resolve_outcome (hvisit : policy.VisitDerives m path visit) :
    ∀ (t : HostType) (site : String) (field : Option HostField) (s : Progress),
    policy.Derives m path field t s (policy.resolve visit site field t s)
  | .slice elem, site, field, s => by
    have ih := resolve_outcome hvisit elem site none s
    simp only [resolve, Walk.bind_apply]
    cases h : policy.resolve visit site none elem s with
    | error e => rw [h] at ih; exact .slice ih
    | ok r => rw [h] at ih; exact .slice ih
  | .array len elem, site, field, s => by
    have ih := resolve_outcome hvisit elem site none s
    simp only [resolve, Walk.bind_apply]
    cases h : policy.resolve visit site none elem s with
    | error e => rw [h] at ih; exact .array ih
    | ok r => rw [h] at ih; exact .array ih
  | .map key value, site, field, s => by
    have ihk := resolve_outcome hvisit key site none s
    simp only [resolve, Walk.bind_apply]
    cases hk : policy.resolve visit site none key s with
    | error e => rw [hk] at ihk; exact .key ihk
    | ok r =>
      rw [hk] at ihk
      have ihv := resolve_outcome hvisit value site none r.2
      cases hv : policy.resolve visit site none value r.2 with
      | error e => rw [hv] at ihv; simp only [hv]; exact .value ihk ihv
      | ok r' => rw [hv] at ihv; simp only [hv]; exact .map ihk ihv
  | .pointer elem, site, field, s => by
    -- A pointer hands the field on, and collections do not.
    have ih := resolve_outcome hvisit elem site field s
    simp only [resolve]
    cases h : policy.resolve visit site field elem s with
    | error e => rw [h] at ih; exact .pointer ih
    | ok r => rw [h] at ih; exact .pointer ih
  | .struct fields, site, field, s => by
    have ih := structMembers_outcome hvisit fields site s
    simp only [resolve, Walk.bind_apply]
    cases h : policy.structMembers visit site fields s with
    | error e => rw [h] at ih; exact .struct ih
    | ok r =>
      rw [h] at ih
      obtain ⟨ns, hns, hmem⟩ := ih
      simp only [hmem]
      -- The struct becomes a declaration only with a namer and in a field.
      cases hn : policy.anonNamer with
      | none => simp only [anonymousStruct, hn]; exact .inline (.inl hn) hns
      | some namer =>
        cases field with
        | none => simp only [anonymousStruct, hn]; exact .inline (.inr rfl) hns
        | some f => simp only [anonymousStruct, hn]; exact .promoted hn hns
  | .named name, site, field, s => hvisit name site field s
  | .bool, site, field, s => leaf_outcome .bool site field s
  | .int bits unsigned, site, field, s => leaf_outcome (.int bits unsigned) site field s
  | .float bits, site, field, s => leaf_outcome (.float bits) site field s
  | .complex bits, site, field, s => leaf_outcome (.complex bits) site field s
  | .string, site, field, s => leaf_outcome .string site field s
  | .interface methods, site, field, s => leaf_outcome (.interface methods) site field s
  | .error, site, field, s => leaf_outcome .error site field s
  | .chan elem, site, field, s => leaf_outcome (.chan elem) site field s
  | .func signature, site, field, s => leaf_outcome (.func signature) site field s

/-- Resolving the fields of a struct, with a visitor for the names in them. -/
theorem structMembers_outcome (hvisit : policy.VisitDerives m path visit) :
    ∀ (fields : List HostField) (owner : String) (s : Progress),
    policy.DerivesMembers m path fields s (policy.structMembers visit owner fields s)
  | [], _, _ => ⟨[], .nil, rfl⟩
  | ⟨_, type, _⟩ :: rest, owner, s =>
    structMembers_cons_outcome (resolve_outcome hvisit type _ _)
      (structMembers_outcome hvisit rest owner) s

end

theorem declare_apply (d : TypeDecl) (members : List Member) (s : Progress) :
    policy.declare d members s = .ok ((), s.declare d.name (policy.interfaceOf d members)) := rfl

/-- What is known of the visitor for the references inside `d`: there is none exactly when `d` is
    on the path. -/
def InsideDerives (policy : ExtractPolicy) (m : HostModule) (path : List String) (d : TypeDecl) :
    Option Visit → Prop
  | none => d.name ∈ path
  | some visit => d.name ∉ path ∧ policy.VisitDerives m (d.name :: path) visit

/-- A reference to a struct. -/
theorem reference_struct_outcome {d : TypeDecl} {fields : List HostField} {inside : Option Visit}
    (hd : m.lookup d.name = some d) (hs : d.type.deref = .struct fields)
    (hinside : policy.InsideDerives m path d inside) (site : String) (field : Option HostField)
    (s : Progress) :
    policy.Derives m path field (.named d.name) s (policy.reference d site inside s) := by
  simp only [reference, hs]
  by_cases he : policy.embedStructs
  · -- Without a visitor the struct would have to stand inside itself.
    cases inside with
    | none => simpa only [he, if_true] using .embeddedAgain hd ⟨fields, hs⟩ he hinside
    | some visit =>
      have ih := structMembers_outcome hinside.2 fields d.name s
      simp only [he, if_true, Walk.bind_apply]
      cases h : policy.structMembers visit d.name fields s with
      | error e => rw [h] at ih; exact .embedded hd hs he hinside.1 ih
      | ok r =>
        rw [h] at ih
        obtain ⟨ns, hns, hmem⟩ := ih
        simp only [hmem]
        exact .embedded hd hs he hinside.1 hns
  · have he' : policy.embedStructs = false := by simpa using he
    simp only [he', Bool.false_eq_true, if_false]
    by_cases hf : policy.followStructs
    · -- Whether the struct is on the path is asked before whether it has been declared.
      simp only [hf, if_true]
      cases inside with
      | none => exact .mentioned hd ⟨fields, hs⟩ he' fun _ => .inl hinside
      | some visit =>
        by_cases hn : d.name ∈ s.declared
        · have hc : s.declared.contains d.name = true := by simpa using hn
          simp only [Walk.bind_apply, Walk.get_apply, hc, if_true]
          exact .mentioned hd ⟨fields, hs⟩ he' fun _ => .inr hn
        · have hc : s.declared.contains d.name = false := by simpa using hn
          have ih := structMembers_outcome hinside.2 fields d.name s
          simp only [Walk.bind_apply, Walk.get_apply, hc, Bool.false_eq_true, if_false]
          cases h : policy.structMembers visit d.name fields s with
          | error e => rw [h] at ih; exact .followed hd hs he' hf hinside.1 hn ih
          | ok r =>
            rw [h] at ih
            obtain ⟨ns, hns, hmem⟩ := ih
            simp only [hmem, declare_apply]
            exact .followed hd hs he' hf hinside.1 hn hns
    -- Neither embedded nor followed: the name is all that is left of the struct.
    · have hf' : policy.followStructs = false := by simpa using hf
      simp only [hf', Bool.false_eq_true, if_false]
      exact .mentioned hd ⟨fields, hs⟩ he' fun h => absurd h hf

section shapes

variable {d : TypeDecl} {inside : Option Visit} {site : String}

theorem reference_enum {provider : EnumProvider} (hs : ¬ d.IsStruct)
    (hc : policy.claims? d = some provider) :
    policy.reference d site inside = policy.enumeration provider d := by
  have hshape : ∀ fields, d.type.deref ≠ .struct fields := fun fields h => hs ⟨fields, h⟩
  unfold reference
  cases h : d.type.deref <;> simp_all

theorem reference_interface {methods : List HostMethod} (hc : policy.claims? d = none)
    (hi : d.type.deref = .interface methods) :
    policy.reference d site inside = throw (.unsupportedKind "interface" site) := by
  simp only [reference, hi, hc]

theorem reference_alias (ha : policy.IsAlias d)
    (hi : ∀ methods, d.type.deref ≠ .interface methods) :
    policy.reference d site inside = match inside with
      | none => throw (.cyclicType d.name)
      | some visit => policy.resolve visit site none d.type := by
  have hshape : ∀ fields, d.type.deref ≠ .struct fields := fun fields h => ha.1 ⟨fields, h⟩
  have hc := ha.2
  unfold reference
  cases inside <;> cases h : d.type.deref <;> simp_all

/-- A reference to a declaration that is no struct. -/
theorem reference_shape_outcome (hd : m.lookup d.name = some d) (hs : ¬ d.IsStruct)
    (hinside : policy.InsideDerives m path d inside) (field : Option HostField) (s : Progress) :
    policy.Derives m path field (.named d.name) s (policy.reference d site inside s) := by
  -- The provider is asked first, so what it claims is never an alias.
  cases hc : policy.claims? d with
  | some provider =>
    rw [reference_enum hs hc]
    by_cases hn : d.name ∈ s.declared
    · have hcon : s.declared.contains d.name = true := by simpa using hn
      simp only [enumeration, Walk.bind_apply, Walk.get_apply, hcon]
      exact .known hd ⟨hs, by rw [hc]; rfl⟩ hn
    · have hcon : s.declared.contains d.name = false := by simpa using hn
      simp only [enumeration, Walk.bind_apply, Walk.get_apply, hcon]
      cases hm : provider.members d with
      | error cause => exact .provider hd hs hc hn hm
      | ok members => exact .enumerated hd hs hc hn hm
  | none =>
    by_cases hi : ∃ methods, d.type.deref = .interface methods
    · obtain ⟨methods, hi⟩ := hi
      rw [reference_interface hc hi]
      exact .interface hd ⟨hs, hc⟩ hi
    · rw [reference_alias ⟨hs, hc⟩ fun methods h => hi ⟨methods, h⟩]
      cases inside with
      | none => exact .shapeAgain hd ⟨hs, hc⟩ hinside
      | some visit =>
        have ih := resolve_outcome hinside.2 d.type site none s
        cases h : policy.resolve visit site none d.type s with
        | error e => rw [h] at ih; simp only [h]; exact .shape hd ⟨hs, hc⟩ hinside.1 ih
        | ok r => rw [h] at ih; simp only [h]; exact .shape hd ⟨hs, hc⟩ hinside.1 ih

end shapes

theorem visit_unknown {name site : String} (hd : m.lookup name = none) :
    policy.visit m path name site = throw (.unknownType name site) := by
  rw [visit]
  split
  · rfl
  · simp_all

theorem visit_known {name site : String} {d : TypeDecl} (hd : m.lookup name = some d) :
    policy.visit m path name site = policy.reference d site
      (if d.name ∈ path then none else some (policy.visit m (d.name :: path))) := by
  rw [visit]
  split
  · simp_all
  · rename_i d' hd'
    obtain rfl : d = d' := by simpa [hd] using hd'
    rfl

/-- Every outcome of visiting a reference has a derivation. -/
theorem visit_outcome (path : List String) : policy.VisitDerives m path (policy.visit m path) := by
  -- Each reference that is entered leaves fewer declarations to enter.
  induction hk : m.unentered path using Nat.strongRecOn generalizing path with
  | _ k ih =>
    intro name site field s
    cases hd : m.lookup name with
    | none =>
      rw [visit_unknown hd]
      exact .unknown hd
    | some d =>
      rw [visit_known hd]
      obtain rfl := HostModule.name_of_lookup hd
      have hinside : policy.InsideDerives m path d
          (if d.name ∈ path then none else some (policy.visit m (d.name :: path))) := by
        by_cases hp : d.name ∈ path
        · rw [if_pos hp]
          exact hp
        · rw [if_neg hp]
          have hlt := HostModule.unentered_lt (HostModule.mem_of_lookup hd) hp
          exact ⟨hp, ih _ (hk ▸ hlt) (d.name :: path) rfl⟩
      by_cases hs : d.IsStruct
      · obtain ⟨fields, hs⟩ := hs
        exact reference_struct_outcome hd hs hinside site field s
      · exact reference_shape_outcome hd hs hinside field s

/-! ## Section 4: What a walk preserves -/

/-- Every step of a walk that changes the state preserves `I`. -/
structure Preserves (policy : ExtractPolicy) (m : HostModule) (I : Progress → Prop) : Prop where
  promoted : ∀ {s namer field members}, policy.anonNamer = some namer → I s →
    I (s.put (.interface (namer field) none members))
  followed : ∀ {s d members}, m.lookup d.name = some d → d.IsStruct → I s →
    I (s.declare d.name (policy.interfaceOf d members))
  enumerated : ∀ {s d members}, m.lookup d.name = some d → policy.IsEnum d → I s →
    I (s.declare d.name (policy.enumOf d members))

mutual

/-- What every step preserves is preserved when a type is resolved. -/
theorem Resolves.preserves {I : Progress → Prop} (hI : policy.Preserves m I) {path : List String}
    {field : Option HostField} {t : HostType} {s s' : Progress} {n : TypeNode} :
    policy.Resolves m path field t s n s' → I s → I s'
  | .leaf _, hs => hs
  | .slice h, hs => h.preserves hI hs
  | .array h, hs => h.preserves hI hs
  | .map hk hv, hs => hv.preserves hI (hk.preserves hI hs)
  | .pointer h, hs => h.preserves hI hs
  | .inline _ h, hs => h.preserves hI hs
  | .promoted hn h, hs => hI.promoted hn (h.preserves hI hs)
  | .embedded _ _ _ _ h, hs => h.preserves hI hs
  | .mentioned _ _ _ _, hs => hs
  | .followed hd hfields _ _ _ _ h, hs => hI.followed hd ⟨_, hfields⟩ (h.preserves hI hs)
  | .known _ _ _, hs => hs
  | .enumerated hd hns hc _ _, hs => hI.enumerated hd ⟨hns, by rw [hc]; rfl⟩ hs
  | .shape _ _ _ h, hs => h.preserves hI hs

/-- What every step preserves is preserved when several places are resolved. -/
theorem ResolvesAll.preserves {I : Progress → Prop} (hI : policy.Preserves m I)
    {path : List String} {ps : List Position} {s s' : Progress} {ns : List TypeNode} :
    policy.ResolvesAll m path ps s ns s' → I s → I s'
  | .nil, hs => hs
  | .cons h hall, hs => hall.preserves hI (h.preserves hI hs)

end

end ExtractPolicy

end TypeExport
