import TypeExport.Proofs.Host.Chains
import TypeExport.Proofs.Walk.Resolution

/-! # Walks from a Root

    A root is a struct or an interface.  What is resolved under it is the same in both cases, a list
    of places: the visible fields of the struct, or what the methods of the interface expose, which
    is a first result that is no error and then the parameters.  `extract_eq_ok` opens a successful
    extraction into the derivation for these places, the node of the root and the final sorting. -/

namespace TypeExport

/-! ## Section 1: What a method exposes -/

namespace HostModule

variable (m : HostModule)

/-- The type of what a method returns: its first result, unless that is an error. -/
def result? (method : HostMethod) : Option HostType :=
  match method.signature.results with
  | [] => none
  | t :: _ =>
    -- When the test for errors fails, the walk fails with it and no result matters.
    match m.isErrorLike t with
    | .ok true => none
    | _ => some t

/-- There are at most two results, and if there are two then the second is an error. -/
structure ResultsFit (method : HostMethod) : Prop where
  length_le : method.signature.results.length ≤ 2
  second_error : ∀ first second, method.signature.results = [first, second] →
    m.isErrorLike second = .ok true

theorem resultsFit_of_length_le {method : HostMethod}
    (h : method.signature.results.length ≤ 1) : m.ResultsFit method := by
  refine ⟨by omega, ?_⟩
  intro first second hpair
  rw [hpair] at h
  exact absurd h (by simp)

theorem resultsFit_pair {method : HostMethod} {first second : HostType}
    (hr : method.signature.results = [first, second]) (he : m.isErrorLike second = .ok true) :
    m.ResultsFit method := by
  refine ⟨by simp [hr], ?_⟩
  intro first' second' hpair
  obtain ⟨-, hrest⟩ := List.cons.inj (hr.symm.trans hpair)
  obtain ⟨rfl, -⟩ := List.cons.inj hrest
  exact he

/-- The places of the types that stand in a method: its result and its parameters. -/
def exposedPositions (method : HostMethod) : List Position :=
  (m.result? method).toList.map HostType.position ++
    method.signature.params.map (·.type.position)

def rootPositions (d : TypeDecl) : List Position :=
  match d.type.deref with
  | .struct fields => visiblePositions fields
  | .interface methods => methods.flatMap m.exposedPositions
  | _ => []

theorem result?_eq_none {method : HostMethod} {t : HostType} {rest : List HostType}
    (h : method.signature.results = t :: rest) (he : m.isErrorLike t = .ok true) :
    m.result? method = none := by
  simp only [result?, h, he]

theorem result?_eq_some {method : HostMethod} {t : HostType} {rest : List HostType}
    (h : method.signature.results = t :: rest) (he : m.isErrorLike t ≠ .ok true) :
    m.result? method = some t := by
  simp only [result?, h]

theorem exposedPositions_of_none {method : HostMethod} (h : m.result? method = none) :
    m.exposedPositions method = method.signature.params.map (·.type.position) := by
  simp [exposedPositions, h]

theorem exposedPositions_of_some {method : HostMethod} {t : HostType}
    (h : m.result? method = some t) :
    m.exposedPositions method =
      t.position :: method.signature.params.map (·.type.position) := by
  simp [exposedPositions, h]

end HostModule

/-- What is made of two lists, element by element, has its second halves in the second list. -/
theorem exists_of_mem_zipWith {α β γ : Type} {f : α → β → γ} {c : γ} :
    ∀ {as : List α} {bs : List β}, c ∈ List.zipWith f as bs → ∃ a, ∃ b ∈ bs, c = f a b
  | [], _, h => absurd h (by simp)
  | _ :: _, [], h => absurd h (by simp)
  | a :: as, b :: bs, h => by
    rw [List.zipWith_cons_cons] at h
    rcases List.mem_cons.mp h with rfl | h
    · exact ⟨a, b, List.mem_cons_self, rfl⟩
    · obtain ⟨a', b', hb', rfl⟩ := exists_of_mem_zipWith h
      exact ⟨a', b', List.mem_cons_of_mem _ hb', rfl⟩

namespace ExtractPolicy

/-- The parameters of a method whose types have been written as `nodes`. -/
def argsOf (policy : ExtractPolicy) (params : List HostParam) (nodes : List TypeNode) : List Arg :=
  List.zipWith (fun (p : HostParam × Nat) node => ⟨policy.argName p.2 p.1, node⟩) params.zipIdx
    nodes

/-- The member that a method of `d` becomes when it returns `returns` and its parameters are
    `args`. -/
def methodOf (policy : ExtractPolicy) (d : TypeDecl) (method : HostMethod) (returns : TypeNode)
    (args : List Arg) : Member :=
  { Member.method method.name returns args with
    comment := comment? (policy.docs.forMethod d method) }

/-- `member` is what `method` becomes when the types it exposes have been written as `nodes`. -/
def IsMethod (policy : ExtractPolicy) (m : HostModule) (d : TypeDecl) (method : HostMethod)
    (nodes : List TypeNode) (member : Member) : Prop :=
  match m.result? method with
  | none => member = policy.methodOf d method .void (policy.argsOf method.signature.params nodes)
  | some _ => ∃ returns rest, nodes = returns :: rest ∧
      member = policy.methodOf d method returns (policy.argsOf method.signature.params rest)

variable {policy : ExtractPolicy} {m : HostModule} {path : List String} {visit : Visit}

theorem ResolvesAll.append {ps qs : List Position} {s s₁ s' : Progress} {ns ms : List TypeNode} :
    policy.ResolvesAll m path ps s ns s₁ → policy.ResolvesAll m path qs s₁ ms s' →
      policy.ResolvesAll m path (ps ++ qs) s (ns ++ ms) s'
  | .nil, hq => hq
  | .cons h hs, hq => .cons h (hs.append hq)

/-- Each place is written as one node. -/
theorem ResolvesAll.length_eq {ps : List Position} {s s' : Progress} {ns : List TypeNode} :
    policy.ResolvesAll m path ps s ns s' → ps.length = ns.length
  | .nil => rfl
  | .cons _ hs => congrArg (· + 1) hs.length_eq

/-! ## Section 2: Methods -/

/-- An `ok` answer of two steps comes from an `ok` answer of each. -/
theorem Walk.bind_ok {α β : Type} {x : Walk α} {f : α → Walk β} {s s' : Progress} {b : β}
    (h : (x >>= f) s = .ok (b, s')) : ∃ a s₁, x s = .ok (a, s₁) ∧ f a s₁ = .ok (b, s') := by
  rw [Walk.bind_apply] at h
  cases hx : x s with
  | error e => rw [hx] at h; exact absurd h (by simp)
  | ok r => rw [hx] at h; exact ⟨r.1, r.2, rfl, h⟩

theorem resolve_ok (hvisit : policy.VisitDerives m path visit) {t : HostType} {site : String}
    {field : Option HostField} {s s' : Progress} {n : TypeNode}
    (h : policy.resolve visit site field t s = .ok (n, s')) :
    policy.Resolves m path field t s n s' := by
  have hout := resolve_outcome hvisit t site field s
  rwa [h] at hout

/-- The test on errors looks at the module only. -/
theorem errorLike_ok {t : HostType} {s s' : Progress} {b : Bool}
    (h : errorLike m t s = .ok (b, s')) : m.isErrorLike t = .ok b ∧ s' = s := by
  cases he : m.isErrorLike t with
  | error name => simp [errorLike, he, Walk.throw_apply] at h
  | ok c =>
    simp only [errorLike, he, Walk.pure_apply, Except.ok.injEq, Prod.mk.injEq] at h
    exact ⟨by rw [h.1], h.2.symm⟩

/-- What a method returns is resolved unless it is an error. -/
theorem returned_ok (hvisit : policy.VisitDerives m path visit) {t : HostType} {site : String}
    {s s' : Progress} {n : TypeNode} (h : policy.returned m visit site t s = .ok (n, s')) :
    (m.isErrorLike t = .ok true ∧ n = .void ∧ s' = s) ∨
      (m.isErrorLike t ≠ .ok true ∧ policy.Resolves m path none t s n s') := by
  obtain ⟨b, s₁, hb, h⟩ := Walk.bind_ok h
  obtain ⟨he, rfl⟩ := errorLike_ok hb
  cases b with
  | true =>
    simp only [if_true, Walk.pure_apply, Except.ok.injEq, Prod.mk.injEq] at h
    exact .inl ⟨he, h.1.symm, h.2.symm⟩
  | false => exact .inr ⟨by simp [he], resolve_ok hvisit h⟩

/-- The parameters of a method are resolved in their order. -/
theorem args_ok (hvisit : policy.VisitDerives m path visit) {site : String} :
    ∀ {params : List (HostParam × Nat)} {s s' : Progress} {args : List Arg},
      (params.mapM fun (p : HostParam × Nat) => do
        let type ← policy.resolve visit site none p.1.type
        return (⟨policy.argName p.2 p.1, type⟩ : Arg)) s = .ok (args, s') →
      ∃ ns, policy.ResolvesAll m path (params.map (·.1.type.position)) s ns s' ∧
        args = List.zipWith (fun p node => ⟨policy.argName p.2 p.1, node⟩) params ns
  | [], s, s', args, h => by
    simp only [List.mapM_nil, Walk.pure_apply, Except.ok.injEq, Prod.mk.injEq] at h
    obtain ⟨rfl, rfl⟩ := h
    exact ⟨[], .nil, rfl⟩
  | p :: rest, s, s', args, h => by
    rw [List.mapM_cons] at h
    obtain ⟨arg, s₁, harg, h⟩ := Walk.bind_ok h
    obtain ⟨args', s₂, hargs, h⟩ := Walk.bind_ok h
    obtain ⟨n, s₃, hn, harg⟩ := Walk.bind_ok harg
    simp only [Walk.pure_apply, Except.ok.injEq, Prod.mk.injEq] at h harg
    obtain ⟨rfl, rfl⟩ := h
    obtain ⟨rfl, rfl⟩ := harg
    obtain ⟨ns, hns, rfl⟩ := args_ok hvisit hargs
    exact ⟨n :: ns, .cons (resolve_ok hvisit hn) hns, rfl⟩

/-- The end of a method: its parameters, once it is known what it returns. -/
def finishMethod (policy : ExtractPolicy) (visit : Visit) (d : TypeDecl) (method : HostMethod)
    (returns : TypeNode) : Walk Member := do
  let args ← method.signature.params.zipIdx.mapM fun (p : HostParam × Nat) => do
    let type ← policy.resolve visit s!"{d.name}.{method.name}" none p.1.type
    return (⟨policy.argName p.2 p.1, type⟩ : Arg)
  return policy.methodOf d method returns args

/-- The start of a method: what it returns, judged by the number of its results and by whether
    they are errors. -/
def methodReturns (policy : ExtractPolicy) (m : HostModule) (visit : Visit) (d : TypeDecl)
    (method : HostMethod) : Walk TypeNode :=
  match method.signature.results with
  | [] => pure .void
  | [only] => policy.returned m visit s!"{d.name}.{method.name}" only
  | [first, second] => do
    if ← errorLike m second then policy.returned m visit s!"{d.name}.{method.name}" first
    else throw (.invalidReturnShape d.name method.name)
  | _ => throw (.tooManyReturnValues d.name method.name)

/-- A step that fails leaves nothing to do. -/
theorem Walk.throw_bind {α β : Type} (e : ExtractError) (f : α → Walk β) :
    (throw e >>= f : Walk β) = throw e := rfl

/-- A method is a start and an end. -/
theorem methodMember_eq (d : TypeDecl) (method : HostMethod) :
    policy.methodMember m visit d method =
      if method.signature.variadic then throw (.unsupportedVariadic d.name method.name)
      else policy.methodReturns m visit d method >>= policy.finishMethod visit d method := by
  unfold methodMember
  by_cases hv : method.signature.variadic
  · rw [if_pos hv, if_pos hv, Walk.throw_bind]
  · rw [if_neg hv, if_neg hv]
    unfold methodReturns
    match method.signature.results with
    | [] => rfl
    | [only] => rfl
    | [first, second] =>
      simp only [bind_assoc]
      refine bind_congr fun b => ?_
      cases b <;> rfl
    | first :: second :: third :: rest => rfl

theorem finishMethod_ok (hvisit : policy.VisitDerives m path visit) {d : TypeDecl}
    {method : HostMethod} {returns : TypeNode} {s s' : Progress} {member : Member}
    (h : policy.finishMethod visit d method returns s = .ok (member, s')) :
    ∃ ns, policy.ResolvesAll m path (method.signature.params.map (·.type.position)) s ns s' ∧
      member = policy.methodOf d method returns (policy.argsOf method.signature.params ns) := by
  obtain ⟨args, s₁, hargs, h⟩ := Walk.bind_ok h
  simp only [Walk.pure_apply, Except.ok.injEq, Prod.mk.injEq] at h
  obtain ⟨rfl, rfl⟩ := h
  obtain ⟨ns, hns, rfl⟩ := args_ok hvisit hargs
  have hparams : method.signature.params.zipIdx.map (·.1.type.position) =
      method.signature.params.map (·.type.position) := by
    rw [show (fun x : HostParam × Nat => x.1.type.position) =
      (fun p : HostParam => p.type.position) ∘ Prod.fst from rfl, ← List.map_map,
      List.zipIdx_map_fst]
  exact ⟨ns, hparams ▸ hns, rfl⟩

/-- A method that returns the type `t` or, if that is an error, nothing. -/
theorem returned_method_ok (hvisit : policy.VisitDerives m path visit) {d : TypeDecl}
    {method : HostMethod} {t : HostType} {rest : List HostType} {site : String}
    {s s' : Progress} {member : Member} (hr : method.signature.results = t :: rest)
    (h : (policy.returned m visit site t >>= policy.finishMethod visit d method) s =
      .ok (member, s')) :
    ∃ ns, policy.ResolvesAll m path (m.exposedPositions method) s ns s' ∧
      policy.IsMethod m d method ns member := by
  obtain ⟨returns, s₁, hret, h⟩ := Walk.bind_ok h
  obtain ⟨ns, hns, rfl⟩ := finishMethod_ok hvisit h
  -- A first result that is an error is no position, any other one is the first.
  rcases returned_ok hvisit hret with ⟨he, rfl, rfl⟩ | ⟨he, hres⟩
  · have hnone := m.result?_eq_none hr he
    refine ⟨ns, ?_, ?_⟩
    · rw [m.exposedPositions_of_none hnone]
      exact hns
    · simp only [IsMethod, hnone]
  · have hsome := m.result?_eq_some hr he
    refine ⟨returns :: ns, ?_, ?_⟩
    · rw [m.exposedPositions_of_some hsome]
      exact .cons hres hns
    · simp only [IsMethod, hsome]
      exact ⟨returns, ns, rfl, rfl⟩

/-- A method that becomes a member has its exposed types resolved in order. -/
theorem methodMember_ok (hvisit : policy.VisitDerives m path visit) {d : TypeDecl}
    {method : HostMethod} {s s' : Progress} {member : Member}
    (h : policy.methodMember m visit d method s = .ok (member, s')) :
    ∃ ns, policy.ResolvesAll m path (m.exposedPositions method) s ns s' ∧
      policy.IsMethod m d method ns member := by
  unfold methodMember at h
  by_cases hv : method.signature.variadic
  · rw [if_pos hv] at h
    exact absurd h (by simp [Walk.bind_apply, Walk.throw_apply])
  · rw [if_neg hv] at h
    match hr : method.signature.results with
    | [] =>
      rw [hr] at h
      have hnone : m.result? method = none := by simp only [HostModule.result?, hr]
      have hfinish : policy.finishMethod visit d method .void s = .ok (member, s') := h
      obtain ⟨ns, hns, rfl⟩ := finishMethod_ok hvisit hfinish
      refine ⟨ns, ?_, ?_⟩
      · rw [m.exposedPositions_of_none hnone]
        exact hns
      · simp only [IsMethod, hnone]
    | [only] =>
      rw [hr] at h
      exact returned_method_ok hvisit hr h
    | [first, second] =>
      -- A second result has to be an error, and then the first one counts.
      rw [hr] at h
      obtain ⟨b, s₁, hb, h⟩ := Walk.bind_ok h
      obtain ⟨_, rfl⟩ := errorLike_ok hb
      cases b with
      | true => exact returned_method_ok hvisit hr h
      | false => exact absurd h (by simp [Walk.bind_apply, Walk.throw_apply])
    | first :: second :: third :: rest =>
      rw [hr] at h
      exact absurd h (by simp [Walk.bind_apply, Walk.throw_apply])

/-- `members` are what `methods` become when all the types they expose have been written as
    `nodes`. -/
inductive AreMethods (policy : ExtractPolicy) (m : HostModule) (d : TypeDecl) :
    List HostMethod → List TypeNode → List Member → Prop
  | nil : AreMethods policy m d [] [] []
  | cons {method methods ns ms member members}
    (hlen : (m.exposedPositions method).length = ns.length)
    (h : policy.IsMethod m d method ns member) (hs : AreMethods policy m d methods ms members) :
    AreMethods policy m d (method :: methods) (ns ++ ms) (member :: members)

/-- The methods of an interface are resolved in their order. -/
theorem methods_ok (hvisit : policy.VisitDerives m path visit) {d : TypeDecl} :
    ∀ {methods : List HostMethod} {s s' : Progress} {members : List Member},
      methods.mapM (policy.methodMember m visit d) s = .ok (members, s') →
      ∃ ns, policy.ResolvesAll m path (methods.flatMap m.exposedPositions) s ns s' ∧
        policy.AreMethods m d methods ns members
  | [], s, s', members, h => by
    simp only [List.mapM_nil, Walk.pure_apply, Except.ok.injEq, Prod.mk.injEq] at h
    obtain ⟨rfl, rfl⟩ := h
    exact ⟨[], .nil, .nil⟩
  | method :: rest, s, s', members, h => by
    rw [List.mapM_cons] at h
    obtain ⟨member, s₁, hmember, h⟩ := Walk.bind_ok h
    obtain ⟨members', s₂, hmembers, h⟩ := Walk.bind_ok h
    simp only [Walk.pure_apply, Except.ok.injEq, Prod.mk.injEq] at h
    obtain ⟨rfl, rfl⟩ := h
    obtain ⟨ns, hns, his⟩ := methodMember_ok hvisit hmember
    obtain ⟨ms, hms, hare⟩ := methods_ok hvisit hmembers
    exact ⟨ns ++ ms, hns.append hms, .cons hns.length_eq his hare⟩

/-! ## Section 3: Roots -/

/-- Follows structs, keeps the names of declarations and takes enumerations from annotations. -/
def following : ExtractPolicy where
  embedStructs := false
  followStructs := true
  anonNamer := none
  typeNamer := CaseStyle.preserve.typeNamer
  sort := .discovery
  enums := some .declared
  docs := .none
  preserveParamNames := false

/-- As `following`, but structs are embedded. -/
def embedding : ExtractPolicy :=
  { following with embedStructs := true, follow_of_embed := fun _ => rfl }

/-- `members` are the members of the root `d` when the places under it have been written as
    `nodes`. -/
def AreRootMembers (policy : ExtractPolicy) (m : HostModule) (d : TypeDecl) (nodes : List TypeNode)
    (members : List Member) : Prop :=
  match d.type.deref with
  | .struct fields => members = fieldMembers fields nodes
  | .interface methods => policy.AreMethods m d methods nodes members
  | _ => False

/-- A walk from `root` that succeeds: everything under the root is resolved, and then the node of
    the root itself is added. -/
structure RootWalk (policy : ExtractPolicy) (m : HostModule) (root : HostType) where
  /-- The declaration that the root names. -/
  decl : TypeDecl
  /-- How the places under the root are written. -/
  nodes : List TypeNode
  members : List Member
  /-- The state before the node of the root is added. -/
  inner : Progress
  root_eq : root.deref = .named decl.name
  lookup_eq : m.lookup decl.name = some decl
  resolves : policy.ResolvesAll m [decl.name] (m.rootPositions decl) {} nodes inner
  members_eq : policy.AreRootMembers m decl nodes members

/-- The state at the end of the walk. -/
def RootWalk.found {root : HostType} (w : policy.RootWalk m root) : Progress :=
  w.inner.declare w.decl.name (policy.interfaceOf w.decl w.members)

section members

variable {P : TypeNode → Prop} {Q : Member → Prop} {d : TypeDecl} {nodes : List TypeNode}
  {members : List Member}

/-- What holds of every property made of a good node holds of the members made of good nodes. -/
theorem forall_fieldMembers (hproperty : ∀ (f : HostField) n, P n → Q (f.property n))
    {fields : List HostField} (hn : ∀ n ∈ nodes, P n) :
    ∀ mem ∈ fieldMembers fields nodes, Q mem := by
  intro mem hmem
  obtain ⟨f, n, hnode, rfl⟩ := exists_of_mem_zipWith hmem
  exact hproperty f n (hn n hnode)

/-- A method made of good nodes has good parameters, and returns nothing or what is good. -/
theorem IsMethod.elim {method : HostMethod} {member : Member}
    (h : policy.IsMethod m d method nodes member) (hn : ∀ n ∈ nodes, P n) :
    ∃ returns args, member = policy.methodOf d method returns args ∧
      (returns = .void ∨ P returns) ∧ ∀ a ∈ args, P a.type := by
  have hargs : ∀ {ns}, (∀ n ∈ ns, P n) →
      ∀ a ∈ policy.argsOf method.signature.params ns, P a.type := by
    intro ns hns a ha
    obtain ⟨_, n, hmem, rfl⟩ := exists_of_mem_zipWith ha
    exact hns n hmem
  unfold IsMethod at h
  cases hr : m.result? method with
  | none =>
    rw [hr] at h
    exact ⟨_, _, h, .inl rfl, hargs hn⟩
  | some t =>
    rw [hr] at h
    obtain ⟨returns, rest, rfl, hmember⟩ := h
    exact ⟨_, _, hmember, .inr (hn _ List.mem_cons_self),
      hargs fun n hmem => hn n (List.mem_cons_of_mem _ hmem)⟩

variable (hmethod : ∀ d method returns args, returns = .void ∨ P returns →
  (∀ a ∈ args, P a.type) → Q (policy.methodOf d method returns args))

include hmethod in
theorem AreMethods.forall {methods : List HostMethod}
    (h : policy.AreMethods m d methods nodes members) (hn : ∀ n ∈ nodes, P n) :
    ∀ mem ∈ members, Q mem := by
  induction h with
  | nil => exact fun mem hmem => absurd hmem (by simp)
  | cons _ h _ ih =>
    intro mem hmem
    rcases List.mem_cons.mp hmem with rfl | hmem
    · obtain ⟨returns, args, rfl, hreturns, hargs⟩ :=
        h.elim fun n hmem => hn n (List.mem_append_left _ hmem)
      exact hmethod _ _ _ _ hreturns hargs
    · exact ih (fun n h => hn n (List.mem_append_right _ h)) mem hmem

include hmethod in
/-- What holds of every property and every method made of good nodes holds of the members of a root
    made of good nodes. -/
theorem AreRootMembers.forall (hproperty : ∀ (f : HostField) n, P n → Q (f.property n))
    (h : policy.AreRootMembers m d nodes members) (hn : ∀ n ∈ nodes, P n) :
    ∀ mem ∈ members, Q mem := by
  unfold AreRootMembers at h
  cases hd : d.type.deref with
  | struct fields =>
    rw [hd] at h
    subst h
    exact forall_fieldMembers hproperty hn
  | interface methods =>
    rw [hd] at h
    exact AreMethods.forall hmethod h hn
  | _ =>
    rw [hd] at h
    exact h.elim

end members

/-- A walk that starts at a declared struct or interface. -/
theorem walkRoot_struct {root : HostType} {d : TypeDecl} {fields : List HostField}
    (hroot : root.deref = .named d.name) (hd : m.lookup d.name = some d)
    (hs : d.type.deref = .struct fields) :
    policy.walkRoot m root =
      (policy.structMembers (policy.visit m [d.name]) d.name fields >>= policy.declare d) := by
  simp only [walkRoot, hroot, hd, hs]

theorem walkRoot_interface {root : HostType} {d : TypeDecl} {methods : List HostMethod}
    (hroot : root.deref = .named d.name) (hd : m.lookup d.name = some d)
    (hi : d.type.deref = .interface methods) :
    policy.walkRoot m root =
      (methods.mapM (policy.methodMember m (policy.visit m [d.name]) d) >>=
        policy.declare d) := by
  simp only [walkRoot, hroot, hd, hi]

/-- Only a declared struct or interface is a root. -/
theorem walkRoot_ok_root {root : HostType} {s s' : Progress}
    (h : policy.walkRoot m root s = .ok ((), s')) :
    ∃ d, root.deref = .named d.name ∧ m.lookup d.name = some d ∧
      ((∃ fields, d.type.deref = .struct fields) ∨
        ∃ methods, d.type.deref = .interface methods) := by
  cases hroot : root.deref with
  | named name =>
    cases hd : m.lookup name with
    | none => simp [walkRoot, hroot, hd, Walk.throw_apply] at h
    | some d =>
      obtain rfl := HostModule.name_of_lookup hd
      refine ⟨d, rfl, hd, ?_⟩
      cases hs : d.type.deref with
      | struct fields => exact .inl ⟨fields, rfl⟩
      | interface methods => exact .inr ⟨methods, rfl⟩
      | _ => simp [walkRoot, hroot, hd, hs, Walk.throw_apply] at h
  | _ => simp [walkRoot, hroot, Walk.throw_apply] at h

/-- A walk that succeeds can be taken apart. -/
theorem walkRoot_ok {root : HostType} {found : Progress}
    (h : policy.walkRoot m root {} = .ok ((), found)) :
    ∃ w : policy.RootWalk m root, found = w.found := by
  obtain ⟨d, hroot, hd, hkind⟩ := walkRoot_ok_root h
  have hvisit : policy.VisitDerives m [d.name] (policy.visit m [d.name]) := visit_outcome _
  -- Both kinds of roots resolve the places under them and then declare themselves.
  rcases hkind with ⟨fields, hs⟩ | ⟨methods, hi⟩
  · have hplaces : m.rootPositions d = visiblePositions fields := by
      simp only [HostModule.rootPositions, hs]
    rw [walkRoot_struct hroot hd hs] at h
    obtain ⟨members, s, hmembers, h⟩ := Walk.bind_ok h
    have hout := structMembers_outcome hvisit fields d.name {}
    rw [hmembers] at hout
    obtain ⟨ns, hns, hmem⟩ := hout
    rw [declare_apply, Except.ok.injEq, Prod.mk.injEq] at h
    exact ⟨⟨d, ns, members, s, hroot, hd, hplaces ▸ hns, by simpa only [AreRootMembers, hs]⟩,
      h.2.symm⟩
  · have hplaces : m.rootPositions d = methods.flatMap m.exposedPositions := by
      simp only [HostModule.rootPositions, hi]
    rw [walkRoot_interface hroot hd hi] at h
    obtain ⟨members, s, hmembers, h⟩ := Walk.bind_ok h
    obtain ⟨ns, hns, hmem⟩ := methods_ok hvisit hmembers
    rw [declare_apply, Except.ok.injEq, Prod.mk.injEq] at h
    exact ⟨⟨d, ns, members, s, hroot, hd, hplaces ▸ hns, by simpa only [AreRootMembers, hi]⟩,
      h.2.symm⟩

/-- A graph consists of the nodes that a walk ends with. -/
theorem extract_eq_ok_iff {root : HostType} {graph : List TypeNode} :
    extract m root policy = .ok graph ↔ ∃ s, policy.walkRoot m root {} = .ok ((), s) ∧
      graph = policy.sort.sortBy TypeNode.name s.nodes := by
  unfold extract StateT.run
  cases policy.walkRoot m root {} with
  | error e => simp [bind, Except.bind]
  | ok r =>
    obtain ⟨⟨⟩, found⟩ := r
    simp [bind, Except.bind, pure, Except.pure, eq_comm]

/-- A graph consists of the nodes found on a walk. -/
theorem extract_eq_ok {root : HostType} {graph : List TypeNode}
    (h : extract m root policy = .ok graph) :
    ∃ w : policy.RootWalk m root, graph = policy.sort.sortBy TypeNode.name w.found.nodes := by
  obtain ⟨s, hs, rfl⟩ := extract_eq_ok_iff.mp h
  obtain ⟨w, rfl⟩ := walkRoot_ok hs
  exact ⟨w, rfl⟩

/-- What is in the graph is what was found. -/
theorem mem_graph_iff {root : HostType} (w : policy.RootWalk m root) (node : TypeNode) :
    node ∈ policy.sort.sortBy TypeNode.name w.found.nodes ↔ node ∈ w.found.nodes :=
  (policy.sort.sortBy_perm TypeNode.name w.found.nodes).mem_iff

/-- A walk starts at the declaration that its root names. -/
theorem RootWalk.decl_eq {root : HostType} {d : TypeDecl} (w : policy.RootWalk m root)
    (hroot : root.deref = .named d.name) (hd : m.lookup d.name = some d) : w.decl = d := by
  have hlook := w.lookup_eq
  have hname := w.root_eq
  rw [hroot, HostType.named.injEq] at hname
  rw [← hname, hd] at hlook
  exact (Option.some.inj hlook).symm

/-- The root has a node. -/
theorem RootWalk.typeNamer_mem_names {root : HostType} (w : policy.RootWalk m root) :
    policy.typeNamer w.decl ∈ w.found.names := by
  rw [found, Progress.names_declare, Progress.mem_names_put]
  exact .inl rfl

/-- A node is the one of the root or was found before. -/
theorem RootWalk.mem_nodes_found {root : HostType} (w : policy.RootWalk m root) {n : TypeNode}
    (h : n ∈ w.found.nodes) : n = policy.interfaceOf w.decl w.members ∨ n ∈ w.inner.nodes :=
  mem_upsert h

theorem RootWalk.root_mem {root : HostType} (w : policy.RootWalk m root) :
    policy.interfaceOf w.decl w.members ∈ w.found.nodes :=
  mem_upsert_self _ _ _

/-- When the walk from a struct fails, it fails at one of its fields. -/
theorem extract_struct_error {root : HostType} {d : TypeDecl} {fields : List HostField}
    {e : ExtractError} (hroot : root.deref = .named d.name) (hd : m.lookup d.name = some d)
    (hs : d.type.deref = .struct fields) (h : extract m root policy = .error e) :
    policy.FailsAll m [d.name] (visiblePositions fields) {} e := by
  have hvisit : policy.VisitDerives m [d.name] (policy.visit m [d.name]) := visit_outcome _
  have hout := structMembers_outcome hvisit fields d.name {}
  unfold extract at h
  rw [walkRoot_struct hroot hd hs, StateT.run, Walk.bind_apply] at h
  cases hmembers : policy.structMembers (policy.visit m [d.name]) d.name fields {} with
  | error e' =>
    rw [hmembers] at hout h
    obtain rfl : e' = e := Except.error.inj h
    exact hout
  | ok r =>
    rw [hmembers] at h
    exact absurd h (by simp [declare_apply, bind, Except.bind, pure, Except.pure])

end ExtractPolicy

end TypeExport
