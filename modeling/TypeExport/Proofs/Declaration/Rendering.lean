import TypeExport.Proofs.Declaration.Refusal
import TypeExport.Proofs.Walk.Closure

/-! # What is Found can be Rendered

    The type of nodes admits more than a renderer takes.  `Proper` says what the node of a type
    looks like: arrays have one parameter and maps two, only a method may return nothing, and only
    a method has parameters.  Walks write no other nodes, whatever the policy, and nothing inside a
    proper node is ever refused.  What is left to refuse is a declaration without a name. -/

namespace TypeExport

/-! ## Section 1: Proper nodes -/

mutual

/-- The node of a type: every array in it has one parameter and every map two, and its members are
    properties and methods. -/
inductive TypeNode.Proper : TypeNode → Prop
  | simple {name} : TypeNode.Proper (.simple name)
  | array {elem} (h : TypeNode.Proper elem) : TypeNode.Proper (.array [elem])
  | map {key value} (hk : TypeNode.Proper key) (hv : TypeNode.Proper value) :
    TypeNode.Proper (.map [key, value])
  | interface {name comment members} (h : ∀ mem ∈ members, Member.Proper mem) :
    TypeNode.Proper (.interface name comment members)
  | enum {name comment members} : TypeNode.Proper (.enum name comment members)

/-- A property has a type and no parameters.  A method has parameters with types, and it may return
    nothing. -/
inductive Member.Proper : Member → Prop
  | property {name type optional comment} (h : TypeNode.Proper type) :
    Member.Proper ⟨name, type, optional, false, comment, []⟩
  | method {name type optional comment args} (h : TypeNode.Proper type)
    (hargs : ∀ a ∈ args, TypeNode.Proper a.type) :
    Member.Proper ⟨name, type, optional, true, comment, args⟩
  | procedure {name optional comment args} (hargs : ∀ a ∈ args, TypeNode.Proper a.type) :
    Member.Proper ⟨name, .void, optional, true, comment, args⟩

end

/-! ## Section 2: Walks write proper nodes -/

namespace ExtractPolicy

variable {policy : ExtractPolicy} {m : HostModule}

theorem proper_leaf {t : HostType} {site : String} {n : TypeNode} (h : leaf site t = .ok n) :
    n.Proper := by
  have hn : n = .boolean ∨ n = .number ∨ n = .string := by
    cases t <;> simp_all [leaf]
  rcases hn with rfl | rfl | rfl <;> exact .simple

theorem proper_property (f : HostField) (n : TypeNode) (h : n.Proper) : (f.property n).Proper :=
  .property h

theorem proper_methodOf (d : TypeDecl) (method : HostMethod) (returns : TypeNode) (args : List Arg)
    (hreturns : returns = .void ∨ returns.Proper) (hargs : ∀ a ∈ args, a.type.Proper) :
    (policy.methodOf d method returns args).Proper := by
  rcases hreturns with rfl | hreturns
  · exact .procedure hargs
  · exact .method hreturns hargs

/-- The order of members does not matter. -/
theorem proper_arrange {members : List Member} (h : ∀ mem ∈ members, mem.Proper)
    (name : String) (comment : Option String) :
    TypeNode.Proper (.interface name comment (policy.arrange members)) :=
  .interface fun mem hmem => h mem ((policy.sort.sortBy_perm _ members).mem_iff.mp hmem)

theorem proper_fieldMembers {fields : List HostField} {ns : List TypeNode}
    (hns : ∀ n ∈ ns, n.Proper) (name : String) (comment : Option String) :
    TypeNode.Proper (.interface name comment (policy.arrange (fieldMembers fields ns))) :=
  proper_arrange (forall_fieldMembers proper_property hns) name comment

def ProperState (s : Progress) : Prop := ∀ node ∈ s.nodes, node.Proper

theorem ProperState.put {s : Progress} {node : TypeNode} (hs : ProperState s) (hn : node.Proper) :
    ProperState (s.put node) := by
  intro x hx
  rcases mem_upsert hx with rfl | hx
  · exact hn
  · exact hs x hx

/-- A declaration is a node that is added. -/
theorem ProperState.declare {s : Progress} {node : TypeNode} (hs : ProperState s)
    (hn : node.Proper) (name : String) : ProperState (s.declare name node) :=
  hs.put hn

mutual

/-- Resolving a type gives a proper node and adds proper nodes. -/
theorem Resolves.proper {path : List String} {field : Option HostField} {t : HostType}
    {s s' : Progress} {n : TypeNode} :
    policy.Resolves m path field t s n s' → ProperState s → ProperState s' ∧ n.Proper
  | .leaf h, hs => ⟨hs, proper_leaf h⟩
  | .slice h, hs => (h.proper hs).imp_right .array
  | .array h, hs => (h.proper hs).imp_right .array
  | .map hk hv, hs => by
    obtain ⟨hs₁, hkey⟩ := hk.proper hs
    exact (hv.proper hs₁).imp_right (.map hkey)
  | .pointer h, hs => h.proper hs
  | .inline _ h, hs => (h.proper hs).imp_right fun hns => proper_fieldMembers hns _ _
  | .promoted _ h, hs => by
    obtain ⟨hs', hns⟩ := h.proper hs
    exact ⟨hs'.put (proper_fieldMembers hns _ _), .simple⟩
  | .embedded _ _ _ _ h, hs => (h.proper hs).imp_right fun hns => proper_fieldMembers hns _ _
  | .mentioned _ _ _ _, hs => ⟨hs, .simple⟩
  | .followed _ _ _ _ _ _ h, hs => by
    obtain ⟨hs', hns⟩ := h.proper hs
    exact ⟨hs'.declare (proper_fieldMembers hns _ _) _, .simple⟩
  | .known _ _ _, hs => ⟨hs, .simple⟩
  | .enumerated _ _ _ _ _, hs => ⟨hs.declare .enum _, .simple⟩
  | .shape _ _ _ h, hs => h.proper hs

/-- The same for several places. -/
theorem ResolvesAll.proper {path : List String} {ps : List Position} {s s' : Progress}
    {ns : List TypeNode} : policy.ResolvesAll m path ps s ns s' → ProperState s →
    ProperState s' ∧ ∀ n ∈ ns, n.Proper
  | .nil, hs => ⟨hs, fun n hn => absurd hn (by simp)⟩
  | .cons h hall, hs => by
    obtain ⟨hs₁, hn⟩ := h.proper hs
    obtain ⟨hs', hns⟩ := hall.proper hs₁
    exact ⟨hs', List.forall_mem_cons.mpr ⟨hn, hns⟩⟩

end

/-- A walk ends with proper nodes only. -/
theorem RootWalk.proper {root : HostType} (w : policy.RootWalk m root) :
    ∀ node ∈ w.found.nodes, node.Proper := by
  have hempty : ProperState {} := fun _ h => absurd h (by simp)
  obtain ⟨hs, hns⟩ := w.resolves.proper hempty
  exact hs.declare (proper_arrange (w.members_eq.forall proper_methodOf proper_property hns) _ _) _

end ExtractPolicy

/-! ## Section 3: Nothing inside a proper node is refused -/

mutual

/-- A proper node has no faults. -/
theorem TypeNode.Proper.not_faulty {n : TypeNode} : n.Proper → ¬ n.Faulty
  | .simple, hfault => nomatch hfault
  | .array h, hfault => by
    cases hfault with
    | arrayCount hcount => exact hcount rfl
    | elem helem => exact h.not_faulty helem
  | .map hk hv, hfault => by
    cases hfault with
    | mapCount hcount => exact hcount rfl
    | key hkey => exact hk.not_faulty hkey
    | value hvalue => exact hv.not_faulty hvalue
  | .interface h, hfault => by
    cases hfault with
    | member hmem hfault => exact (h _ hmem).not_faulty hfault
  | .enum, hfault => nomatch hfault

/-- Nor has a proper member. -/
theorem Member.Proper.not_faulty {mem : Member} : mem.Proper → ¬ mem.Faulty
  | .property h, hfault => by
    cases hfault with
    | type htype => exact h.not_faulty htype
    -- The parameters of a property are never looked at.
    | arg hfunction => exact absurd hfunction (by simp)
  | .method h hargs, hfault => by
    cases hfault with
    | type htype => exact h.not_faulty htype
    | arg _ ha harg => exact (hargs _ ha).not_faulty harg
  | .procedure hargs, hfault => by
    cases hfault with
    | type htype => exact nomatch htype
    | arg _ ha harg => exact (hargs _ ha).not_faulty harg

end

namespace Render

/-! ## Section 4: Declarations without a name are refused -/

/-- The declaration is an interface that has the empty name. -/
def Nameless (node : TypeNode) : Prop := ∃ comment members, node = .interface "" comment members

/-- A proper declaration is refused when it has no name, and never otherwise. -/
theorem declaration_cases {node : TypeNode} (hp : node.Proper) (hd : node.IsDeclaration)
    (sumTypes : Bool) (depth : Nat) :
    (Nameless node ∧ declaration sumTypes depth node =
      .error (.unsupportedRoot "anonymous interface")) ∨
      ¬ Nameless node ∧ ∃ text, declaration sumTypes depth node = .ok text := by
  cases hd with
  | @interface name comment members =>
    by_cases hname : name = ""
    · subst hname
      exact .inl ⟨⟨_, _, rfl⟩, rfl⟩
    · obtain ⟨body, hbody⟩ := type_ok_of_not_faulty _ depth hp.not_faulty
      refine .inr ⟨?_, ?_⟩
      · rintro ⟨_, _, h⟩
        exact hname (TypeNode.interface.inj h).1
      · simp [declaration, hname, hbody, bind, Except.bind, pure, Except.pure]
  | enum =>
    refine .inr ⟨?_, _, rfl⟩
    rintro ⟨_, _, h⟩
    exact absurd h (by simp)

/-- A list of proper declarations is refused when one of them has no name, and never otherwise. -/
theorem declarations_cases {graph : List TypeNode} (hp : ∀ node ∈ graph, node.Proper)
    (hd : ∀ node ∈ graph, node.IsDeclaration) (sumTypes : Bool) (depth : Nat) :
    ((∃ node ∈ graph, Nameless node) ∧ graph.mapM (declaration sumTypes depth) =
      .error (.unsupportedRoot "anonymous interface")) ∨
      (∀ node ∈ graph, ¬ Nameless node) ∧
        ∃ texts, graph.mapM (declaration sumTypes depth) = .ok texts := by
  induction graph with
  | nil => exact .inr ⟨fun _ h => absurd h (by simp), [], rfl⟩
  | cons node rest ih =>
    rw [List.mapM_cons]
    obtain ⟨hp, hps⟩ := List.forall_mem_cons.mp hp
    obtain ⟨hd, hds⟩ := List.forall_mem_cons.mp hd
    rcases declaration_cases hp hd sumTypes depth with ⟨hname, he⟩ | ⟨hname, text, htext⟩
    · rw [he]
      exact .inl ⟨⟨node, List.mem_cons_self, hname⟩, rfl⟩
    · rw [htext]
      -- This node has a text, so the rest decides.
      rcases ih hps hds with ⟨⟨x, hx, hxname⟩, he⟩ | ⟨hnames, texts, htexts⟩
      · rw [he]
        exact .inl ⟨⟨x, List.mem_cons_of_mem _ hx, hxname⟩, rfl⟩
      · rw [htexts]
        exact .inr ⟨List.forall_mem_cons.mpr ⟨hname, hnames⟩, _, rfl⟩

/-- What becomes of proper declarations, whatever the options: a text when all of them have names,
    and the refusal of a nameless interface otherwise. -/
theorem render_cases {graph : List TypeNode} (hp : ∀ node ∈ graph, node.Proper)
    (hd : ∀ node ∈ graph, node.IsDeclaration) (options : RenderOptions) :
    ((∃ node ∈ graph, Nameless node) ∧ render graph options =
      .error (.unsupportedRoot "anonymous interface")) ∨
      (∀ node ∈ graph, ¬ Nameless node) ∧ ∃ text, render graph options = .ok text := by
  have hcases := declarations_cases hp hd options.enumsAsSumTypes
    (if options.namespaceName.isSome then 1 else 0)
  rcases hcases with ⟨hname, he⟩ | ⟨hnames, texts, htexts⟩
  · exact .inl ⟨hname, by rw [render, file, he]; rfl⟩
  · exact .inr ⟨hnames, by rw [render, file, htexts]; exact ⟨_, rfl⟩⟩

end Render

/-! ## Section 5: Graphs of walks -/

namespace ExtractPolicy

variable {policy : ExtractPolicy} {m : HostModule}

/-- A graph consists of proper nodes.  It has a text if and only if no interface in it has the empty
    name, and it is never refused for anything else. -/
theorem extract_renderable {root : HostType} {graph : List TypeNode}
    (h : extract m root policy = .ok graph) (options : RenderOptions) :
    (∀ node ∈ graph, node.Proper) ∧
      ((∃ text, render graph options = .ok text) ↔
        ∀ node ∈ graph, ¬ Render.Nameless node) ∧
      ∀ e, render graph options = .error e → e = .unsupportedRoot "anonymous interface" := by
  obtain ⟨w, rfl⟩ := extract_eq_ok h
  have hproper : ∀ node ∈ policy.sort.sortBy TypeNode.name w.found.nodes, node.Proper :=
    fun node hnode => w.proper node ((mem_graph_iff w node).mp hnode)
  have hdecl : ∀ node ∈ policy.sort.sortBy TypeNode.name w.found.nodes, node.IsDeclaration :=
    fun node hnode => w.isDeclaration node ((mem_graph_iff w node).mp hnode)
  refine ⟨hproper, ?_⟩
  rcases Render.render_cases hproper hdecl options with
    ⟨⟨node, hnode, hname⟩, he⟩ | ⟨hnames, text, htext⟩
  · rw [he]
    refine ⟨⟨?_, fun hnames => absurd hname (hnames node hnode)⟩, ?_⟩
    · exact fun ⟨_, htext⟩ => absurd htext (by simp)
    · exact fun e heq => (Except.error.inj heq).symm
  · rw [htext]
    exact ⟨⟨fun _ => hnames, fun _ => ⟨text, rfl⟩⟩, fun e heq => absurd heq (by simp)⟩

/-- A store with a method that returns something, one that returns nothing, and a namer that has no
    name for the items. -/
def storeModule : HostModule where
  types := [
    ⟨"Store", .interface [
      ⟨"Find", ⟨[⟨none, .slice .string⟩], [.map .string (.named "Item"), .error], false⟩, none⟩,
      ⟨"Close", ⟨[], [.error], false⟩, none⟩], none, none⟩,
    ⟨"Item", .struct [⟨"Tags", .array 2 .string, none⟩], none, none⟩]

def namelessItems : ExtractPolicy :=
  { following with typeNamer := fun d => if d.name = "Item" then "" else d.name }

def storeGraph : List TypeNode :=
  [.interface "" none [.property "Tags" (.array [.string])],
    .interface "Store" none [
      .method "Find" (.map [.string, .simple ""]) [⟨"arg0", .array [.string]⟩],
      .method "Close" .void []]]

theorem storeGraph_refused :
    extract storeModule (.named "Store") namelessItems = .ok storeGraph ∧
      (∀ node ∈ storeGraph, node.Proper) ∧
      ((∃ text, render storeGraph {} = .ok text) ↔
        ∀ node ∈ storeGraph, ¬ Render.Nameless node) ∧
      ∀ e, render storeGraph {} = .error e → e = .unsupportedRoot "anonymous interface" := by
  have h : extract storeModule (.named "Store") namelessItems = .ok storeGraph := by cbv
  exact ⟨h, extract_renderable h {}⟩

end ExtractPolicy

end TypeExport
