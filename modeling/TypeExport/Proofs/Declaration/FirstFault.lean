import TypeExport.Proofs.Declaration.Refusal

/-! # The First Fault of a Graph

    A graph that is refused is refused for one reason, although it may have many faults.  Text is
    produced from left to right and stops where it cannot go on, so the reason is the fault that
    stands first in the order of printing.

    This order is a list that is read off the graph without any printing.  `TypeNode.printed` gives
    the nodes in printed places: a node before its parameters, the key of a map before the value,
    the members of an interface as they come, and of a member the parameters before the type.
    `printingOrder` puts the roots before what is printed inside of them.  What may be wrong at one
    place of the list is `Place.fault?`.

    The proof follows the printing.  `Reports o x` says that the computation `x` fails with the
    fault `o`, or succeeds if there is none, and one lemma carries it over a sequence of two steps:
    the fault of the first comes before the fault of the second, as in a list that is appended. -/

namespace TypeExport

/-! ## Section 1: The order of printing -/

mutual

/-- The node, and behind it the nodes that are printed inside of it, in the order of printing. -/
def TypeNode.printed : TypeNode → List TypeNode
  | .array params => .array params :: printedParams params
  | .map params => .map params :: printedParams params
  | .interface name doc members => .interface name doc members :: printedMembers members
  | .simple name => [.simple name]
  | .enum name doc members => [.enum name doc members]
  | .void => [.void]

/-- What is printed of the parameters of an array or a map. -/
def printedParams : List TypeNode → List TypeNode
  | [] => []
  | param :: rest => param.printed ++ printedParams rest

/-- What is printed of the members of an interface: of each its parameters, if it is a method, and
    then its type. -/
def printedMembers : List Member → List TypeNode
  | [] => []
  | ⟨_, t, _, function, _, args⟩ :: rest =>
    (if function then printedArgs args else []) ++ t.printed ++ printedMembers rest

/-- What is printed of the parameters of a method. -/
def printedArgs : List Arg → List TypeNode
  | [] => []
  | ⟨_, t⟩ :: rest => t.printed ++ printedArgs rest

end

/-- What is printed between the braces of a root.  Enumerations hold no types. -/
def TypeNode.printedInside : TypeNode → List TypeNode
  | .interface _ _ members => printedMembers members
  | _ => []

/-- A place that may be at fault: a node that is to be declared, or one that is printed inside. -/
inductive Place where
  | root (node : TypeNode)
  | inside (node : TypeNode)

/-- The places of a graph, in the order in which they are printed. -/
def printingOrder (graph : List TypeNode) : List Place :=
  graph.flatMap fun root => .root root :: root.printedInside.map .inside

/-! ## Section 2: Faults -/

/-- What is wrong with the number of parameters of a node. -/
def TypeNode.countFault? : TypeNode → Option RenderError
  | .array params =>
    if params.length = 1 then none else some (.invalidParamCount "array" 1 params.length)
  | .map params =>
    if params.length = 2 then none else some (.invalidParamCount "map" 2 params.length)
  | _ => none

/-- What is wrong with a node as a root: it must be an enumeration or an interface with a name. -/
def TypeNode.rootFault? : TypeNode → Option RenderError
  | .enum .. => none
  | .interface name _ _ =>
    if name = "" then some (.unsupportedRoot "anonymous interface") else none
  | node => some (.unsupportedRoot node.kind)

/-- What is wrong at a place, taken by itself. -/
def Place.fault? : Place → Option RenderError
  | .root node => node.rootFault?
  | .inside node => node.countFault?

/-- The node is declared under a name: it is an enumeration, or an interface with a name. -/
def TypeNode.Declares : TypeNode → Prop
  | .enum .. => True
  | .interface name _ _ => name ≠ ""
  | _ => False

/-- If the node is an array it has one parameter, and if it is a map it has two. -/
def TypeNode.Counted : TypeNode → Prop
  | .array params => params.length = 1
  | .map params => params.length = 2
  | _ => True

theorem rootFault?_eq_none_iff (node : TypeNode) : node.rootFault? = none ↔ node.Declares := by
  cases node <;> simp [TypeNode.rootFault?, TypeNode.Declares]

theorem countFault?_eq_none_iff (node : TypeNode) : node.countFault? = none ↔ node.Counted := by
  cases node <;> simp [TypeNode.countFault?, TypeNode.Counted]

/-- A graph has no fault when its roots make declarations and everything in them is counted. -/
theorem forall_fault?_eq_none_iff (graph : List TypeNode) :
    (∀ place ∈ printingOrder graph, place.fault? = none) ↔
      ∀ root ∈ graph, root.Declares ∧ ∀ node ∈ root.printedInside, node.Counted := by
  simp only [printingOrder, List.forall_mem_flatMap, List.forall_mem_cons, List.forall_mem_map,
    Place.fault?, rootFault?_eq_none_iff, countFault?_eq_none_iff]

namespace Render

/-! ## Section 3: Reports -/

/-- The computation fails with the fault, and succeeds if there is none. -/
def Reports {α : Type} (fault : Option RenderError) (x : Except RenderError α) : Prop :=
  match fault with
  | none => ∃ a, x = .ok a
  | some e => x = .error e

theorem Reports.pure {α : Type} (a : α) : Reports none (.ok a : Except RenderError α) := ⟨a, rfl⟩

/-- Of two steps the first one is asked first. -/
theorem Reports.bind {α β : Type} {o p : Option RenderError} {x : Except RenderError α}
    {f : α → Except RenderError β} (hx : Reports o x) (hf : ∀ a, Reports p (f a)) :
    Reports (o.or p) (x >>= f) := by
  cases o with
  | some e =>
    -- The first step fails, and nothing comes after it.
    have hx : x = .error e := hx
    rw [hx]
    rfl
  | none =>
    obtain ⟨a, rfl⟩ := hx
    exact hf a

/-- A last step that only puts texts together has no fault of its own. -/
theorem Reports.map {α β : Type} {o : Option RenderError} {x : Except RenderError α}
    {f : α → β} (hx : Reports o x) : Reports o (x >>= fun a => Except.ok (f a)) := by
  have h := hx.bind (f := fun a => Except.ok (f a)) fun a => Reports.pure (f a)
  rwa [Option.or_none] at h

theorem findSome?_cons_or {α β : Type} (f : α → Option β) (a : α) (as : List α) :
    (a :: as).findSome? f = (f a).or (as.findSome? f) := by
  rw [List.findSome?_cons]
  cases f a <;> rfl

/-- Over a list the items are asked in order. -/
theorem Reports.mapM {α β : Type} {fault : α → Option RenderError}
    {f : α → Except RenderError β} (h : ∀ a, Reports (fault a) (f a)) (as : List α) :
    Reports (as.findSome? fault) (as.mapM f) := by
  induction as with
  | nil => exact Reports.pure []
  | cons a rest ih =>
    rw [List.mapM_cons, findSome?_cons_or]
    exact (h a).bind fun _ => ih.map

/-! ## Section 4: Types report their first fault -/

/-- The first of the nodes that has a wrong number of parameters. -/
def firstFault? (nodes : List TypeNode) : Option RenderError := nodes.findSome? (·.countFault?)

theorem firstFault?_append (nodes more : List TypeNode) :
    firstFault? (nodes ++ more) = (firstFault? nodes).or (firstFault? more) :=
  List.findSome?_append

/-- The fault of a node itself comes before those of the nodes behind it. -/
theorem firstFault?_cons (node : TypeNode) (nodes : List TypeNode) :
    firstFault? (node :: nodes) = node.countFault?.or (firstFault? nodes) :=
  findSome?_cons_or _ node nodes

-- The recursion is that of the printing.  Each case is one equation of the printer beside the
-- equation of `printed` for the same constructor.

mutual

/-- At every nesting, a node that is printed reports the first fault in it. -/
theorem type_reports : ∀ (n : TypeNode) (depth : Nat),
    Reports (firstFault? n.printed) (type depth n)
  | .simple name, _ => by
    rw [TypeNode.printed, type]
    exact Reports.pure name
  | .void, _ => by
    rw [TypeNode.printed, type]
    exact Reports.pure "void"
  | .enum name _ _, _ => by
    rw [TypeNode.printed, type]
    exact Reports.pure name
  | .array [elem], depth => by
    have helem := type_reports elem depth
    rw [TypeNode.printed, firstFault?_cons, printedParams, printedParams, List.append_nil, type]
    exact helem.map
  | .map [key, value], depth => by
    have hkey := type_reports key depth
    have hvalue := type_reports value depth
    rw [TypeNode.printed, firstFault?_cons, printedParams, printedParams, printedParams,
      List.append_nil, firstFault?_append, type]
    exact hkey.bind fun _ => hvalue.map
  | .interface name doc mems, depth => by
    have hmems := members_reports mems (depth + 1)
    rw [TypeNode.printed, firstFault?_cons, type]
    exact hmems.map
  -- The number of parameters is looked at before the parameters are.
  | .array [], depth | .array (_ :: _ :: _), depth => by
    rw [TypeNode.printed, firstFault?_cons, type_array_error depth (by simp)]
    rfl
  | .map [], depth | .map [_], depth | .map (_ :: _ :: _ :: _), depth => by
    rw [TypeNode.printed, firstFault?_cons, type_map_error depth (by simp)]
    rfl

theorem members_reports : ∀ (mems : List Member) (depth : Nat),
    Reports (firstFault? (printedMembers mems)) (members depth mems)
  | [], _ => by
    rw [printedMembers, members]
    exact Reports.pure ""
  | ⟨name, t, optional, function, doc, args⟩ :: rest, depth => by
    have hargs := params_reports args depth
    have ht := type_reports t depth
    have hrest := members_reports rest depth
    have hparams : Reports (firstFault? (if function then printedArgs args else []))
        (memberParams depth ⟨name, t, optional, function, doc, args⟩) := by
      unfold memberParams
      split
      · exact hargs
      · exact Reports.pure []
    rw [printedMembers, firstFault?_append, firstFault?_append, Option.or_assoc, members_cons]
    exact hparams.bind fun _ => ht.bind fun _ => hrest.map

theorem params_reports : ∀ (args : List Arg) (depth : Nat),
    Reports (firstFault? (printedArgs args)) (params depth args)
  | [], _ => by
    rw [printedArgs, params]
    exact Reports.pure []
  | ⟨name, t⟩ :: rest, depth => by
    have ht := type_reports t depth
    have hrest := params_reports rest depth
    rw [printedArgs, firstFault?_append, params_cons]
    exact ht.bind fun _ => hrest.map

end

/-- A fault is somewhere in the node if and only if it is in a place of the order of printing. -/
theorem faulty_iff_exists_printed (n : TypeNode) : n.Faulty ↔ ∃ m ∈ n.printed, ¬ m.Counted := by
  have hreports := type_reports n 0
  have hnone : firstFault? n.printed = none ↔ ∀ m ∈ n.printed, m.Counted := by
    simp only [firstFault?, List.findSome?_eq_none_iff, countFault?_eq_none_iff]
  constructor
  · intro hfaulty
    by_contra hall
    push Not at hall
    rw [hnone.mpr hall] at hreports
    obtain ⟨text, htext⟩ := hreports
    exact type_ne_ok hfaulty 0 text htext
  · rintro ⟨m, hm, hcount⟩
    by_contra hfaulty
    obtain ⟨text, htext⟩ := type_ok_of_not_faulty n 0 hfaulty
    cases hfirst : firstFault? n.printed with
    | none => exact hcount (hnone.mp hfirst m hm)
    | some e =>
      rw [hfirst] at hreports
      exact absurd (htext.symm.trans hreports) (by simp)

/-! ## Section 5: Graphs -/

/-- The first fault of a root and of what is printed inside of it. -/
def rootFirstFault? (root : TypeNode) : Option RenderError :=
  root.rootFault?.or (firstFault? root.printedInside)

theorem declaration_reports (sumTypes : Bool) (depth : Nat) (root : TypeNode) :
    Reports (rootFirstFault? root) (declaration sumTypes depth root) := by
  unfold rootFirstFault?
  cases root with
  | enum name doc ms =>
    rw [declaration]
    exact Reports.pure _
  | interface name doc ms =>
    rw [declaration]
    by_cases hname : name = ""
    · simp only [TypeNode.rootFault?, if_pos hname]
      rfl
    · -- The root itself is no place inside, and as an interface it has no number of parameters.
      have hbody := type_reports (.interface name doc ms) depth
      rw [TypeNode.printed, firstFault?_cons] at hbody
      simp only [TypeNode.rootFault?, if_neg hname]
      exact hbody.map
  | simple | array | map | void =>
    rw [declaration]
    · rfl
    all_goals simp

theorem findSome?_fault?_root (root : TypeNode) :
    (Place.root root :: root.printedInside.map .inside).findSome? Place.fault? =
      rootFirstFault? root := by
  rw [findSome?_cons_or, List.findSome?_map]
  rfl

/-- The first fault in the order of printing is the first one of the roots taken one by one. -/
theorem findSome?_printingOrder (graph : List TypeNode) :
    (printingOrder graph).findSome? Place.fault? = graph.findSome? rootFirstFault? := by
  unfold printingOrder
  induction graph with
  | nil => rfl
  | cons root rest ih =>
    rw [List.flatMap_cons, List.findSome?_append, ih, findSome?_fault?_root, findSome?_cons_or]

theorem render_reports (graph : List TypeNode) (options : RenderOptions) :
    Reports ((printingOrder graph).findSome? Place.fault?) (render graph options) := by
  rw [findSome?_printingOrder, render, file]
  -- Preamble, namespace and clean-up are put around the declarations and cannot fail.
  have hdecls := Reports.mapM (declaration_reports options.enumsAsSumTypes
    (if options.namespaceName.isSome then 1 else 0)) graph
  exact hdecls.map.map

/-- A graph has a text, under any options, if and only if its roots are enumerations or interfaces
    with a name and every array and every map in a printed place has its number of parameters.
    Otherwise the error is what is wrong at the first place of the order of printing at which
    anything is wrong. -/
theorem render_refuses_first_fault (graph : List TypeNode) (options : RenderOptions) :
    ((∃ text, render graph options = .ok text) ↔
      ∀ root ∈ graph, root.Declares ∧ ∀ node ∈ root.printedInside, node.Counted) ∧
    ∀ e, render graph options = .error e ↔
      ∃ before place after, printingOrder graph = before ++ place :: after ∧
        (∀ earlier ∈ before, earlier.fault? = none) ∧ place.fault? = some e := by
  have hreports := render_reports graph options
  constructor
  · rw [← forall_fault?_eq_none_iff, ← List.findSome?_eq_none_iff]
    cases hfault : (printingOrder graph).findSome? Place.fault? with
    | none =>
      rw [hfault] at hreports
      exact iff_of_true hreports rfl
    | some e =>
      rw [hfault] at hreports
      have herror : render graph options = .error e := hreports
      simp [herror]
  · intro e
    -- The search for a first fault, spelled out with what stands before it.
    have hfirst : (∃ before place after, printingOrder graph = before ++ place :: after ∧
        (∀ earlier ∈ before, earlier.fault? = none) ∧ place.fault? = some e) ↔
        (printingOrder graph).findSome? Place.fault? = some e := by
      rw [List.findSome?_eq_some_iff]
      simp only [and_comm]
    rw [hfirst]
    cases hfault : (printingOrder graph).findSome? Place.fault? with
    | none =>
      rw [hfault] at hreports
      obtain ⟨text, htext⟩ := hreports
      simp [htext]
    | some e' =>
      rw [hfault] at hreports
      have herror : render graph options = .error e' := hreports
      simp [herror]

/-- The parameter of a method is printed before the type, and the first root before the second. -/
example :
    render [.interface "Store" none
        [⟨"load", .array [], false, true, none, [⟨"key", .map [.string]⟩]⟩], .void] {} =
      .error (.invalidParamCount "map" 2 1) := by
  cbv

end Render

end TypeExport
