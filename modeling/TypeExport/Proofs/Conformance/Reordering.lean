import Mathlib
import TypeExport.Proofs.Conformance.Judgement

/-! # The Order of Declarations

    A verdict on an instance does not depend on the order in which things are declared.  Members may
    change places in any interface or enumeration of the graph, however deep it stands, and nodes
    may change places in the graph as long as nodes of one name keep theirs among each other: a name
    stands for the first of them.

    Errors do depend on the order, because the first disagreement is reported.  So the statements
    are about `Conforms`, which knows of no order, and the verdict is the same because it decides
    `Conforms`. -/

namespace TypeExport

open Json

/-! ## Section 1: Nodes in another order -/

namespace TypeNode

/-- The second node is the first one with its members in another order, or with a node inside of it
    changed in this way. -/
inductive Reordered : TypeNode → TypeNode → Prop
  | refl (n) : Reordered n n
  | trans {a b c} (hab : Reordered a b) (hbc : Reordered b c) : Reordered a c
  | members {name comment members members'} (h : List.Perm members members') :
    Reordered (.interface name comment members) (.interface name comment members')
  | literals {name comment members members'} (h : List.Perm members members') :
    Reordered (.enum name comment members) (.enum name comment members')
  | elem {before n n' after} (h : Reordered n n') :
    Reordered (.array (before ++ n :: after)) (.array (before ++ n' :: after))
  | value {before n n' after} (h : Reordered n n') :
    Reordered (.map (before ++ n :: after)) (.map (before ++ n' :: after))
  | member {name comment before mem type after} (h : Reordered mem.type type) :
    Reordered (.interface name comment (before ++ mem :: after))
      (.interface name comment (before ++ { mem with type } :: after))
  | arg {name comment before mem first arg type last after}
    (hargs : mem.args = first ++ arg :: last) (h : Reordered arg.type type) :
    Reordered (.interface name comment (before ++ mem :: after))
      (.interface name comment
        (before ++ { mem with args := first ++ { arg with type } :: last } :: after))

/-- The order of members has no part in the name of a node, nor in whether it is a declaration. -/
theorem Reordered.declares_iff {n n' : TypeNode} (h : n.Reordered n') :
    n'.name = n.name ∧ (n'.IsDeclaration ↔ n.IsDeclaration) := by
  induction h with
  | refl => exact ⟨rfl, Iff.rfl⟩
  | trans _ _ ih ih' => exact ⟨ih'.1.trans ih.1, ih'.2.trans ih.2⟩
  | members | member | arg => exact ⟨rfl, fun _ => .interface, fun _ => .interface⟩
  | literals => exact ⟨rfl, fun _ => .enum, fun _ => .enum⟩
  | elem | value => exact ⟨rfl, nofun, nofun⟩

end TypeNode

/-- For every name both graphs have the same nodes in the same order. -/
def SameByName (graph graph' : List TypeNode) : Prop :=
  ∀ name, graph.filter (·.name == name) = graph'.filter (·.name == name)

/-- Nodes with distinct names may be put in any order. -/
theorem sameByName_of_perm {graph graph' : List TypeNode} (h : graph.Perm graph')
    (hdistinct : (graph.map (·.name)).Nodup) : SameByName graph graph' := by
  intro name
  have hperm := h.filter (·.name == name)
  have hsublist := (List.filter_sublist (p := (·.name == name)) (l := graph)).map (·.name)
  have hnodup := hdistinct.sublist hsublist
  -- There is at most one node of the name, and a list of one node has one order.
  rcases hnodes : graph.filter (·.name == name) with _ | ⟨n, _ | ⟨n', rest⟩⟩
  · rw [hnodes] at hperm
    rw [List.nil_perm.mp hperm, hnodes]
  · rw [hnodes] at hperm
    rw [hnodes, List.singleton_perm.mp hperm]
  · have hname : ∀ x ∈ graph.filter (·.name == name), x.name = name := by
      intro x hx
      simpa using (List.mem_filter.mp hx).2
    rw [hnodes] at hnodup hname
    simp [hname] at hnodup

namespace Conformance

variable {graph graph' : List TypeNode}

/-! ## Section 2: Members demand the same in any order -/

/-- For each of the members one of the others has its name and demands the same. -/
def Covered (graph : List TypeNode) (members others : List Member) : Prop :=
  ∀ mem ∈ members, ∃ other ∈ others, other.name = mem.name ∧ other.function = mem.function ∧
    other.optional = mem.optional ∧ ∀ v, Conforms graph other.type v ↔ Conforms graph mem.type v

theorem covered_of_subset {members others : List Member} (h : members ⊆ others) :
    Covered graph members others := by
  intro mem hmem
  exact ⟨mem, h hmem, rfl, rfl, rfl, fun _ => Iff.rfl⟩

/-- One member takes the place of another one. -/
theorem covered_replace {before after : List Member} {mem other : Member}
    (hname : other.name = mem.name) (hfunction : other.function = mem.function)
    (hoptional : other.optional = mem.optional)
    (h : ∀ v, Conforms graph other.type v ↔ Conforms graph mem.type v) :
    Covered graph (before ++ mem :: after) (before ++ other :: after) := by
  intro x hx
  rcases List.mem_append.mp hx with hx | hx
  · exact ⟨x, List.mem_append_left _ hx, rfl, rfl, rfl, fun _ => Iff.rfl⟩
  · rcases List.mem_cons.mp hx with rfl | hx
    · exact ⟨other, by simp, hname, hfunction, hoptional, h⟩
    · exact ⟨x, by simp [hx], rfl, rfl, rfl, fun _ => Iff.rfl⟩

/-- Covered members declare what the others declare. -/
theorem Covered.declared {members others : List Member} (h : Covered graph members others)
    {key : String} (hkey : Declared members key) : Declared others key := by
  obtain ⟨mem, hmem, hf, rfl⟩ := hkey
  obtain ⟨other, hother, hname, hfunction, -⟩ := h mem hmem
  exact ⟨other, hother, hfunction.trans hf, hname⟩

/-- Objects that conform to an interface conform to any other one that demands the same. -/
theorem Conforms.interface_of_covered {name : String} {comment : Option String}
    {members others : List Member} {v : Value}
    (h : Conforms graph (.interface name comment members) v)
    (hto : Covered graph members others) (hfrom : Covered graph others members) :
    Conforms graph (.interface name comment others) v := by
  cases h with | interface hkeys hpresent habsent =>
  refine .interface (fun e he => hto.declared (hkeys e he)) ?_ ?_
  · intro other hother hf w hw
    obtain ⟨mem, hmem, hname, hfunction, -, hiff⟩ := hfrom other hother
    exact (hiff w).mp (hpresent mem hmem (hfunction.trans hf) w (hname ▸ hw))
  · intro other hother hf hnone
    obtain ⟨mem, hmem, hname, hfunction, hoptional, -⟩ := hfrom other hother
    rw [← hoptional]
    exact habsent mem hmem (hfunction.trans hf) (hname ▸ hnone)

/-- Interfaces whose members demand the same describe the same values. -/
theorem conforms_interface_congr {name : String} {comment : Option String}
    {members others : List Member} (hto : Covered graph members others)
    (hfrom : Covered graph others members) (v : Value) :
    Conforms graph (.interface name comment members) v ↔
      Conforms graph (.interface name comment others) v :=
  ⟨fun h => h.interface_of_covered hto hfrom, fun h => h.interface_of_covered hfrom hto⟩

theorem conforms_interface_replace {name : String} {comment : Option String}
    {before after : List Member} {mem other : Member} (hname : other.name = mem.name)
    (hfunction : other.function = mem.function) (hoptional : other.optional = mem.optional)
    (h : ∀ v, Conforms graph mem.type v ↔ Conforms graph other.type v) (v : Value) :
    Conforms graph (.interface name comment (before ++ mem :: after)) v ↔
      Conforms graph (.interface name comment (before ++ other :: after)) v :=
  conforms_interface_congr (covered_replace hname hfunction hoptional fun w => (h w).symm)
    (covered_replace hname.symm hfunction.symm hoptional.symm h) v

/-- Only the last parameter of a map describes values; the others just have to be there. -/
theorem conforms_map_congr {before after : List TypeNode} {n n' : TypeNode}
    (h : ∀ v, Conforms graph n v ↔ Conforms graph n' v) {v : Value}
    (hv : Conforms graph (.map (before ++ n :: after)) v) :
    Conforms graph (.map (before ++ n' :: after)) v := by
  generalize hparams : before ++ n :: after = params at hv
  cases hv with | map hvalues =>
  match before, after with
  | [], [] | [], _ :: _ :: _ | [_], _ :: _ => simp at hparams
  | _ :: _ :: _, _ => simp at hparams
  | [], [elem] =>
    obtain ⟨rfl, rfl⟩ : n = _ ∧ elem = _ := by simpa using hparams
    exact .map hvalues
  | [key], [] =>
    obtain ⟨rfl, rfl⟩ : key = _ ∧ n = _ := by simpa using hparams
    exact .map fun e he => (h e.2).mp (hvalues e he)

theorem conforms_array_congr {before after : List TypeNode} {n n' : TypeNode}
    (h : ∀ v, Conforms graph n v ↔ Conforms graph n' v) {v : Value}
    (hv : Conforms graph (.array (before ++ n :: after)) v) :
    Conforms graph (.array (before ++ n' :: after)) v := by
  generalize hparams : before ++ n :: after = params at hv
  cases hv with | array hitems =>
  match before, after with
  | [], _ :: _ | _ :: _, _ => simp at hparams
  | [], [] =>
    obtain rfl : n = _ := by simpa using hparams
    exact .array fun w hw => (h w).mp (hitems w hw)

/-- A node describes the same values when members in it stand in another order. -/
theorem conforms_reordered {n n' : TypeNode} (h : n.Reordered n') (v : Value) :
    Conforms graph n v ↔ Conforms graph n' v := by
  -- The induction is on the changes, not on the value: each of them is judged by what it leaves of
  -- the demands on all values.
  induction h generalizing v with
  | refl => exact Iff.rfl
  | trans _ _ ih ih' => exact (ih v).trans (ih' v)
  | members h =>
    exact conforms_interface_congr (covered_of_subset h.subset) (covered_of_subset h.symm.subset) v
  | literals h =>
    constructor
    · rintro (_ | _ | _ | _ | _ | _ | ⟨hm, hv⟩)
      exact .enum (h.subset hm) hv
    · rintro (_ | _ | _ | _ | _ | _ | ⟨hm, hv⟩)
      exact .enum (h.symm.subset hm) hv
  | elem _ ih =>
    exact ⟨conforms_array_congr ih, conforms_array_congr fun w => (ih w).symm⟩
  | value _ ih =>
    exact ⟨conforms_map_congr ih, conforms_map_congr fun w => (ih w).symm⟩
  | member _ ih => refine conforms_interface_replace ?_ ?_ ?_ ih v <;> rfl
  | arg =>
    -- Parameters of methods leave no trace in a value.
    refine conforms_interface_replace ?_ ?_ ?_ (fun w => ?_) v <;> rfl

/-! ## Section 3: Graphs in which names stand for the same -/

/-- Every name stands for the same node in both graphs, up to the order of its members. -/
def StandsAlike (graph graph' : List TypeNode) : Prop :=
  ∀ name, Option.Rel TypeNode.Reordered (graph.find? (·.name == name))
    (graph'.find? (·.name == name))

theorem standsAlike_of_reordered (h : List.Forall₂ TypeNode.Reordered graph graph') :
    StandsAlike graph graph' := by
  intro name
  induction h with
  | nil => exact .none
  | @cons n n' rest rest' hn _ ih =>
    by_cases hname : n.name = name
    · have hname' : n'.name = name := hn.declares_iff.1.trans hname
      simpa [hname, hname'] using Option.Rel.some hn
    · have hname' : n'.name ≠ name := fun heq => hname (hn.declares_iff.1.symm.trans heq)
      simpa [hname, hname'] using ih

theorem standsAlike_of_sameByName (h : SameByName graph graph') : StandsAlike graph graph' := by
  intro name
  rw [← List.head?_filter, ← List.head?_filter, h name]
  cases (graph'.filter (·.name == name)).head? with
  | none => exact .none
  | some n => exact .some (.refl n)

/-- What conforms in one graph conforms in another one, if the nodes of all names do. -/
theorem Conforms.transfer
    (h : ∀ name node, graph.find? (·.name == name) = some node → node.IsDeclaration →
      ∃ node', graph'.find? (·.name == name) = some node' ∧ node'.IsDeclaration ∧
        ∀ v, Conforms graph' node v → Conforms graph' node' v)
    {n : TypeNode} {v : Value} (hv : Conforms graph n v) : Conforms graph' n v := by
  induction hv with
  | primitive hp hkind => exact .primitive hp hkind
  | named hp hfind hd _ ih =>
    obtain ⟨node', hfind', hd', hto⟩ := h _ _ hfind hd
    exact .named hp hfind' hd' (hto _ ih)
  | void => exact .void
  | array _ ih => exact .array ih
  | map _ ih => exact .map ih
  | interface hkeys _ habsent ih => exact .interface hkeys ih habsent
  | enum hm hv => exact .enum hm hv

theorem StandsAlike.exists_right (h : StandsAlike graph graph') {name : String} {node : TypeNode}
    (hfind : graph.find? (·.name == name) = some node) :
    ∃ node', graph'.find? (·.name == name) = some node' ∧ node.Reordered node' := by
  have hname := h name
  rw [hfind] at hname
  generalize graph'.find? (·.name == name) = found at hname
  cases hname with
  | some hnode => exact ⟨_, rfl, hnode⟩

theorem StandsAlike.exists_left (h : StandsAlike graph graph') {name : String} {node' : TypeNode}
    (hfind' : graph'.find? (·.name == name) = some node') :
    ∃ node, graph.find? (·.name == name) = some node ∧ node.Reordered node' := by
  have hname := h name
  rw [hfind'] at hname
  generalize graph.find? (·.name == name) = found at hname
  cases hname with
  | some hnode => exact ⟨_, rfl, hnode⟩

/-- Graphs in which names stand for the same describe the same values. -/
theorem StandsAlike.conforms_iff (h : StandsAlike graph graph') (n : TypeNode) (v : Value) :
    Conforms graph n v ↔ Conforms graph' n v := by
  constructor
  · apply Conforms.transfer
    intro name node hfind hd
    obtain ⟨node', hfind', hnode⟩ := h.exists_right hfind
    exact ⟨node', hfind', hnode.declares_iff.2.mpr hd, fun v => (conforms_reordered hnode v).mp⟩
  · apply Conforms.transfer
    intro name node' hfind' hd'
    obtain ⟨node, hfind, hnode⟩ := h.exists_left hfind'
    exact ⟨node, hfind, hnode.declares_iff.2.mp hd', fun v => (conforms_reordered hnode v).mpr⟩

end Conformance

/-! ## Section 4: The verdict -/

open Conformance

/-- The check accepts an instance if and only if it conforms to the declaration that the root names,
    whatever the graph is like.  So the verdict stays the same when members of declarations change
    places, and when nodes do that have distinct names. -/
theorem checkInstance_decides (graph : List TypeNode) (root : String) (v : Value) :
    (checkInstance graph root v = .ok () ↔ Conforms graph (.simple root) v) ∧
      (∀ graph', List.Forall₂ TypeNode.Reordered graph graph' →
        (checkInstance graph' root v = .ok () ↔ checkInstance graph root v = .ok ())) ∧
      (∀ graph', graph.Perm graph' → (graph.map (·.name)).Nodup →
        (checkInstance graph' root v = .ok () ↔ checkInstance graph root v = .ok ())) ∧
      ∀ graph', SameByName graph graph' →
        (checkInstance graph' root v = .ok () ↔ checkInstance graph root v = .ok ()) := by
  have hdecides : ∀ g, checkInstance g root v = .ok () ↔ Conforms g (.simple root) v :=
    fun _ => check_eq_ok_iff
  -- All reorderings leave the same things standing behind the names.
  have halike : ∀ graph', StandsAlike graph graph' →
      (checkInstance graph' root v = .ok () ↔ checkInstance graph root v = .ok ()) := by
    intro graph' h
    rw [hdecides, hdecides]
    exact (h.conforms_iff _ v).symm
  refine ⟨hdecides graph, ?_, ?_, ?_⟩
  · intro graph' h
    exact halike graph' (standsAlike_of_reordered h)
  · intro graph' h hdistinct
    exact halike graph' (standsAlike_of_sameByName (sameByName_of_perm h hdistinct))
  · intro graph' h
    exact halike graph' (standsAlike_of_sameByName h)

/-- Folders inside of each other. -/
def folderMembers : List Member := [
  { Member.property "tag" (.simple "Tag") with optional := true },
  .property "inner" (.array [.simple "Folder"]),
  .method "open" .void [⟨"mode", .string⟩]]

def folderGraph : List TypeNode := [
  .enum "Tag" none [.string "Red" "red", .integer "None" 0],
  .interface "Folder" none folderMembers]

/-- The same with members in another order. -/
def folderGraphReordered : List TypeNode := [
  .enum "Tag" none [.integer "None" 0, .string "Red" "red"],
  .interface "Folder" none folderMembers.reverse]

/-- A red folder with an empty one inside. -/
def folderValue : Value :=
  .object [("inner", .array [.object [("inner", .array [])]]), ("tag", .string "red")]

/-- Something red that is no folder: nothing can be inside. -/
def tagValue : Value := .object [("tag", .string "red")]

/-- A second folder is never looked at, as long as it stays behind the first one. -/
theorem sameByName_folders :
    SameByName (folderGraph ++ [.interface "Folder" none []])
      (folderGraph.reverse ++ [.interface "Folder" none []]) := by
  intro name
  by_cases htag : "Tag" = name
  · subst htag
    rfl
  · have htag' : ("Tag" == name) = false := by simpa using htag
    simp [folderGraph, TypeNode.name, htag', List.filter_cons]

theorem folders_reordered :
    List.Forall₂ TypeNode.Reordered folderGraph folderGraphReordered ∧
      folderGraph.Perm folderGraph.reverse ∧ (folderGraph.map (·.name)).Nodup ∧
      checkInstance folderGraph "Folder" folderValue = .ok () ∧
      checkInstance folderGraphReordered "Folder" folderValue = .ok () ∧
      checkInstance folderGraph.reverse "Folder" folderValue = .ok () ∧
      checkInstance (folderGraph.reverse ++ [.interface "Folder" none []]) "Folder" folderValue =
        .ok () ∧
      ¬ Conforms folderGraph (.simple "Folder") tagValue ∧
      checkInstance folderGraphReordered "Folder" tagValue ≠ .ok () ∧
      checkInstance folderGraph.reverse "Folder" tagValue ≠ .ok () := by
  have hmembers : List.Forall₂ TypeNode.Reordered folderGraph folderGraphReordered :=
    .cons (.literals (.swap _ _ _)) (.cons (.members folderMembers.reverse_perm.symm) .nil)
  have hperm : folderGraph.Perm folderGraph.reverse := folderGraph.reverse_perm.symm
  have hdistinct : (folderGraph.map (·.name)).Nodup := by decide
  have hok : checkInstance folderGraph "Folder" folderValue = .ok () := by cbv
  -- A second declaration of the name is behind the first one, and never found.
  have hdoubled : checkInstance (folderGraph ++ [.interface "Folder" none []]) "Folder"
      folderValue = .ok () := by cbv
  have hrefused : checkInstance folderGraph "Folder" tagValue ≠ .ok () := by
    have h : checkInstance folderGraph "Folder" tagValue = .error (.missing "Folder.inner") := by
      cbv
    simp [h]
  obtain ⟨-, hreordered, hmoved, -⟩ := checkInstance_decides folderGraph "Folder" folderValue
  obtain ⟨htag, htagReordered, htagMoved, -⟩ := checkInstance_decides folderGraph "Folder" tagValue
  obtain ⟨-, -, -, hbehind⟩ :=
    checkInstance_decides (folderGraph ++ [.interface "Folder" none []]) "Folder" folderValue
  exact ⟨hmembers, hperm, hdistinct, hok, (hreordered _ hmembers).mpr hok,
    (hmoved _ hperm hdistinct).mpr hok, (hbehind _ sameByName_folders).mpr hdoubled,
    mt htag.mpr hrefused, mt (htagReordered _ hmembers).mp hrefused,
    mt (htagMoved _ hperm hdistinct).mp hrefused⟩

end TypeExport
