import Mathlib
import TypeExport.Proofs.Walk.Methods

/-! # The Names of Arguments

    A parameter whose name is not known, or not kept, is called after its position.  Such names
    differ from each other, and so do the names that a method declares, as a rule.  But the two are
    not kept apart: a parameter that is declared as `arg1` and a second one without a name come to
    share it.

    `argNames_nodup_iff` says that nothing else can go wrong.  Its proof compares two arguments at a
    time, and there are three cases: both are called as declared, both after their positions, or one
    of them each way. -/

namespace TypeExport

/-! ## Section 1: Names -/

/-- The name that a parameter is declared with, if it says anything. -/
def HostParam.declaredName? (param : HostParam) : Option String := param.name.filter (· != "")

/-- The names that parameters are declared with, in order. -/
def paramNames (params : List HostParam) : List String :=
  params.filterMap HostParam.declaredName?

def positionName (i : Nat) : String := s!"arg{i}"

/-- A parameter is declared with the name of a position where a parameter without a name stands. -/
def TakesPosition (params : List HostParam) : Prop :=
  ∃ x ∈ params.zipIdx, x.1.declaredName? = none ∧ positionName x.2 ∈ paramNames params

instance (params : List HostParam) : Decidable (TakesPosition params) :=
  inferInstanceAs (Decidable (∃ x ∈ params.zipIdx, _))

theorem positionName_injective : Function.Injective positionName := by
  intro i j h
  exact Nat.repr_inj.mp ((String.append_right_inj _).mp h)

/-- Names that are declared come from different parameters if they differ. -/
theorem paramNames_nodup_iff {params : List HostParam} :
    (paramNames params).Nodup ↔ ∀ i j (hi : i < params.length) (hj : j < params.length), i < j →
      ∀ name, params[i].declaredName? = some name → params[j].declaredName? ≠ some name := by
  rw [paramNames, List.nodup_iff_pairwise_ne, List.pairwise_filterMap,
    List.pairwise_iff_getElem]
  constructor
  · intro h i j hi hj hij name hname hname'
    exact h i j hi hj hij name hname name hname' rfl
  · rintro h i j hi hj hij name hname _ hname' rfl
    exact h i j hi hj hij name hname hname'

namespace ExtractPolicy

variable (policy : ExtractPolicy)

/-- The names of the arguments that parameters become. -/
def argNames (params : List HostParam) : List String :=
  params.zipIdx.map fun x => policy.argName x.2 x.1

variable {policy} {params : List HostParam} {i : Nat} {param : HostParam}

theorem argName_of_dropped (hk : policy.preserveParamNames = false) :
    policy.argName i param = positionName i := by
  unfold argName
  cases param.name <;> simp [hk, positionName]

theorem argName_of_declared (hk : policy.preserveParamNames = true) {name : String}
    (hname : param.declaredName? = some name) : policy.argName i param = name := by
  obtain ⟨hsome, hne⟩ := Option.filter_eq_some_iff.mp hname
  simp only [argName, hsome, hk, hne, Bool.and_self, if_true]

theorem argName_of_undeclared (hname : param.declaredName? = none) :
    policy.argName i param = positionName i := by
  unfold argName
  cases hsome : param.name with
  | none => rfl
  | some name =>
    have hempty : name = "" := by simpa [HostParam.declaredName?, hsome] using hname
    simp [hempty, positionName]

/-- Arguments differ in their names if no two of them share one. -/
theorem argNames_nodup_iff_getElem : (policy.argNames params).Nodup ↔
    ∀ i j (hi : i < params.length) (hj : j < params.length), i < j →
      policy.argName i params[i] ≠ policy.argName j params[j] := by
  rw [argNames, List.nodup_iff_pairwise_ne, List.pairwise_iff_getElem]
  simp

/-- Positions that are counted have different names. -/
theorem argNames_nodup_of_dropped (hk : policy.preserveParamNames = false) :
    (policy.argNames params).Nodup := by
  refine argNames_nodup_iff_getElem.mpr fun i j hi hj hij heq => ?_
  rw [argName_of_dropped hk, argName_of_dropped hk] at heq
  exact hij.ne (positionName_injective heq)

/-- An argument that is called as declared and one that is called after its position share their
    name when the declared name is the one of the position. -/
theorem takesPosition_of_eq {j : Nat} {other : HostParam} (hi : params[i]? = some param)
    (hj : params[j]? = some other) (hnone : param.declaredName? = none)
    (hname : other.declaredName? = some (positionName i)) : TakesPosition params :=
  ⟨(param, i), List.mk_mem_zipIdx_iff_getElem?.mpr hi, hnone,
    List.mem_filterMap.mpr ⟨other, List.mem_of_getElem? hj, hname⟩⟩

/-- When names are kept, two arguments share a name if it is declared twice or if a declared name
    takes a position. -/
theorem argNames_nodup_iff_of_kept (hk : policy.preserveParamNames = true) :
    (policy.argNames params).Nodup ↔ (paramNames params).Nodup ∧ ¬ TakesPosition params := by
  rw [argNames_nodup_iff_getElem, paramNames_nodup_iff]
  constructor
  · intro h
    refine ⟨fun i j hi hj hij name hname hname' => h i j hi hj hij ?_, ?_⟩
    · rw [argName_of_declared hk hname, argName_of_declared hk hname']
    · rintro ⟨⟨param, i⟩, hmem, hnone, hname⟩
      obtain ⟨other, hother, hname⟩ := List.mem_filterMap.mp hname
      obtain ⟨hi, rfl⟩ := List.getElem?_eq_some_iff.mp (List.mk_mem_zipIdx_iff_getElem?.mp hmem)
      obtain ⟨j, hj, rfl⟩ := List.mem_iff_getElem.mp hother
      have heq : policy.argName i params[i] = policy.argName j params[j] := by
        rw [argName_of_undeclared hnone, argName_of_declared hk hname]
      -- One of the two has a name and the other has none, so they are different parameters.
      rcases lt_trichotomy i j with hij | rfl | hij
      · exact h i j hi hj hij heq
      · exact absurd (hnone.symm.trans hname) (by simp)
      · exact h j i hj hi hij heq.symm
  · rintro ⟨hdeclared, hfree⟩ i j hi hj hij heq
    have hgi : params[i]? = some params[i] := List.getElem?_eq_getElem hi
    have hgj : params[j]? = some params[j] := List.getElem?_eq_getElem hj
    cases hni : params[i].declaredName? with
    | none =>
      rw [argName_of_undeclared hni] at heq
      cases hnj : params[j].declaredName? with
      | none =>
        rw [argName_of_undeclared hnj] at heq
        exact hij.ne (positionName_injective heq)
      | some name =>
        rw [argName_of_declared hk hnj] at heq
        exact hfree (takesPosition_of_eq hgi hgj hni (heq ▸ hnj))
    | some name =>
      rw [argName_of_declared hk hni] at heq
      cases hnj : params[j].declaredName? with
      | none =>
        rw [argName_of_undeclared hnj] at heq
        exact hfree (takesPosition_of_eq hgj hgi hnj (heq ▸ hni))
      | some name' =>
        rw [argName_of_declared hk hnj] at heq
        exact hdeclared i j hi hj hij name hni (heq ▸ hnj)

/-- Arguments have different names, unless names are kept and one is declared twice or takes a
    position. -/
theorem argNames_nodup_iff : (policy.argNames params).Nodup ↔
    (policy.preserveParamNames = true →
      (paramNames params).Nodup ∧ ¬ TakesPosition params) := by
  cases hk : policy.preserveParamNames with
  | false => exact iff_of_true (argNames_nodup_of_dropped hk) (by simp)
  | true => rw [argNames_nodup_iff_of_kept hk, forall_prop_of_true rfl]

end ExtractPolicy

/-! ## Section 2: Interfaces -/

/-- What holds of each item and its answer holds along the whole list. -/
theorem Runs.forall₂ {α β : Type} {step : α → Progress → β → Progress → Prop} {Q : α → β → Prop}
    (hstep : ∀ a s b s', step a s b s' → Q a b) {as : List α} {bs : List β} {s s' : Progress}
    (h : Runs step as s bs s') : List.Forall₂ Q as bs := by
  induction h with
  | nil => exact .nil
  | cons h _ ih => exact .cons (hstep _ _ _ _ h) ih

namespace ExtractPolicy

variable {policy : ExtractPolicy} {m : HostModule} {d : TypeDecl}

/-- The arguments of a member are called as the parameters of the method say. -/
theorem Becomes.argNames_eq {method : HostMethod} {member : Member} {s s' : Progress}
    (h : policy.Becomes m d method s member s') :
    member.args.map (·.name) = policy.argNames method.signature.params := by
  obtain ⟨s₁, _, hargs⟩ := h.resolved
  have hnames : List.Forall₂ (fun (arg : Arg) x => arg.name = policy.argName x.2 x.1)
      member.args method.signature.params.zipIdx :=
    (hargs.forall₂ fun _ _ _ _ hstep => hstep.1).flip
  rw [argNames, ← List.forall₂_eq_eq_eq]
  exact List.forall₂_map_left_iff.mpr (List.forall₂_map_right_iff.mpr hnames)

/-- Every method of a root interface becomes a member whose arguments are named by its parameters.
    These names differ, unless names are kept and one is declared twice or takes a position. -/
theorem extract_argNames_nodup_iff {root : HostType} {methods : List HostMethod}
    {graph : List TypeNode} (hroot : root.deref = .named d.name) (hd : m.lookup d.name = some d)
    (hi : d.type.deref = .interface methods) (h : extract m root policy = .ok graph) :
    ∃ members, policy.interfaceOf d members ∈ graph ∧
      List.Forall₂ (fun (method : HostMethod) (member : Member) =>
        member.name = method.name ∧ member.function = true ∧
        member.args.map (·.name) = policy.argNames method.signature.params ∧
        ((member.args.map (·.name)).Nodup ↔
          (policy.preserveParamNames = true → (paramNames method.signature.params).Nodup ∧
            ¬ TakesPosition method.signature.params))) methods members := by
  obtain ⟨found, hwalk, rfl⟩ := extract_eq_ok_iff.mp h
  obtain ⟨members, s, hruns, rfl⟩ := (walkRoot_interface_eq_ok_iff hroot hd hi).mp hwalk
  refine ⟨members, ?_, hruns.forall₂ fun method _ member _ hbecomes => ?_⟩
  · exact (SortOrder.sortBy_perm _ _ _).mem_iff.mpr (mem_upsert_self _ _ _)
  · refine ⟨hbecomes.name_eq, hbecomes.function_eq, hbecomes.argNames_eq, ?_⟩
    rw [hbecomes.argNames_eq, argNames_nodup_iff]

/-- As `following`, but with the names of parameters. -/
def keeping : ExtractPolicy := { following with preserveParamNames := true }

/-- The second parameter has no name, and the third one has an empty one. -/
def openMethod : HostMethod :=
  ⟨"Open", ⟨[⟨some "host", .string⟩, ⟨none, .word⟩, ⟨some "", .bool⟩], [], false⟩, none⟩

/-- The first parameter is declared with the name of the position of the second one. -/
def joinMethod : HostMethod :=
  ⟨"Join", ⟨[⟨some "arg1", .string⟩, ⟨none, .word⟩], [], false⟩, none⟩

def portDecl : TypeDecl := ⟨"Port", .interface [openMethod, joinMethod], none, none⟩

def portModule : HostModule where
  types := [portDecl]

def openMember : Member :=
  .method "Open" .void [⟨"host", .string⟩, ⟨"arg1", .number⟩, ⟨"arg2", .boolean⟩]

def joinMember : Member := .method "Join" .void [⟨"arg1", .string⟩, ⟨"arg1", .number⟩]

def portGraph : List TypeNode := [.interface "Port" none [openMember, joinMember]]

theorem port_names_judged :
    (HostType.named "Port").deref = .named portDecl.name ∧
      portModule.lookup portDecl.name = some portDecl ∧
      portDecl.type.deref = .interface [openMethod, joinMethod] ∧
      extract portModule (.named "Port") keeping = .ok portGraph ∧
      ¬ TakesPosition openMethod.signature.params ∧ (openMember.args.map (·.name)).Nodup ∧
      TakesPosition joinMethod.signature.params ∧ ¬ (joinMember.args.map (·.name)).Nodup := by
  have h : extract portModule (.named "Port") keeping = .ok portGraph := by cbv
  have hd : portModule.lookup portDecl.name = some portDecl := rfl
  have hopen : ¬ TakesPosition openMethod.signature.params := by decide
  have hjoin : TakesPosition joinMethod.signature.params := by decide
  obtain ⟨members, hmem, hall⟩ := extract_argNames_nodup_iff rfl hd rfl h
  -- There is one interface in the graph, so these are its members.
  obtain ⟨-, -, hmembers⟩ := TypeNode.interface.inj (List.mem_singleton.mp hmem)
  obtain rfl : members = [openMember, joinMember] := hmembers
  obtain ⟨⟨-, -, -, hfirst⟩, hrest⟩ := List.forall₂_cons.mp hall
  obtain ⟨⟨-, -, -, hsecond⟩, -⟩ := List.forall₂_cons.mp hrest
  refine ⟨rfl, hd, rfl, h, hopen, ?_, hjoin, fun hnodup => ?_⟩
  · exact hfirst.mpr fun _ => ⟨by decide, hopen⟩
  · exact (hsecond.mp hnodup rfl).2 hjoin

/-- The names that a method declares differ, and two of its arguments share one. -/
theorem joinMethod_names_shared :
    (paramNames joinMethod.signature.params).Nodup ∧
      extract portModule (.named "Port") keeping = .ok portGraph ∧
      ¬ (joinMember.args.map (·.name)).Nodup := by
  refine ⟨by decide, by cbv, by decide⟩

end ExtractPolicy

end TypeExport
