import Mathlib
import TypeExport.Proofs.Walk.Replay

/-! # The Methods of a Root Interface

    A root interface is walked through method by method, and the state that one method leads to is
    the one the next starts from.  So its outcome is decided by single methods: either each of them
    becomes a member, or one is the first that offends, and its error is the error of the walk.

    `Becomes` says what the member is, and what must be true of a method that becomes one.
    `Offends` has a rule for everything that can be wrong with a method.  The rules exclude each
    other, as each asks that nothing is wrong that is looked at before: the variadic flag, the
    number of results, the second result, the first one, and then the parameters in their order.

    Each step of the walk is described by two equivalences, one for its success and one for its
    error.  `Walk.mapM_eq_ok_iff` and `Walk.mapM_eq_error_iff` carry them from the items of a list
    to the whole, and serve the methods of an interface as well as the parameters of a method. -/

namespace TypeExport

/-! ## Section 1: One step after the other -/

section runs

variable {α β : Type} (step : α → Progress → β → Progress → Prop)
  (fault : α → Progress → ExtractError → Prop)

/-- All items make a step, each from the state that the one before it leads to. -/
inductive Runs : List α → Progress → List β → Progress → Prop
  | nil {s} : Runs [] s [] s
  | cons {a as s b s₁ bs s'} (h : step a s b s₁) (hs : Runs as s₁ bs s') :
    Runs (a :: as) s (b :: bs) s'

/-- An item fails after all before it have made their step. -/
def FirstFails (as : List α) (s : Progress) (e : ExtractError) : Prop :=
  ∃ before a after bs s₁, as = before ++ a :: after ∧ Runs step before s bs s₁ ∧ fault a s₁ e

/-- The first of several items fails, or it makes a step and one of the others fails first. -/
theorem firstFails_cons_iff {a : α} {as : List α} {s : Progress} {e : ExtractError} :
    FirstFails step fault (a :: as) s e ↔
      fault a s e ∨ ∃ b s₁, step a s b s₁ ∧ FirstFails step fault as s₁ e := by
  constructor
  · rintro ⟨before, x, after, bs, s₁, heq, hruns, hfault⟩
    cases hruns with
    | nil =>
      obtain ⟨rfl, rfl⟩ := List.cons.inj heq
      exact .inl hfault
    | cons h hs =>
      obtain ⟨rfl, rfl⟩ := List.cons.inj heq
      exact .inr ⟨_, _, h, _, x, after, _, s₁, rfl, hs, hfault⟩
  · rintro (hfault | ⟨b, s₁, h, before, x, after, bs, s₂, rfl, hruns, hfault⟩)
    · exact ⟨[], a, as, [], s, rfl, .nil, hfault⟩
    · exact ⟨a :: before, x, after, b :: bs, s₂, rfl, .cons h hruns, hfault⟩

end runs

namespace Walk

variable {α β : Type} {s s' : Progress} {e : ExtractError}

/-- Two steps succeed if both do. -/
theorem bind_eq_ok_iff {x : Walk α} {f : α → Walk β} {b : β} :
    (x >>= f) s = .ok (b, s') ↔ ∃ a s₁, x s = .ok (a, s₁) ∧ f a s₁ = .ok (b, s') := by
  constructor
  · exact ExtractPolicy.Walk.bind_ok
  · rintro ⟨a, s₁, hx, hf⟩
    rw [Walk.bind_apply, hx]
    exact hf

/-- Two steps fail if the first one does, or if it succeeds and the second one fails. -/
theorem bind_eq_error_iff {x : Walk α} {f : α → Walk β} :
    (x >>= f) s = .error e ↔
      x s = .error e ∨ ∃ a s₁, x s = .ok (a, s₁) ∧ f a s₁ = .error e := by
  rw [Walk.bind_apply]
  cases hx : x s with
  | error e' => simp
  | ok r =>
    constructor
    · intro h
      exact .inr ⟨r.1, r.2, rfl, h⟩
    · rintro (h | ⟨a, s₁, hr, h⟩)
      · exact absurd h (by simp)
      · obtain rfl := Except.ok.inj hr
        exact h

theorem pure_eq_ok_iff {a b : α} : (pure a : Walk α) s = .ok (b, s') ↔ b = a ∧ s' = s := by
  rw [Walk.pure_apply, Except.ok.injEq, Prod.mk.injEq, eq_comm, @eq_comm _ s]

variable {step : α → Progress → β → Progress → Prop} {fault : α → Progress → ExtractError → Prop}
  {f : α → Walk β}

/-- A list is worked off item by item. -/
theorem mapM_eq_ok_iff (hstep : ∀ a s b s', f a s = .ok (b, s') ↔ step a s b s')
    {as : List α} {bs : List β} : as.mapM f s = .ok (bs, s') ↔ Runs step as s bs s' := by
  induction as generalizing s s' bs with
  | nil =>
    rw [List.mapM_nil, pure_eq_ok_iff]
    constructor
    · rintro ⟨rfl, rfl⟩
      exact .nil
    · intro h
      cases h
      exact ⟨rfl, rfl⟩
  | cons a as ih =>
    simp only [List.mapM_cons, bind_eq_ok_iff, pure_eq_ok_iff, hstep, ih]
    constructor
    · rintro ⟨b, s₁, hb, bs', s₂, hbs, rfl, rfl⟩
      exact .cons hb hbs
    · intro h
      cases h with
      | cons hb hbs => exact ⟨_, _, hb, _, _, hbs, rfl, rfl⟩

/-- It fails with the first item that does. -/
theorem mapM_eq_error_iff (hstep : ∀ a s b s', f a s = .ok (b, s') ↔ step a s b s')
    (hfault : ∀ a s e, f a s = .error e ↔ fault a s e) {as : List α} :
    as.mapM f s = .error e ↔ FirstFails step fault as s e := by
  induction as generalizing s with
  | nil =>
    rw [List.mapM_nil, Walk.pure_apply]
    constructor
    · intro h
      exact absurd h (by simp)
    · rintro ⟨before, a, after, bs, s₁, heq, -⟩
      exact absurd heq (by simp)
  | cons a as ih =>
    -- The results of the items that succeed are put together at the end, which cannot fail.
    rw [firstFails_cons_iff]
    simp only [List.mapM_cons, bind_eq_error_iff, hstep, hfault, ih, Walk.pure_apply,
      reduceCtorEq, and_false, exists_false, or_false]

end Walk

/-! ## Section 2: Rules -/

namespace HostModule

variable (m : HostModule) (method : HostMethod)

/-- Nothing is returned that is worth a type: there is no result, or the first one is an error. -/
def ReturnsNothing : Prop :=
  method.signature.results = [] ∨
    ∃ first rest, method.signature.results = first :: rest ∧ m.isErrorLike first = .ok true

end HostModule

namespace ExtractPolicy

section rules

variable (policy : ExtractPolicy) (m : HostModule) (d : TypeDecl) (method : HostMethod)

/-- The resolution of a type that stands in a method of the root `d`.  Where it succeeds it follows
    the rules of `Resolves` (`resolution_eq_ok_iff`); where it fails it says why. -/
def resolution (t : HostType) : Walk TypeNode :=
  policy.resolve (policy.visit m [d.name]) s!"{d.name}.{method.name}" none t

/-- What the method returns, and the state that looking at it leads to. -/
inductive Returns (s : Progress) : TypeNode → Progress → Prop
  | nothing (h : m.ReturnsNothing method) : Returns s .void s
  | result {first rest n s'} (hr : method.signature.results = first :: rest)
    (he : m.isErrorLike first = .ok false)
    (hn : policy.resolution m d method first s = .ok (n, s')) : Returns s n s'

/-- The argument that a parameter at its position becomes. -/
def TakesArg (param : HostParam × Nat) (s : Progress) (arg : Arg) (s' : Progress) : Prop :=
  arg.name = policy.argName param.2 param.1 ∧
    policy.resolution m d method param.1.type s = .ok (arg.type, s')

/-- The type of a parameter is refused. -/
def RefusesArg (param : HostParam × Nat) (s : Progress) (e : ExtractError) : Prop :=
  policy.resolution m d method param.1.type s = .error e

/-- The method becomes a member, which leads from the state `s` to the state `s'`. -/
structure Becomes (s : Progress) (member : Member) (s' : Progress) : Prop where
  variadic_eq : method.signature.variadic = false
  fit : m.ResultsFit method
  name_eq : member.name = method.name
  function_eq : member.function = true
  optional_eq : member.optional = false
  comment_eq : member.comment = comment? (policy.docs.forMethod d method)
  void_iff : member.type = .void ↔ m.ReturnsNothing method
  /-- Looking at the results leads to a state in between, from which the parameters start. -/
  resolved : ∃ s₁, policy.Returns m d method s member.type s₁ ∧
    Runs (policy.TakesArg m d method) method.signature.params.zipIdx s₁ member.args s'

/-- What is wrong with the results of a method in the state `s`: their number, or the second one, or
    else the first one. -/
inductive ResultsOffend (s : Progress) : ExtractError → Prop
  | tooMany (hlen : 2 < method.signature.results.length) :
    ResultsOffend s (.tooManyReturnValues d.name method.name)
  /-- Testing the second result for an error goes in a circle. -/
  | secondCyclic {first second name} (hr : method.signature.results = [first, second])
    (he : m.isErrorLike second = .error name) : ResultsOffend s (.cyclicType name)
  | secondNoError {first second} (hr : method.signature.results = [first, second])
    (he : m.isErrorLike second = .ok false) :
    ResultsOffend s (.invalidReturnShape d.name method.name)
  /-- Testing the first result goes in a circle. -/
  | firstCyclic {first rest name} (hfit : m.ResultsFit method)
    (hr : method.signature.results = first :: rest) (he : m.isErrorLike first = .error name) :
    ResultsOffend s (.cyclicType name)
  | unresolved {first rest e} (hfit : m.ResultsFit method)
    (hr : method.signature.results = first :: rest) (he : m.isErrorLike first = .ok false)
    (hfails : policy.resolution m d method first s = .error e) : ResultsOffend s e

/-- What is wrong with a method in the state `s`: the variadic flag, or else the results, or else
    the first parameter that cannot be resolved. -/
inductive Offends (s : Progress) : ExtractError → Prop
  | variadic (hv : method.signature.variadic = true) :
    Offends s (.unsupportedVariadic d.name method.name)
  | results {e} (hv : method.signature.variadic = false)
    (h : policy.ResultsOffend m d method s e) : Offends s e
  | params {n s₁ e} (hv : method.signature.variadic = false) (hfit : m.ResultsFit method)
    (hn : policy.Returns m d method s n s₁)
    (hfails : FirstFails (policy.TakesArg m d method) (policy.RefusesArg m d method)
      method.signature.params.zipIdx s₁ e) : Offends s e

end rules

/-! ## Section 3: Results -/

variable {policy : ExtractPolicy} {m : HostModule} {d : TypeDecl} {method : HostMethod}
  {s s' : Progress} {e : ExtractError}

theorem leaf_ne_void {site : String} {t : HostType} {n : TypeNode} (h : leaf site t = .ok n) :
    n ≠ .void := by
  rintro rfl
  cases t <;> simp [leaf, TypeNode.boolean, TypeNode.number, TypeNode.string] at h

/-- No type is resolved to nothing. -/
theorem Resolves.ne_void {path : List String} {field : Option HostField} {t : HostType}
    {s s' : Progress} {n : TypeNode} : policy.Resolves m path field t s n s' → n ≠ .void
  | .leaf h => leaf_ne_void h
  | .pointer h => h.ne_void
  | .shape _ _ _ h => h.ne_void
  | .slice _ | .array _ | .map _ _ | .inline _ _ | .promoted _ _ | .embedded _ _ _ _ _
  | .mentioned _ _ _ _ | .followed _ _ _ _ _ _ _ | .known _ _ _ | .enumerated _ _ _ _ _ => by simp

/-- A resolution that succeeds is one by the rules, with the root alone on the path. -/
theorem resolution_eq_ok_iff {t : HostType} {n : TypeNode} :
    policy.resolution m d method t s = .ok (n, s') ↔
      policy.Resolves m [d.name] none t s n s' := by
  constructor
  · intro h
    exact resolve_ok (visit_outcome _) h
  · intro h
    exact h.resolve_eq _

theorem errorLike_eq_ok_iff {t : HostType} {b : Bool} :
    errorLike m t s = .ok (b, s') ↔ m.isErrorLike t = .ok b ∧ s' = s := by
  constructor
  · exact errorLike_ok
  · rintro ⟨h, rfl⟩
    exact errorLike_apply h

/-- A circle that the test for errors meets is an error of the walk. -/
theorem errorLike_eq_error_iff {t : HostType} :
    errorLike m t s = .error e ↔
      ∃ name, m.isErrorLike t = .error name ∧ e = .cyclicType name := by
  unfold errorLike
  cases m.isErrorLike t with
  | ok b => simp [Walk.pure_apply]
  | error name => simp [Walk.throw_apply, eq_comm]

/-- What becomes of a result that counts. -/
theorem returned_eq_ok_iff {t : HostType} {site : String} {visit : Visit} {n : TypeNode} :
    policy.returned m visit site t s = .ok (n, s') ↔
      (m.isErrorLike t = .ok true ∧ n = .void ∧ s' = s) ∨
        (m.isErrorLike t = .ok false ∧ policy.resolve visit site none t s = .ok (n, s')) := by
  simp only [returned, Walk.bind_eq_ok_iff, errorLike_eq_ok_iff]
  constructor
  · rintro ⟨b, _, ⟨he, rfl⟩, h⟩
    cases b with
    | true => exact .inl ⟨he, Walk.pure_eq_ok_iff.mp h⟩
    | false => exact .inr ⟨he, h⟩
  · rintro (⟨he, rfl, rfl⟩ | ⟨he, h⟩)
    · exact ⟨true, s', ⟨he, rfl⟩, rfl⟩
    · exact ⟨false, s, ⟨he, rfl⟩, h⟩

theorem returned_eq_error_iff {t : HostType} {site : String} {visit : Visit} :
    policy.returned m visit site t s = .error e ↔
      (∃ name, m.isErrorLike t = .error name ∧ e = .cyclicType name) ∨
        (m.isErrorLike t = .ok false ∧ policy.resolve visit site none t s = .error e) := by
  simp only [returned, Walk.bind_eq_error_iff, errorLike_eq_ok_iff, errorLike_eq_error_iff]
  refine or_congr_right ?_
  constructor
  · rintro ⟨b, _, ⟨he, rfl⟩, h⟩
    cases b with
    | true => exact absurd h (by simp [Walk.pure_apply])
    | false => exact ⟨he, h⟩
  · rintro ⟨he, h⟩
    exact ⟨false, s, ⟨he, rfl⟩, h⟩

/-- What the first result says about what is returned. -/
theorem returns_iff {first : HostType} {rest : List HostType} {n : TypeNode}
    (hr : method.signature.results = first :: rest) :
    policy.Returns m d method s n s' ↔
      (m.isErrorLike first = .ok true ∧ n = .void ∧ s' = s) ∨
        (m.isErrorLike first = .ok false ∧
          policy.resolution m d method first s = .ok (n, s')) := by
  constructor
  · intro h
    cases h with
    | nothing h =>
      rcases h with hnil | ⟨first', rest', hr', he⟩
      · exact absurd (hr.symm.trans hnil) (by simp)
      · obtain ⟨rfl, -⟩ := List.cons.inj (hr.symm.trans hr')
        exact .inl ⟨he, rfl, rfl⟩
    | result hr' he hn =>
      obtain ⟨rfl, -⟩ := List.cons.inj (hr.symm.trans hr')
      exact .inr ⟨he, hn⟩
  · rintro (⟨he, rfl, rfl⟩ | ⟨he, hn⟩)
    · exact .nothing (.inr ⟨first, rest, hr, he⟩)
    · exact .result hr he hn

/-- What the first result says about what is wrong, if nothing is wrong with a second one. -/
theorem resultsOffend_iff {first : HostType} {rest : List HostType}
    (hr : method.signature.results = first :: rest) (hfit : m.ResultsFit method) :
    policy.ResultsOffend m d method s e ↔
      (∃ name, m.isErrorLike first = .error name ∧ e = .cyclicType name) ∨
        (m.isErrorLike first = .ok false ∧ policy.resolution m d method first s = .error e) := by
  constructor
  · intro h
    cases h with
    | tooMany hlen => exact absurd hfit.length_le (by omega)
    | secondCyclic hr' he => exact absurd ((hfit.second_error _ _ hr').symm.trans he) (by simp)
    | secondNoError hr' he => exact absurd ((hfit.second_error _ _ hr').symm.trans he) (by simp)
    | firstCyclic _ hr' he =>
      obtain ⟨rfl, -⟩ := List.cons.inj (hr.symm.trans hr')
      exact .inl ⟨_, he, rfl⟩
    | unresolved _ hr' he hfails =>
      obtain ⟨rfl, -⟩ := List.cons.inj (hr.symm.trans hr')
      exact .inr ⟨he, hfails⟩
  · rintro (⟨name, he, rfl⟩ | ⟨he, hfails⟩)
    · exact .firstCyclic hfit hr he
    · exact .unresolved hfit hr he hfails

/-- What is wrong with two results of which the second one is no error. -/
theorem resultsOffend_pair_iff {first second : HostType}
    (hr : method.signature.results = [first, second]) (hno : m.isErrorLike second ≠ .ok true) :
    policy.ResultsOffend m d method s e ↔
      (∃ name, m.isErrorLike second = .error name ∧ e = .cyclicType name) ∨
        (m.isErrorLike second = .ok false ∧ e = .invalidReturnShape d.name method.name) := by
  constructor
  · intro h
    cases h with
    | tooMany hlen =>
      rw [hr] at hlen
      exact absurd hlen (by simp)
    | secondCyclic hr' he =>
      obtain ⟨-, hrest⟩ := List.cons.inj (hr.symm.trans hr')
      obtain ⟨rfl, -⟩ := List.cons.inj hrest
      exact .inl ⟨_, he, rfl⟩
    | secondNoError hr' he =>
      obtain ⟨-, hrest⟩ := List.cons.inj (hr.symm.trans hr')
      obtain ⟨rfl, -⟩ := List.cons.inj hrest
      exact .inr ⟨he, rfl⟩
    -- The first result is looked at only when the second one is an error.
    | firstCyclic hfit | unresolved hfit => exact absurd (hfit.second_error _ _ hr) hno
  · rintro (⟨name, he, rfl⟩ | ⟨he, rfl⟩)
    · exact .secondCyclic hr he
    · exact .secondNoError hr he

/-- Of more than two results it is only said that they are too many. -/
theorem resultsOffend_many_iff (hlen : 2 < method.signature.results.length) :
    policy.ResultsOffend m d method s e ↔ e = .tooManyReturnValues d.name method.name := by
  constructor
  · intro h
    cases h with
    | tooMany => rfl
    | secondCyclic hr | secondNoError hr =>
      rw [hr] at hlen
      exact absurd hlen (by simp)
    | firstCyclic hfit | unresolved hfit => exact absurd hfit.length_le (by omega)
  · rintro rfl
    exact .tooMany hlen

/-- Nothing is wrong with no results. -/
theorem ResultsOffend.results_ne_nil (h : policy.ResultsOffend m d method s e) :
    method.signature.results ≠ [] := by
  intro hnil
  cases h with
  | tooMany hlen =>
    rw [hnil] at hlen
    exact absurd hlen (by simp)
  | secondCyclic hr | secondNoError hr | firstCyclic _ hr | unresolved _ hr =>
    exact absurd (hnil.symm.trans hr) (by simp)

/-- When the results do not fit, the start of a method fails with what is wrong with them. -/
theorem methodReturns_of_not_fit {visit : Visit} (hfit : ¬ m.ResultsFit method) :
    policy.methodReturns m visit d method s = .error e ↔
      policy.ResultsOffend m d method s e := by
  match hr : method.signature.results with
  | [] => exact absurd (m.resultsFit_of_length_le (by simp [hr])) hfit
  | [only] => exact absurd (m.resultsFit_of_length_le (by simp [hr])) hfit
  | [first, second] =>
    have hno : m.isErrorLike second ≠ .ok true := fun he => hfit (m.resultsFit_pair hr he)
    rw [resultsOffend_pair_iff hr hno, methodReturns, hr]
    simp only [Walk.bind_eq_error_iff, errorLike_eq_ok_iff, errorLike_eq_error_iff]
    refine or_congr_right ⟨?_, ?_⟩
    · rintro ⟨b, _, ⟨he, rfl⟩, h⟩
      -- The test has an answer, and it is no.
      cases b with
      | true => exact absurd he hno
      | false => exact ⟨he, (Except.error.inj h).symm⟩
    · rintro ⟨he, rfl⟩
      exact ⟨false, s, ⟨he, rfl⟩, rfl⟩
  | first :: second :: third :: rest =>
    rw [resultsOffend_many_iff (by simp [hr]), methodReturns, hr]
    show Except.error _ = Except.error e ↔ _
    rw [Except.error.injEq, eq_comm]

/-- Results that do not fit are too many, or there is a second one that is no error. -/
theorem exists_resultsOffend (hfit : ¬ m.ResultsFit method) :
    ∃ e, policy.ResultsOffend m d method s e := by
  match hr : method.signature.results with
  | [] => exact absurd (m.resultsFit_of_length_le (by simp [hr])) hfit
  | [only] => exact absurd (m.resultsFit_of_length_le (by simp [hr])) hfit
  | [first, second] =>
    cases he : m.isErrorLike second with
    | error name => exact ⟨_, .secondCyclic hr he⟩
    | ok b =>
      cases b with
      | true => exact absurd (m.resultsFit_pair hr he) hfit
      | false => exact ⟨_, .secondNoError hr he⟩
  | first :: second :: third :: rest => exact ⟨_, .tooMany (by simp [hr])⟩

/-- The start of a method fails with what is wrong with the results. -/
theorem methodReturns_eq_error_iff :
    policy.methodReturns m (policy.visit m [d.name]) d method s = .error e ↔
      policy.ResultsOffend m d method s e := by
  by_cases hfit : m.ResultsFit method
  · match hr : method.signature.results with
    | [] =>
      constructor
      · intro h
        rw [methodReturns, hr] at h
        exact absurd h (by simp [Walk.pure_apply])
      · intro h
        exact absurd hr h.results_ne_nil
    | first :: rest =>
      rw [methodReturns_of_fit hr hfit, returned_eq_error_iff, resultsOffend_iff hr hfit]
      rfl
  · exact methodReturns_of_not_fit hfit

/-- It succeeds when the results fit, with what the method returns. -/
theorem methodReturns_eq_ok_iff {n : TypeNode} :
    policy.methodReturns m (policy.visit m [d.name]) d method s = .ok (n, s') ↔
      m.ResultsFit method ∧ policy.Returns m d method s n s' := by
  by_cases hfit : m.ResultsFit method
  · -- The results fit, so all is decided by the first one, if there is one.
    rw [and_iff_right hfit]
    match hr : method.signature.results with
    | [] =>
      rw [methodReturns, hr]
      refine Walk.pure_eq_ok_iff.trans ⟨?_, ?_⟩
      · rintro ⟨rfl, rfl⟩
        exact .nothing (.inl hr)
      · intro h
        cases h with
        | nothing _ => exact ⟨rfl, rfl⟩
        | result hr' _ _ => exact absurd (hr.symm.trans hr') (by simp)
    | first :: rest =>
      rw [methodReturns_of_fit hr hfit, returned_eq_ok_iff, returns_iff hr]
      rfl
  -- Otherwise there is an error, so there is no node.
  · obtain ⟨e, he⟩ : ∃ e, policy.ResultsOffend m d method s e := exists_resultsOffend hfit
    rw [← methodReturns_eq_error_iff] at he
    simp [he, hfit]

/-! ## Section 4: Methods -/

def argument (policy : ExtractPolicy) (m : HostModule) (d : TypeDecl) (method : HostMethod)
    (param : HostParam × Nat) : Walk Arg := do
  let type ← policy.resolution m d method param.1.type
  return ⟨policy.argName param.2 param.1, type⟩

theorem argument_eq_ok_iff {param : HostParam × Nat} {arg : Arg} :
    policy.argument m d method param s = .ok (arg, s') ↔
      policy.TakesArg m d method param s arg s' := by
  obtain ⟨name, n⟩ := arg
  simp only [argument, Walk.bind_eq_ok_iff, Walk.pure_eq_ok_iff, TakesArg]
  constructor
  · rintro ⟨type, _, htype, heq, rfl⟩
    obtain ⟨rfl, rfl⟩ := Arg.mk.inj heq
    exact ⟨rfl, htype⟩
  · rintro ⟨rfl, htype⟩
    exact ⟨n, s', htype, rfl, rfl⟩

theorem argument_eq_error_iff {param : HostParam × Nat} :
    policy.argument m d method param s = .error e ↔ policy.RefusesArg m d method param s e := by
  simp only [argument, Walk.bind_eq_error_iff, Walk.pure_apply, reduceCtorEq, and_false,
    exists_false, or_false, RefusesArg]

theorem arguments_eq_ok_iff {params : List (HostParam × Nat)} {args : List Arg} :
    params.mapM (policy.argument m d method) s = .ok (args, s') ↔
      Runs (policy.TakesArg m d method) params s args s' :=
  Walk.mapM_eq_ok_iff fun _ _ _ _ => argument_eq_ok_iff

theorem arguments_eq_error_iff {params : List (HostParam × Nat)} :
    params.mapM (policy.argument m d method) s = .error e ↔
      FirstFails (policy.TakesArg m d method) (policy.RefusesArg m d method) params s e :=
  Walk.mapM_eq_error_iff (fun _ _ _ _ => argument_eq_ok_iff) fun _ _ _ => argument_eq_error_iff

/-- The end of a method is the walk over its parameters. -/
theorem finishMethod_eq (returns : TypeNode) :
    policy.finishMethod (policy.visit m [d.name]) d method returns = (do
      let args ← method.signature.params.zipIdx.mapM (policy.argument m d method)
      return policy.methodOf d method returns args) := rfl

theorem finishMethod_eq_ok_iff {returns : TypeNode} {member : Member} :
    policy.finishMethod (policy.visit m [d.name]) d method returns s = .ok (member, s') ↔
      ∃ args, Runs (policy.TakesArg m d method) method.signature.params.zipIdx s args s' ∧
        member = policy.methodOf d method returns args := by
  simp only [finishMethod_eq, Walk.bind_eq_ok_iff, Walk.pure_eq_ok_iff, arguments_eq_ok_iff]
  constructor
  · rintro ⟨args, s₁, hargs, rfl, rfl⟩
    exact ⟨args, hargs, rfl⟩
  · rintro ⟨args, hargs, rfl⟩
    exact ⟨args, s', hargs, rfl, rfl⟩

theorem finishMethod_eq_error_iff {returns : TypeNode} :
    policy.finishMethod (policy.visit m [d.name]) d method returns s = .error e ↔
      FirstFails (policy.TakesArg m d method) (policy.RefusesArg m d method)
        method.signature.params.zipIdx s e := by
  simp only [finishMethod_eq, Walk.bind_eq_error_iff, arguments_eq_error_iff, Walk.pure_apply,
    reduceCtorEq, and_false, exists_false, or_false]

/-- The type that a method returns is `void` for the methods that return nothing, and for no
    others. -/
theorem Returns.void_iff {n : TypeNode} (h : policy.Returns m d method s n s') :
    n = .void ↔ m.ReturnsNothing method := by
  cases h with
  | nothing hnothing => exact iff_of_true rfl hnothing
  | result hr he hn =>
    refine iff_of_false (resolution_eq_ok_iff.mp hn).ne_void ?_
    rintro (hnil | ⟨first, rest, hr', he'⟩)
    · exact absurd (hr.symm.trans hnil) (by simp)
    · obtain ⟨rfl, -⟩ := List.cons.inj (hr.symm.trans hr')
      exact absurd (he.symm.trans he') (by simp)

/-- A method is exported as the member that it becomes. -/
theorem methodMember_eq_ok_iff {member : Member} :
    policy.methodMember m (policy.visit m [d.name]) d method s = .ok (member, s') ↔
      policy.Becomes m d method s member s' := by
  rw [methodMember_eq]
  by_cases hv : method.signature.variadic
  · rw [if_pos hv, Walk.throw_apply]
    constructor
    · intro h
      exact absurd h (by simp)
    · intro h
      exact absurd (hv.symm.trans h.variadic_eq) (by simp)
  · rw [if_neg hv]
    simp only [Walk.bind_eq_ok_iff, methodReturns_eq_ok_iff, finishMethod_eq_ok_iff]
    constructor
    · rintro ⟨returns, s₁, ⟨hfit, hreturns⟩, args, hargs, rfl⟩
      exact ⟨by simpa using hv, hfit, rfl, rfl, rfl, rfl, hreturns.void_iff, s₁, hreturns, hargs⟩
    · -- The parts of the member are known one by one, so the member is.
      obtain ⟨name, type, optional, function, comment, args⟩ := member
      rintro ⟨_, hfit, rfl, rfl, rfl, rfl, _, s₁, hreturns, hargs⟩
      exact ⟨type, s₁, ⟨hfit, hreturns⟩, args, hargs, rfl⟩

/-- It is refused for what offends. -/
theorem methodMember_eq_error_iff :
    policy.methodMember m (policy.visit m [d.name]) d method s = .error e ↔
      policy.Offends m d method s e := by
  rw [methodMember_eq]
  by_cases hv : method.signature.variadic
  · rw [if_pos hv, Walk.throw_apply]
    constructor
    · intro h
      obtain rfl := Except.error.inj h
      exact .variadic hv
    · intro h
      cases h with
      | variadic => rfl
      | results hv' | params hv' => exact absurd (hv.symm.trans hv') (by simp)
  · -- Results come before parameters, and parameters are looked at only after a result.
    rw [if_neg hv]
    simp only [Walk.bind_eq_error_iff, methodReturns_eq_ok_iff, methodReturns_eq_error_iff,
      finishMethod_eq_error_iff]
    have hv' : method.signature.variadic = false := by simpa using hv
    constructor
    · rintro (h | ⟨returns, s₁, ⟨hfit, hreturns⟩, hfails⟩)
      · exact .results hv' h
      · exact .params hv' hfit hreturns hfails
    · intro h
      cases h with
      | variadic hv'' => exact absurd hv'' hv
      | results _ h => exact .inl h
      | params _ hfit hreturns hfails => exact .inr ⟨_, _, ⟨hfit, hreturns⟩, hfails⟩

/-! ## Section 5: Interfaces -/

section interfaces

variable {root : HostType} {methods : List HostMethod} {graph : List TypeNode}

/-- The walk over a root interface succeeds when all its methods become members. -/
theorem walkRoot_interface_eq_ok_iff (hroot : root.deref = .named d.name)
    (hd : m.lookup d.name = some d) (hi : d.type.deref = .interface methods) {found : Progress} :
    policy.walkRoot m root s = .ok ((), found) ↔
      ∃ members s₁, Runs (policy.Becomes m d) methods s members s₁ ∧
        found = s₁.declare d.name (policy.interfaceOf d members) := by
  rw [walkRoot_interface hroot hd hi]
  simp only [Walk.bind_eq_ok_iff, declare_apply, Walk.mapM_eq_ok_iff
    (fun _ _ _ _ => methodMember_eq_ok_iff), Except.ok.injEq, Prod.mk.injEq, true_and]
  constructor
  · rintro ⟨members, s₁, hmembers, rfl⟩
    exact ⟨members, s₁, hmembers, rfl⟩
  · rintro ⟨members, s₁, hmembers, rfl⟩
    exact ⟨members, s₁, hmembers, rfl⟩

/-- It fails when one of them offends. -/
theorem walkRoot_interface_eq_error_iff (hroot : root.deref = .named d.name)
    (hd : m.lookup d.name = some d) (hi : d.type.deref = .interface methods) :
    policy.walkRoot m root s = .error e ↔
      FirstFails (policy.Becomes m d) (policy.Offends m d) methods s e := by
  rw [walkRoot_interface hroot hd hi]
  simp only [Walk.bind_eq_error_iff, declare_apply, Walk.mapM_eq_error_iff
    (fun _ _ _ _ => methodMember_eq_ok_iff) (fun _ _ _ => methodMember_eq_error_iff),
    reduceCtorEq, and_false, exists_false, or_false]

/-- An extraction fails when its walk does. -/
theorem extract_eq_error_iff :
    extract m root policy = .error e ↔ policy.walkRoot m root {} = .error e := by
  unfold extract StateT.run
  cases policy.walkRoot m root {} with
  | error e' => simp [bind, Except.bind]
  | ok r => simp [bind, Except.bind, pure, Except.pure]

/-- The extraction of a root interface, in the order of discovery.  It succeeds if and only if every
    method becomes a member, one after the other, and the graph is then what was found on the way
    with the interface of these members put into it.  It fails if and only if all methods before
    some method become members and that one offends, and then with this error. -/
theorem extract_interface_exact (hroot : root.deref = .named d.name)
    (hd : m.lookup d.name = some d) (hi : d.type.deref = .interface methods)
    (hsort : policy.sort = .discovery) :
    (∀ graph, extract m root policy = .ok graph ↔
      ∃ members s, Runs (policy.Becomes m d) methods {} members s ∧
        graph = upsert TypeNode.name
          (.interface (policy.typeNamer d) (policy.declComment d) members) s.nodes ∧
        .interface (policy.typeNamer d) (policy.declComment d) members ∈ graph) ∧
    ∀ e, extract m root policy = .error e ↔
      FirstFails (policy.Becomes m d) (policy.Offends m d) methods {} e := by
  constructor
  · intro graph
    simp only [extract_eq_ok_iff, walkRoot_interface_eq_ok_iff hroot hd hi, interfaceOf,
      arrange_discovery hsort]
    -- In this order the graph is the list of nodes as it was found.
    rw [hsort]
    constructor
    · rintro ⟨found, ⟨members, s, hmembers, rfl⟩, rfl⟩
      exact ⟨members, s, hmembers, rfl, mem_upsert_self _ _ _⟩
    · rintro ⟨members, s, hmembers, rfl, -⟩
      exact ⟨_, ⟨members, s, hmembers, rfl⟩, rfl⟩
  · intro e
    rw [extract_eq_error_iff, walkRoot_interface_eq_error_iff hroot hd hi]

end interfaces

/-- A reader, all of whose methods can be exported. -/
def readerMethods : List HostMethod := [
  .ofTypes "Find" [.string] [.pointer (.named "Item"), .named "Failure"],
  .ofTypes "Close" [] [.named "Failure"]]

/-- A writer.  The second result of its second method goes in a circle when it is tested for an
    error; that the channels have no counterpart and that the third method is variadic is not
    reached. -/
def writerMethods : List HostMethod := [
  .ofTypes "Close" [] [.named "Failure"],
  .ofTypes "Put" [.chan .bool] [.chan .bool, .named "Round"],
  ⟨"Log", ⟨[], [], true⟩, none⟩]

def readerDecl : TypeDecl := ⟨"Reader", .interface readerMethods, none, none⟩

def writerDecl : TypeDecl := ⟨"Writer", .pointer (.interface writerMethods), none, none⟩

def storageModule : HostModule where
  types := [readerDecl, writerDecl,
    ⟨"Failure", .pointer .error, none, none⟩,
    ⟨"Round", .named "Round", none, none⟩,
    ⟨"Item", .struct [⟨"Next", .pointer (.named "Item"), none⟩], none, none⟩]

def readerGraph : List TypeNode :=
  [.interface "Item" none [.property "Next" (.simple "Item")],
    .interface "Reader" none [
      .method "Find" (.simple "Item") [⟨"arg0", .string⟩],
      .method "Close" .void []]]

theorem reader_exported_writer_refused :
    (HostType.named "Reader").deref = .named readerDecl.name ∧
      (HostType.pointer (.named "Writer")).deref = .named writerDecl.name ∧
      storageModule.lookup readerDecl.name = some readerDecl ∧
      storageModule.lookup writerDecl.name = some writerDecl ∧
      readerDecl.type.deref = .interface readerMethods ∧
      writerDecl.type.deref = .interface writerMethods ∧ following.sort = .discovery ∧
      (∃ members s, Runs (following.Becomes storageModule readerDecl) readerMethods {} members s ∧
        .interface (following.typeNamer readerDecl) (following.declComment readerDecl) members ∈
          readerGraph) ∧
      FirstFails (following.Becomes storageModule writerDecl)
        (following.Offends storageModule writerDecl) writerMethods {} (.cyclicType "Round") := by
  have hreader : extract storageModule (.named "Reader") following = .ok readerGraph := by cbv
  have hwriter : extract storageModule (.pointer (.named "Writer")) following =
      .error (.cyclicType "Round") := by cbv
  have hr : storageModule.lookup readerDecl.name = some readerDecl := rfl
  have hw : storageModule.lookup writerDecl.name = some writerDecl := rfl
  have hri : readerDecl.type.deref = .interface readerMethods := rfl
  have hwi : writerDecl.type.deref = .interface writerMethods := rfl
  refine ⟨rfl, rfl, hr, hw, hri, hwi, rfl, ?_, ?_⟩
  · obtain ⟨members, s, hruns, -, hmem⟩ :=
      ((extract_interface_exact rfl hr hri rfl).1 readerGraph).mp hreader
    exact ⟨members, s, hruns, hmem⟩
  · exact ((extract_interface_exact rfl hw hwi rfl).2 _).mp hwriter

end ExtractPolicy

end TypeExport
