import TypeExport.Host.Module

/-! # Chains of Names

    The test for errors looks through pointers, goes from a name to the shape of its declaration,
    and looks through pointers again.  The types that it comes to form a chain, which is there
    whether or not anyone walks along it (`chainAt`).  A chain may end in a shape or in a name that
    is not declared, and it may run into a circle, at its first name or after a tail.

    The test is a loop.  Its invariant is `Passed`: the names that it remembers are those of the
    chain before its place, and none of them stands there twice.  From this follows what the test
    answers about every type of every module (`isErrorLike_exact`). -/

namespace TypeExport

/-! ## Section 1: Chains -/

/-- The builtin error, or an interface with a method `Error` that takes nothing and returns one
    string. -/
def HostType.IsErrorShape (t : HostType) : Prop :=
  t = .error ∨ ∃ methods, t = .interface methods ∧ ∃ method ∈ methods,
    method.name = "Error" ∧ method.signature.params = [] ∧ method.signature.results = [.string]

theorem HostType.deref_deref (t : HostType) : t.deref.deref = t.deref := by
  induction t using HostType.deref.induct with
  | case1 elem ih => rwa [HostType.deref]
  | case2 t h =>
    have hderef : t.deref = t := by
      rw [HostType.deref]
      exact h
    rw [hderef, hderef]

/-- What is behind leading pointers is no pointer. -/
theorem HostType.deref_ne_pointer (t elem : HostType) : t.deref ≠ .pointer elem := by
  induction t using HostType.deref.induct with
  | case1 inner ih => rwa [deref]
  | case2 t h =>
    rw [deref]
    · exact h elem
    · exact h

namespace HostModule

variable (m : HostModule)

/-- What comes after a type on a chain: after a declared name, the shape of the declaration. -/
def next? : HostType → Option HostType
  | .named name => (m.lookup name).map (·.type.deref)
  | _ => none

/-- The type at a position of the chain of `t`, if the chain is that long. -/
def chainAt (t : HostType) : Nat → Option HostType
  | 0 => some t.deref
  | k + 1 => (chainAt t k).bind m.next?

/-- At position `k` of the chain of `t` stands a name. -/
def NamedAt (t : HostType) (k : Nat) (name : String) : Prop := m.chainAt t k = some (.named name)

/-- The name at position `k` stands on the chain before, too. -/
def MetAgain (t : HostType) (k : Nat) (name : String) : Prop :=
  m.NamedAt t k name ∧ ∃ i < k, m.NamedAt t i name

/-- Position `k` is the first one with a name that stands on the chain before. -/
def FirstMetAgain (t : HostType) (k : Nat) (name : String) : Prop :=
  m.MetAgain t k name ∧ ∀ i < k, ∀ other, ¬ m.MetAgain t i other

/-- The chain of `t` ends, and `last` is the last type on it. -/
def EndsIn (t last : HostType) : Prop := ∃ k, m.chainAt t k = some last ∧ m.next? last = none

variable {m} {t u : HostType} {k : Nat} {name : String}

/-- No pointer stands on a chain. -/
theorem deref_of_chainAt (h : m.chainAt t k = some u) : u.deref = u := by
  cases k with
  | zero =>
    obtain rfl : t.deref = u := Option.some.inj h
    exact HostType.deref_deref t
  | succ k =>
    obtain ⟨v, -, hu⟩ := Option.bind_eq_some_iff.mp h
    cases v with
    | named other =>
      obtain ⟨d, -, rfl⟩ := Option.map_eq_some_iff.mp hu
      exact HostType.deref_deref d.type
    | _ => exact absurd hu (by simp [next?])

/-- From one of its types on, a chain is the chain of that type. -/
theorem chainAt_add (h : m.chainAt t k = some u) (n : Nat) :
    m.chainAt t (k + n) = m.chainAt u n := by
  induction n with
  | zero => rw [Nat.add_zero, h, chainAt, deref_of_chainAt h]
  | succ n ih => rw [← Nat.add_assoc, chainAt, ih, chainAt]

/-- After its end a chain has no types. -/
theorem chainAt_after (h : m.chainAt t k = some u) (hend : m.next? u = none) (n : Nat) :
    m.chainAt t (k + 1 + n) = none := by
  induction n with
  | zero => rw [Nat.add_zero, chainAt, h, Option.bind_some, hend]
  | succ n ih => rw [← Nat.add_assoc, chainAt, ih, Option.bind_none]

/-- All types of a chain stand at its end or before. -/
theorem le_of_chainAt {i j : Nat} {v : HostType} (hi : m.chainAt t i = some u)
    (hend : m.next? u = none) (hj : m.chainAt t j = some v) : j ≤ i := by
  apply Nat.le_of_not_lt
  intro hlt
  obtain ⟨n, rfl⟩ := Nat.exists_eq_add_of_lt hlt
  rw [Nat.add_right_comm, chainAt_after hi hend] at hj
  exact absurd hj (by simp)

/-- A chain has one end at most. -/
theorem EndsIn.unique {last last' : HostType} (h : m.EndsIn t last) (h' : m.EndsIn t last') :
    last = last' := by
  obtain ⟨k, hk, hend⟩ := h
  obtain ⟨k', hk', hend'⟩ := h'
  obtain rfl : k = k' := Nat.le_antisymm (le_of_chainAt hk' hend' hk) (le_of_chainAt hk hend hk')
  exact Option.some.inj (hk.symm.trans hk')

/-- A chain on which a name stands twice has no end. -/
theorem not_endsIn_of_metAgain (h : m.MetAgain t k name) (last : HostType) :
    ¬ m.EndsIn t last := by
  rintro ⟨j, hj, hend⟩
  obtain ⟨hk, i, hi, hname⟩ := h
  -- From its second place on the chain goes on as it did from the first one, so what is the end
  -- behind the second place stands before, too, where the chain goes on.
  obtain ⟨n, rfl⟩ := Nat.exists_eq_add_of_le (le_of_chainAt hj hend hk)
  have hearlier : m.chainAt t (i + n) = some last := by
    rw [chainAt_add hname, ← chainAt_add hk, hj]
  have hle : k + n ≤ i + n := le_of_chainAt hearlier hend hj
  omega

/-- A name that is met again lies on a circle: its own chain comes back to it. -/
theorem MetAgain.circular (h : m.MetAgain t k name) :
    ∃ p, 0 < p ∧ m.NamedAt (.named name) p name := by
  obtain ⟨hk, i, hi, hname⟩ := h
  obtain ⟨p, rfl⟩ := Nat.exists_eq_add_of_lt hi
  refine ⟨p + 1, Nat.succ_pos p, ?_⟩
  unfold NamedAt at hk ⊢
  rwa [Nat.add_assoc, chainAt_add hname] at hk

/-- Only one name is the first that is met again. -/
theorem FirstMetAgain.unique {k' : Nat} {name' : String} (h : m.FirstMetAgain t k name)
    (h' : m.FirstMetAgain t k' name') : name = name' := by
  have hk : k = k' := by
    rcases Nat.lt_trichotomy k k' with hlt | heq | hlt
    · exact absurd h.1 (h'.2 k hlt name)
    · exact heq
    · exact absurd h'.1 (h.2 k' hlt name')
  subst hk
  have hboth := h.1.1.symm.trans h'.1.1
  simpa using hboth

/-! ## Section 2: The loop -/

section turns

variable {path : List String}

theorem errorLikeFrom_again (ht : t.deref = .named name) (hp : name ∈ path) :
    m.errorLikeFrom path t = .error name := by
  rw [errorLikeFrom]
  simp only [ht, hp, if_true]

theorem errorLikeFrom_unknown (ht : t.deref = .named name) (hp : name ∉ path)
    (hd : m.lookup name = none) : m.errorLikeFrom path t = .ok false := by
  rw [errorLikeFrom]
  simp only [ht, hp, if_false]
  split
  · rfl
  · simp_all

theorem errorLikeFrom_known {d : TypeDecl} (ht : t.deref = .named name) (hp : name ∉ path)
    (hd : m.lookup name = some d) :
    m.errorLikeFrom path t = m.errorLikeFrom (name :: path) d.type := by
  rw [errorLikeFrom]
  simp only [ht, hp, if_false]
  split
  · simp_all
  · simp_all

end turns

/-- The loop has come to position `k` of the chain of `t`, where `u` stands perhaps behind pointers,
    and remembers the names in `path`. -/
structure Passed (m : HostModule) (t : HostType) (k : Nat) (path : List String) (u : HostType) :
    Prop where
  here : m.chainAt t k = some u.deref
  mem_path : ∀ name, name ∈ path ↔ ∃ i < k, m.NamedAt t i name
  fresh : ∀ i < k, ∀ name, ¬ m.MetAgain t i name

theorem Passed.start (m : HostModule) (t : HostType) : m.Passed t 0 [] t :=
  ⟨rfl, by simp, by simp⟩

theorem Passed.namedAt {path : List String} (h : m.Passed t k path u)
    (hu : u.deref = .named name) : m.NamedAt t k name := by
  unfold NamedAt
  rw [h.here, hu]

section step

variable {path : List String} (h : m.Passed t k path u)

include h

/-- A name that is not remembered has not been met before. -/
theorem Passed.not_metAgain (hu : u.deref = .named name) (hp : name ∉ path) (other : String) :
    ¬ m.MetAgain t k other := by
  rintro ⟨hk, i, hi, hother⟩
  have hsame := hk.symm.trans h.here
  rw [hu, Option.some.injEq, HostType.named.injEq] at hsame
  subst hsame
  exact hp ((h.mem_path other).mpr ⟨i, hi, hother⟩)

/-- The loop goes on at a declared name that it does not remember. -/
theorem Passed.step (hu : u.deref = .named name) (hp : name ∉ path) {d : TypeDecl}
    (hd : m.lookup name = some d) : m.Passed t (k + 1) (name :: path) d.type := by
  have hname : m.NamedAt t k name := h.namedAt hu
  refine ⟨?_, ?_, ?_⟩
  · rw [chainAt, hname, Option.bind_some, next?, hd, Option.map_some]
  · intro other
    rw [List.mem_cons, h.mem_path]
    constructor
    · rintro (rfl | ⟨i, hi, hother⟩)
      · exact ⟨k, Nat.lt_succ_self k, hname⟩
      · exact ⟨i, Nat.lt_succ_of_lt hi, hother⟩
    · -- Of the positions up to this one, the last is that of the new name.
      rintro ⟨i, hi, hother⟩
      rcases Nat.lt_succ_iff_lt_or_eq.mp hi with hi | rfl
      · exact .inr ⟨i, hi, hother⟩
      · have hsame := hother.symm.trans hname
        exact .inl (by simpa using hsame)
  · intro i hi other
    rcases Nat.lt_succ_iff_lt_or_eq.mp hi with hi | rfl
    · exact h.fresh i hi other
    · exact h.not_metAgain hu hp other

/-- Where the loop stops without a repetition, no name of the chain is met again. -/
theorem Passed.never_metAgain (hk : ∀ other, ¬ m.MetAgain t k other)
    (hend : m.next? u.deref = none) (i : Nat) (other : String) : ¬ m.MetAgain t i other := by
  intro hagain
  rcases Nat.lt_trichotomy i k with hi | rfl | hi
  · exact h.fresh i hi other hagain
  · exact hk other hagain
  · obtain ⟨n, rfl⟩ := Nat.exists_eq_add_of_lt hi
    have hnone := chainAt_after h.here hend n
    rw [Nat.add_right_comm] at hnone
    exact absurd (hagain.1.symm.trans hnone) (by simp)

end step

/-- What an answer of the test says about the chain of `t`. -/
def Tells (m : HostModule) (t : HostType) : Except String Bool → Prop
  | .error name => ∃ k, m.FirstMetAgain t k name
  | .ok answer => (∀ k name, ¬ m.MetAgain t k name) ∧
      ∃ last, m.EndsIn t last ∧ (answer = true ↔ last.IsErrorShape)

/-- The test looks for the method that makes an interface an error. -/
theorem isErrorShape_interface (methods : List HostMethod) :
    (methods.any fun method => method.name == "Error" && method.signature.params.isEmpty &&
      match method.signature.results with
      | [.string] => true
      | _ => false) = true ↔ (HostType.interface methods).IsErrorShape := by
  have hresults : ∀ results : List HostType,
      (match results with
      | [.string] => true
      | _ => false) = true ↔ results = [.string] := by
    intro results
    split <;> simp_all
  simp [HostType.IsErrorShape, hresults, and_assoc]

/-- Wherever the loop has come to, its answer tells about the whole chain. -/
theorem errorLikeFrom_tells {path : List String} (h : m.Passed t k path u) :
    m.Tells t (m.errorLikeFrom path u) := by
  -- A shape ends the chain where the loop stands, and no name is there that could be met again.
  have hshape : ∀ {k path u}, m.Passed t k path u → (∀ name, u.deref ≠ .named name) →
      ∀ answer, (answer = true ↔ u.deref.IsErrorShape) → m.Tells t (.ok answer) := by
    intro k path u h hu answer hanswer
    have hend : m.next? u.deref = none := by
      cases hderef : u.deref with
      | named name => exact absurd hderef (hu name)
      | _ => rfl
    have hk : ∀ other, ¬ m.MetAgain t k other := by
      rintro other ⟨hother, -⟩
      exact hu other (Option.some.inj (h.here.symm.trans hother))
    exact ⟨h.never_metAgain hk hend, u.deref, ⟨k, h.here, hend⟩, hanswer⟩
  fun_induction m.errorLikeFrom path u generalizing k with
  | case1 path u hu => exact hshape h (by simp [hu]) true (by simp [hu, HostType.IsErrorShape])
  | case2 path u name hu hp =>
    -- The name is remembered, so it stands before, and no name before it does.
    exact ⟨k, ⟨h.namedAt hu, (h.mem_path name).mp hp⟩, h.fresh⟩
  | case3 path u name hu hp hd =>
    have hend : m.next? u.deref = none := by rw [hu, next?, hd, Option.map_none]
    refine ⟨h.never_metAgain (h.not_metAgain hu hp) hend, u.deref, ⟨k, h.here, hend⟩, ?_⟩
    simp [hu, HostType.IsErrorShape]
  | case4 path u name hu hp d hd ih => exact ih (h.step hu hp hd)
  | case5 path u methods hu =>
    refine hshape h (by simp [hu]) _ ?_
    rw [hu]
    exact isErrorShape_interface methods
  | case6 path u herror hnamed hinterface =>
    refine hshape h hnamed false ?_
    have hnot : ¬ u.deref.IsErrorShape := by
      rintro (hu | ⟨methods, hu, -⟩)
      · exact herror hu
      · exact hinterface methods hu
    simp [hnot]

/-! ## Section 3: Look-ups -/

/-- The names that are looked up, with one more in front of them, and the answer. -/
def asksFirst (name : String) : List String × Except String Bool → List String × Except String Bool
  | (names, answer) => (name :: names, answer)

/-- The test for errors with the names that it looks up, in their order. -/
def errorLikeAsking (m : HostModule) (path : List String) (t : HostType) :
    List String × Except String Bool :=
  match t.deref with
  | .named name =>
    if name ∈ path then ([], .error name)
    else match _found : m.lookup name with
      | none => ([name], .ok false)
      | some decl => asksFirst name (m.errorLikeAsking (name :: path) decl.type)
  -- Nothing but names is looked up.
  | _ => ([], m.errorLikeFrom path t)
termination_by m.unentered path
decreasing_by
  have hn := name_of_lookup _found
  subst hn
  exact unentered_lt (mem_of_lookup _found) ‹_›

/-- The answer is the one of the test. -/
theorem errorLikeAsking_snd (path : List String) (t : HostType) :
    (m.errorLikeAsking path t).2 = m.errorLikeFrom path t := by
  fun_induction m.errorLikeAsking path t with
  | case1 path t name ht hp => exact (errorLikeFrom_again ht hp).symm
  | case2 path t name ht hp hd => exact (errorLikeFrom_unknown ht hp hd).symm
  | case3 path t name ht hp d hd ih => exact ih.trans (errorLikeFrom_known ht hp hd).symm
  | case4 path t hnamed => rfl

/-- Each look-up that finds something leaves fewer declarations to find. -/
theorem length_errorLikeAsking_le (path : List String) (t : HostType) :
    (m.errorLikeAsking path t).1.length ≤ m.unentered path + 1 := by
  fun_induction m.errorLikeAsking path t with
  | case1 path t name ht hp => exact Nat.zero_le _
  | case2 path t name ht hp hd => exact Nat.le_add_left _ _
  | case3 path t name ht hp d hd ih =>
    obtain rfl := name_of_lookup hd
    have hlt := unentered_lt (mem_of_lookup hd) hp
    show (m.errorLikeAsking (d.name :: path) d.type).1.length + 1 ≤ m.unentered path + 1
    omega
  | case4 path t hnamed => exact Nat.zero_le _

/-- A name that is not remembered is the one at its position, and none is met again up to there. -/
theorem Passed.here_iff {path : List String} {other : String} (h : m.Passed t k path u)
    (hu : u.deref = .named name) (hp : name ∉ path) :
    name = other ↔ m.NamedAt t k other ∧ ∀ j ≤ k, ∀ again, ¬ m.MetAgain t j again := by
  constructor
  · rintro rfl
    refine ⟨h.namedAt hu, fun j hj again => ?_⟩
    rcases Nat.lt_or_eq_of_le hj with hj | rfl
    · exact h.fresh j hj again
    · exact h.not_metAgain hu hp again
  · rintro ⟨hother, -⟩
    have hsame := (h.namedAt hu).symm.trans hother
    simpa using hsame

/-- The names that are looked up are those of the chain before the first one that is met again, each
    at its position. -/
theorem asked_iff {path : List String} (h : m.Passed t k path u) {i : Nat} :
    (m.errorLikeAsking path u).1[i]? = some name ↔
      m.NamedAt t (k + i) name ∧ ∀ j ≤ k + i, ∀ again, ¬ m.MetAgain t j again := by
  -- Behind its end the chain has no names.
  have hafter : ∀ {k path u i}, m.Passed t k path u → m.next? u.deref = none →
      ¬ m.NamedAt t (k + (i + 1)) name := by
    intro k path u i h hend hname
    have hle := le_of_chainAt h.here hend hname
    omega
  fun_induction m.errorLikeAsking path u generalizing k i with
  | case1 path u n hu hp =>
    -- The name is remembered, so it is met again and not looked up.
    have hagain : m.MetAgain t k n := ⟨h.namedAt hu, (h.mem_path n).mp hp⟩
    simp only [List.getElem?_nil, reduceCtorEq, false_iff, not_and]
    exact fun _ hfresh => hfresh k (Nat.le_add_right k i) n hagain
  | case2 path u n hu hp hd =>
    cases i with
    | zero => simpa using h.here_iff hu hp
    | succ i =>
      have hend : m.next? u.deref = none := by rw [hu, next?, hd, Option.map_none]
      simp [hafter h hend]
  | case3 path u n hu hp d hd ih =>
    cases i with
    | zero => simpa [asksFirst] using h.here_iff hu hp
    | succ i =>
      have hplace : k + (i + 1) = k + 1 + i := by omega
      rw [hplace]
      exact ih (h.step hu hp hd)
  | case4 path u hnamed =>
    have hend : m.next? u.deref = none := by
      cases hu : u.deref with
      | named n => exact absurd hu (hnamed n)
      | _ => rfl
    cases i with
    | zero =>
      have hnone : ¬ m.NamedAt t k name := fun hname =>
        hnamed name (Option.some.inj (h.here.symm.trans hname))
      simp [hnone]
    | succ i => simp [hafter h hend]

/-! ## Section 4: The test -/

theorem isErrorLike_tells (m : HostModule) (t : HostType) : m.Tells t (m.isErrorLike t) :=
  errorLikeFrom_tells (.start m t)

theorem isErrorLike_eq_error_iff :
    m.isErrorLike t = .error name ↔ ∃ k, m.FirstMetAgain t k name := by
  have htells := isErrorLike_tells m t
  cases hanswer : m.isErrorLike t with
  | error other =>
    rw [hanswer] at htells
    obtain ⟨k, hk⟩ := htells
    constructor
    · intro h
      obtain rfl : other = name := Except.error.inj h
      exact ⟨k, hk⟩
    · rintro ⟨k', hk'⟩
      rw [hk.unique hk']
  | ok answer =>
    rw [hanswer] at htells
    constructor
    · exact fun h => absurd h (by simp)
    · rintro ⟨k, hk⟩
      exact absurd hk.1 (htells.1 k name)

theorem isErrorLike_eq_ok_iff {answer : Bool} :
    m.isErrorLike t = .ok answer ↔
      ∃ last, m.EndsIn t last ∧ (answer = true ↔ last.IsErrorShape) := by
  have htells := isErrorLike_tells m t
  cases hanswer : m.isErrorLike t with
  | error name =>
    -- A chain that comes back to a name has no end.
    rw [hanswer] at htells
    obtain ⟨k, hk⟩ := htells
    constructor
    · exact fun h => absurd h (by simp)
    · rintro ⟨last, hlast, -⟩
      exact absurd hlast (not_endsIn_of_metAgain hk.1 last)
  | ok other =>
    rw [hanswer] at htells
    obtain ⟨-, last, hlast, hother⟩ := htells
    constructor
    · intro h
      obtain rfl : other = answer := Except.ok.inj h
      exact ⟨last, hlast, hother⟩
    · rintro ⟨last', hlast', hanswer'⟩
      obtain rfl := hlast.unique hlast'
      rw [Bool.eq_iff_iff.mpr (hother.trans hanswer'.symm)]

/-- The test fails just if some name is met again, be it the first one or not. -/
theorem exists_isErrorLike_eq_error_iff :
    (∃ name, m.isErrorLike t = .error name) ↔ ∃ k name, m.MetAgain t k name := by
  constructor
  · rintro ⟨name, h⟩
    obtain ⟨k, hk, -⟩ := isErrorLike_eq_error_iff.mp h
    exact ⟨k, name, hk⟩
  · rintro ⟨k, name, hk⟩
    have htells := isErrorLike_tells m t
    cases hanswer : m.isErrorLike t with
    | error other => exact ⟨other, rfl⟩
    | ok answer =>
      rw [hanswer] at htells
      exact absurd hk (htells.1 k name)

/-- The test for errors on any type of any module.  It fails if and only if a name stands twice on
    the chain of the type, and then with the first name that is met a second time, which lies on a
    circle.  It says yes if and only if the chain ends in the builtin error or in an interface with
    a method `Error` of the right shape, and no if and only if the chain has another end, which may
    be a name that is not declared.  The names it looks up are just those of the chain before the
    first one that is met again, and they are at most one more than there are declarations. -/
theorem isErrorLike_exact (m : HostModule) (t : HostType) :
    ((∃ name, m.isErrorLike t = .error name) ↔
        ∃ i k name, i < k ∧ m.NamedAt t i name ∧ m.NamedAt t k name) ∧
      (∀ name, m.isErrorLike t = .error name ↔ ∃ k, m.FirstMetAgain t k name) ∧
      (∀ name, m.isErrorLike t = .error name → ∃ p, 0 < p ∧ m.NamedAt (.named name) p name) ∧
      (m.isErrorLike t = .ok true ↔ ∃ last, m.EndsIn t last ∧ last.IsErrorShape) ∧
      (m.isErrorLike t = .ok false ↔ ∃ last, m.EndsIn t last ∧ ¬ last.IsErrorShape) ∧
      (m.errorLikeAsking [] t).2 = m.isErrorLike t ∧
      (∀ i name, (m.errorLikeAsking [] t).1[i]? = some name ↔
        m.NamedAt t i name ∧ ∀ j ≤ i, ∀ again, ¬ m.MetAgain t j again) ∧
      (m.errorLikeAsking [] t).1.length ≤ m.types.length + 1 := by
  have hanswer (answer : Bool) : m.isErrorLike t = .ok answer ↔
      ∃ last, m.EndsIn t last ∧ (answer = true ↔ last.IsErrorShape) := isErrorLike_eq_ok_iff
  refine ⟨?_, fun _ => isErrorLike_eq_error_iff, ?_, ?_, ?_, errorLikeAsking_snd [] t, ?_, ?_⟩
  · rw [exists_isErrorLike_eq_error_iff]
    constructor
    · rintro ⟨k, name, hk, i, hi, hname⟩
      exact ⟨i, k, name, hi, hname, hk⟩
    · rintro ⟨i, k, name, hi, hname, hk⟩
      exact ⟨k, name, hk, i, hi, hname⟩
  · intro name h
    obtain ⟨k, hk, -⟩ := isErrorLike_eq_error_iff.mp h
    exact hk.circular
  · simpa using hanswer true
  · simpa using hanswer false
  · -- At the start no position has been passed, so positions in the record are those on the chain.
    intro i name
    rw [asked_iff (.start m t), Nat.zero_add]
  · have hle : m.unentered [] ≤ m.types.length := List.length_filter_le _ _
    exact Nat.le_trans (length_errorLikeAsking_le [] t) (Nat.succ_le_succ hle)

/-- A chain with a tail that runs into a circle of two names.  The second declaration of a name is
    never seen. -/
def roundModule : HostModule where
  types := [
    ⟨"Start", .named "Left", none, none⟩,
    ⟨"Left", .pointer (.named "Right"), none, none⟩,
    ⟨"Right", .pointer (.pointer (.named "Left")), none, none⟩,
    ⟨"Right", .error, none, none⟩]

theorem round_met_again :
    roundModule.isErrorLike (.pointer (.named "Start")) = .error "Left" ∧
      (∃ k, roundModule.FirstMetAgain (.pointer (.named "Start")) k "Left") ∧
      (∃ p, 0 < p ∧ roundModule.NamedAt (.named "Left") p "Left") ∧
      (roundModule.errorLikeAsking [] (.pointer (.named "Start"))).1[2]? = some "Right" ∧
      roundModule.NamedAt (.pointer (.named "Start")) 2 "Right" ∧
      (roundModule.errorLikeAsking [] (.pointer (.named "Start"))).1.length ≤ 5 := by
  have hround : roundModule.isErrorLike (.pointer (.named "Start")) = .error "Left" := by cbv
  have hasked : (roundModule.errorLikeAsking [] (.pointer (.named "Start"))).1[2]? =
      some "Right" := by cbv
  obtain ⟨-, hfirst, hcircle, -, -, -, hnames, hlength⟩ :=
    isErrorLike_exact roundModule (.pointer (.named "Start"))
  exact ⟨hround, (hfirst "Left").mp hround, hcircle "Left" hround, hasked,
    ((hnames 2 "Right").mp hasked).1, hlength⟩

end HostModule

end TypeExport
