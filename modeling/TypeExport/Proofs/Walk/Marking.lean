import Mathlib.Data.Finset.Basic
import TypeExport.Proofs.Walk.Root

/-! # Walks that Set Marks

    The walk of the library is told which declarations are in progress: they are the path, an
    argument that grows on the way in and is forgotten on the way out.  It cannot go on forever,
    because it is defined by recursion on what it has not entered yet.

    Here is the same walk as a machine runs that knows nothing of this.  Its functions share one
    state, with a table of nodes under keys, the declarations in progress and the declarations that
    have a node.  Who enters a declaration sets a mark and has to take it away again, whether what
    is called inside gives an answer or fails; and every decision is made by looking at the marks.
    Each call goes one level deeper, and where no level is left there is no answer at all.

    A call is recorded when it begins and when it has an answer, with the state at that time, and so
    is a walk over the fields of a struct that is to be declared.  Nothing ever looks at the record.

    `Depth` shows that the machine answers as the library does and how many levels that takes, and
    `Discipline` what calls do to the state. -/

namespace TypeExport

/-! ## Section 1: States -/

/-- The state that the functions of an extraction share. -/
structure Extraction where
  /-- The nodes under their keys, in the order in which the keys came. -/
  result : List (String × TypeNode) := []
  /-- Host names of the declarations that are being walked. -/
  inProgress : Finset String := ∅
  /-- Host names of the declarations that have a node. -/
  declared : Finset String := ∅

namespace Extraction

def keys (s : Extraction) : List String := s.result.map (·.1)

/-- The state with one more node, under the name of the node. -/
def addResult (s : Extraction) (node : TypeNode) : Extraction :=
  { s with result := upsert Prod.fst (node.name, node) s.result }

/-- The state with a mark on a declaration that is entered. -/
def enter (s : Extraction) (name : String) : Extraction :=
  { s with inProgress := insert name s.inProgress }

/-- The state without the mark of a declaration that is left. -/
def leave (s : Extraction) (name : String) : Extraction :=
  { s with inProgress := s.inProgress.erase name }

/-- The state in which a declaration counts as having a node. -/
def markDeclared (s : Extraction) (name : String) : Extraction :=
  { s with declared := insert name s.declared }

/-- The state with the node of a declaration. -/
def declare (s : Extraction) (name : String) (node : TypeNode) : Extraction :=
  (s.markDeclared name).addResult node

/-! ## Section 2: Calls, records and answers -/

/-- A call of one of the functions that call each other. -/
inductive Call where
  | resolve (t : HostType) (field : Option HostField) (site : String)
  | named (name site : String)
  | anonymousStruct (fields : List HostField) (field : Option HostField) (site : String)
  | namedStruct (d : TypeDecl) (fields : List HostField)
  | structMembers (owner : String) (fields : List HostField)

/-- An entry of the record. -/
inductive Event where
  /-- The call begins in the state `s`. -/
  | begun (call : Call) (s : Extraction)
  /-- The call that has begun in `s` has an answer, in the state `s'`. -/
  | answered (call : Call) (s s' : Extraction)
  /-- All fields of the struct `d`, which is going to be declared, have been walked, from the state
      `s` to the state `s'`. -/
  | walked (d : TypeDecl) (s s' : Extraction)

/-- Why a step has no value. -/
inductive Stop where
  | error (e : ExtractError)
  /-- No levels are left. -/
  | exhausted

/-- How a step ends: with a value or without, in a state, with what it has added to the record. -/
structure Answer (α : Type) where
  value : Except Stop α
  state : Extraction
  log : List Event

namespace Answer

variable {α : Type}

def IsOk (r : Answer α) : Prop := ∃ a, r.value = .ok a

/-- These events, if the step ends with a value. -/
def ifOk (r : Answer α) (events : List Event) : List Event :=
  match r.value with
  | .ok _ => events
  | .error _ => []

end Answer

/-- A step of an extraction.  A step that fails leaves a state, too. -/
def Extracting (α : Type) := Extraction → Answer α

namespace Extracting

variable {α : Type}

instance : Monad Extracting where
  pure a := fun s => ⟨.ok a, s, []⟩
  bind x f := fun s =>
    match (x s).value with
    | .error stop => ⟨.error stop, (x s).state, (x s).log⟩
    | .ok a =>
      let r := f a (x s).state
      ⟨r.value, r.state, (x s).log ++ r.log⟩

def stop (why : Stop) : Extracting α := fun s => ⟨.error why, s, []⟩

def fail (e : ExtractError) : Extracting α := stop (.error e)

def look : Extracting Extraction := fun s => ⟨.ok s, s, []⟩

def change (f : Extraction → Extraction) : Extracting Unit := fun s => ⟨.ok (), f s, []⟩

/-- What needs no state. -/
def ofExcept : Except ExtractError α → Extracting α
  | .ok a => pure a
  | .error e => fail e

/-- Runs `x` with a mark on the declaration `name`, which goes away whatever `x` ends in. -/
def within (name : String) (x : Extracting α) : Extracting α := fun s =>
  let r := x (s.enter name)
  { r with state := r.state.leave name }

/-- Records that `x` is a call. -/
def recorded (call : Call) (x : Extracting α) : Extracting α := fun s =>
  let r := x s
  { r with log := .begun call s :: r.log ++ r.ifOk [.answered call s r.state] }

/-- Records that `x` is the walk over the fields of the struct `d`. -/
def walking (d : TypeDecl) (x : Extracting α) : Extracting α := fun s =>
  let r := x s
  { r with log := r.log ++ r.ifOk [.walked d s r.state] }

/-- Runs `x` and drops its value. -/
def dropping (x : Extracting α) : Extracting Unit := fun s =>
  let r := x s
  ⟨r.value.map fun _ => (), r.state, r.log⟩

end Extracting

open Extracting

/-! ## Section 3: Functions -/

variable (policy : ExtractPolicy)

/-- The members made of fields, one after the other. -/
def eachField (resolve : HostField → Extracting TypeNode) :
    List HostField → Extracting (List Member)
  | [] => return []
  | field :: rest => do
    if field.isVisible then
      let type ← resolve field
      let members ← eachField resolve rest
      return field.property type :: members
    else eachField resolve rest

/-- Adds the interface of a declaration, whose members `walk` gives. -/
def declareBy (d : TypeDecl) (walk : Extracting (List Member)) : Extracting Unit := do
  let members ← within d.name walk
  -- The mark is gone before the node comes.
  change (·.declare d.name (.interface (policy.typeNamer d) (policy.declComment d) members))

/-- Declares an enumeration.  The declaration is marked before the provider is asked, and stays so
    when the provider has no answer. -/
def declareEnum (provider : EnumProvider) (d : TypeDecl) : Extracting Unit := do
  change (·.markDeclared d.name)
  let members ← ofExcept ((provider.members d).mapError (.enumProvider d.name))
  change (·.addResult (.enum (policy.typeNamer d) (policy.declComment d)
    (policy.sort.sortBy (·.name) members)))

def enumeration (provider : EnumProvider) (d : TypeDecl) : Extracting TypeNode := do
  let s ← look
  if d.name ∉ s.declared then declareEnum policy provider d
  return .simple (policy.typeNamer d)

variable (m : HostModule)

mutual

/-- Resolves a type that stands in `field`, if it stands in one directly. -/
def resolve (depth : Nat) (t : HostType) (field : Option HostField) (site : String) :
    Extracting TypeNode :=
  match depth with
  | 0 => stop .exhausted
  | depth + 1 => recorded (.resolve t field site) <|
    match t.deref with
    | .struct fields => anonymousStruct depth fields field site
    | .named name => named depth name site
    | .slice elem | .array _ elem => do
      let elem ← resolve depth elem none site
      return .array [elem]
    | .map key value => do
      let key ← resolve depth key none site
      let value ← resolve depth value none site
      return .map [key, value]
    | shape => ofExcept (leaf site shape)
termination_by structural depth

def anonymousStruct (depth : Nat) (fields : List HostField) (field : Option HostField)
    (site : String) : Extracting TypeNode :=
  match depth with
  | 0 => stop .exhausted
  | depth + 1 => recorded (.anonymousStruct fields field site) do
    let members ← structMembers depth site fields
    match policy.anonNamer, field with
    | some namer, some field => do
      change (·.addResult (.interface (namer field) none members))
      return .simple (namer field)
    | _, _ => return .interface "" none members
termination_by structural depth

/-- Resolves the fields of a struct.  The members are put into the order of the policy. -/
def structMembers (depth : Nat) (owner : String) (fields : List HostField) :
    Extracting (List Member) :=
  match depth with
  | 0 => stop .exhausted
  | depth + 1 => recorded (.structMembers owner fields) do
    let members ← eachField
      (fun field => resolve depth field.type (some field) s!"{owner}.{field.name}") fields
    return policy.arrange members
termination_by structural depth

def named (depth : Nat) (name site : String) : Extracting TypeNode :=
  match depth with
  | 0 => stop .exhausted
  | depth + 1 => recorded (.named name site) <|
    match m.lookup name with
    | none => fail (.unknownType name site)
    | some d =>
      match d.type.deref with
      | .struct fields => namedStruct depth d fields
      | shape =>
        match policy.claims? d, shape with
        | some provider, _ => enumeration policy provider d
        | none, .interface _ => fail (.unsupportedKind "interface" site)
        | none, _ => do
          let s ← look
          if d.name ∈ s.inProgress then fail (.cyclicType d.name)
          else within d.name (resolve depth d.type none site)
termination_by structural depth

def namedStruct (depth : Nat) (d : TypeDecl) (fields : List HostField) : Extracting TypeNode :=
  match depth with
  | 0 => stop .exhausted
  | depth + 1 => recorded (.namedStruct d fields) do
    let s ← look
    if policy.embedStructs then
      if d.name ∈ s.inProgress then fail (.cyclicType d.name)
      else
        let members ← within d.name (structMembers depth d.name fields)
        return .interface "" (policy.declComment d) members
    else
      if policy.followStructs ∧ d.name ∉ s.inProgress ∧ d.name ∉ s.declared then
        declareBy policy d (walking d (structMembers depth d.name fields))
      return .simple (policy.typeNamer d)
termination_by structural depth

end

/-- Makes a call, and drops the node or the members that it gives. -/
def perform (depth : Nat) : Call → Extracting Unit
  | .resolve t field site => dropping (resolve policy m depth t field site)
  | .named name site => dropping (named policy m depth name site)
  | .anonymousStruct fields field site =>
    dropping (anonymousStruct policy m depth fields field site)
  | .namedStruct d fields => dropping (namedStruct policy m depth d fields)
  | .structMembers owner fields => dropping (structMembers policy m depth owner fields)

end Extraction

/-! ## Section 4: Roots -/

/-- Whether values of type `t` are errors to the host, where each name on the way takes a level. -/
def HostModule.errorLikeWithin (m : HostModule) :
    Nat → List String → HostType → Option (Except String Bool)
  | 0, _, _ => none
  | depth + 1, path, t =>
    match t.deref with
    | .named name =>
      if name ∈ path then some (.error name)
      else match m.lookup name with
        | none => some (.ok false)
        | some decl => m.errorLikeWithin depth (name :: path) decl.type
    -- Only names lead on.
    | _ => some (m.errorLikeFrom path t)

namespace Extraction

open Extracting

variable (policy : ExtractPolicy) (m : HostModule) (depth : Nat)

/-- Whether values of type `t` are errors to the host. -/
def errorLike (t : HostType) : Extracting Bool :=
  match m.errorLikeWithin depth [] t with
  | none => stop .exhausted
  | some answer => ofExcept (answer.mapError .cyclicType)

def returned (site : String) (t : HostType) : Extracting TypeNode := do
  if ← errorLike m depth t then return .void
  else resolve policy m depth t none site

/-- What a method returns, by the number of its results. -/
def methodReturns (d : TypeDecl) (method : HostMethod) : Extracting TypeNode :=
  match method.signature.results with
  | [] => return .void
  | [only] => returned policy m depth s!"{d.name}.{method.name}" only
  | [first, second] => do
    if ← errorLike m depth second then returned policy m depth s!"{d.name}.{method.name}" first
    else fail (.invalidReturnShape d.name method.name)
  | _ => fail (.tooManyReturnValues d.name method.name)

def methodArgs (site : String) : List (HostParam × Nat) → Extracting (List Arg)
  | [] => return []
  | (param, i) :: rest => do
    let type ← resolve policy m depth param.type none site
    let args ← methodArgs site rest
    return ⟨policy.argName i param, type⟩ :: args

def methodMember (d : TypeDecl) (method : HostMethod) : Extracting Member :=
  if method.signature.variadic then fail (.unsupportedVariadic d.name method.name)
  else do
    let returns ← methodReturns policy m depth d method
    let args ← methodArgs policy m depth s!"{d.name}.{method.name}" method.signature.params.zipIdx
    return policy.methodOf d method returns args

def methodMembers (d : TypeDecl) : List HostMethod → Extracting (List Member)
  | [] => return []
  | method :: rest => do
    let member ← methodMember policy m depth d method
    let members ← methodMembers d rest
    return member :: members

def walkRoot (root : HostType) : Extracting Unit :=
  match root.deref with
  | .named name =>
    match m.lookup name with
    | none => fail (.unknownType name "root")
    | some d =>
      match d.type.deref with
      | .struct fields =>
        declareBy policy d (walking d (structMembers policy m depth d.name fields))
      | .interface methods => declareBy policy d do
        return policy.arrange (← methodMembers policy m depth d methods)
      | shape => fail (.unsuitableRoot d.name shape.kind)
  | .struct _ | .interface _ => fail .anonymousRoot
  | shape => fail (.unnamedRoot shape.kind)

/-- The whole extraction: the walk from the root, in a fresh state. -/
def extraction (root : HostType) : Answer Unit := walkRoot policy m depth root {}

/-- The graph that an extraction gives, in the order of the policy, if there are enough levels for
    an answer. -/
def graph (r : Answer Unit) : Option (Except ExtractError (List TypeNode)) :=
  match r.value with
  | .ok () => some (.ok (policy.sort.sortBy (·.name) (r.state.result.map (·.2))))
  | .error (.error e) => some (.error e)
  | .error .exhausted => none

/-! ## Section 5: How steps go on -/

namespace Extracting

variable {α β : Type} {x : Extracting α} {f : α → Extracting β} {s : Extraction}

/-- After a value the second step goes on from where the first one has led. -/
theorem bind_of_ok {a : α} (h : (x s).value = .ok a) :
    (x >>= f) s = ⟨(f a (x s).state).value, (f a (x s).state).state,
      (x s).log ++ (f a (x s).state).log⟩ := by
  simp only [bind, h]

/-- A step that stops is the last one. -/
theorem bind_of_error {why : Stop} (h : (x s).value = .error why) :
    (x >>= f) s = ⟨.error why, (x s).state, (x s).log⟩ := by
  simp only [bind, h]

/-- The record of a call that has an answer ends with the answer. -/
theorem log_recorded {a : α} (call : Call) (h : (x s).value = .ok a) :
    (recorded call x s).log =
      (.begun call s :: (x s).log) ++ [.answered call s (recorded call x s).state] := by
  simp only [recorded, Answer.ifOk, h]

theorem walking_of_ok {a : α} (d : TypeDecl) (h : (x s).value = .ok a) :
    walking d x s = ⟨.ok a, (x s).state, (x s).log ++ [.walked d s (x s).state]⟩ := by
  simp only [walking, Answer.ifOk, h]

theorem walking_of_error {why : Stop} (d : TypeDecl) (h : (x s).value = .error why) :
    walking d x s = ⟨.error why, (x s).state, (x s).log⟩ := by
  simp only [walking, Answer.ifOk, h, List.append_nil]

end Extracting

end Extraction

end TypeExport
