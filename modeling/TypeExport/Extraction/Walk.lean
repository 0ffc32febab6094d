import TypeExport.Extraction.Plain
import TypeExport.Host.Field
import TypeExport.Host.Module
import TypeExport.Policy.ExtractPolicy
import TypeExport.Upsert

/-! # Walking over Declarations

    A walk starts at a root and visits everything that its shape mentions.  It collects one node
    per declaration of the target language, the declarations a node needs before the node itself.

    A type is resolved in this order: pointers are looked through; a struct without a name is
    written inline, or promoted to a declaration named after its field; a reference is followed to
    its declaration, where a struct is embedded, declared or only mentioned, an enumeration is
    declared once, and any other shape stands for itself; all else is plain.

    The names on the way from the root to the current place form the path.  A declaration on the
    path is never entered again: where its name can be written instead, the name is written, and
    elsewhere the walk fails, because the type would have to contain itself.  As each step enters
    one more of finitely many declarations, every walk ends. -/

namespace TypeExport

/-! ## Section 1: State -/

/-- What a walk has found so far. -/
structure Progress where
  /-- The nodes, by distinct names, in the order in which their names were first found. -/
  nodes : List TypeNode := []
  /-- Host names of the structs, interfaces and enumerations that have a node. -/
  declared : List String := []

/-- A step of a walk. -/
abbrev Walk (α : Type) := StateT Progress (Except ExtractError) α

/-- Resolves a reference: the name and the site it is met at. -/
abbrev Visit := String → String → Walk TypeNode

/-- Adds a node, in place of an earlier one of the same name. -/
def addNode (node : TypeNode) : Walk Unit :=
  modify fun found => { found with nodes := upsert TypeNode.name node found.nodes }

/-- Notes that the host name has a node. -/
def markDeclared (name : String) : Walk Unit :=
  modify fun found => { found with declared := name :: found.declared }

namespace ExtractPolicy

variable (policy : ExtractPolicy)

/-- A documentation text, if it says anything. -/
def comment? (text : String) : Option String := if text = "" then none else some text

def declComment (decl : TypeDecl) : Option String := comment? (policy.docs.forType decl)

def arrange (members : List Member) : List Member := policy.sort.sortBy (·.name) members

/-! ## Section 2: Shapes -/

/-- The node of an anonymous struct with these members: a reference to a new declaration if the
    policy promotes it and it stands in a field, an inline interface otherwise. -/
def anonymousStruct (field : Option HostField) (members : List Member) : Walk TypeNode :=
  match policy.anonNamer, field with
  | some namer, some field => do
    addNode (.interface (namer field) none members)
    return .simple (namer field)
  | _, _ => return .interface "" none members

mutual

/-- The node of a type that stands in `field`, if it stands in one directly. -/
def resolve (visit : Visit) (site : String) (field : Option HostField) : HostType → Walk TypeNode
  | .slice elem | .array _ elem => do
    let elem ← resolve visit site none elem
    return .array [elem]
  | .map key value => do
    let key ← resolve visit site none key
    let value ← resolve visit site none value
    return .map [key, value]
  | .pointer elem => resolve visit site field elem
  | .struct fields => do
    let members ← structMembers visit site fields
    policy.anonymousStruct field (policy.arrange members)
  | .named name => visit name site
  | t => liftExcept (leaf site t)

/-- The members made of the fields of `owner`, in the order of the fields.  A field that is not
    exported, or whose tag says so, is passed over before its type is looked at. -/
def structMembers (visit : Visit) (owner : String) : List HostField → Walk (List Member)
  | [] => return []
  | field@⟨fieldName, type, _⟩ :: rest => do
    let name := field.parsedTag.rename.getD fieldName
    if field.isExported && name != "-" then
      let type ← resolve visit s!"{owner}.{fieldName}" (some field) type
      let members ← structMembers visit owner rest
      return { Member.property name type with optional := field.parsedTag.optional } :: members
    else structMembers visit owner rest

end

/-! ## Section 3: Declarations -/

/-- Adds the interface of a declaration, once its members are known. -/
def declare (decl : TypeDecl) (members : List Member) : Walk Unit := do
  markDeclared decl.name
  addNode (.interface (policy.typeNamer decl) (policy.declComment decl) (policy.arrange members))

/-- The reference to an enumeration, which is declared when it is met for the first time. -/
def enumeration (provider : EnumProvider) (decl : TypeDecl) : Walk TypeNode := do
  unless (← get).declared.contains decl.name do
    match provider.members decl with
    | .error cause => throw (.enumProvider decl.name cause)
    | .ok members =>
      markDeclared decl.name
      addNode (.enum (policy.typeNamer decl) (policy.declComment decl)
        (policy.sort.sortBy (·.name) members))
  return .simple (policy.typeNamer decl)

/-- The provider, if it claims the declaration as an enumeration. -/
def claims? (decl : TypeDecl) : Option EnumProvider :=
  policy.enums.filter (·.isEnum decl)

/-- The node of a reference to `decl`.  `inside` visits references inside the declaration; there is
    none if the declaration is on the path already. -/
def reference (decl : TypeDecl) (site : String) (inside : Option Visit) : Walk TypeNode :=
  match decl.type.deref with
  | .struct fields => do
    if policy.embedStructs then
      -- The struct is written out, so it cannot stand inside itself.
      match inside with
      | none => throw (.cyclicType decl.name)
      | some visit =>
        let members ← policy.structMembers visit decl.name fields
        return .interface "" (policy.declComment decl) (policy.arrange members)
    else
      -- A name is enough: a struct on the path is going to be declared by its own visit.
      if policy.followStructs then
        match inside with
        | none => pure ()
        | some visit =>
          unless (← get).declared.contains decl.name do
            policy.declare decl (← policy.structMembers visit decl.name fields)
      return .simple (policy.typeNamer decl)
  | shape =>
    -- The provider is asked first: it may claim a shape that has no counterpart.
    match policy.claims? decl, shape, inside with
    | some provider, _, _ => policy.enumeration provider decl
    | none, .interface _, _ => throw (.unsupportedKind "interface" site)
    | none, _, none => throw (.cyclicType decl.name)
    | none, _, some visit => policy.resolve visit site none decl.type

/-- Visits references to declarations of `m` from a place with the given path. -/
def visit (m : HostModule) (path : List String) : Visit := fun name site =>
  match _found : m.lookup name with
  | none => throw (.unknownType name site)
  | some decl =>
    policy.reference decl site
      (if _new : decl.name ∈ path then none else some (visit m (decl.name :: path)))
termination_by m.unentered path
decreasing_by exact HostModule.unentered_lt (HostModule.mem_of_lookup _found) _new

/-! ## Section 4: Methods -/

/-- Whether values of type `t` are errors to the host. -/
def errorLike (m : HostModule) (t : HostType) : Walk Bool :=
  match m.isErrorLike t with
  | .ok b => return b
  | .error name => throw (.cyclicType name)

/-- What a method returns whose first result is `t`: nothing, if that is an error. -/
def returned (m : HostModule) (visit : Visit) (site : String) (t : HostType) : Walk TypeNode := do
  if ← errorLike m t then return .void
  else policy.resolve visit site none t

def argName (i : Nat) (param : HostParam) : String :=
  match param.name with
  | some name => if policy.preserveParamNames && name != "" then name else s!"arg{i}"
  | none => s!"arg{i}"

/-- The member made of a method of `decl`.  At most two results are allowed, the second of which
    must be an error. -/
def methodMember (m : HostModule) (visit : Visit) (decl : TypeDecl) (method : HostMethod) :
    Walk Member := do
  let site := s!"{decl.name}.{method.name}"
  if method.signature.variadic then throw (.unsupportedVariadic decl.name method.name)
  -- Results come before parameters, so a fault in a result is the one that is reported.
  let returns ← match method.signature.results with
    | [] => pure .void
    | [only] => policy.returned m visit site only
    | [first, second] => do
      -- The second result is judged before the first one is looked at.
      unless ← errorLike m second do throw (.invalidReturnShape decl.name method.name)
      policy.returned m visit site first
    | _ => throw (.tooManyReturnValues decl.name method.name)
  let args ← method.signature.params.zipIdx.mapM fun (param, i) => do
    let type ← policy.resolve visit site none param.type
    return (⟨policy.argName i param, type⟩ : Arg)
  return { Member.method method.name returns args with
    comment := comment? (policy.docs.forMethod decl method) }

/-! ## Section 5: Roots -/

def walkRoot (m : HostModule) (root : HostType) : Walk Unit :=
  match root.deref with
  | .named name =>
    match m.lookup name with
    | none => throw (.unknownType name "root")
    | some decl =>
      let visit := policy.visit m [decl.name]
      match decl.type.deref with
      | .struct fields => do policy.declare decl (← policy.structMembers visit decl.name fields)
      | .interface methods => do
        policy.declare decl (← methods.mapM (policy.methodMember m visit decl))
      | shape => throw (.unsuitableRoot decl.name shape.kind)
  | .struct _ | .interface _ => throw .anonymousRoot
  | shape => throw (.unnamedRoot shape.kind)

end ExtractPolicy

/-- The graph of everything that a walk from `root` declares.  The root must denote a declared
    struct or interface. -/
def extract (m : HostModule) (root : HostType) (policy : ExtractPolicy) :
    Except ExtractError (List TypeNode) := do
  let ((), found) ← (policy.walkRoot m root).run {}
  return policy.sort.sortBy (·.name) found.nodes

def extractNamed (m : HostModule) (root : String) (policy : ExtractPolicy) :
    Except ExtractError (List TypeNode) := extract m (.named root) policy

end TypeExport
