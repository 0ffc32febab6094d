import TypeExport.Graph.Tree
import TypeExport.Host.Module

/-! # Host Declarations as Data

    How modules, declarations and host types are written as data and read back.

    Writing leaves out texts and annotations that are not there, and writes everything else,
    defaults included.  Reading takes every form that the rules for records allow, with one
    exception: a method must be a record with entries, because the parts of its signature stand
    side by side with its name.

    A type is needed as a whole, so everything in it must denote something, also what is passed
    over.  Around types, only what is looked at must. -/

namespace TypeExport

open TypeExport.Tree

/-! ## Section 1: Writing -/

/-- The entries of a signature whose parameters and results have been written. -/
def signatureEntries (params results : List Tree) (variadic : Bool) : List (String × Tree) :=
  [("params", .list params), ("results", .list results), ("variadic", .bool variadic)]

mutual

def HostType.toTree : HostType → Tree
  | .bool => .record [("kind", .text "bool")]
  | .int bits unsigned =>
    .record [("kind", .text "int"), ("bits", .natural bits), ("unsigned", .bool unsigned)]
  | .float bits => .record [("kind", .text "float"), ("bits", .natural bits)]
  | .complex bits => .record [("kind", .text "complex"), ("bits", .natural bits)]
  | .string => .record [("kind", .text "string")]
  | .slice elem => .record [("kind", .text "slice"), ("elem", elem.toTree)]
  | .array len elem =>
    .record [("kind", .text "array"), ("len", .natural len), ("elem", elem.toTree)]
  | .map key value =>
    .record [("kind", .text "map"), ("key", key.toTree), ("value", value.toTree)]
  | .pointer elem => .record [("kind", .text "pointer"), ("elem", elem.toTree)]
  | .struct fields => .record [("kind", .text "struct"), ("fields", .list (fieldsToTrees fields))]
  | .interface methods =>
    .record [("kind", .text "interface"), ("methods", .list (methodsToTrees methods))]
  | .error => .record [("kind", .text "error")]
  | .chan elem => .record [("kind", .text "chan"), ("elem", elem.toTree)]
  | .func ⟨params, results, variadic⟩ =>
    .record [("kind", .text "func"), ("signature",
      .record (signatureEntries (paramsToTrees params) (typesToTrees results) variadic))]
  | .named name => .record [("kind", .text "named"), ("name", .text name)]

def fieldsToTrees : List HostField → List Tree
  | [] => []
  | ⟨name, type, tag⟩ :: rest =>
    .record ([("name", .text name), ("type", type.toTree)] ++ textEntry "tag" tag) ::
      fieldsToTrees rest

def methodsToTrees : List HostMethod → List Tree
  | [] => []
  | ⟨name, ⟨params, results, variadic⟩, docs⟩ :: rest =>
    .record ([("name", .text name)] ++
      signatureEntries (paramsToTrees params) (typesToTrees results) variadic ++
      textEntry "docs" docs) :: methodsToTrees rest

def paramsToTrees : List HostParam → List Tree
  | [] => []
  | ⟨name, type⟩ :: rest =>
    .record (textEntry "name" name ++ [("type", type.toTree)]) :: paramsToTrees rest

def typesToTrees : List HostType → List Tree
  | [] => []
  | t :: rest => t.toTree :: typesToTrees rest

end

def TypeDecl.toTree (decl : TypeDecl) : Tree :=
  .record ([("name", .text decl.name), ("type", decl.type.toTree)] ++
    textEntry "docs" decl.docs ++
    match decl.enum with
    | some members => [("enum", .list (members.map EnumMember.toTree))]
    | none => [])

def HostModule.toTree (m : HostModule) : Tree :=
  .record (textEntry "package" m.package ++ [("types", .list (m.types.map TypeDecl.toTree))])

/-! ## Section 2: Reading types -/

def HostType.kinds : List String :=
  ["bool", "int", "float", "complex", "string", "slice", "array", "map", "pointer", "struct",
    "interface", "error", "chan", "func", "named"]

mutual

/-- Reads a type; `nested` tells that it stands inside another one. -/
def HostType.ofTree (nested : Bool) (t : Tree) : Option HostType :=
  match _tagged : t.tagged? with
  | none => none
  | some (tag, body) =>
    match kindOf HostType.kinds nested tag with
    | some "bool" => if body.isBare then some .bool else none
    | some "string" => if body.isBare then some .string else none
    | some "error" => if body.isBare then some .error else none
    | some "int" =>
      match body.slots ["bits", "unsigned"] false with
      | some [bits, unsigned] => do return .int (← width 64 bits) (← flag unsigned)
      | _ => none
    | some "float" =>
      match body.slots ["bits"] false with
      | some [bits] => .float <$> width 64 bits
      | _ => none
    | some "complex" =>
      match body.slots ["bits"] false with
      | some [bits] => .complex <$> width 128 bits
      | _ => none
    | some "slice" =>
      match _slots : body.slots ["elem"] false with
      | some [some elem] => .slice <$> HostType.ofTree true elem
      | _ => none
    | some "array" =>
      match _slots : body.slots ["len", "elem"] false with
      | some [some len, some elem] => do
        return .array (← len.natBelow wordValues) (← HostType.ofTree true elem)
      | _ => none
    | some "map" =>
      match _slots : body.slots ["key", "value"] false with
      | some [some key, some value] => do
        return .map (← HostType.ofTree true key) (← HostType.ofTree true value)
      | _ => none
    | some "pointer" =>
      match _slots : body.slots ["elem"] false with
      | some [some elem] => .pointer <$> HostType.ofTree true elem
      | _ => none
    | some "struct" =>
      match _slots : body.slots ["fields"] false with
      | some [fields] =>
        match _items : itemsOrNone fields with
        | some items => .struct <$> fieldsOfTrees items
        | none => none
      | _ => none
    | some "interface" =>
      match _slots : body.slots ["methods"] false with
      | some [methods] =>
        match _items : itemsOrNone methods with
        | some items => .interface <$> methodsOfTrees items
        | none => none
      | _ => none
    | some "chan" =>
      match _slots : body.slots ["elem"] false with
      | some [some elem] => .chan <$> HostType.ofTree true elem
      | _ => none
    | some "func" =>
      match _slots : body.slots ["signature"] false with
      | some [some signature] => .func <$> signatureOfTree signature
      | _ => none
    | some _ =>
      match body.slots ["name"] false with
      | some [some (.text name)] => some (.named name)
      | _ => none
    | none => none
termination_by (sizeOf t, 0)
decreasing_by
  all_goals apply Prod.Lex.left
  · exact sizeOf_lt_of_slot (x := elem) _tagged _slots (by simp)
  · exact sizeOf_lt_of_slot (x := elem) _tagged _slots (by simp)
  · exact sizeOf_lt_of_slot (x := key) _tagged _slots (by simp)
  · exact sizeOf_lt_of_slot (x := value) _tagged _slots (by simp)
  · exact sizeOf_lt_of_slot (x := elem) _tagged _slots (by simp)
  · exact sizeOf_lt_of_tagged_optionalSlot _tagged _slots (by simp) _items
  · exact sizeOf_lt_of_tagged_optionalSlot _tagged _slots (by simp) _items
  · exact sizeOf_lt_of_slot (x := elem) _tagged _slots (by simp)
  · exact sizeOf_lt_of_slot (x := signature) _tagged _slots (by simp)

def fieldsOfTrees : List Tree → Option (List HostField)
  | [] => some []
  | t :: rest =>
    match _slots : t.slots ["name", "type", "tag"] false with
    | some [some (.text name), some type, tag] => do
      return ⟨name, ← HostType.ofTree true type, ← optionalText tag⟩ :: (← fieldsOfTrees rest)
    | _ => none
termination_by ts => (sizeOf ts, 0)
decreasing_by
  all_goals apply Prod.Lex.left
  · exact sizeOf_lt_of_headSlot (x := type) _slots (by simp)
  · simp only [List.cons.sizeOf_spec]; omega

def methodsOfTrees : List Tree → Option (List HostMethod)
  | [] => some []
  | .record entries :: rest =>
    match (Tree.record entries).slots ["name", "docs"] false with
    | some [some (.text name), docs] => do
      return ⟨name, ← signatureOfTree (.record entries), ← optionalText docs⟩ ::
        (← methodsOfTrees rest)
    | _ => none
  | _ => none
termination_by ts => (sizeOf ts, 0)
decreasing_by
  all_goals
    apply Prod.Lex.left
    simp only [List.cons.sizeOf_spec]
    omega

def signatureOfTree (t : Tree) : Option Signature :=
  match _slots : t.slots ["params", "results", "variadic"] false with
  | some [params, results, variadic] =>
    match _params : itemsOrNone params, _results : itemsOrNone results with
    | some params, some results => do
      return ⟨← paramsOfTrees params, ← typesOfTrees results, ← flag variadic⟩
    | _, _ => none
  | _ => none
termination_by (sizeOf t, 1)
decreasing_by
  all_goals apply Prod.Lex.left
  · exact sizeOf_lt_of_optionalSlot _slots (by simp) _params
  · exact sizeOf_lt_of_optionalSlot _slots (by simp) _results

def paramsOfTrees : List Tree → Option (List HostParam)
  | [] => some []
  | t :: rest =>
    match _slots : t.slots ["name", "type"] false with
    | some [name, some type] => do
      return ⟨← optionalText name, ← HostType.ofTree true type⟩ :: (← paramsOfTrees rest)
    | _ => none
termination_by ts => (sizeOf ts, 0)
decreasing_by
  all_goals apply Prod.Lex.left
  · exact sizeOf_lt_of_headSlot (x := type) _slots (by simp)
  · simp only [List.cons.sizeOf_spec]; omega

def typesOfTrees : List Tree → Option (List HostType)
  | [] => some []
  | t :: rest => do return (← HostType.ofTree true t) :: (← typesOfTrees rest)
termination_by ts => (sizeOf ts, 0)
decreasing_by
  all_goals
    apply Prod.Lex.left
    simp only [List.cons.sizeOf_spec]
    omega

end

/-- Reads a type that stands on its own. -/
def HostType.read (t : Tree) : Option HostType :=
  if t.isReadable then HostType.ofTree false t else none

def HostField.readAll : Tree → Option (List HostField)
  | .list items => items.mapM fun t =>
    match t.slots ["name", "type", "tag"] false with
    | some [some (.text name), some type, tag] => do
      return ⟨name, ← HostType.read type, ← optionalText tag⟩
    | _ => none
  | _ => none

/-! ## Section 3: Reading modules -/

/-- Reads the annotation of an enumeration, if it is there and not nothing. -/
def enumAnnotation (lenient : Bool) : Option Tree → Option (Option (List EnumMember))
  | none | some .null => some none
  | some (.list items) => some <$> items.mapM (EnumMember.ofTree lenient)
  | some _ => none

/-- Reads a declaration.  Items after those of a record written as a list are refused unless
    `lenient`, here and in the annotation. -/
def TypeDecl.ofTree (lenient : Bool) (t : Tree) : Option TypeDecl :=
  match t.slots ["name", "type", "docs", "enum"] lenient with
  | some [some (.text name), some type, docs, enum] => do
    return ⟨name, ← HostType.read type, ← optionalText docs, ← enumAnnotation lenient enum⟩
  | _ => none

def HostModule.ofTree (lenient : Bool) (t : Tree) : Option HostModule :=
  match t.slots ["package", "types"] lenient with
  | some [package, types] => do
    return ⟨← optionalText package, ← (← itemsOrNone types).mapM (TypeDecl.ofTree lenient)⟩
  | _ => none

end TypeExport
