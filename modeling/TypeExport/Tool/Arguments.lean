import TypeExport.Casing

/-! # Command-Line Arguments

    The command takes one descriptor file, at least one root, and options.  A word that begins with
    a minus sign is an option, unless it is the sign alone; two minus signs alone end the options.
    The value of an option follows after an equals sign or as the next word; short options may be
    written in one word, the last of them with its value.

    The value of an option, and the descriptor file, are looked at when the next known argument is
    met or when the words are used up.  So an unknown word is reported even if a value before it is
    wrong, and every other fault is reported in the order of the words. -/

namespace TypeExport.Tool

/-! ## Section 1: Arguments -/

/-- What the command emits. -/
inductive Emit where
  /-- Declarations. -/
  | ts
  /-- The type graph as JSON. -/
  | ir
  deriving Repr, DecidableEq

/-- The orders that arguments and settings can name. -/
inductive SortKey where
  | discovery
  | alphabetical
  deriving Repr, DecidableEq

/-- The name of an order. -/
def SortKey.label : SortKey → String
  | .discovery => "discovery"
  | .alphabetical => "alphabetical"

/-- The order of a given name. -/
def SortKey.ofLabel? (name : String) : Option SortKey :=
  [SortKey.discovery, .alphabetical].find? (·.label == name)

/-- The arguments of one call. -/
structure Arguments where
  descriptors : String
  roots : List String
  output : Option String := none
  emit : Emit := .ts
  config : Option String := none
  followStructs : Bool := false
  embedStructs : Bool := false
  nameAnonStructs : Bool := false
  sort : Option SortKey := none
  typeNaming : Option CaseStyle := none
  enums : Bool := false
  docs : Bool := false
  preserveParamNames : Bool := false
  namespaceName : Option String := none
  preamble : Option String := none
  additionalPreamble : Option String := none
  enumsAsSumTypes : Bool := false
  verbose : Bool := false
  deriving Repr, DecidableEq

/-- Why words are not arguments of the command, or are not meant as such. -/
inductive UsageError where
  | unknownArgument
  /-- A value is missing or is none of those allowed. -/
  | invalidValue
  /-- A value is given to a switch. -/
  | tooManyValues
  /-- An argument that may be given once is given again. -/
  | argumentConflict
  | missingRequiredArgument
  | displayHelp
  | displayVersion
  deriving Repr, DecidableEq

/-- The exit code of a call that ends with the words: help and version are no faults. -/
def UsageError.exitCode : UsageError → Nat
  | .displayHelp | .displayVersion => 0
  | _ => 2

/-! ## Section 2: Parameters -/

/-- The parameters of the command. -/
inductive Parameter where
  | descriptors
  | root
  | output
  | emit
  | config
  | followStructs
  | embedStructs
  | nameAnonStructs
  | sort
  | typeNaming
  | enums
  | docs
  | preserveParamNames
  | namespaceName
  | preamble
  | additionalPreamble
  | enumsAsSumTypes
  | verbose
  | help
  | version
  deriving Repr, DecidableEq

namespace Parameter

/-- The long names of options. -/
def longNames : List (String × Parameter) := [
  ("root", .root), ("output", .output), ("emit", .emit), ("config", .config),
  ("follow-structs", .followStructs), ("embed-structs", .embedStructs),
  ("name-anon-structs", .nameAnonStructs), ("sort", .sort), ("type-naming", .typeNaming),
  ("enums", .enums), ("docs", .docs), ("preserve-param-names", .preserveParamNames),
  ("namespace", .namespaceName), ("preamble", .preamble),
  ("additional-preamble", .additionalPreamble), ("enums-as-sum-types", .enumsAsSumTypes),
  ("verbose", .verbose), ("help", .help), ("version", .version)]

/-- The short names of options. -/
def shortNames : List (Char × Parameter) := [
  ('r', .root), ('o', .output), ('v', .verbose), ('h', .help), ('V', .version)]

/-- Whether a parameter takes a value. -/
def takesValue : Parameter → Bool
  | .descriptors | .root | .output | .emit | .config | .sort | .typeNaming | .namespaceName
  | .preamble | .additionalPreamble => true
  | _ => false

end Parameter

/-! ## Section 3: Values -/

/-- The arguments as far as they have been given. -/
structure Given where
  /-- The parameters that have been given. -/
  seen : List Parameter := []
  descriptors : Option String := none
  /-- All else; the descriptor file in it is not used. -/
  rest : Arguments := { descriptors := "", roots := [] }

namespace Given

/-- A path, which must not be empty. -/
def path (v : String) : Except UsageError String := if v = "" then .error .invalidValue else .ok v

/-- A value that is one of those allowed. -/
def choice {α : Type} : Option α → Except UsageError α
  | some a => .ok a
  | none => .error .invalidValue

/-- Sets a parameter to the value `v`, which a switch does not look at. -/
def set (g : Given) (p : Parameter) (v : String) : Except UsageError Given :=
  let r := g.rest
  match p with
  | .descriptors => return { g with descriptors := ← path v }
  | .root => return { g with rest := { r with roots := r.roots ++ [v] } }
  | .output => return { g with rest := { r with output := ← path v } }
  | .emit => return { g with rest := { r with
      emit := ← choice ([("ts", Emit.ts), ("ir", Emit.ir)].lookup v) } }
  | .config => return { g with rest := { r with config := ← path v } }
  | .followStructs => return { g with rest := { r with followStructs := true } }
  | .embedStructs => return { g with rest := { r with embedStructs := true } }
  | .nameAnonStructs => return { g with rest := { r with nameAnonStructs := true } }
  | .sort => return { g with rest := { r with sort := ← choice (SortKey.ofLabel? v) } }
  | .typeNaming =>
    return { g with rest := { r with typeNaming := ← choice (CaseStyle.ofLabel? v) } }
  | .enums => return { g with rest := { r with enums := true } }
  | .docs => return { g with rest := { r with docs := true } }
  | .preserveParamNames => return { g with rest := { r with preserveParamNames := true } }
  | .namespaceName => return { g with rest := { r with namespaceName := v } }
  | .preamble => return { g with rest := { r with preamble := v } }
  | .additionalPreamble => return { g with rest := { r with additionalPreamble := v } }
  | .enumsAsSumTypes => return { g with rest := { r with enumsAsSumTypes := true } }
  | .verbose => return { g with rest := { r with verbose := true } }
  | .help => throw .displayHelp
  | .version => throw .displayVersion

/-- Gives a parameter with the value that was found for it.  Only roots may be given again. -/
def give (g : Given) (p : Parameter) (v : Option String) : Except UsageError Given :=
  if p.takesValue && v.isNone then .error .invalidValue
  else if g.seen.contains p && p != .root then .error .argumentConflict
  else ({ g with seen := p :: g.seen }).set p (v.getD "")

/-- The arguments, if the required ones have been given. -/
def finish (g : Given) : Except UsageError Arguments :=
  match g.descriptors with
  | some descriptors =>
    if g.rest.roots.isEmpty then .error .missingRequiredArgument
    else .ok { g.rest with descriptors }
  | none => .error .missingRequiredArgument

end Given

/-! ## Section 4: Words -/

/-- The state between two words. -/
structure Reading where
  given : Given := {}
  /-- A parameter that takes a value, and the value if it has been met. -/
  pending : Option (Parameter × Option String) := none
  /-- Whether the descriptor file has been met. -/
  positional : Bool := false
  /-- Whether the options have ended. -/
  trailing : Bool := false

namespace Reading

/-- Gives the pending parameter. -/
def settle (s : Reading) : Except UsageError Reading :=
  match s.pending with
  | none => .ok s
  | some (p, v) => return { s with given := ← s.given.give p v, pending := none }

/-- Takes an option with the value attached to it, if there is one. -/
def option (s : Reading) (p : Parameter) (attached : Option String) : Except UsageError Reading :=
  -- A value that is still to come settles the option only when the next one is met.
  if p.takesValue && attached.isNone then
    return { (← s.settle) with pending := some (p, none) }
  else do
    let s ← s.settle
    return { s with given := ← s.given.give p attached }

/-- Takes a word that begins with two minus signs. -/
def long (s : Reading) (body : List Char) : Except UsageError Reading :=
  let name := String.ofList (body.takeWhile (· != '='))
  let attached := match body.dropWhile (· != '=') with
    | [] => none
    | _ :: v => some (String.ofList v)
  match Parameter.longNames.lookup name with
  | none => .error .unknownArgument
  | some p =>
    if !p.takesValue && attached.isSome then .error .tooManyValues else s.option p attached

/-- Takes a word that begins with one minus sign. -/
def short (s : Reading) : List Char → Except UsageError Reading
  | [] => .ok s
  | c :: rest =>
    match Parameter.shortNames.lookup c with
    | none => .error .unknownArgument
    | some p =>
      if p.takesValue then
        s.option p <| match rest with
          | [] => none
          | '=' :: v => some (String.ofList v)
          | v => some (String.ofList v)
      else do short (← s.option p none) rest

/-- Takes a word that is no option: a value that is waited for, or the descriptor file. -/
def plain (s : Reading) (word : String) : Except UsageError Reading :=
  match s.pending, s.trailing with
  | some (p, none), false => .ok { s with pending := some (p, some word) }
  | _, _ =>
    -- There is one positional argument; a second one is reported before anything pending.
    if s.positional then .error .unknownArgument
    else return { (← s.settle) with pending := some (.descriptors, some word), positional := true }

/-- Takes one word. -/
def word (s : Reading) (w : String) : Except UsageError Reading :=
  match s.trailing, w.toList with
  | true, _ => s.plain w
  | false, ['-', '-'] => .ok { s with trailing := true }
  | false, '-' :: '-' :: body => s.long body
  | false, '-' :: c :: rest => s.short (c :: rest)
  | false, _ => s.plain w

end Reading

/-- The arguments that the words of a call give. -/
def Arguments.parse (words : List String) : Except UsageError Arguments := do
  let s ← words.foldlM Reading.word {}
  (← s.settle).given.finish

end TypeExport.Tool
