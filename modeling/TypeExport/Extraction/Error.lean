import TypeExport.Policy.Providers

/-! # Extraction Errors

    The reasons for which a walk over declarations ends without a graph.  The first one met ends
    the whole walk. -/

namespace TypeExport

/-- Why a walk over declarations fails.  A site is the field or method being resolved. -/
inductive ExtractError where
  /-- A type of this kind has no counterpart in the target language. -/
  | unsupportedKind (kind site : String)
  /-- The second result of a method is not an error. -/
  | invalidReturnShape (typeName method : String)
  | tooManyReturnValues (typeName method : String)
  | unsupportedVariadic (typeName method : String)
  | enumProvider (typeName : String) (cause : ProviderError)
  /-- The root is a struct or an interface without a name. -/
  | anonymousRoot
  /-- The root is a type of a kind that is never declared. -/
  | unnamedRoot (kind : String)
  /-- The root names a declaration of another kind than struct and interface. -/
  | unsuitableRoot (name kind : String)
  | unknownType (name site : String)
  /-- The type contains itself in a place where it would have to be written out. -/
  | cyclicType (name : String)
  deriving Repr, DecidableEq

namespace ExtractError

/-- The text that reports the failure, without its cause. -/
def message : ExtractError → String
  | unsupportedKind kind site => s!"cannot map {kind} to a TypeScript type (at {site})"
  | invalidReturnShape typeName method =>
    s!"second return value of {typeName}.{method} must be an error"
  | tooManyReturnValues typeName method =>
    s!"cannot export more than two return values in {typeName}.{method}"
  | unsupportedVariadic typeName method =>
    s!"variadic methods are not supported: {typeName}.{method}"
  | enumProvider typeName _ => s!"enumeration provider failed for {typeName}"
  | anonymousRoot =>
    "cannot extract a declaration from an anonymous type (declarations need a name)"
  | unnamedRoot kind => s!"cannot extract a declaration from {kind}"
  | unsuitableRoot name kind =>
    s!"cannot extract a declaration from {name} (a {kind}, not a struct or interface)"
  | unknownType name site => s!"unknown type {name} (at {site})"
  | cyclicType name => s!"{name} contains itself and cannot be inlined"

/-- The text of the failure behind this one, if there is one. -/
def cause? : ExtractError → Option String
  | enumProvider _ cause => some cause.message
  | _ => none

def fullMessage (e : ExtractError) : String :=
  match e.cause? with
  | some cause => s!"{e.message}: {cause}"
  | none => e.message

end ExtractError

end TypeExport
