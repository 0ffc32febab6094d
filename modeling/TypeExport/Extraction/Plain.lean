import TypeExport.Extraction.Error
import TypeExport.Graph.Node

/-! # Plain Types

    Truth values, numbers, text and collections have a counterpart in the target language whatever
    the policy.  `mapPlain` maps one layer and hands the types inside to the caller, so that
    structs and enumerations inside collections go through the policy; `plain` maps all layers by
    this rule alone. -/

namespace TypeExport

/-- The node of a type with no types inside, if its kind has a counterpart.  All numeric widths
    become the one numeric type of the target language. -/
def leaf (site : String) : HostType → Except ExtractError TypeNode
  | .bool => .ok .boolean
  | .int .. | .float _ => .ok .number
  | .string => .ok .string
  | t => .error (.unsupportedKind t.kind site)

/-- The node of one layer of a plain type; `resolve` gives the nodes of the types inside. -/
def mapPlain {m : Type → Type} [Monad m] [MonadExceptOf ExtractError m]
    (resolve : HostType → m TypeNode) (site : String) : HostType → m TypeNode
  | .slice elem | .array _ elem => do
    let elem ← resolve elem
    return .array [elem]
  | .map key value => do
    let key ← resolve key
    let value ← resolve value
    return .map [key, value]
  | .pointer elem => resolve elem
  | t => liftExcept (leaf site t)

/-- The node of a type that is plain in all its layers. -/
def plain (site : String) : HostType → Except ExtractError TypeNode
  | .slice elem | .array _ elem => do
    let elem ← plain site elem
    return .array [elem]
  | .map key value => do
    let key ← plain site key
    let value ← plain site value
    return .map [key, value]
  | .pointer elem => plain site elem
  | t => leaf site t

/-- Each layer follows the rule for one layer. -/
theorem plain_eq_mapPlain (site : String) (t : HostType) :
    plain site t = mapPlain (plain site) site t := by
  cases t <;> rfl

end TypeExport
