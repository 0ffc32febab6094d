import TypeExport.Declaration.MemberName
import TypeExport.Declaration.Options
import TypeExport.Graph.Node
import TypeExport.Text.Lines

/-! # Declarations as Text

    Writes a type graph as declarations of the target language.  Each nested block is indented by
    four more spaces.  The whole text goes through the clean-up of blank lines at the end, so the
    pieces need not care how many line breaks meet.

    A graph is refused if a root is not a declaration, or if an array or a map that would be printed
    has the wrong number of parameters.  Nothing is passed on of a graph that is refused. -/

namespace TypeExport

open Text

/-! ## Section 1: Errors -/

/-- Why a graph has no text. -/
inductive RenderError where
  | invalidParamCount (kind : String) (expected found : Nat)
  | unsupportedRoot (kind : String)
  /-- The sink failed for the given reason. -/
  | write (reason : String)
  deriving Repr, DecidableEq

/-- The text that reports the failure, without its cause. -/
def RenderError.message : RenderError → String
  | .invalidParamCount kind expected found =>
    s!"{kind} needs {expected} type parameter(s), found {found}"
  | .unsupportedRoot kind => s!"cannot render a {kind} node as a top-level declaration"
  | .write _ => "failed to write declarations"

/-- The text of the failure behind this one, if there is one. -/
def RenderError.cause? : RenderError → Option String
  | .write reason => some reason
  | _ => none

namespace Render

/-! ## Section 2: Comments -/

def indent (depth : Nat) : String := String.ofList (List.replicate (4 * depth) ' ')

/-- One line of a comment; a blank line keeps only the mark. -/
def commentLine (depth : Nat) (line : List Char) : String :=
  indent depth ++ " *" ++
    (if isBlankLine line then "" else " " ++ String.ofList (trimEnd line)) ++ "\n"

def comment (depth : Nat) : Option String → String
  | none => ""
  | some text =>
    indent depth ++ "/**\n" ++ String.join ((lines text.toList).map (commentLine depth)) ++
      indent depth ++ " */\n"

/-! ## Section 3: Types -/

/-- A block between braces; an empty one takes no lines. -/
def block (depth : Nat) (empty : Bool) (body : String) : String :=
  if empty then "\x7b\x7d" else "\x7b\n" ++ body ++ indent depth ++ "\x7d"

mutual

/-- A type that stands in a line at nesting `depth`. -/
def type (depth : Nat) : TypeNode → Except RenderError String
  | .simple name => .ok name
  | .void => .ok "void"
  | .array [elem] => do
    let elem ← type depth elem
    return elem ++ "[]"
  | .array params => .error (.invalidParamCount "array" 1 params.length)
  | .map [key, value] => do
    let key ← type depth key
    let value ← type depth value
    return "\x7b [key: " ++ key ++ "]: " ++ value ++ " \x7d"
  | .map params => .error (.invalidParamCount "map" 2 params.length)
  | .interface _ _ ms => do
    let body ← members (depth + 1) ms
    return block depth ms.isEmpty body
  | .enum name _ _ => .ok name

/-- The members of an interface, a line each after its comment.  Parameters are written of methods
    only. -/
def members (depth : Nat) : List Member → Except RenderError String
  | [] => .ok ""
  | ⟨name, t, optional, function, doc, args⟩ :: rest => do
    -- Parameters are printed before the result, so their faults are reported first.
    let params ← if function then params depth args else pure []
    let t ← type depth t
    let rest ← members depth rest
    return comment depth doc ++ indent depth ++ memberName name ++ (if optional then "?" else "") ++
      (if function then "(" ++ ", ".intercalate params ++ ")" else "") ++ ": " ++ t ++ ";\n" ++ rest

def params (depth : Nat) : List Arg → Except RenderError (List String)
  | [] => .ok []
  | ⟨name, t⟩ :: rest => do
    let t ← type depth t
    let rest ← params depth rest
    return (name ++ ": " ++ t) :: rest

end

/-! ## Section 4: Declarations -/

/-- One member of an enumeration block. -/
def enumLine (depth : Nat) (m : EnumMember) : String :=
  indent depth ++ memberName m.name ++ " = " ++ m.value ++ ",\n"

def sumType (ms : List EnumMember) : String :=
  if ms.isEmpty then "never" else " | ".intercalate (ms.map (·.value))

/-- A root as a declaration at nesting `depth`. -/
def declaration (sumTypes : Bool) (depth : Nat) : TypeNode → Except RenderError String
  | .interface name doc ms => do
    if name = "" then throw (.unsupportedRoot "anonymous interface")
    let body ← type depth (.interface name doc ms)
    return comment depth doc ++ indent depth ++ "export interface " ++ name ++ " " ++ body
  | .enum name doc ms =>
    .ok <| comment depth doc ++ indent depth ++
      if sumTypes then "export type " ++ name ++ " = " ++ sumType ms ++ ";"
      else "export enum " ++ name ++ " " ++
        block depth ms.isEmpty (String.join (ms.map (enumLine (depth + 1))))
  | node => .error (.unsupportedRoot node.kind)

/-- The declarations of a graph between preamble and end, before the clean-up. -/
def file (options : RenderOptions) (graph : List TypeNode) : Except RenderError String := do
  let depth := if options.namespaceName.isSome then 1 else 0
  let ds ← graph.mapM (declaration options.enumsAsSumTypes depth)
  -- One line feed ends a declaration, one more separates it from the next.
  let body := "\n".intercalate (ds.map (· ++ "\n"))
  return options.preamble ++ "\n\n" ++
    match options.namespaceName with
    | none => body
    | some name => "export namespace " ++ name ++ " \x7b\n" ++ body ++ "\x7d\n"

end Render

/-! ## Section 5: Rendering -/

def render (graph : List TypeNode) (options : RenderOptions) : Except RenderError String := do
  let text ← Render.file options graph
  return collapseBlankLines text

/-- A place to write to, which may refuse to take text or to settle it. -/
structure Sink where
  received : String := ""
  writeFault : Option String := none
  flushFault : Option String := none
  deriving Repr, DecidableEq

/-- Hands a text over.  An empty text is never handed over, so it cannot be refused. -/
def Sink.write (sink : Sink) (text : String) : Except RenderError Sink :=
  if text = "" then .ok sink
  else match sink.writeFault with
    | some reason => .error (.write reason)
    | none => .ok { sink with received := sink.received ++ text }

/-- Settles what was handed over. -/
def Sink.flush (sink : Sink) : Except RenderError Unit :=
  match sink.flushFault with
  | some reason => .error (.write reason)
  | none => .ok ()

/-- Writes the text of a graph to a sink, in one piece.  The sink is returned with what it has
    received, whether or not the writing succeeds. -/
def renderTo (sink : Sink) (graph : List TypeNode) (options : RenderOptions) :
    Sink × Except RenderError Unit :=
  match render graph options with
  | .error e => (sink, .error e)
  | .ok text =>
    match sink.write text with
    | .error e => (sink, .error e)
    | .ok sink => (sink, sink.flush)

end TypeExport
