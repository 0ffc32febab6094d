import TypeExport.Declaration.Render
import TypeExport.Extraction.Roots
import TypeExport.Host.Tree
import TypeExport.Json.Reader
import TypeExport.Json.Writer
import TypeExport.Toml.Reader
import TypeExport.Tool.Disk
import TypeExport.Tool.Settings

/-! # Running the Command

    The command reads its settings, then the descriptors, extracts all roots, and makes the whole
    text that is asked for.  Only then is anything written; a call that fails leaves every file
    and the output as they were. -/

namespace TypeExport.Tool

/-! ## Section 1: Failures -/

/-- Why a call fails.  What the system refuses comes with its reason. -/
inductive Failure where
  | noWorkingDirectory (reason : String)
  | unreadable (form : FileForm) (path reason : String)
  | invalid (form : FileForm) (path reason : String)
  | policy (e : PolicyError)
  | extraction (e : RootError)
  | rendering (e : RenderError)
  | unwritable (path reason : String)
  | unprintable (reason : String)
  deriving Repr, DecidableEq

/-- The texts that tell the failure, from what was tried to the reason why it failed. -/
def Failure.chain : Failure → List String
  | .noWorkingDirectory reason => ["failed to read working directory", reason]
  | .unreadable form path reason => ["failed to read " ++ form.label ++ " " ++ path, reason]
  | .invalid form path reason => ["invalid " ++ form.label ++ " " ++ path, reason]
  | .policy e => [e.message]
  | .extraction e => [e.message]
  | .rendering e => e.message :: e.cause?.toList
  | .unwritable path reason => ["failed to write " ++ path, reason]
  | .unprintable reason => [reason]

/-- The report of a failure. -/
def Failure.report (f : Failure) : String := "Error: " ++ ": ".intercalate f.chain ++ "\n"

/-! ## Section 2: Forms of files -/

/-- The form of a file with descriptors: TOML if its extension says so, JSON otherwise. -/
def descriptorForm (path : String) : FileForm :=
  if extension? path = some "toml" then .tomlDescriptors else .jsonDescriptors

/-- The descriptors in a file of the given name. -/
def readDescriptors (path text : String) : Option HostModule :=
  if extension? path = some "toml" then Toml.read text >>= HostModule.ofTree true
  else Json.read text >>= HostModule.ofTree false

/-- The settings in a text. -/
def readSettings (text : String) : Option Settings := Toml.read text >>= Settings.ofTree

/-- A graph as JSON text. -/
def graphText (graph : List TypeNode) : String :=
  Json.pretty (.list (TypeNode.toTrees graph)) ++ "\n"

/-- The text of a graph in the form asked for. -/
def emitText (emit : Emit) (graph : List TypeNode) (options : RenderOptions) :
    Except RenderError String :=
  match emit with
  | .ts => render graph options
  | .ir => .ok (graphText graph)

/-! ## Section 3: Calls -/

section Calls

variable {m : Type → Type} [Monad m]

/-- The answer of a service.  When it is refused, the call fails. -/
def expect {α : Type} (answer : m (Except String α)) (failure : String → Failure) :
    ExceptT Failure m α := do
  match ← answer with
  | .ok a => return a
  | .error reason => throw (failure reason)

namespace Services

/-- What a reader finds in a file. -/
def load {α : Type} (sys : Services m) (form : FileForm) (read : String → Option α)
    (path : String) : ExceptT Failure m α := do
  let text ← expect (sys.read path) (.unreadable form path)
  match read text with
  | some a => return a
  | none => throw (.invalid form path (sys.complaint form text))

/-- The settings of a call in the directory `dir`.  Only a file that the arguments name must
    exist. -/
def loadSettings (sys : Services m) (dir : String) (args : Arguments) :
    ExceptT Failure m Settings := do
  match args.config with
  | some path => sys.load .settings readSettings path
  | none =>
    let path := joinPath dir settingsFile
    if ← sys.isFile path then sys.load .settings readSettings path else return {}

/-- The settings of a call after its arguments. -/
def configure (sys : Services m) (args : Arguments) : ExceptT Failure m Settings := do
  let dir ← expect sys.workingDirectory .noWorkingDirectory
  return (← sys.loadSettings dir args).apply args

/-- The descriptors in a file. -/
def loadDescriptors (sys : Services m) (path : String) : ExceptT Failure m HostModule :=
  sys.load (descriptorForm path) (readDescriptors path) path

/-- Writes a graph in the form asked for to a file, or to the output when there is no path. -/
def writeOutput (sys : Services m) (graph : List TypeNode) (emit : Emit) (options : RenderOptions)
    (target : Option String) : ExceptT Failure m Unit := do
  -- Nothing is handed over before the whole text is there.
  let text ← liftExcept ((emitText emit graph options).mapError Failure.rendering)
  match target with
  | some path => expect (sys.write path text) (.unwritable path)
  | none => expect (sys.print text) .unprintable

/-- A call.  Of several faults the first in this order is reported. -/
def call (sys : Services m) (args : Arguments) : ExceptT Failure m Unit := do
  let settings ← sys.configure args
  let policy ← liftExcept (settings.policy.mapError Failure.policy)
  let descriptors ← sys.loadDescriptors args.descriptors
  let graph ← liftExcept ((extractRoots descriptors args.roots policy).mapError Failure.extraction)
  sys.writeOutput graph args.emit settings.renderOptions args.output

/-- A call and the report of its failure.  The result is the exit code. -/
def run (sys : Services m) (args : Arguments) : m Nat := do
  match ← (sys.call args).run with
  | .ok () => return 0
  | .error f =>
    sys.report f.report
    return 1

end Services

end Calls

/-! ## Section 4: Calls in a directory -/

/-- What is left of a call: its exit code, its output, its report, and the directory. -/
structure Outcome where
  exitCode : Nat
  stdout : String
  stderr : String
  directory : Directory
  deriving Repr, DecidableEq

/-- Words that tell nothing of the system. -/
def plainWording : Wording where
  unreadable _ _ := "there is no text"
  unwritable _ _ := "no file can be there"
  complaint
    | .settings, _ => "these are no settings"
    | .jsonDescriptors, _ | .tomlDescriptors, _ => "these are no descriptors"

/-- A call in a directory. -/
def run (d : Directory) (args : Arguments) : Outcome :=
  let (exitCode, s) := (plainWording.machine.services.run args).run { disk := d.disk }
  ⟨exitCode, s.stdout, s.stderr, s.disk.directory⟩

end TypeExport.Tool
