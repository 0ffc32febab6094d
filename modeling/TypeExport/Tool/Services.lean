/-! # Services

    A call is written against the services of the system that it runs on, and against nothing else.
    So one and the same call runs in `IO` and on a machine, whose states are values.

    A machine that is looked at does not change, and neither does one that refuses to write.  That a
    system breaks off a write in the middle is left out. -/

namespace TypeExport.Tool

/-- What a call takes a file for. -/
inductive FileForm where
  | settings
  | jsonDescriptors
  | tomlDescriptors
  deriving Repr, DecidableEq

/-- The word for it in reports. -/
def FileForm.label : FileForm → String
  | .settings => "config"
  | .jsonDescriptors | .tomlDescriptors => "descriptors"

/-- What a call asks of a system.  Whatever is refused is refused with a reason. -/
structure Services (m : Type → Type) where
  /-- The path of the working directory. -/
  workingDirectory : m (Except String String)
  /-- Whether a path leads to a file. -/
  isFile (path : String) : m Bool
  /-- The text of a file. -/
  read (path : String) : m (Except String String)
  /-- Makes a file hold a text and nothing else. -/
  write (path text : String) : m (Except String Unit)
  /-- Adds a text to the output. -/
  print (text : String) : m (Except String Unit)
  /-- Adds a text to the reports of failures. -/
  report (text : String) : m Unit
  /-- What is wrong with a text that does not have a form. -/
  complaint (form : FileForm) (text : String) : String

/-- A system with states `σ`. -/
structure Machine (σ : Type) where
  workingDirectory : σ → Except String String
  isFile (s : σ) (path : String) : Bool
  read (s : σ) (path : String) : Except String String
  write (s : σ) (path text : String) : Except String σ
  print (s : σ) (text : String) : Except String σ
  report (s : σ) (text : String) : σ
  complaint (form : FileForm) (text : String) : String

/-- Changes the state, unless the change is refused. -/
def attempt {σ : Type} (change : σ → Except String σ) : StateM σ (Except String Unit) := do
  match change (← get) with
  | .ok s =>
    set s
    return .ok ()
  | .error reason => return .error reason

/-- The services of a machine. -/
def Machine.services {σ : Type} (M : Machine σ) : Services (StateM σ) where
  workingDirectory := return M.workingDirectory (← get)
  isFile path := return M.isFile (← get) path
  read path := return M.read (← get) path
  write path text := attempt (M.write · path text)
  print text := attempt (M.print · text)
  report text := modify (M.report · text)
  complaint := M.complaint

end TypeExport.Tool
