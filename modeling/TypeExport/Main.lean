import TypeExport.Tool.Run

/-! # Command Line

    Reads the arguments, and runs the call with the services of the operating system. -/

namespace TypeExport.Tool

def helpText : String :=
  "Generate TypeScript declarations from host type descriptors\n\n" ++
  "Usage: typebridge [OPTIONS] --root <NAME> <DESCRIPTORS>\n\n" ++
  "Options:\n" ++
  String.join (Parameter.longNames.map fun (name, p) =>
    "      --" ++ name ++ (if p.takesValue then " <VALUE>" else "") ++ "\n")

/-- The line that reports words that are no arguments. -/
def usageText : UsageError → String
  | .unknownArgument => "error: unexpected argument found\n"
  | .invalidValue => "error: invalid or missing value for an argument\n"
  | .tooManyValues => "error: unexpected value for a switch\n"
  | .argumentConflict => "error: an argument cannot be used multiple times\n"
  | .missingRequiredArgument => "error: the required arguments were not provided\n"
  | .displayHelp => helpText
  | .displayVersion => "typebridge 0.2.0\n"

/-- An action that may be refused, with the reason. -/
def orReason {α : Type} (act : IO α) : IO (Except String α) := do
  try
    return .ok (← act)
  catch e => return .error (toString e)

/-- Whether a path leads to a file on disk. -/
def isFileOnDisk (path : String) : IO Bool := do
  try
    discard <| IO.FS.readBinFile path
    return true
  catch
    | .noFileOrDirectory .. | .inappropriateType .. => return false
    | _ => return true

/-- The services of the operating system. -/
def console : Services IO where
  workingDirectory := orReason (toString <$> IO.currentDir)
  isFile := isFileOnDisk
  read path := orReason (IO.FS.readFile path)
  write path text := orReason (IO.FS.writeFile path text)
  print text := orReason do
    IO.print text
    (← IO.getStdout).flush
  report text := IO.eprint text
  complaint := plainWording.complaint

end TypeExport.Tool

open TypeExport.Tool

def main (words : List String) : IO UInt32 := do
  match Arguments.parse words with
  | .error e =>
    if e.exitCode = 0 then IO.print (usageText e) else IO.eprint (usageText e)
    return e.exitCode.toUInt32
  | .ok args => return (← console.run args).toUInt32
