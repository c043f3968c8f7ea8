import StreamPlan.CommandLine.Run

/-!
# The program

Reads what the command line names and prints how the command ends.
-/

namespace StreamPlan.Main

open CommandLine (ReadFault Surroundings Outcome)

/-- The fault behind a failed reading. -/
def readFault : IO.Error → ReadFault
  | .permissionDenied .. => .denied
  | .inappropriateType _ code _ => if code = 21 then .directory else .notDirectory
  | .invalidArgument .. => .nameTooLong
  | _ => .missing

/-- Reads a file. -/
def readFile (path : String) : IO (Except ReadFault String) := do
  try
    let bytes ← IO.FS.readBinFile path
    match String.fromUTF8? bytes with
    | some text => return .ok text
    | none => return .error .notText
  catch error => return .error (readFault error)

/-- Reads files under their names. -/
def readFiles : List String → IO (List (String × Except ReadFault String))
  | [] => return []
  | path :: paths => do
    let text ← readFile path
    return (path, text) :: (← readFiles paths)

/-- The variables of an environment block, in which each ends with a zero character. -/
def variablesOf (block : String) : List (String × String) :=
  (Text.split '\x00' block).filterMap (Text.cut '=')

/-- Reads the environment of the process. -/
def readEnvironment : IO (List (String × String)) := do
  match ← readFile "/proc/self/environ" with
  | .ok block => return variablesOf block
  | .error _ => return []

/-- What is found around a command line. -/
def readSurroundings (arguments : List String) : IO Surroundings := do
  let files ← match CommandLine.parse? arguments with
    | some command => readFiles command.files
    | none => pure []
  let environment ← readEnvironment
  return { file := fun path => ((files.find? (·.1 = path)).map Prod.snd).getD (.error .missing)
           environment }

end StreamPlan.Main

/-- Runs the command line. -/
def main (arguments : List String) : IO UInt32 := do
  let surroundings ← StreamPlan.Main.readSurroundings arguments
  let outcome := StreamPlan.CommandLine.runArguments surroundings arguments
  IO.print outcome.output
  IO.eprint outcome.report
  return UInt32.ofNat outcome.exit
