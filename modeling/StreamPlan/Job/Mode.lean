import StreamPlan.Config.Fault
import StreamPlan.Text.Blank

/-!
# Modes

How a job is run.
-/

namespace StreamPlan

/-- How a job is run. -/
inductive Mode where
  /-- In one process. -/
  | inProcess
  /-- On a cluster. -/
  | remote
  deriving DecidableEq, Inhabited

namespace Mode

/-- The name of a mode, which is also the class that runs the job. -/
def name : Mode → String
  | .inProcess => "local"
  | .remote => "remote"

/-- Reads a mode. Case and blanks around it do not count. -/
def parse (text : String) : Except ConfigFault Mode :=
  match Text.lowerAscii (Text.trim text) with
  | "local" => .ok .inProcess
  | "remote" => .ok .remote
  | other => .error (.unknownMode other)

end Mode

end StreamPlan
