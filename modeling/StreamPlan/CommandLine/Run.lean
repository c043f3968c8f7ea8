import StreamPlan.CommandLine.Arguments
import StreamPlan.Config.Flatten
import StreamPlan.Config.Properties
import StreamPlan.Job.Compile

/-!
# Running commands

What each command prints and how it ends, from its arguments, the files that it names and the
environment.
-/

namespace StreamPlan.CommandLine

/-- Why a file cannot be read. -/
inductive ReadFault where
  /-- There is no such file. -/
  | missing
  /-- Reading it is not allowed. -/
  | denied
  /-- It is a directory. -/
  | directory
  /-- Its path leads through something that is no directory. -/
  | notDirectory
  /-- Its path or a part of it is too long. -/
  | nameTooLong
  /-- It is no text. -/
  | notText
  deriving DecidableEq

/-- The text of a fault. -/
def ReadFault.message : ReadFault → String
  | .missing => "No such file or directory (os error 2)"
  | .denied => "Permission denied (os error 13)"
  | .directory => "Is a directory (os error 21)"
  | .notDirectory => "Not a directory (os error 20)"
  | .nameTooLong => "File name too long (os error 36)"
  | .notText => "stream did not contain valid UTF-8"

/-- What a command finds around it. -/
structure Surroundings where
  /-- The text of a file. -/
  file : String → Except ReadFault String
  /-- The environment variables. -/
  environment : List (String × String)

/-- How a command ends. -/
structure Outcome where
  /-- The code for the caller. -/
  exit : Nat
  /-- What it prints. -/
  output : String
  /-- What it reports. -/
  report : String
  deriving DecidableEq

/-- Why a command fails. -/
inductive Failure where
  /-- The job is wrong. -/
  | job (error : Error)
  /-- An override is no pair of key and value. -/
  | override (entry : String)
  /-- A file cannot be read. -/
  | file (fault : ReadFault)

/-- The text of a failure. -/
def Failure.message : Failure → String
  | .job error => error.message
  | .override entry => "invalid --set '" ++ entry ++ "': expected KEY=VALUE"
  | .file fault => fault.message

/-- The stream that a failure is about. -/
def Failure.stream? : Failure → Option String
  | .job error => error.stream?
  | _ => none

/-- The report of a failure. -/
def Failure.report (heading : String) (failure : Failure) : String :=
  heading ++ ": " ++ failure.message ++ "\n" ++
    match failure.stream? with
    | some stream => "  stream: " ++ stream ++ "\n"
    | none => ""

/-- Reads a file. -/
def Surroundings.read (surroundings : Surroundings) (path : String) : Except Failure String :=
  (surroundings.file path).mapError .file

/-- The part of a file's name after its last dot. A name that only starts with a dot has none. -/
def extension? (path : String) : Option String :=
  match (((Text.split '/' path).filter fun part => part ≠ "" && part ≠ ".").getLast?) with
  | none => none
  | some ".." => none
  | some name =>
    match (Text.split '.' name).reverse with
    | last :: before :: more => if more = [] && before = "" then none else some last
    | _ => none

/-- The configuration in a file, whose name says how it is written. -/
def configOfFile (path text : String) : Except ConfigFault Config :=
  match extension? path with
  | some "yaml" => Config.ofYaml text
  | some "yml" => Config.ofYaml text
  | _ => Config.ofProperties text

/-- Reads the configuration of a job, if a file is named for it. -/
def readConfig (surroundings : Surroundings) : Option String → Except Failure Config
  | none => .ok SortedMap.empty
  | some path => do
    let text ← surroundings.read path
    (configOfFile path text).mapError fun fault => .job (.config fault)

/-- A configuration in which the given statements stand in place of all others. -/
def withStatements (config : Config) (statements : List String) : Config :=
  ((config.erase Config.statementKey).erase Config.statementsKey).insert Config.statementsKey
    (Config.statementsText statements)

/-- The configuration of a job: the file, over it the environment, and the plans of the named files in
place of statements. -/
def loadConfig (surroundings : Surroundings) (config : Option String) (plans : List String) :
    Except Failure Config := do
  let base ← readConfig surroundings config
  -- The environment wins over the file, and plans win over both.
  let config := base.overlay (Config.ofEnvironment surroundings.environment)
  if plans.isEmpty then .ok config
  else
    let statements ← plans.mapM surroundings.read
    .ok (withStatements config statements)

/-- Reads an override. Blanks around key and value do not count. -/
def readOverride (entry : String) : Except Failure (String × String) :=
  match Text.cut '=' entry with
  | none => .error (.override entry)
  | some (key, value) =>
    if Text.trim key = "" then .error (.override entry) else .ok (Text.trim key, Text.trim value)

/-- The version that a report names. -/
def version : String := "0.1.0"

/-- What is told about a job. -/
def jobReport (job : Job) : Json :=
  .ofFields [("compiler_version", .string version), ("fingerprint", .string job.fingerprint.hex),
    ("inputs", .ofStrings job.roles.inputs.keys), ("outputs", .ofStrings job.roles.outputs.keys),
    ("operators", .array (job.graph.summaries.map OperatorSummary.toJson)),
    ("config", .ofMap job.config)]

/-- The job of the compile command. -/
def compileJob (surroundings : Surroundings) (config : Option String) (plans : List String)
    (mode : String) (overrides : List String) : Except Failure Job := do
  let mode ← (Mode.parse mode).mapError fun fault => .job (.config fault)
  let config ← loadConfig surroundings config plans
  let overrides ← overrides.mapM readOverride
  (Config.compile (config.insertAll overrides) mode).mapError .job

/-- The job of the validate command. -/
def validateJob (surroundings : Surroundings) (config : Option String) (plans : List String) :
    Except Failure Job := do
  let config ← loadConfig surroundings config plans
  (config.compile .inProcess).mapError .job

/-- What is told about the plan at a position. -/
def rolesReport (position : Nat) (roles : StreamRoles) : Json :=
  .ofFields [("statement", .ofNat position), ("inputs", .ofStrings roles.inputs.keys),
    ("outputs", .ofStrings roles.outputs.keys)]

/-- The lines about plans of which the first has a position, up to the first that fails. -/
def rolesLines (position : Nat) : List Plan → String × Option Error
  | [] => ("", none)
  | plan :: plans =>
    match plan.roles with
    | .error error => ("", some error)
    | .ok roles =>
      let (lines, error) := rolesLines (position + 1) plans
      ((rolesReport position roles).compact ++ "\n" ++ lines, error)

/-- The plans of the classify command. -/
def classifiedPlans (surroundings : Surroundings) (plan : String) : Except Failure (List Plan) := do
  let text ← surroundings.read plan
  (Converter.yaml.convert text).mapError fun fault => .job (.plan fault)

/-- The end of a command that fails after some output. -/
def failed (heading output : String) (failure : Failure) : Outcome :=
  ⟨1, output, failure.report heading⟩

/-- Runs a command. -/
def run (surroundings : Surroundings) : Command → Outcome
  | .compile config plans mode overrides properties =>
    match compileJob surroundings config plans mode overrides with
    | .error failure => failed "Error" "" failure
    | .ok job =>
      if properties then ⟨0, job.config.properties, ""⟩
      else ⟨0, (jobReport job).pretty ++ "\n", ""⟩
  | .classify plan =>
    match classifiedPlans surroundings plan with
    | .error failure => failed "Error" "" failure
    | .ok plans =>
      match rolesLines 0 plans with
      | (lines, none) => ⟨0, lines, ""⟩
      | (lines, some error) => failed "Error" lines (.job error)
  | .validate config plans =>
    match validateJob surroundings config plans with
    | .error failure => failed "Validation failed" "" failure
    | .ok job =>
      ⟨0, "✓ Job is valid (" ++ Decimal.intText job.graph.size ++ " operators)\n", ""⟩

/-- How the program is used. -/
def usage : String :=
  "usage: streamplan [--log-level LEVEL] compile [-c FILE] [-p FILE]... [--mode MODE] " ++
    "[--set KEY=VALUE]... [--properties]\n" ++
  "       streamplan [--log-level LEVEL] classify -p FILE\n" ++
  "       streamplan [--log-level LEVEL] validate [-c FILE] [-p FILE]...\n"

/-- Runs a command line. -/
def runArguments (surroundings : Surroundings) (arguments : List String) : Outcome :=
  match parse? arguments with
  | none => ⟨2, "", usage⟩
  | some command => run surroundings command

end StreamPlan.CommandLine
