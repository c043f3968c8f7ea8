import StreamPlan.Digest.Fingerprint
import StreamPlan.Job.Mode
import StreamPlan.Job.Statements
import StreamPlan.Operator.Lowering
import StreamPlan.Operator.Summary
import StreamPlan.Plan.Statements
import StreamPlan.Stream.Registry

/-!
# Compiling jobs

Statements become a job: a plan, the streams that it reads and writes, where they are, a
configuration that holds everything for running the job, and a graph of operators. The first failure
ends the compilation.
-/

namespace StreamPlan

/-- A compiled job. -/
structure Job where
  /-- Everything that is needed for running it. -/
  config : Config
  /-- The operators. -/
  graph : OperatorGraph
  /-- The streams that it reads and writes. -/
  roles : StreamRoles

/-- The fingerprint of a configuration and a graph. -/
def jobFingerprint (config : Config) (graph : OperatorGraph) : Fingerprint :=
  .ofParts [.ofJson (.ofMap config), .ofJson (.array (graph.summaries.map OperatorSummary.declared))]

/-- The fingerprint of a job. -/
def Job.fingerprint (job : Job) : Fingerprint := jobFingerprint job.config job.graph

namespace Resolution

/-- Adds what a stream needs to a configuration: its binding to a system and then its own keys. One
that is bound to another system already is a conflict. -/
def addStream (config : Config) (resolved : ResolvedStream) : Except Error Config :=
  let (key, system) := resolved.binding
  let added := (config.insert key system).overlay resolved.config
  match config.get? key with
  | some existing =>
    if existing ≠ system then .error (.conflict resolved.stream existing system) else .ok added
  | none => .ok added

/-- What the streams of a plan need. -/
def merged (resolution : Resolution) : Except Error Config :=
  resolution.all.foldlM addStream SortedMap.empty

end Resolution

/-- Resolves names in a role, in order. -/
def Resolver.resolveAll (resolver : Resolver) (role : Role) :
    List String → Resolution → Except Error Resolution
  | [], resolution => .ok resolution
  | name :: names, resolution =>
    match resolver.resolve name role with
    | .error error => .error error
    | .ok resolved => resolver.resolveAll role names (resolution.insert role name resolved)

/-- Resolves the streams that are read and then those that are written. -/
def Resolver.resolveRoles (resolver : Resolver) (roles : StreamRoles) : Except Error Resolution := do
  let resolution ← resolver.resolveAll .input roles.inputs.keys .empty
  resolver.resolveAll .output roles.outputs.keys resolution

/-- Compiles statements. -/
structure Compiler where
  /-- Reads the plans. -/
  converter : Converter
  /-- Says where streams are. -/
  resolver : Resolver

namespace Compiler

/-- The compiler that a configuration asks for. -/
def ofConfig (config : Config) : Except ConfigFault Compiler := do
  let converter ← Converter.ofConfig config
  let resolver ← Registry.standard.create config
  .ok ⟨converter, resolver⟩

/-- The plan of statements. If there are several, the first is compiled. -/
def plan (compiler : Compiler) (statements : List String) : Except Error Plan :=
  match compiler.converter.convert (compiler.converter.joinStatements statements) with
  | .error fault => .error (.plan fault)
  | .ok [] => .error (.plan .noRoots)
  | .ok (plan :: _) => .ok plan

/-- The configuration of a job before anything is overridden. -/
def snapshot (resolution : Resolution) (statements : List String) (mode : Mode) :
    Except Error Config := do
  let config ← resolution.merged
  .ok ((config.insert Config.statementsKey (Config.statementsText statements)).insert
    Config.runnerKey mode.name)

/-- Compiles statements. The overrides win over every key that the compilation gives. -/
def compile (compiler : Compiler) (statements : List String) (overrides : Config) (mode : Mode) :
    Except Error Job := do
  let plan ← compiler.plan statements
  let roles ← plan.roles
  let resolution ← compiler.resolver.resolveRoles roles
  -- Conflicts between systems are found before the plan is lowered.
  let config ← snapshot resolution statements mode
  let graph ← plan.lower resolution
  graph.checkTables roles.inputs compiler.resolver.isTable
  .ok ⟨config.overlay overrides, graph, roles⟩

end Compiler

/-- Compiles the job that a configuration describes. -/
def Config.compile (config : Config) (mode : Mode) : Except Error Job := do
  let statements ← config.statements.mapError .config
  let compiler ← (Compiler.ofConfig config).mapError .config
  compiler.compile statements config mode

end StreamPlan
