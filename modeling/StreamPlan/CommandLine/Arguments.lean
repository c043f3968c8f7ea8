import StreamPlan.Text.Split

/-!
# Arguments of the command line

The commands and their options. An option has a long name and may have a short one; its value follows
as the next argument or after `=`, and after a short name also directly. Anything else is a wrong
use.
-/

namespace StreamPlan.CommandLine

/-- A command. -/
inductive Command where
  /-- Compiles a job and prints it. -/
  | compile (config : Option String) (plans : List String) (mode : String)
      (overrides : List String) (properties : Bool)
  /-- Prints the streams that plans read and write. -/
  | classify (plan : String)
  /-- Says whether a job can be compiled. -/
  | validate (config : Option String) (plans : List String)
  deriving DecidableEq

/-- How often an option may be given, and whether it has a value. -/
inductive Arity where
  /-- At most once and without a value. -/
  | flag
  /-- At most once with a value. -/
  | once
  /-- Any number of times with a value. -/
  | many
  deriving DecidableEq

/-- An option of a command. -/
structure Rule where
  /-- The long name. -/
  name : String
  /-- The short name. -/
  letter : Option Char := none
  /-- How often it may be given. -/
  arity : Arity
  /-- Whether its value is a path, which cannot be empty. -/
  isPath : Bool := false

/-- Options as they are given: names with values. -/
abbrev Given := List (String × String)

/-- Whether an option takes a value. -/
def Rule.accepts (rule : Rule) (value : String) : Bool := !(rule.isPath && value = "")

/-- Whether an argument can be the value of the option before it. -/
def isOperand (argument : String) : Bool := argument = "-" || !Text.hasLead "-" argument

/-- An option as it is found in one argument. -/
inductive Found where
  /-- The option is complete. -/
  | complete (name value : String)
  /-- The value is the next argument. -/
  | pending (rule : Rule)

/-- The option of an argument that starts with two dashes. -/
def findLong (rules : List Rule) (body : String) : Option Found :=
  let (name, attached) : String × Option String :=
    match Text.cut '=' body with
    | some (name, value) => (name, some value)
    | none => (body, none)
  match rules.find? (·.name = name), attached with
  | none, _ => none
  | some rule, none =>
    some (if rule.arity = .flag then .complete rule.name "" else .pending rule)
  | some rule, some value =>
    if rule.arity ≠ .flag && rule.accepts value then some (.complete rule.name value) else none

/-- The option of an argument that starts with one dash: a letter and what is attached to it. -/
def findShort (rules : List Rule) : List Char → Option Found
  | [] => none
  | letter :: attached =>
    match rules.find? (·.letter = some letter) with
    | none => none
    | some rule =>
      match attached with
      | [] => some (.pending rule)
      | '=' :: value =>
        let value := String.ofList value
        if rule.accepts value then some (.complete rule.name value) else none
      | value => some (.complete rule.name (String.ofList value))

/-- The option of an argument. -/
def findOption (rules : List Rule) (argument : String) : Option Found :=
  match argument.toList with
  | '-' :: '-' :: body => findLong rules (String.ofList body)
  | '-' :: body => findShort rules body
  | _ => none

/-- Reads options up to the first argument that is none; gives back that argument and what follows. -/
def readOptions (rules : List Rule) : List String → Option (Given × List String)
  | [] => some ([], [])
  | argument :: rest =>
    if isOperand argument || argument = "--" then some ([], argument :: rest)
    else
      match findOption rules argument with
      | none => none
      | some (.complete name value) =>
        (readOptions rules rest).map fun (given, rest) => ((name, value) :: given, rest)
      | some (.pending rule) =>
        match rest with
        | [] => none
        | value :: rest =>
          if isOperand value && rule.accepts value then
            (readOptions rules rest).map fun (given, rest) => ((rule.name, value) :: given, rest)
          else none

/-- The values that are given for an option. -/
def Given.values (given : Given) (name : String) : List String :=
  (given.filter (·.1 = name)).map Prod.snd

/-- Whether every option is given as often as it may be. -/
def Given.fits (given : Given) (rules : List Rule) : Bool :=
  rules.all fun rule => rule.arity = .many || (given.values rule.name).length ≤ 1

/-- Reads all arguments of a command as options. A final `--` does not count. -/
def readCommandOptions (rules : List Rule) (arguments : List String) : Option Given :=
  match readOptions rules arguments with
  | none => none
  | some (given, rest) =>
    if (rest = [] || rest = ["--"]) && given.fits rules then some given else none

/-- The option that every command has. What it says about the program's own reports changes nothing
else. -/
def logRule : Rule := { name := "log-level", arity := .once }

/-- The option that names the configuration of a job. -/
def configRule : Rule := { name := "config", letter := some 'c', arity := .once, isPath := true }

/-- The option that names plans. -/
def planRule (arity : Arity) : Rule := { name := "plan", letter := some 'p', arity, isPath := true }

/-- The options of the compile command. -/
def compileRules : List Rule :=
  [logRule, configRule, planRule .many, { name := "mode", arity := .once },
    { name := "set", arity := .many }, { name := "properties", arity := .flag }]

/-- Reads the options of a command. -/
def readCommand (name : String) (arguments : List String) : Option Command :=
  match name with
  | "compile" =>
    (readCommandOptions compileRules arguments).map fun given =>
      .compile (given.values "config").head? (given.values "plan")
        ((given.values "mode").head?.getD "local") (given.values "set")
        (!(given.values "properties").isEmpty)
  | "classify" =>
    (readCommandOptions [logRule, planRule .once] arguments).bind fun given =>
      (given.values "plan").head?.map .classify
  | "validate" =>
    (readCommandOptions [logRule, configRule, planRule .many] arguments).map fun given =>
      .validate (given.values "config").head? (given.values "plan")
  | _ => none

/-- Reads a command line; there is no command in a wrong one. -/
def parse? (arguments : List String) : Option Command :=
  match readOptions [logRule] arguments with
  | some (given, name :: rest) =>
    if given.fits [logRule] then readCommand name rest else none
  | _ => none

/-- The files that a command reads. -/
def Command.files : Command → List String
  | .compile config plans .. => config.toList ++ plans
  | .classify plan => [plan]
  | .validate config plans => config.toList ++ plans

end StreamPlan.CommandLine
