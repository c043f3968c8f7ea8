import StreamPlan.Stream.Resolved

/-!
# Systems

A system holds streams or tables. The configuration of a job registers systems; under the keys of
one system stand its physical name, the roles that it allows, its kind, and what the system or
single streams of it need.
-/

namespace StreamPlan

/-- What a system holds. -/
inductive SystemKind where
  /-- Streams. -/
  | stream
  /-- Tables. -/
  | table
  deriving DecidableEq, Inhabited

/-- The name of a kind. -/
def SystemKind.name : SystemKind → String
  | .stream => "stream"
  | .table => "table"

/-- A registered system. -/
structure System where
  /-- The first segment of the names of its streams. -/
  name : String
  /-- The name that streams are bound to. -/
  physical : String := name
  /-- The roles that it allows. -/
  roles : AllowedRoles := .both
  /-- What it holds. -/
  kind : SystemKind := .stream
  /-- What the system needs. -/
  systemConfig : Config := SortedMap.empty
  /-- What single streams need, by their names. -/
  streamConfig : SortedMap Config := SortedMap.empty
  deriving DecidableEq

namespace System

/-- With a value that the system needs. -/
def addSystemKey (system : System) (key value : String) : System :=
  { system with systemConfig := system.systemConfig.insert key value }

/-- What a stream needs of its own. -/
def properties (system : System) (stream : String) : Config :=
  (system.streamConfig.get? stream).getD SortedMap.empty

/-- With a value that a stream needs. -/
def addStreamKey (system : System) (stream key value : String) : System :=
  let config := (system.properties stream).insert key value
  { system with streamConfig := system.streamConfig.insert stream config }

/-- The physical name in the keys of a system. A blank one counts as none. -/
def readPhysical (name : String) (keys : Config) : String :=
  match keys.get? "physical" with
  | none => name
  | some value => if Text.trim value = "" then name else Text.trim value

/-- Allows the roles of a list. -/
def readRoleList (name : String) : AllowedRoles → List String → Except ConfigFault AllowedRoles
  | roles, [] => .ok roles
  | roles, "input" :: listed => readRoleList name (roles.allow .input) listed
  | roles, "output" :: listed => readRoleList name (roles.allow .output) listed
  | _, other :: _ => .error (.unknownRole name other)

/-- The roles in the keys of a system: both, unless some are listed. -/
def readRoles (name : String) (keys : Config) : Except ConfigFault AllowedRoles :=
  if keys.contains "roles" then do
    let roles ← readRoleList name .neither (keys.list "roles")
    if roles = .neither then .error (.noRoles name) else .ok roles
  else .ok .both

/-- The kind in the keys of a system. -/
def readKind (name : String) (keys : Config) : Except ConfigFault SystemKind :=
  match (keys.get? "kind").map Text.trim with
  | none => .ok .stream
  | some "stream" => .ok .stream
  | some "table" => .ok .table
  | some other => .error (.unknownKind name other)

/-- Adds the keys of streams. A key has the name of a stream up to its first dot, and a property after
it. -/
def readStreamKeys (system : System) : List (String × String) → Except ConfigFault System
  | [] => .ok system
  | (rest, value) :: entries =>
    match Text.cut '.' rest with
    | none => .error (.noProperty system.name rest)
    | some (stream, key) => readStreamKeys (system.addStreamKey stream key value) entries

/-- The system of a name with its keys. -/
def ofKeys (name : String) (keys : Config) : Except ConfigFault System := do
  let roles ← readRoles name keys
  let kind ← readKind name keys
  let system : System :=
    { name, physical := readPhysical name keys, roles, kind, systemConfig := keys.subset "config." }
  readStreamKeys system (keys.subset "stream.").entries

end System

end StreamPlan
