import StreamPlan.Error
import StreamPlan.Stream.System

/-!
# Resolvers

A resolver says where the streams are that a plan names. The catalog of registered systems is one: the
first segment of a name is the system, the rest is the stream within it.
-/

namespace StreamPlan

/-- Says where streams are. -/
structure Resolver where
  /-- The stream of a name that is read. -/
  input : String → Except Error ResolvedStream
  /-- The stream of a name that is written. -/
  output : String → Except Error ResolvedStream
  /-- Whether a name is that of a table. -/
  isTable : String → Bool

/-- The stream of a name in a role. -/
def Resolver.resolve (resolver : Resolver) (name : String) : Role → Except Error ResolvedStream
  | .input => resolver.input name
  | .output => resolver.output name

/-- The registered systems, by name. -/
structure Catalog where
  /-- The systems. -/
  systems : SortedMap System
  deriving DecidableEq

namespace Catalog

/-- No systems. -/
def empty : Catalog := ⟨SortedMap.empty⟩

/-- With a system; an earlier one of the same name is replaced. -/
def register (catalog : Catalog) (system : System) : Catalog :=
  ⟨catalog.systems.insert system.name system⟩

/-- The keys of a system in a configuration. -/
def systemKeys (config : Config) (name : String) : Config :=
  config.subset (Config.systemLead ++ name ++ ".")

/-- Registers the systems of a list in order. -/
def registerListed (config : Config) : Catalog → List String → Except ConfigFault Catalog
  | catalog, [] => .ok catalog
  | catalog, name :: names =>
    match System.ofKeys name (systemKeys config name) with
    | .error fault => .error fault
    | .ok system => registerListed config (catalog.register system) names

/-- The systems that a configuration lists. -/
def ofConfig (config : Config) : Except ConfigFault Catalog :=
  registerListed config empty (config.list Config.systemsKey)

/-- The system of a name, and the name of the stream within it. -/
def find? (catalog : Catalog) (name : String) : Option (System × String) :=
  match TableName.parse name with
  | .error _ => none
  | .ok parsed =>
    if parsed.tail = "" then none
    else (catalog.systems.get? parsed.head).map fun system => (system, parsed.tail)

/-- What a stream of a system needs in the configuration of a job. -/
def streamConfig (system : System) (stream : String) : Config :=
  let systemKeys := system.systemConfig.entries.map fun (key, value) =>
    ("systems." ++ system.physical ++ "." ++ key, value)
  let streamKeys := (system.properties stream).entries.map fun (key, value) =>
    ("streams." ++ stream ++ "." ++ key, value)
  SortedMap.ofList (systemKeys ++ streamKeys)

/-- The stream of a name in a role. -/
def lookup (catalog : Catalog) (role : Role) (name : String) : Except Error ResolvedStream :=
  match catalog.find? name with
  | none => .error (.unresolvedStream name)
  | some (system, stream) =>
    if system.roles.allows role then
      .ok ⟨name, system.physical, stream, system.kind = .table, streamConfig system stream⟩
    else .error (.roleMismatch name role)

/-- Whether a name is that of a table. -/
def isTable (catalog : Catalog) (name : String) : Bool :=
  match catalog.find? name with
  | some (system, _) => system.kind = .table
  | none => false

/-- The catalog as a resolver. -/
def resolver (catalog : Catalog) : Resolver :=
  ⟨catalog.lookup .input, catalog.lookup .output, catalog.isTable⟩

end Catalog

end StreamPlan
