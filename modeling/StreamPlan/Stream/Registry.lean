import StreamPlan.Stream.Resolver

/-!
# Registries of resolvers

A configuration names the resolver of a job. A registry knows how to make resolvers by name.
-/

namespace StreamPlan

/-- Makes resolvers of a configuration, by name. -/
structure Registry where
  /-- How each resolver is made. -/
  makers : SortedMap (Config → Except ConfigFault Resolver)

namespace Registry

/-- The name of the resolver if a configuration names none. -/
def defaultName : String := "config"

/-- No resolvers. -/
def empty : Registry := ⟨SortedMap.empty⟩

/-- With a resolver under a name; an earlier one of the name is replaced. -/
def register (registry : Registry) (name : String) (make : Config → Except ConfigFault Resolver) :
    Registry :=
  ⟨registry.makers.insert name make⟩

/-- Makes the resolver of the systems that a configuration lists. -/
def makeCatalog (config : Config) : Except ConfigFault Resolver :=
  (Catalog.ofConfig config).map Catalog.resolver

/-- The registry that knows the catalog of registered systems. -/
def standard : Registry := empty.register defaultName makeCatalog

/-- The names of the known resolvers. -/
def names (registry : Registry) : List String := registry.makers.keys

/-- Makes the resolver that a configuration names. -/
def create (registry : Registry) (config : Config) : Except ConfigFault Resolver :=
  let name := Text.trim (config.getOr Config.resolverKey defaultName)
  match registry.makers.get? name with
  | none => .error (.unknownResolver name registry.names)
  | some make => make config

end Registry

end StreamPlan
