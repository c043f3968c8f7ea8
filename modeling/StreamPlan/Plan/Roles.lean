import StreamPlan.Data.SortedMap
import StreamPlan.Error

/-!
# Streams of a plan

Which streams a plan reads and which it writes. A stream may be both. A scan that names no table is
an error: there would be nothing to read.
-/

namespace StreamPlan

/-- A set of names in ascending order. -/
abbrev NameSet := SortedMap Unit

/-- The set with one more name. -/
def NameSet.add (set : NameSet) (name : String) : NameSet := set.insert name ()

/-- The streams that a plan reads and writes. -/
structure StreamRoles where
  /-- The names that are read. -/
  inputs : NameSet
  /-- The names that are written. -/
  outputs : NameSet
  deriving DecidableEq

namespace StreamRoles

/-- No streams. -/
def empty : StreamRoles := ⟨.empty, .empty⟩

/-- The names that are both read and written. -/
def readAndWritten (roles : StreamRoles) : List String :=
  roles.inputs.keys.filter roles.outputs.contains

/-- Whether no stream is read or written. -/
def isEmpty (roles : StreamRoles) : Bool := roles.inputs.isEmpty && roles.outputs.isEmpty

/-- With a name that is read. -/
def read (roles : StreamRoles) (name : TableName) : StreamRoles :=
  { roles with inputs := roles.inputs.add name.dotted }

/-- With a name that is written. -/
def written (roles : StreamRoles) (name : TableName) : StreamRoles :=
  { roles with outputs := roles.outputs.add name.dotted }

end StreamRoles

namespace Plan

/-- The given roles with those of a plan. `path` has the labels of the operators above the plan. -/
def rolesFrom : Plan → (path : List String) → StreamRoles → Except Error StreamRoles
  | .scan none, path, _ => .error (.unnamedScan (path ++ ["scan"]))
  | .scan (some table), _, roles => .ok (roles.read table)
  | .write table _ input, path, roles => input.rolesFrom (path ++ ["modify"]) (roles.written table)
  | .binary op left right, path, roles => do
    let path := path ++ [(Plan.binary op left right).label]
    let roles ← left.rolesFrom path roles
    right.rolesFrom path roles
  | .unary op table input, path, roles =>
    let path := path ++ [(Plan.unary op table input).label]
    match table with
    | some table => input.rolesFrom path (roles.read table)
    | none => input.rolesFrom path roles

/-- The streams that a plan reads and writes. -/
def roles (plan : Plan) : Except Error StreamRoles := plan.rolesFrom [] .empty

end Plan

end StreamPlan
