import StreamPlan.Config.Basic
import StreamPlan.Stream.Role

/-!
# Resolved streams

Where a stream or table that a plan names really is, and the streams of one plan all together.
-/

namespace StreamPlan

open Json (Decoded)

/-- Where a stream or table is and how to reach it. -/
structure ResolvedStream where
  /-- The name in the plan. -/
  source : String
  /-- The system that holds the stream. -/
  system : String
  /-- The name within the system. -/
  stream : String
  /-- Whether it is a table. -/
  isTable : Bool
  /-- What the configuration of the job needs for it. -/
  config : Config
  deriving DecidableEq

/-- The fields of a resolved stream while they are read. -/
structure ResolvedFields where
  /-- The name in the plan. -/
  source : Option String := none
  /-- The system that holds the stream. -/
  system : Option String := none
  /-- The name within the system. -/
  stream : Option String := none
  /-- Whether it is a table. -/
  isTable : Option Bool := none
  /-- The configuration. -/
  config : Option Config := none

namespace ResolvedStream

/-- The key and value that bind the stream to its system. -/
def binding (resolved : ResolvedStream) : String × String :=
  (Config.bindingKey resolved.stream, resolved.system)

/-- The stored form. -/
def toJson (resolved : ResolvedStream) : Json :=
  .object [("config", .ofMap resolved.config), ("is_table", .bool resolved.isTable),
    ("source", .string resolved.source), ("stream_name", .string resolved.stream),
    ("system_name", .string resolved.system)]

/-- Sets a field. -/
def setField (fields : ResolvedFields) (name : String) (value : Json) : Decoded ResolvedFields :=
  match name with
  | "source" => do .ok { fields with source := some (← Json.Decode.string value) }
  | "system_name" => do .ok { fields with system := some (← Json.Decode.string value) }
  | "stream_name" => do .ok { fields with stream := some (← Json.Decode.string value) }
  | "is_table" => do .ok { fields with isTable := some (← Json.Decode.bool value) }
  | "config" => do .ok { fields with config := some (← Json.Decode.stringMap value) }
  | _ => .ok fields

/-- Reads the stored form. -/
def ofJson : Json → Decoded ResolvedStream :=
  Json.Decode.Record.read
    { name := "SqlIoConfig"
      fields := [("source", false), ("system_name", false), ("stream_name", false),
        ("is_table", false), ("config", false)]
      start := ({} : ResolvedFields)
      set := setField
      finish := fun fields => do
        let source ← Json.Decode.required "source" fields.source
        let system ← Json.Decode.required "system_name" fields.system
        let stream ← Json.Decode.required "stream_name" fields.stream
        let isTable ← Json.Decode.required "is_table" fields.isTable
        .ok ⟨source, system, stream, isTable, ← Json.Decode.required "config" fields.config⟩ }

end ResolvedStream

/-- The streams of a plan, by the names that the plan uses. -/
structure Resolution where
  /-- The streams that are read. -/
  inputs : SortedMap ResolvedStream
  /-- The streams that are written. -/
  outputs : SortedMap ResolvedStream
  deriving DecidableEq

namespace Resolution

/-- No streams. -/
def empty : Resolution := ⟨.empty, .empty⟩

/-- With a stream under a name; an earlier one of the name and role is replaced. -/
def insert (resolution : Resolution) (role : Role) (name : String) (resolved : ResolvedStream) :
    Resolution :=
  match role with
  | .input => { resolution with inputs := resolution.inputs.insert name resolved }
  | .output => { resolution with outputs := resolution.outputs.insert name resolved }

/-- The stream of a name in a role. -/
def get? (resolution : Resolution) (name : String) : Role → Option ResolvedStream
  | .input => resolution.inputs.get? name
  | .output => resolution.outputs.get? name

/-- All streams: those that are read, then those that are written, each in the order of their
names. -/
def all (resolution : Resolution) : List ResolvedStream :=
  resolution.inputs.values ++ resolution.outputs.values

/-- Whether a name is read and is a table. -/
def isTable (resolution : Resolution) (name : String) : Bool :=
  match resolution.inputs.get? name with
  | some resolved => resolved.isTable
  | none => false

/-- The number of streams. -/
def size (resolution : Resolution) : Nat := resolution.inputs.size + resolution.outputs.size

/-- Whether there are no streams. -/
def isEmpty (resolution : Resolution) : Bool :=
  resolution.inputs.isEmpty && resolution.outputs.isEmpty

end Resolution

end StreamPlan
