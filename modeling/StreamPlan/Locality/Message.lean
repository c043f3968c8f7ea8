import StreamPlan.Json.Decode

/-!
# Messages of the coordinator log

The processes of a job tell each other by messages where containers run. A message without values
takes back what was said before.
-/

namespace StreamPlan

open Json (Decoded)

/-- Where a container runs and how it is watched. -/
structure Locality where
  /-- The host. -/
  host : String
  /-- The address for watching the container. -/
  jmxUrl : String := ""
  /-- The address for watching it through a tunnel. -/
  jmxTunnelingUrl : String := ""
  deriving DecidableEq

namespace Locality

/-- The values of a message about a container. -/
def toValues (locality : Locality) : SortedMap String :=
  SortedMap.ofList [("host", locality.host), ("jmx-url", locality.jmxUrl),
    ("jmx-tunneling-url", locality.jmxTunnelingUrl)]

/-- Where the values of a message say that a container runs. Without a host they say nothing. -/
def ofValues? (values : SortedMap String) : Option Locality :=
  (values.get? "host").map fun host =>
    ⟨host, (values.get? "jmx-url").getD "", (values.get? "jmx-tunneling-url").getD ""⟩

/-- The stored form. -/
def toJson (locality : Locality) : Json :=
  .object [("host", .string locality.host),
    ("jmx_tunneling_url", .string locality.jmxTunnelingUrl), ("jmx_url", .string locality.jmxUrl)]

end Locality

/-- A message of the coordinator log. -/
structure Message where
  /-- What the message is about. -/
  type : String
  /-- Who wrote it. -/
  source : String
  /-- What it is about in particular. -/
  key : String
  /-- What it says. -/
  values : SortedMap String
  deriving DecidableEq

/-- The fields of a message while they are read. -/
structure MessageFields where
  /-- What the message is about. -/
  type : Option String := none
  /-- Who wrote it. -/
  source : Option String := none
  /-- What it is about in particular. -/
  key : Option String := none
  /-- What it says. -/
  values : Option (SortedMap String) := none

namespace Message

/-- The type of messages that say where containers run. -/
def placement : String := "set-container-host-mapping"

/-- The message that a container runs somewhere. -/
def place (source container : String) (locality : Locality) : Message :=
  ⟨placement, source, container, locality.toValues⟩

/-- The message that takes back what was said about a key. -/
def delete (type source key : String) : Message := ⟨type, source, key, SortedMap.empty⟩

/-- Whether a message takes back what was said. -/
def isDelete (message : Message) : Bool := message.values.isEmpty

/-- The stored form. -/
def toJson (message : Message) : Json :=
  .object [("key", .string message.key), ("message_type", .string message.type),
    ("source", .string message.source), ("values", .ofMap message.values)]

/-- Sets a field. -/
def setField (fields : MessageFields) (name : String) (value : Json) : Decoded MessageFields :=
  match name with
  | "message_type" => do .ok { fields with type := some (← Json.Decode.string value) }
  | "source" => do .ok { fields with source := some (← Json.Decode.string value) }
  | "key" => do .ok { fields with key := some (← Json.Decode.string value) }
  | "values" => do .ok { fields with values := some (← Json.Decode.stringMap value) }
  | _ => .ok fields

/-- Reads the stored form. -/
def ofJson : Json → Decoded Message :=
  Json.Decode.Record.read
    { name := "CoordinatorMessage"
      fields := [("message_type", false), ("source", false), ("key", false), ("values", false)]
      start := ({} : MessageFields)
      set := setField
      finish := fun fields => do
        let type ← Json.Decode.required "message_type" fields.type
        let source ← Json.Decode.required "source" fields.source
        let key ← Json.Decode.required "key" fields.key
        .ok ⟨type, source, key, ← Json.Decode.required "values" fields.values⟩ }

end Message

end StreamPlan
