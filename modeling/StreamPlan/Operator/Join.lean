import StreamPlan.Json.Basic
import StreamPlan.Plan.Basic

/-!
# Joins with tables

A join function says how a message of a stream and a record of a table are matched and put together.
The one that plans use compares a field of each; others may be supplied from outside and may also
act on timers and watermarks.
-/

namespace StreamPlan

/-- A join on one field of the message and one of the record. -/
structure FieldJoin where
  /-- The field of the message. -/
  messageField : String
  /-- The field of the record. -/
  recordField : String
  /-- What happens to a message without a record. -/
  joinType : JoinType
  deriving DecidableEq

namespace FieldJoin

/-- The value of a field as a key; there is none where the field is missing or `null`. -/
def keyOf (field : String) (value : Json) : Option Json :=
  match value.field? field with
  | none => none
  | some .null => none
  | some key => some key

/-- The fields of an object; other values have none. -/
def fieldsOf : Json → List (String × Json)
  | .object fields => fields
  | _ => []

/-- The name that a field of a record gets beside the given fields: its own, or with `_right` where
that is taken. -/
def freeName (fields : List (String × Json)) (name : String) : String :=
  if (Entries.get? name fields).isSome then name ++ "_right" else name

/-- Adds the fields of a record in order. -/
def addFields : List (String × Json) → List (String × Json) → List (String × Json)
  | fields, [] => fields
  | fields, (name, value) :: added =>
    addFields (Entries.insert (freeName fields name) value fields) added

/-- The fields of a message and then those of a record. -/
def combine (message record : Json) : Json :=
  .object (addFields (Entries.ofList (fieldsOf message)) (fieldsOf record))

/-- The result for a message and the record found for it, if one was found. -/
def apply (join : FieldJoin) (message : Json) : (record : Option Json) → Option Json
  | some record => some (combine message record)
  | none =>
    match join.joinType with
    | .left => some message
    | .inner => none

end FieldJoin

/-- What a join does with watermarks. What it remembers is a value that it is given and gives back. -/
structure WatermarkHandler where
  /-- What is remembered at first. -/
  start : Json
  /-- The records to emit when the watermark of the input advances, and what is remembered then. -/
  advance : (remembered : Json) → (watermark : Nat) → List Json × Json
  /-- The watermark to pass on, if one is held. -/
  output : (remembered : Json) → Option Nat

/-- A join function that is supplied from outside. -/
structure SuppliedJoin where
  /-- The key of a message. -/
  messageKey : Json → Option Json
  /-- The key of a record. -/
  recordKey : Json → Option Json
  /-- The result for a message and the record found for it, if one was found. -/
  apply : Json → Option Json → Option Json
  /-- The records to emit when a timer of a key goes off, if the function has timers. -/
  timer : Option (String → Nat → List Json) := none
  /-- What it does with watermarks, if it does anything. -/
  watermark : Option WatermarkHandler := none

/-- A join function. -/
inductive JoinFunction where
  /-- Compares fields. -/
  | fields (join : FieldJoin)
  /-- Is supplied from outside. -/
  | supplied (join : SuppliedJoin)

namespace JoinFunction

/-- The key by which a record is looked up for a message. -/
def messageKey : JoinFunction → Json → Option Json
  | .fields join, message => FieldJoin.keyOf join.messageField message
  | .supplied join, message => join.messageKey message

/-- The key of a record. -/
def recordKey : JoinFunction → Json → Option Json
  | .fields join, record => FieldJoin.keyOf join.recordField record
  | .supplied join, record => join.recordKey record

/-- The result for a message and the record found for it, if one was found. -/
def apply : JoinFunction → Json → Option Json → Option Json
  | .fields join => join.apply
  | .supplied join => join.apply

/-- What happens when a timer goes off, if the function has timers. -/
def timer? : JoinFunction → Option (String → Nat → List Json)
  | .fields _ => none
  | .supplied join => join.timer

/-- What happens when the watermark advances, if anything does. -/
def watermark? : JoinFunction → Option WatermarkHandler
  | .fields _ => none
  | .supplied join => join.watermark

end JoinFunction

/-- What a join function can do besides joining. -/
structure Capabilities where
  /-- It has timers. -/
  scheduled : Bool
  /-- It handles watermarks. -/
  watermark : Bool
  deriving DecidableEq

/-- The names of capabilities. -/
def Capabilities.names (capabilities : Capabilities) : List String :=
  (if capabilities.scheduled then ["scheduled"] else []) ++
    (if capabilities.watermark then ["watermark"] else [])

/-- Whether there are none. -/
def Capabilities.isEmpty (capabilities : Capabilities) : Bool :=
  !capabilities.scheduled && !capabilities.watermark

/-- What a join function can do besides joining. -/
def JoinFunction.capabilities (function : JoinFunction) : Capabilities :=
  ⟨function.timer?.isSome, function.watermark?.isSome⟩

end StreamPlan
