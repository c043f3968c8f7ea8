import StreamPlan.Decode.Fault
import StreamPlan.Json.Printer

/-!
# Decoding JSON values

Readers for the values that make up stored forms: texts, truth values, numbers, lists, maps, and
variants. A record may be given as an object, whose fields are looked at in key order, or as a list
of its fields in the order of their declaration.
-/

namespace StreamPlan.Json

/-- JSON calls an absent value `null` and writes numbers as JSON does. -/
def wording : Wording := ⟨"null", decimalStyle⟩

/-- What a value is, for a message. -/
def found : Json → Found
  | .null => .null
  | .bool b => .bool b
  | .number n => .number n
  | .string s => .string s
  | .array _ => .sequence
  | .object _ => .mapping

/-- The result of decoding. -/
abbrev Decoded (α : Type) := Except DecodeFault α

namespace Decode

/-- A text. -/
def string : Json → Decoded String
  | .string s => .ok s
  | other => .error (.wrongType other.found "a string")

/-- A truth value. -/
def bool : Json → Decoded Bool
  | .bool b => .ok b
  | other => .error (.wrongType other.found "a boolean")

/-- A whole number from zero up to a bound. -/
def natBelow (bound : Nat) (expected : String) : Json → Decoded Nat
  | .number (.int n) =>
    if 0 ≤ n && n < bound then .ok n.toNat
    else .error (.wrongValue (.number (.int n)) expected)
  | other => .error (.wrongType other.found expected)

/-- A whole number of 64 bits. -/
def nat64 : Json → Decoded Nat := natBelow (Nat.pow 2 64) "u64"

/-- A byte. -/
def byte : Json → Decoded UInt8 := fun value =>
  (natBelow (Nat.pow 2 8) "u8" value).map UInt8.ofNat

/-- A value or nothing. -/
def optional {α : Type} (read : Json → Decoded α) : Json → Decoded (Option α)
  | .null => .ok none
  | value => (read value).map some

/-- A list, each item read in order. -/
def list {α : Type} (read : Json → Decoded α) : Json → Decoded (List α)
  | .array items => items.mapM read
  | other => .error (.wrongType other.found "a sequence")

/-- A list of texts. -/
def strings : Json → Decoded (List String) := list string

/-- A field of which the value is a text. -/
def stringField (field : String × Json) : Decoded (String × String) :=
  (string field.2).map fun text => (field.1, text)

/-- A map of texts. -/
def stringMap : Json → Decoded (SortedMap String)
  | .object fields => (fields.mapM stringField).map SortedMap.ofList
  | other => .error (.wrongType other.found "a map")

/-- A table name. -/
def tableName (value : Json) : Decoded TableName := do
  let text ← string value
  match TableName.parse text with
  | .ok name => .ok name
  | .error fault => .error (.badName fault)

/-- A field that has to be there. -/
def required {α : Type} (name : String) : Option α → Decoded α
  | some value => .ok value
  | none => .error (.missingField name)

/-- A variant: its name, and its content if the value is an object with one field. -/
def variant : Json → Decoded (String × Option Json)
  | .string name => .ok (name, none)
  | .object [(name, content)] => .ok (name, some content)
  | .object _ => .error (.wrongValue .mapping "map with a single key")
  | other => .error (.wrongType other.found "string or map")

/-- The content of a variant that has none. -/
def noContent : Option Json → Decoded Unit
  | none => .ok ()
  | some .null => .ok ()
  | some other => .error (.wrongType other.found "unit")

/-- The fields of a variant that has some. -/
def content : Option Json → Decoded (List (String × Json))
  | some (.object fields) => .ok fields
  | some other => .error (.wrongType other.found "struct variant")
  | none => .error (.wrongType .variantName "struct variant")

/-- One of several variants without content. -/
def choice {α : Type} (choices : List (String × α)) (value : Json) : Decoded α := do
  let (name, given) ← variant value
  match choices.find? (·.1 = name) with
  | none => .error (.unknownVariant name (choices.map Prod.fst))
  | some (_, chosen) =>
    noContent given
    .ok chosen

/-- How a record is decoded. -/
structure Record (δ α : Type) where
  /-- The name of the record. -/
  name : String
  /-- The names of the fields as declared, and whether a list may leave the field out. -/
  fields : List (String × Bool)
  /-- The record before any field is set. -/
  start : δ
  /-- Sets a field; other names are ignored. -/
  set : δ → String → Json → Decoded δ
  /-- The record when all fields are set. -/
  finish : δ → Decoded α

/-- Sets fields in order. -/
def Record.setAll {δ α : Type} (record : Record δ α) : δ → List (String × Json) → Decoded δ
  | draft, [] => .ok draft
  | draft, (name, value) :: fields =>
    match record.set draft name value with
    | .error fault => .error fault
    | .ok draft => record.setAll draft fields

/-- A number of elements, in words. -/
def elements (count : Nat) : String :=
  Decimal.intText count ++ (if count = 1 then " element" else " elements")

/-- A record, given as an object or as a list of its fields. -/
def Record.read {δ α : Type} (record : Record δ α) : Json → Decoded α
  | .object fields => (record.setAll record.start fields).bind record.finish
  | .array items => do
    let names := record.fields.map Prod.fst
    let draft ← record.setAll record.start (names.zip items)
    match (record.fields.drop items.length).findIdx? fun field => !field.2 with
    | some position =>
      .error (.wrongLength (items.length + position)
        ("struct " ++ record.name ++ " with " ++ elements names.length))
    | none =>
      let value ← record.finish draft
      if names.length < items.length then
        .error (.wrongLength items.length "fewer elements in array")
      else .ok value
  | other => .error (.wrongType other.found ("struct " ++ record.name))

end Decode

end StreamPlan.Json
