import StreamPlan.Operator.Graph

/-!
# Summaries of operators

What is told about an operator to the outside: its id, kind, sources, and what a join with a table
needs.
-/

namespace StreamPlan

open Json (Decoded)

/-- Reads the code of an operator. -/
def OperatorCode.ofJson : Json → Decoded OperatorCode :=
  Json.Decode.choice
    ([.input, .map, .filter, .window, .partitionBy, .join, .merge, .sink].map fun code =>
      (code.name, code))

/-- What is told about an operator. -/
structure OperatorSummary where
  /-- The id. -/
  id : String
  /-- The kind. -/
  code : OperatorCode
  /-- The ids of the operators that it reads from. -/
  sources : List String
  /-- The table that it joins with. -/
  table : Option String
  /-- What it can do besides its work. -/
  capabilities : List String
  deriving DecidableEq

/-- What is told about an operator. -/
def Operator.summary (operator : Operator) : OperatorSummary :=
  ⟨operator.id, operator.code, operator.sources, operator.table?, operator.capabilities⟩

/-- The summaries of the operators of a graph, in order. -/
def OperatorGraph.summaries (graph : OperatorGraph) : List OperatorSummary :=
  graph.operators.map Operator.summary

/-- The fields of a summary while they are read. -/
structure SummaryFields where
  /-- The id. -/
  id : Option String := none
  /-- The kind. -/
  code : Option OperatorCode := none
  /-- The ids of the operators that it reads from. -/
  sources : Option (List String) := none
  /-- The table that it joins with. -/
  table : Option String := none
  /-- What it can do besides its work. -/
  capabilities : List String := []

namespace OperatorSummary

/-- The stored fields, in the order of the declaration. A missing table and an empty list of
capabilities are left out. -/
def fields (summary : OperatorSummary) : List (String × Json) :=
  [("id", .string summary.id), ("op_code", .string summary.code.name),
    ("upstream", .ofStrings summary.sources)] ++
  (match summary.table with
    | some table => [("table", .string table)]
    | none => []) ++
  (if summary.capabilities.isEmpty then [] else [("capabilities", .ofStrings summary.capabilities)])

/-- The stored form, with the fields in key order. -/
def toJson (summary : OperatorSummary) : Json := .ofFields summary.fields

/-- The text that fingerprints are taken of, with the fields in the order of the declaration. -/
def declared (summary : OperatorSummary) : Json := .object summary.fields

/-- Sets a field. -/
def setField (fields : SummaryFields) (name : String) (value : Json) : Decoded SummaryFields :=
  match name with
  | "id" => do .ok { fields with id := some (← Json.Decode.string value) }
  | "op_code" => do .ok { fields with code := some (← OperatorCode.ofJson value) }
  | "upstream" => do .ok { fields with sources := some (← Json.Decode.strings value) }
  | "table" => do
    .ok { fields with table := ← Json.Decode.optional Json.Decode.string value }
  | "capabilities" => do .ok { fields with capabilities := ← Json.Decode.strings value }
  | _ => .ok fields

/-- Reads the stored form. -/
def ofJson : Json → Decoded OperatorSummary :=
  Json.Decode.Record.read
    { name := "OperatorDescriptor"
      fields := [("id", false), ("op_code", false), ("upstream", false), ("table", false),
        ("capabilities", true)]
      start := ({} : SummaryFields)
      set := setField
      finish := fun fields => do
        let id ← Json.Decode.required "id" fields.id
        let code ← Json.Decode.required "op_code" fields.code
        let sources ← Json.Decode.required "upstream" fields.sources
        .ok ⟨id, code, sources, fields.table, fields.capabilities⟩ }

end OperatorSummary

end StreamPlan
