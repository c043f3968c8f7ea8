import StreamPlan.Json.Decode
import StreamPlan.Plan.Basic

/-!
# Stored plans

The JSON form of a plan. Every operator is an object with one field, named for its kind, that holds
what belongs to it; table names are stored dotted. `Plan.toJson` writes this form and
`Plan.ofJson` reads it.
-/

namespace StreamPlan

open Json (Decoded)

/-- The stored form of an optional table name. -/
def TableName.optionToJson (table : Option TableName) : Json :=
  Json.ofOption (table.map TableName.dotted)

/-- The stored form of a unary operator. -/
def UnaryOp.toJson : UnaryOp → Json
  | .project columns => .object [("project", .object [("columns", .ofStrings columns)])]
  | .filter condition => .object [("filter", .object [("condition", .string condition)])]
  | .aggregate groupBy aggregates =>
    .object [("aggregate",
      .object [("aggregates", .ofStrings aggregates), ("group_by", .ofStrings groupBy)])]
  | .window partitionBy sizeMs =>
    .object [("window",
      .object [("partition_by", .ofStrings partitionBy), ("size_ms", .ofNat sizeMs)])]

/-- The stored form of a binary operator. -/
def BinaryOp.toJson : BinaryOp → Json
  | .join joinType leftKey rightKey =>
    .object [("join", .object [("join_type", .string joinType.name), ("left_key", .string leftKey),
      ("right_key", .string rightKey)])]
  | .union => .string "union"

/-- The stored form of a plan. -/
def Plan.toJson : Plan → Json
  | .scan table => .object [("Scan", .object [("table", TableName.optionToJson table)])]
  | .write table kind input =>
    .object [("Modify", .object [("input", input.toJson), ("op", .string kind.name),
      ("table", .string table.dotted)])]
  | .binary op left right =>
    .object [("Binary", .object [("left", left.toJson), ("op", op.toJson),
      ("right", right.toJson)])]
  | .unary op table input =>
    .object [("Unary", .object [("input", input.toJson), ("op", op.toJson),
      ("table", TableName.optionToJson table)])]

/-- Reads a join type. -/
def JoinType.ofJson : Json → Decoded JoinType :=
  Json.Decode.choice [("inner", .inner), ("left", .left)]

/-- Reads the kind of a write. -/
def WriteKind.ofJson : Json → Decoded WriteKind :=
  Json.Decode.choice [("insert", .insert), ("update", .update), ("delete", .delete)]

/-- The fields of an operator while they are read. -/
structure OperatorFields where
  /-- The columns of a projection. -/
  columns : Option (List String) := none
  /-- The condition of a filter. -/
  condition : Option String := none
  /-- The grouping columns of an aggregation. -/
  groupBy : Option (List String) := none
  /-- The results of an aggregation. -/
  aggregates : Option (List String) := none
  /-- The keys of a window. -/
  partitionBy : Option (List String) := none
  /-- The length of a window. -/
  sizeMs : Option Nat := none
  /-- The type of a join. -/
  joinType : Option JoinType := none
  /-- The left key of a join. -/
  leftKey : Option String := none
  /-- The right key of a join. -/
  rightKey : Option String := none

/-- Sets a field of an operator. -/
def OperatorFields.set (fields : OperatorFields) (name : String) (value : Json) :
    Decoded OperatorFields :=
  match name with
  | "columns" => do .ok { fields with columns := some (← Json.Decode.strings value) }
  | "condition" => do .ok { fields with condition := some (← Json.Decode.string value) }
  | "group_by" => do .ok { fields with groupBy := some (← Json.Decode.strings value) }
  | "aggregates" => do .ok { fields with aggregates := some (← Json.Decode.strings value) }
  | "partition_by" => do .ok { fields with partitionBy := some (← Json.Decode.strings value) }
  | "size_ms" => do .ok { fields with sizeMs := some (← Json.Decode.nat64 value) }
  | "join_type" => do .ok { fields with joinType := some (← JoinType.ofJson value) }
  | "left_key" => do .ok { fields with leftKey := some (← Json.Decode.string value) }
  | "right_key" => do .ok { fields with rightKey := some (← Json.Decode.string value) }
  | _ => .ok fields

/-- Reads the fields of an operator that are among `names`, in the order given. -/
def OperatorFields.read (names : List String) :
    OperatorFields → List (String × Json) → Decoded OperatorFields
  | fields, [] => .ok fields
  | fields, (name, value) :: rest =>
    if !names.contains name then OperatorFields.read names fields rest
    else do
      let fields ← fields.set name value
      OperatorFields.read names fields rest

/-- Reads a unary operator. -/
def UnaryOp.ofJson (value : Json) : Decoded UnaryOp := do
  let (name, given) ← Json.Decode.variant value
  match name with
  | "project" =>
    let fields ← OperatorFields.read ["columns"] {} (← Json.Decode.content given)
    .ok (.project (← Json.Decode.required "columns" fields.columns))
  | "filter" =>
    let fields ← OperatorFields.read ["condition"] {} (← Json.Decode.content given)
    .ok (.filter (← Json.Decode.required "condition" fields.condition))
  | "aggregate" =>
    let fields ← OperatorFields.read ["group_by", "aggregates"] {} (← Json.Decode.content given)
    let groupBy ← Json.Decode.required "group_by" fields.groupBy
    .ok (.aggregate groupBy (← Json.Decode.required "aggregates" fields.aggregates))
  | "window" =>
    let fields ← OperatorFields.read ["partition_by", "size_ms"] {} (← Json.Decode.content given)
    let partitionBy ← Json.Decode.required "partition_by" fields.partitionBy
    .ok (.window partitionBy (← Json.Decode.required "size_ms" fields.sizeMs))
  | _ => .error (.unknownVariant name ["project", "filter", "aggregate", "window"])

/-- Reads a binary operator. -/
def BinaryOp.ofJson (value : Json) : Decoded BinaryOp := do
  let (name, given) ← Json.Decode.variant value
  match name with
  | "join" =>
    let fields ← OperatorFields.read ["join_type", "left_key", "right_key"] {}
      (← Json.Decode.content given)
    let joinType ← Json.Decode.required "join_type" fields.joinType
    let leftKey ← Json.Decode.required "left_key" fields.leftKey
    .ok (.join joinType leftKey (← Json.Decode.required "right_key" fields.rightKey))
  | "union" =>
    Json.Decode.noContent given
    .ok .union
  | _ => .error (.unknownVariant name ["join", "union"])

/-- The kinds of nodes of a plan. -/
inductive NodeKind where
  /-- A scan. -/
  | scan
  /-- A write. -/
  | write
  /-- A node with two inputs. -/
  | binary
  /-- A node with one input. -/
  | unary
  deriving DecidableEq

/-- The kind of a node with a stored name. -/
def NodeKind.ofName? (name : String) : Option NodeKind :=
  match name with
  | "Scan" => some .scan
  | "Modify" => some .write
  | "Binary" => some .binary
  | "Unary" => some .unary
  | _ => none

/-- The fields of a node while they are read. -/
structure NodeFields where
  /-- The table of a scan, a write or a lookup; a scan and a lookup may have none. -/
  table : Option (Option TableName) := none
  /-- The kind of a write. -/
  writeKind : Option WriteKind := none
  /-- The operator of a node with two inputs. -/
  binaryOp : Option BinaryOp := none
  /-- The operator of a node with one input. -/
  unaryOp : Option UnaryOp := none
  /-- The only input. -/
  input : Option Plan := none
  /-- The left input. -/
  left : Option Plan := none
  /-- The right input. -/
  right : Option Plan := none

/-- Reads a field of a node that holds no plan. -/
def NodeFields.readLeaf (kind : NodeKind) (fields : NodeFields) (name : String) (value : Json) :
    Decoded NodeFields :=
  match name, kind with
  | "table", .scan => do
    .ok { fields with table := some (← Json.Decode.optional Json.Decode.tableName value) }
  | "table", .unary => do
    .ok { fields with table := some (← Json.Decode.optional Json.Decode.tableName value) }
  | "table", .write => do
    .ok { fields with table := some (some (← Json.Decode.tableName value)) }
  | "op", .write => do .ok { fields with writeKind := some (← WriteKind.ofJson value) }
  | "op", .binary => do .ok { fields with binaryOp := some (← BinaryOp.ofJson value) }
  | "op", .unary => do .ok { fields with unaryOp := some (← UnaryOp.ofJson value) }
  | _, _ => .ok fields

/-- The plan of a node's fields. Missing fields are reported in the order of their declaration. -/
def NodeFields.plan (kind : NodeKind) (fields : NodeFields) : Decoded Plan :=
  match kind with
  | .scan => .ok (.scan (fields.table.getD none))
  | .write => do
    let table ← Json.Decode.required "table" fields.table.join
    let writeKind ← Json.Decode.required "op" fields.writeKind
    .ok (.write table writeKind (← Json.Decode.required "input" fields.input))
  | .binary => do
    let op ← Json.Decode.required "op" fields.binaryOp
    let left ← Json.Decode.required "left" fields.left
    .ok (.binary op left (← Json.Decode.required "right" fields.right))
  | .unary => do
    let op ← Json.Decode.required "op" fields.unaryOp
    .ok (.unary op (fields.table.getD none) (← Json.Decode.required "input" fields.input))

mutual

/-- Reads a stored plan. -/
def Plan.ofJson : Json → Decoded Plan
  | .object [(name, content)] =>
    match NodeKind.ofName? name with
    | none => .error (.unknownVariant name ["Scan", "Modify", "Binary", "Unary"])
    | some kind =>
      match content with
      | .object fields =>
        match readNodeFields kind {} fields with
        | .ok fields => fields.plan kind
        | .error fault => .error fault
      | other => .error (.wrongType other.found "struct variant")
  | .object _ => .error (.wrongValue .mapping "map with a single key")
  | .string name =>
    match NodeKind.ofName? name with
    | none => .error (.unknownVariant name ["Scan", "Modify", "Binary", "Unary"])
    | some _ => .error (.wrongType .variantName "struct variant")
  | other => .error (.wrongType other.found "string or map")

/-- Reads the fields of a node in the order given. -/
def readNodeFields (kind : NodeKind) : NodeFields → List (String × Json) → Decoded NodeFields
  | fields, [] => .ok fields
  | fields, (name, value) :: rest =>
    if name = "input" && (kind = .write || kind = .unary) then
      match Plan.ofJson value with
      | .ok plan => readNodeFields kind { fields with input := some plan } rest
      | .error fault => .error fault
    else if name = "left" && kind = .binary then
      match Plan.ofJson value with
      | .ok plan => readNodeFields kind { fields with left := some plan } rest
      | .error fault => .error fault
    else if name = "right" && kind = .binary then
      match Plan.ofJson value with
      | .ok plan => readNodeFields kind { fields with right := some plan } rest
      | .error fault => .error fault
    else
      match fields.readLeaf kind name value with
      | .ok fields => readNodeFields kind fields rest
      | .error fault => .error fault

end

/-- The root of a statement's plan, as it is stored. -/
structure StoredRoot where
  /-- The plan. -/
  plan : Plan

/-- The stored form of a root. -/
def StoredRoot.toJson (root : StoredRoot) : Json := .object [("rel", root.plan.toJson)]

/-- Reads a stored root. -/
def StoredRoot.ofJson : Json → Decoded StoredRoot :=
  Json.Decode.Record.read
    { name := "RelRoot"
      fields := [("rel", false)]
      start := none
      set := fun draft name value =>
        if name = "rel" then (Plan.ofJson value).map some else .ok draft
      finish := fun (draft : Option Plan) =>
        (Json.Decode.required "rel" draft).map StoredRoot.mk }

end StreamPlan
