import StreamPlan.Decode.Fault
import StreamPlan.Plan.Definition
import StreamPlan.Yaml.Value

/-!
# Reading written plans

A node of a written plan is a YAML mapping whose key `op` names its operator, or a list that starts
with the operator and goes on with its fields. Keys are looked at in the order of the text, unknown
keys are ignored, and a field or operator may also be given by its number. Below the top a tag on a
value is refused.
-/

namespace StreamPlan

/-- The operators of written plans. -/
inductive OperatorName where
  /-- A scan. -/
  | scan
  /-- A projection. -/
  | project
  /-- A filter. -/
  | filter
  /-- An aggregation. -/
  | aggregate
  /-- A window. -/
  | window
  /-- A join. -/
  | join
  /-- A union. -/
  | union
  /-- A write. -/
  | write
  deriving DecidableEq

namespace OperatorName

/-- The operators in order of their numbers. -/
def all : List OperatorName := [.scan, .project, .filter, .aggregate, .window, .join, .union, .write]

/-- The names that `op` may have; a write has two. -/
def names : List (String × OperatorName) :=
  [("scan", .scan), ("project", .project), ("filter", .filter), ("aggregate", .aggregate),
    ("window", .window), ("join", .join), ("union", .union), ("insert", .write), ("modify", .write)]

/-- The operator of a name. -/
def ofName (name : String) : Except DecodeFault OperatorName :=
  match names.find? (·.1 = name) with
  | some (_, operator) => .ok operator
  | none => .error (.unknownVariant name (names.map Prod.fst))

/-- The operator of a number. -/
def ofNumber (number : Nat) : Except DecodeFault OperatorName :=
  match all[number]? with
  | some operator => .ok operator
  | none =>
    .error (.wrongValue (.number (.int number))
      ("variant index 0 <= i < " ++ Decimal.intText all.length))

/-- How a message names an operator. -/
def title : OperatorName → String
  | .scan => "Scan"
  | .project => "Project"
  | .filter => "Filter"
  | .aggregate => "Aggregate"
  | .window => "Window"
  | .join => "Join"
  | .union => "Union"
  | .write => "Modify"

/-- The fields of an operator in their order, and whether each may be left out. -/
def fields : OperatorName → List (String × Bool)
  | .scan => [("table", true)]
  | .project => [("columns", false), ("table", true), ("input", false)]
  | .filter => [("condition", false), ("table", true), ("input", false)]
  | .aggregate => [("group_by", false), ("aggregates", true), ("input", false)]
  | .window => [("partition_by", true), ("size_ms", false), ("input", false)]
  | .join =>
    [("join_type", true), ("left_key", false), ("right_key", false), ("left", false),
      ("right", false)]
  | .union => [("left", false), ("right", false)]
  | .write => [("table", false), ("operation", true), ("input", false)]

end OperatorName

/-- What a YAML value is, for a message. -/
def Yaml.Value.found : Yaml.Value → Found
  | .null => .null
  | .bool b => .bool b
  | .number n => .number n
  | .string s => .string s
  | .sequence _ => .sequence
  | .mapping _ => .mapping
  | .tagged .. => .tagged

/-- The fields of a written node while they are read. -/
structure DefinitionFields where
  /-- The columns of a projection. -/
  columns : Option (List String) := none
  /-- The condition of a filter. -/
  condition : Option String := none
  /-- The grouping columns of an aggregation. -/
  groupBy : Option (List String) := none
  /-- The results of an aggregation. -/
  aggregates : Option (List String) := none
  /-- The keys of a window. -/
  partitionBy : Option (List String) := none
  /-- The length of a window. -/
  sizeMs : Option Nat := none
  /-- The type of a join. -/
  joinType : Option JoinType := none
  /-- The left key of a join. -/
  leftKey : Option String := none
  /-- The right key of a join. -/
  rightKey : Option String := none
  /-- The table of a scan, a lookup or a write. -/
  table : Option (Option String) := none
  /-- The kind of a write. -/
  operation : Option WriteKind := none
  /-- The only input. -/
  input : Option Definition := none
  /-- The left input. -/
  left : Option Definition := none
  /-- The right input. -/
  right : Option Definition := none

namespace Written

open Yaml (Value)

/-- A text. -/
def string : Value → Except DecodeFault String
  | .string s => .ok s
  | other => .error (.wrongType other.found "a string")

/-- A list of texts. -/
def strings : Value → Except DecodeFault (List String)
  | .sequence items => items.mapM string
  | other => .error (.wrongType other.found "a sequence")

/-- A text or nothing. -/
def optionalString : Value → Except DecodeFault (Option String)
  | .null => .ok none
  | value => (string value).map some

/-- A whole number of 64 bits. -/
def nat64 : Value → Except DecodeFault Nat
  | .number (.int n) =>
    if 0 ≤ n then .ok n.toNat else .error (.wrongValue (.number (.int n)) "u64")
  | other => .error (.wrongType other.found "u64")

/-- The choice of a name or a number. -/
def chosen {α : Type} (choices : List (String × α)) : Value → Except DecodeFault α
  | .string name =>
    match choices.find? (·.1 = name) with
    | some (_, choice) => .ok choice
    | none => .error (.unknownVariant name (choices.map Prod.fst))
  | .number (.int n) =>
    if n < 0 then .error (.wrongType (.number (.int n)) "variant identifier")
    else
      match choices[n.toNat]? with
      | some (_, choice) => .ok choice
      | none =>
        .error (.wrongValue (.number (.int n))
          ("variant index 0 <= i < " ++ Decimal.intText choices.length))
  | other => .error (.wrongType other.found "variant identifier")

/-- Nothing: an absent value or an empty mapping. -/
def nothing : Value → Except DecodeFault Unit
  | .null => .ok ()
  | .mapping [] => .ok ()
  | other => .error (.wrongType other.found "unit")

/-- One of several choices: its name, or a mapping with the choice as its only key and nothing as its
value. -/
def choice {α : Type} (choices : List (String × α)) : Value → Except DecodeFault α
  | .string name => chosen choices (.string name)
  | .mapping [(key, value)] => do
    let choice ← chosen choices key
    nothing value
    .ok choice
  | .mapping _ => .error (.wrongValue .mapping "map with a single key")
  | other => .error (.wrongType other.found "string or map")

/-- The operator that a value names, by its name or its number. -/
def operatorName : Value → Except DecodeFault OperatorName
  | .string name => OperatorName.ofName name
  | .number (.int n) =>
    if 0 ≤ n then OperatorName.ofNumber n.toNat
    else .error (.wrongType (.number (.int n)) "variant identifier")
  | other => .error (.wrongType other.found "variant identifier")

/-- The operator of a mapping's pairs. -/
def findOperator : Option OperatorName → List (Value × Value) → Except DecodeFault OperatorName
  | some operator, [] => .ok operator
  | none, [] => .error (.missingField "op")
  | before, (.string "op", value) :: pairs =>
    match before with
    | some _ => .error (.repeatedField "op")
    | none =>
      match operatorName value with
      | .ok operator => findOperator (some operator) pairs
      | .error fault => .error fault
  | before, _ :: pairs => findOperator before pairs

/-- The field that a key stands for, if it stands for one. -/
def fieldOf (names : List String) : Value → Except DecodeFault (Option String)
  | .string name => .ok (if names.contains name then some name else none)
  | .number (.int n) =>
    if 0 ≤ n then .ok names[n.toNat]? else .error (.wrongType (.number (.int n)) "field identifier")
  | other => .error (.wrongType other.found "field identifier")

/-- Whether a field holds a node. -/
def holdsNode (name : String) : Bool := name = "input" || name = "left" || name = "right"

end Written

namespace DefinitionFields

open Yaml (Value)

/-- Whether a field is set. -/
def isSet (fields : DefinitionFields) (name : String) : Bool :=
  match name with
  | "columns" => fields.columns.isSome
  | "condition" => fields.condition.isSome
  | "group_by" => fields.groupBy.isSome
  | "aggregates" => fields.aggregates.isSome
  | "partition_by" => fields.partitionBy.isSome
  | "size_ms" => fields.sizeMs.isSome
  | "join_type" => fields.joinType.isSome
  | "left_key" => fields.leftKey.isSome
  | "right_key" => fields.rightKey.isSome
  | "table" => fields.table.isSome
  | "operation" => fields.operation.isSome
  | "input" => fields.input.isSome
  | "left" => fields.left.isSome
  | "right" => fields.right.isSome
  | _ => false

/-- Sets a field that holds no node. -/
def setLeaf (operator : OperatorName) (fields : DefinitionFields) (name : String) (value : Value) :
    Except DecodeFault DefinitionFields :=
  match name with
  | "columns" => do .ok { fields with columns := some (← Written.strings value) }
  | "condition" => do .ok { fields with condition := some (← Written.string value) }
  | "group_by" => do .ok { fields with groupBy := some (← Written.strings value) }
  | "aggregates" => do .ok { fields with aggregates := some (← Written.strings value) }
  | "partition_by" => do .ok { fields with partitionBy := some (← Written.strings value) }
  | "size_ms" => do .ok { fields with sizeMs := some (← Written.nat64 value) }
  | "join_type" => do
    .ok { fields with joinType := some (← Written.choice [("inner", .inner), ("left", .left)] value) }
  | "left_key" => do .ok { fields with leftKey := some (← Written.string value) }
  | "right_key" => do .ok { fields with rightKey := some (← Written.string value) }
  | "operation" => do
    let kinds := [("insert", .insert), ("update", .update), ("delete", .delete)]
    .ok { fields with operation := some (← Written.choice kinds value) }
  | "table" => do
    if operator = .write then .ok { fields with table := some (some (← Written.string value)) }
    else .ok { fields with table := some (← Written.optionalString value) }
  | _ => .ok fields

/-- Sets a field that holds a node. -/
def setNode (fields : DefinitionFields) (name : String) (node : Definition) : DefinitionFields :=
  match name with
  | "input" => { fields with input := some node }
  | "left" => { fields with left := some node }
  | "right" => { fields with right := some node }
  | _ => fields

/-- A field that has to be there. -/
def required {α : Type} (name : String) : Option α → Except DecodeFault α
  | some value => .ok value
  | none => .error (.missingField name)

/-- The node with the given fields. What is left out has a default or is reported, in the order of the
fields. -/
def definition (operator : OperatorName) (fields : DefinitionFields) :
    Except DecodeFault Definition :=
  match operator with
  | .scan => .ok (.scan (fields.table.getD none))
  | .project => do
    let columns ← required "columns" fields.columns
    .ok (.project columns (fields.table.getD none) (← required "input" fields.input))
  | .filter => do
    let condition ← required "condition" fields.condition
    .ok (.filter condition (fields.table.getD none) (← required "input" fields.input))
  | .aggregate => do
    let groupBy ← required "group_by" fields.groupBy
    .ok (.aggregate groupBy (fields.aggregates.getD []) (← required "input" fields.input))
  | .window => do
    let sizeMs ← required "size_ms" fields.sizeMs
    .ok (.window (fields.partitionBy.getD []) sizeMs (← required "input" fields.input))
  | .join => do
    let leftKey ← required "left_key" fields.leftKey
    let rightKey ← required "right_key" fields.rightKey
    let left ← required "left" fields.left
    .ok (.join (fields.joinType.getD .inner) leftKey rightKey left (← required "right" fields.right))
  | .union => do
    let left ← required "left" fields.left
    .ok (.union left (← required "right" fields.right))
  | .write => do
    let table ← required "table" fields.table.join
    .ok (.write table (fields.operation.getD .insert) (← required "input" fields.input))

end DefinitionFields

namespace Written

open Yaml (Value)

/-- A number of elements of a list, in words. -/
def elementsInSequence (count : Nat) : String :=
  Decimal.intText count ++ (if count = 1 then " element in sequence" else " elements in sequence")

/-- Whether a list of `given` fields is too short or too long for an operator. -/
def checkLength (operator : OperatorName) (given : Nat) : Except DecodeFault Unit :=
  let declared := operator.fields
  match (declared.drop given).findIdx? fun field => !field.2 with
  | some position =>
    .error (.wrongLength (given + position)
      ("struct variant NodeDef::" ++ operator.title ++ " with " ++ Decimal.intText declared.length ++
        (if declared.length = 1 then " element" else " elements")))
  | none =>
    if declared.length < given then
      .error (.wrongLength given (elementsInSequence declared.length))
    else .ok ()

mutual

/-- Reads a node. -/
def node : Value → Except DecodeFault Definition
  | .mapping pairs =>
    match findOperator none pairs with
    | .error fault => .error fault
    | .ok operator =>
      match nodePairs operator {} pairs with
      | .error fault => .error fault
      | .ok fields => fields.definition operator
  | .sequence [] => .error (.missingField "op")
  | .sequence (first :: items) =>
    match operatorName first with
    | .error fault => .error fault
    | .ok operator => nodeItems operator (operator.fields.map Prod.fst) {} items.length items
  | other => .error (.wrongType other.found "internally tagged enum NodeDef")

/-- Reads the pairs of a node in order. -/
def nodePairs (operator : OperatorName) : DefinitionFields → List (Value × Value) →
    Except DecodeFault DefinitionFields
  | fields, [] => .ok fields
  | fields, (key, value) :: pairs =>
    match key with
    -- The operator is known already.
    | .string "op" => nodePairs operator fields pairs
    | key =>
      match fieldOf (operator.fields.map Prod.fst) key with
      | .error fault => .error fault
      | .ok none => nodePairs operator fields pairs
      | .ok (some name) =>
        if fields.isSet name then .error (.repeatedField name)
        else if holdsNode name then
          match node value with
          | .error fault => .error fault
          | .ok inner => nodePairs operator (fields.setNode name inner) pairs
        else
          match fields.setLeaf operator name value with
          | .error fault => .error fault
          | .ok fields => nodePairs operator fields pairs

/-- Reads the listed fields of a node in the order of their names; `given` is how many there are. -/
def nodeItems (operator : OperatorName) : List String → DefinitionFields → (given : Nat) →
    List Value → Except DecodeFault Definition
  | name :: names, fields, given, value :: values =>
    if holdsNode name then
      match node value with
      | .error fault => .error fault
      | .ok inner => nodeItems operator names (fields.setNode name inner) given values
    else
      match fields.setLeaf operator name value with
      | .error fault => .error fault
      | .ok fields => nodeItems operator names fields given values
  -- Either the names or the values are used up.
  | _, fields, given, _ =>
    match checkLength operator given with
    | .error fault => .error fault
    | .ok () => fields.definition operator

end

mutual

/-- Whether a tag stands anywhere in a value. -/
def hasTag : Value → Bool
  | .tagged .. => true
  | .sequence items => hasTagItem items
  | .mapping pairs => hasTagPair pairs
  | .null => false
  | .bool _ => false
  | .number _ => false
  | .string _ => false

/-- Whether a tag stands anywhere in a list of values. -/
def hasTagItem : List Value → Bool
  | [] => false
  | item :: items => hasTag item || hasTagItem items

/-- Whether a tag stands anywhere in pairs of values. -/
def hasTagPair : List (Value × Value) → Bool
  | [] => false
  | (key, value) :: pairs => hasTag key || hasTag value || hasTagPair pairs

end

/-- The operator that a value at the top names. Only here a tag does not count, and a number names no
operator. -/
def topOperatorName : Value → Except DecodeFault OperatorName
  | .string name => OperatorName.ofName name
  | .tagged _ (.string name) => OperatorName.ofName name
  | .tagged _ other => .error (.wrongType other.found "variant identifier")
  | other => .error (.wrongType other.found "variant identifier")

/-- Looks through the pairs at the top in order: the operator is found, and no other key or value may
have a tag. -/
def topPairs : Option OperatorName → List (Value × Value) → Except DecodeFault OperatorName
  | some operator, [] => .ok operator
  | none, [] => .error (.missingField "op")
  | before, (key, value) :: pairs =>
    match key with
    | .string "op" =>
      -- A key occurs twice only where repeated keys were let through.
      match before with
      | some _ => .error (.repeatedField "op")
      | none =>
        match topOperatorName value with
        | .ok operator => topPairs (some operator) pairs
        | .error fault => .error fault
    | key => if hasTag key || hasTag value then .error .taggedInput else topPairs before pairs

/-- Reads the topmost node of a statement. -/
def top : Value → Except DecodeFault Definition
  | .mapping pairs =>
    match topPairs none pairs with
    | .error fault => .error fault
    | .ok operator =>
      match nodePairs operator {} pairs with
      | .error fault => .error fault
      | .ok fields => fields.definition operator
  | .sequence [] => .error (.missingField "op")
  | .sequence (first :: items) =>
    match topOperatorName first with
    | .error fault => .error fault
    | .ok operator =>
      if hasTagItem items then .error .taggedInput
      else nodeItems operator (operator.fields.map Prod.fst) {} items.length items
  | other => .error (.wrongType other.found "internally tagged enum NodeDef")

end Written

end StreamPlan
