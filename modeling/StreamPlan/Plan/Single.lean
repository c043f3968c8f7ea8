import StreamPlan.Plan.Fault
import StreamPlan.Plan.Written

/-!
# Single plans

A text that is one plan, and not a list of statements, is read node by node. Three rules differ from
those for statements: the operator at the top is taken as a text, whatever its tag and style; a whole
zero with a minus sign cannot name an operator, a field or a choice by its number; and a key may be
repeated where its mapping is not looked into.
-/

namespace StreamPlan

open Yaml (Node)

/-- Whether a key is the one that names an operator. -/
def Yaml.Node.isOperatorKey (key : Node) : Bool :=
  match key.value false with
  | .ok (.string s) => s = "op"
  | _ => false

/-- The node with its operator given as a text. -/
def Yaml.Node.textOperator : Node → Node
  | .mapping tag mark pairs =>
    .mapping tag mark (pairs.map fun (key, value) =>
      match value with
      | .scalar _ mark text _ =>
        if key.isOperatorKey then (key, .scalar none mark text false) else (key, value)
      | value => (key, value))
  | .sequence tag (.scalar _ mark text _ :: nodes) =>
    .sequence tag (.scalar none mark text false :: nodes)
  | node => node

/-- Whether a node is a whole zero that is written with a minus sign. -/
def Yaml.Node.isMinusZero : Node → Bool
  | .scalar tag _ text plain =>
    match Yaml.scalarValue tag text plain with
    | .ok (.number (.int n)) => n = 0 && Text.hasLead "-" text
    | _ => false
  | _ => false

/-- A node in a place for a name. A zero with a minus sign is none there, nor is the empty list that
stands for it. -/
def Yaml.Node.unsigned (node : Node) : Node :=
  if node.isMinusZero then .sequence none [] else node

mutual

/-- The node without zeros that have a minus sign in the places for names. These are the keys of
mappings, the values of `op` and the first items of lists. -/
def unsignedNames : Node → Node
  | .sequence tag [] => .sequence tag []
  | .sequence tag (node :: nodes) =>
    .sequence tag ((unsignedNames node).unsigned :: unsignedNamesOfItems nodes)
  | .mapping tag mark pairs => .mapping tag mark (unsignedNamesOfPairs pairs)
  | .scalar tag mark text plain => .scalar tag mark text plain
  | .broken => .broken

/-- The same for the items of a list that follow the first. -/
def unsignedNamesOfItems : List Node → List Node
  | [] => []
  | node :: nodes => unsignedNames node :: unsignedNamesOfItems nodes

/-- The same for the pairs of a mapping. -/
def unsignedNamesOfPairs : List (Node × Node) → List (Node × Node)
  | [] => []
  | (key, value) :: pairs =>
    let value' := unsignedNames value
    ((unsignedNames key).unsigned, if key.isOperatorKey then value'.unsigned else value') ::
      unsignedNamesOfPairs pairs

end

/-- The plan of a text that is one document. -/
def planOfText (text : String) : Except PlanFault Plan :=
  match Yaml.documents text with
  | [document] =>
    match (unsignedNames document.root.textOperator).value false with
    | .error _ => .error .malformed
    | .ok value =>
      if document.faulty then .error .malformed
      else
        match Written.top value with
        | .error _ => .error .malformed
        | .ok definition => definition.toPlan.mapError .definition
  | _ => .error .malformed

end StreamPlan
