import Mathlib.Data.List.Forall2
import StreamPlan.Plan.Definition
import StreamPlan.Proofs.Data.Except
import StreamPlan.Proofs.TableName

/-!
# From written plans to plans

A written plan is checked and converted in one walk. Each kind of node has its own order of checks and
conversions, but all of them come to the same rule: a node before its inputs, and the left input before
the right. `Definition.nodes` lists the nodes in this order.

- `errorOf?_toPlan`: the conversion reports the first fault of that list;
- `becomes_of_toPlan`, `toPlan_of_becomes`: what a conversion does at each kind of node (`Becomes`), from
  which the facts about converted plans are read off;
- `Becomes.definition_eq`: the converted plan is written as it was, but for blanks around the segments of
  its names.
-/

namespace StreamPlan

/-- The text that a name is written as, for a text that can be read as a name. -/
def TableName.normalText (text : String) : String :=
  match parse text with
  | .ok name => name.dotted
  | .error _ => text

theorem TableName.normalText_of_parse {text : String} {name : TableName} (h : parse text = .ok name) :
    normalText text = name.dotted := by
  rw [normalText, h]

/-- The plan as it is written. Only projections and filters have a place for a table that they look
records up in. -/
def Plan.definition : Plan → Definition
  | .scan table => .scan (table.map TableName.dotted)
  | .write table kind input => .write table.dotted kind input.definition
  | .binary (.join joinType leftKey rightKey) left right =>
    .join joinType leftKey rightKey left.definition right.definition
  | .binary .union left right => .union left.definition right.definition
  | .unary (.project columns) table input =>
    .project columns (table.map TableName.dotted) input.definition
  | .unary (.filter condition) table input =>
    .filter condition (table.map TableName.dotted) input.definition
  | .unary (.aggregate groupBy aggregates) _ input => .aggregate groupBy aggregates input.definition
  | .unary (.window partitionBy sizeMs) _ input => .window partitionBy sizeMs input.definition

namespace Definition

/-! ## Nodes -/

/-- The written plan and all written plans within it: each before its inputs, the left input before the
right. -/
def nodes : Definition → List Definition
  | .scan table => [.scan table]
  | .project columns table input => .project columns table input :: input.nodes
  | .filter condition table input => .filter condition table input :: input.nodes
  | .aggregate groupBy aggregates input => .aggregate groupBy aggregates input :: input.nodes
  | .window partitionBy sizeMs input => .window partitionBy sizeMs input :: input.nodes
  | .join joinType leftKey rightKey left right =>
    .join joinType leftKey rightKey left right :: (left.nodes ++ right.nodes)
  | .union left right => .union left right :: (left.nodes ++ right.nodes)
  | .write table kind input => .write table kind input :: input.nodes

/-- The inputs of the topmost node, from left to right. -/
def inputs : Definition → List Definition
  | .scan _ => []
  | .project _ _ input => [input]
  | .filter _ _ input => [input]
  | .aggregate _ _ input => [input]
  | .window _ _ input => [input]
  | .join _ _ _ left right => [left, right]
  | .union left right => [left, right]
  | .write _ _ input => [input]

/-- The text that the topmost node has for a table. -/
def table? : Definition → Option String
  | .scan table => table
  | .project _ table _ => table
  | .filter _ table _ => table
  | .write table _ _ => some table
  | _ => none

/-- The name of the topmost operator. -/
def label : Definition → String
  | .scan _ => "scan"
  | .project .. => "project"
  | .filter .. => "filter"
  | .aggregate .. => "aggregate"
  | .window .. => "window"
  | .join .. => "join"
  | .union .. => "union"
  | .write .. => "modify"

/-- The written plan with other texts for its tables. -/
def mapNames (f : String → String) : Definition → Definition
  | .scan table => .scan (table.map f)
  | .project columns table input => .project columns (table.map f) (input.mapNames f)
  | .filter condition table input => .filter condition (table.map f) (input.mapNames f)
  | .aggregate groupBy aggregates input => .aggregate groupBy aggregates (input.mapNames f)
  | .window partitionBy sizeMs input => .window partitionBy sizeMs (input.mapNames f)
  | .join joinType leftKey rightKey left right =>
    .join joinType leftKey rightKey (left.mapNames f) (right.mapNames f)
  | .union left right => .union (left.mapNames f) (right.mapNames f)
  | .write table kind input => .write (f table) kind (input.mapNames f)

/-- What is wrong with the topmost node by itself. -/
inductive HasFault : Definition → DefinitionFault → Prop
  /-- The text for its table is no name. -/
  | name {node : Definition} {text : String} {fault : NameFault} (htable : node.table? = some text)
      (hparse : TableName.parse text = .error fault) : HasFault node (.name fault)
  /-- It is a window without a length. -/
  | zeroWindow (partitionBy : List String) (input : Definition) :
      HasFault (.window partitionBy 0 input) .zeroWindow

variable {definition node : Definition} {plan : Plan} {fault : DefinitionFault}

/-! ## Names -/

theorem tableName_eq_ok_iff {text : String} {name : TableName} :
    tableName text = .ok name ↔ TableName.parse text = .ok name :=
  mapError_eq_ok_iff

theorem optionalName_eq_ok_iff {table : Option String} {name : Option TableName} :
    optionalName table = .ok name ↔ table.map TableName.parse = name.map .ok := by
  cases table with
  | none => cases name <;> simp [optionalName]
  | some text =>
    rw [optionalName, map_eq_ok_iff]
    cases name <;> simp [tableName_eq_ok_iff]

theorem errorOf?_tableName_eq_some_iff {text : String} :
    errorOf? (tableName text) = some fault ↔
      ∃ nameFault, TableName.parse text = .error nameFault ∧ fault = .name nameFault := by
  rw [tableName]
  cases TableName.parse text <;> simp [Except.mapError, errorOf?, eq_comm]

theorem errorOf?_optionalName (text : String) :
    errorOf? (optionalName (some text)) = errorOf? (tableName text) := by
  rw [optionalName]
  cases tableName text <;> rfl

theorem map_dotted_of_optionalName {table : Option String} {name : Option TableName}
    (h : optionalName table = .ok name) :
    name.map TableName.dotted = table.map TableName.normalText := by
  have hread := optionalName_eq_ok_iff.1 h
  cases table with
  | none =>
    cases name with
    | none => rfl
    | some name => cases hread
  | some text =>
    cases name with
    | none => cases hread
    | some name =>
      exact congrArg some (TableName.normalText_of_parse (Option.some.inj hread)).symm

/-! ## The first fault -/

/-- The fault of the topmost node by itself. -/
def fault? : Definition → Option DefinitionFault
  | .window _ sizeMs _ => if sizeMs = 0 then some .zeroWindow else none
  | node => errorOf? (optionalName node.table?)

theorem errorOf?_optionalName_eq_some_iff {table : Option String} :
    errorOf? (optionalName table) = some fault ↔
      ∃ text nameFault, table = some text ∧ TableName.parse text = .error nameFault ∧
        fault = .name nameFault := by
  cases table with
  | none => simp [optionalName, errorOf?]
  | some text =>
    rw [errorOf?_optionalName, errorOf?_tableName_eq_some_iff]
    simp

theorem fault?_eq_some_iff : node.fault? = some fault ↔ node.HasFault fault := by
  constructor
  · intro h
    unfold fault? at h
    split at h
    · rename_i partitionBy sizeMs input
      split at h
      · rename_i hzero
        obtain rfl := Option.some.inj h
        exact hzero ▸ .zeroWindow partitionBy input
      · cases h
    · obtain ⟨text, nameFault, htable, hparse, rfl⟩ := errorOf?_optionalName_eq_some_iff.1 h
      exact .name htable hparse
  · intro h
    cases h with
    | zeroWindow partitionBy input => rfl
    | @name node text nameFault htable hparse =>
      -- A window has no table, so that the rule for names applies.
      have hrule : node.fault? = errorOf? (optionalName node.table?) := by
        cases node with
        | window partitionBy sizeMs input => cases htable
        | _ => rfl
      rw [hrule]
      exact errorOf?_optionalName_eq_some_iff.2 ⟨text, nameFault, htable, hparse, rfl⟩

theorem fault?_eq_none_iff : node.fault? = none ↔ ∀ fault, ¬node.HasFault fault := by
  rw [Option.eq_none_iff_forall_ne_some]
  exact forall_congr' fun _ => not_congr fault?_eq_some_iff

theorem findSome?_fault?_cons (node : Definition) (rest : List Definition) :
    (node :: rest).findSome? fault? = node.fault?.or (rest.findSome? fault?) := by
  rw [List.findSome?_cons]
  cases node.fault? <;> rfl

/-- The conversion reports the first fault among the nodes. -/
theorem errorOf?_toPlan (definition : Definition) :
    errorOf? definition.toPlan = definition.nodes.findSome? fault? := by
  induction definition with
  | scan table =>
    rw [toPlan, errorOf?_bind_ok, nodes, findSome?_fault?_cons, List.findSome?_nil, Option.or_none]
    rfl
  | project columns table input ih | filter condition table input ih =>
    rw [toPlan, errorOf?_bind_bind_ok, ih, nodes, findSome?_fault?_cons]
    rfl
  | aggregate groupBy aggregates input ih =>
    rw [toPlan, errorOf?_bind_ok, ih, nodes, findSome?_fault?_cons]
    rfl
  | window partitionBy sizeMs input ih =>
    rw [toPlan, nodes, findSome?_fault?_cons, fault?]
    -- The length is checked in the place where other nodes have their names read.
    split
    · rfl
    · rw [errorOf?_bind_ok, ih]
      rfl
  | join joinType leftKey rightKey left right ihLeft ihRight | union left right ihLeft ihRight =>
    -- The node has no check of its own, and the faults of the left input come first.
    rw [toPlan, errorOf?_bind_bind_ok, ihLeft, ihRight, nodes, findSome?_fault?_cons,
      List.findSome?_append]
    rfl
  | write table kind input ih =>
    rw [toPlan, errorOf?_bind_bind_ok, ih, nodes, findSome?_fault?_cons, ← errorOf?_optionalName]
    rfl

theorem toPlan_eq_error_iff :
    definition.toPlan = .error fault ↔
      ∃ before node after, definition.nodes = before ++ node :: after ∧
        node.HasFault fault ∧ ∀ earlier ∈ before, ∀ other, ¬earlier.HasFault other := by
  rw [← errorOf?_eq_some_iff, errorOf?_toPlan, List.findSome?_eq_some_iff]
  simp only [fault?_eq_some_iff, fault?_eq_none_iff]

theorem exists_toPlan_eq_error_iff :
    (∃ fault, definition.toPlan = .error fault) ↔
      ∃ node ∈ definition.nodes, ∃ fault, node.HasFault fault := by
  simp only [← errorOf?_eq_some_iff, errorOf?_toPlan, ← fault?_eq_some_iff, ← Option.isSome_iff_exists,
    List.findSome?_isSome_iff]

/-! ## The converted plan -/

/-- A written plan and the plan that it becomes: the same operators with the same settings in the same
places, and for each text the name that is read for it. -/
inductive Becomes : Definition → Plan → Prop
  /-- A scan. -/
  | scan {table : Option String} {name : Option TableName} (htable : optionalName table = .ok name) :
      Becomes (.scan table) (.scan name)
  /-- A projection. -/
  | project {table : Option String} {name : Option TableName} {input : Definition} {inner : Plan}
      (columns : List String) (htable : optionalName table = .ok name) (hinput : Becomes input inner) :
      Becomes (.project columns table input) (.unary (.project columns) name inner)
  /-- A filter. -/
  | filter {table : Option String} {name : Option TableName} {input : Definition} {inner : Plan}
      (condition : String) (htable : optionalName table = .ok name) (hinput : Becomes input inner) :
      Becomes (.filter condition table input) (.unary (.filter condition) name inner)
  /-- An aggregation. -/
  | aggregate {input : Definition} {inner : Plan} (groupBy aggregates : List String)
      (hinput : Becomes input inner) :
      Becomes (.aggregate groupBy aggregates input) (.unary (.aggregate groupBy aggregates) none inner)
  /-- A window, which must have a length. -/
  | window {sizeMs : Nat} {input : Definition} {inner : Plan} (partitionBy : List String)
      (hsize : 0 < sizeMs) (hinput : Becomes input inner) :
      Becomes (.window partitionBy sizeMs input) (.unary (.window partitionBy sizeMs) none inner)
  /-- A join. -/
  | join {left right : Definition} {first second : Plan} (joinType : JoinType) (leftKey rightKey : String)
      (hleft : Becomes left first) (hright : Becomes right second) :
      Becomes (.join joinType leftKey rightKey left right)
        (.binary (.join joinType leftKey rightKey) first second)
  /-- A union. -/
  | union {left right : Definition} {first second : Plan} (hleft : Becomes left first)
      (hright : Becomes right second) : Becomes (.union left right) (.binary .union first second)
  /-- A write. -/
  | write {table : String} {name : TableName} {input : Definition} {inner : Plan} (kind : WriteKind)
      (htable : tableName table = .ok name) (hinput : Becomes input inner) :
      Becomes (.write table kind input) (.write name kind inner)

theorem becomes_of_toPlan (h : definition.toPlan = .ok plan) : Becomes definition plan := by
  -- The steps of a conversion are taken apart in the order in which they are made.
  induction definition generalizing plan with
  | scan table =>
    obtain ⟨name, htable, h⟩ := bind_eq_ok_iff.1 h
    obtain rfl := Except.ok.inj h
    exact .scan htable
  | project columns table input ih =>
    obtain ⟨name, htable, h⟩ := bind_eq_ok_iff.1 h
    obtain ⟨inner, hinner, h⟩ := bind_eq_ok_iff.1 h
    obtain rfl := Except.ok.inj h
    exact .project columns htable (ih hinner)
  | filter condition table input ih =>
    obtain ⟨name, htable, h⟩ := bind_eq_ok_iff.1 h
    obtain ⟨inner, hinner, h⟩ := bind_eq_ok_iff.1 h
    obtain rfl := Except.ok.inj h
    exact .filter condition htable (ih hinner)
  | aggregate groupBy aggregates input ih =>
    obtain ⟨inner, hinner, h⟩ := bind_eq_ok_iff.1 h
    obtain rfl := Except.ok.inj h
    exact .aggregate groupBy aggregates (ih hinner)
  | window partitionBy sizeMs input ih =>
    rw [toPlan] at h
    split_ifs at h with hzero
    obtain ⟨inner, hinner, h⟩ := bind_eq_ok_iff.1 h
    obtain rfl := Except.ok.inj h
    exact .window partitionBy (Nat.pos_of_ne_zero hzero) (ih hinner)
  | join joinType leftKey rightKey left right ihLeft ihRight =>
    obtain ⟨first, hfirst, h⟩ := bind_eq_ok_iff.1 h
    obtain ⟨second, hsecond, h⟩ := bind_eq_ok_iff.1 h
    obtain rfl := Except.ok.inj h
    exact .join joinType leftKey rightKey (ihLeft hfirst) (ihRight hsecond)
  | union left right ihLeft ihRight =>
    obtain ⟨first, hfirst, h⟩ := bind_eq_ok_iff.1 h
    obtain ⟨second, hsecond, h⟩ := bind_eq_ok_iff.1 h
    obtain rfl := Except.ok.inj h
    exact .union (ihLeft hfirst) (ihRight hsecond)
  | write table kind input ih =>
    obtain ⟨name, htable, h⟩ := bind_eq_ok_iff.1 h
    obtain ⟨inner, hinner, h⟩ := bind_eq_ok_iff.1 h
    obtain rfl := Except.ok.inj h
    exact .write kind htable (ih hinner)

theorem toPlan_of_becomes (h : Becomes definition plan) : definition.toPlan = .ok plan := by
  induction h with
  | scan htable => rw [toPlan, htable, ok_bind]
  | project columns htable hinput ih | filter condition htable hinput ih | write kind htable hinput ih =>
    rw [toPlan, htable, ok_bind, ih, ok_bind]
  | aggregate groupBy aggregates hinput ih => rw [toPlan, ih, ok_bind]
  | window partitionBy hsize hinput ih => rw [toPlan, if_neg (Nat.ne_of_gt hsize), ih, ok_bind]
  | join joinType leftKey rightKey hleft hright ihLeft ihRight | union hleft hright ihLeft ihRight =>
    rw [toPlan, ihLeft, ok_bind, ihRight, ok_bind]

namespace Becomes

theorem label_eq (h : Becomes definition plan) : plan.label = definition.label := by
  cases h <;> rfl

/-- The table of an operator is the name that is read for the text of its node. -/
theorem map_table? (h : Becomes definition plan) :
    plan.table?.map .ok = definition.table?.map TableName.parse := by
  cases h with
  | scan htable | project columns htable hinput | filter condition htable hinput =>
    exact (optionalName_eq_ok_iff.1 htable).symm
  | write kind htable hinput => exact congrArg some (tableName_eq_ok_iff.1 htable).symm
  | _ => rfl

theorem inputs (h : Becomes definition plan) :
    List.Forall₂ Becomes definition.inputs plan.inputs := by
  cases h with
  | scan htable => exact .nil
  | project columns htable hinput | filter condition htable hinput
  | aggregate groupBy aggregates hinput | window partitionBy hsize hinput
  | write kind htable hinput => exact .cons hinput .nil
  | join joinType leftKey rightKey hleft hright | union hleft hright =>
    exact .cons hleft (.cons hright .nil)

/-- The nodes become the parts of the plan, one by one and in order. -/
theorem nodes (h : Becomes definition plan) : List.Forall₂ Becomes definition.nodes plan.subplans := by
  -- Both lists have the same order, and a binary operator puts together the lists of its inputs.
  induction h with
  | scan htable => exact .cons (.scan htable) .nil
  | project columns htable hinput ih => exact .cons (.project columns htable hinput) ih
  | filter condition htable hinput ih => exact .cons (.filter condition htable hinput) ih
  | aggregate groupBy aggregates hinput ih => exact .cons (.aggregate groupBy aggregates hinput) ih
  | window partitionBy hsize hinput ih => exact .cons (.window partitionBy hsize hinput) ih
  | join joinType leftKey rightKey hleft hright ihLeft ihRight =>
    exact .cons (.join joinType leftKey rightKey hleft hright) (List.rel_append ihLeft ihRight)
  | union hleft hright ihLeft ihRight =>
    exact .cons (.union hleft hright) (List.rel_append ihLeft ihRight)
  | write kind htable hinput ih => exact .cons (.write kind htable hinput) ih

/-- The plan is written as it was, with its names in normal form. -/
theorem definition_eq (h : Becomes definition plan) :
    plan.definition = definition.mapNames TableName.normalText := by
  induction h with
  | scan htable => rw [Plan.definition, mapNames, map_dotted_of_optionalName htable]
  | project columns htable hinput ih | filter condition htable hinput ih =>
    rw [Plan.definition, mapNames, map_dotted_of_optionalName htable, ih]
  | aggregate groupBy aggregates hinput ih | window partitionBy hsize hinput ih =>
    rw [Plan.definition, mapNames, ih]
  | join joinType leftKey rightKey hleft hright ihLeft ihRight | union hleft hright ihLeft ihRight =>
    rw [Plan.definition, mapNames, ihLeft, ihRight]
  | write kind htable hinput ih =>
    rw [Plan.definition, mapNames, TableName.normalText_of_parse (tableName_eq_ok_iff.1 htable), ih]

end Becomes

/-- **Written plans are converted as they stand, or refused for their first fault.**

- A written plan is refused exactly if some node has a text for its table that is no name, or is a window
  without a length.
- What is reported is the fault of the first such node, where a node stands before its inputs and the left
  input before the right.
- A plan that comes out is written as before, with the names in normal form: it has the same operators
  with the same settings. Place by place, its labels are those of the nodes, its tables are the names
  that are read for their texts, and the inputs of each operator are what the inputs of the node become,
  from left to right. -/
theorem toPlan_refuses_first_or_keeps (definition : Definition) :
    ((∃ fault, definition.toPlan = .error fault) ↔
      ∃ node ∈ definition.nodes, ∃ fault, node.HasFault fault) ∧
    (∀ fault, definition.toPlan = .error fault ↔
      ∃ before node after, definition.nodes = before ++ node :: after ∧ node.HasFault fault ∧
        ∀ earlier ∈ before, ∀ other, ¬earlier.HasFault other) ∧
    ∀ plan, definition.toPlan = .ok plan →
      plan.definition = definition.mapNames TableName.normalText ∧
      List.Forall₂ (fun node part => part.label = node.label ∧
          part.table?.map .ok = node.table?.map TableName.parse ∧
          List.Forall₂ (fun input result => input.toPlan = .ok result) node.inputs part.inputs)
        definition.nodes plan.subplans := by
  refine ⟨exists_toPlan_eq_error_iff, fun fault => toPlan_eq_error_iff, fun plan h => ?_⟩
  have hbecomes := becomes_of_toPlan h
  -- What holds of the topmost operator holds at every place.
  refine ⟨hbecomes.definition_eq, hbecomes.nodes.imp fun node part hnode => ?_⟩
  exact ⟨hnode.label_eq, hnode.map_table?, hnode.inputs.imp fun _ _ => toPlan_of_becomes⟩

/-- Events that are written to an audit trail, from a scan whose name lacks its second segment and from a
window without a length. -/
def brokenTrail : Definition :=
  .write "audit. trail" .insert
    (.union (.filter "level > 3" none (.scan (some "audit. .raw")))
      (.window ["user"] 0 (.scan (some ""))))

/-- The same with the names and the length that were meant. -/
def auditTrail : Definition :=
  .write "audit. trail" .insert
    (.union (.filter "level > 3" none (.scan (some " audit.raw\t")))
      (.window ["user"] 60000 (.scan none)))

theorem toPlan_refuses_first_or_keeps_auditTrail :
    brokenTrail.toPlan = .error (.name (.blankSegment 1 ["audit", "", "raw"])) ∧
    ∃ plan, auditTrail.toPlan = .ok plan ∧
      plan.definition = .write "audit.trail" .insert
        (.union (.filter "level > 3" none (.scan (some "audit.raw")))
          (.window ["user"] 60000 (.scan none))) ∧
      plan.subplans.map Plan.label = ["modify", "union", "filter", "scan", "window", "scan"] := by
  constructor
  · refine ((toPlan_refuses_first_or_keeps brokenTrail).2.1 _).2 ⟨brokenTrail.nodes.take 3,
      .scan (some "audit. .raw"), brokenTrail.nodes.drop 4, rfl, .name rfl (by decide +kernel), ?_⟩
    intro earlier hmem
    rw [← fault?_eq_none_iff]
    revert earlier
    decide +kernel
  · have hrun : auditTrail.toPlan.toOption.isSome = true := by decide +kernel
    obtain ⟨plan, hplan⟩ := Option.isSome_iff_exists.1 hrun
    have hok := toOption_eq_some_iff.1 hplan
    obtain ⟨hwritten, hnodes⟩ := (toPlan_refuses_first_or_keeps auditTrail).2.2 plan hok
    refine ⟨plan, hok, hwritten.trans (by decide +kernel), ?_⟩
    have hlabels : List.Forall₂ (· = ·) (plan.subplans.map Plan.label)
        (auditTrail.nodes.map label) := by
      rw [List.forall₂_map_left_iff, List.forall₂_map_right_iff]
      exact (hnodes.imp fun _ _ hnode => hnode.1).flip
    rw [List.forall₂_eq_eq_eq] at hlabels
    exact hlabels.trans rfl

end Definition

end StreamPlan
