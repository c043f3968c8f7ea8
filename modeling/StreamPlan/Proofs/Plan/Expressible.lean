import StreamPlan.Proofs.Plan.Converted
import StreamPlan.Proofs.Plan.Stored

/-!
# Plans that can be written

Not every plan can be written in a statement. Texts are read as names in normal form only, a window must
have a length, and there is no place for the table of an aggregation or a window. These are all the
limits: `Becomes.topWellFormed` shows that no converted plan is beyond them, and `becomes_definition`
that every plan within them comes back from the way in which it is written.
-/

namespace StreamPlan

/-- The length of the window that the topmost node is. -/
def Definition.windowSize? : Definition → Option Nat
  | .window _ sizeMs _ => some sizeMs
  | _ => none

/-- The lengths of the windows of a written plan. -/
def Definition.windowSizes (definition : Definition) : List Nat :=
  definition.nodes.filterMap windowSize?

namespace Plan

/-- The topmost operator is one that can be written. -/
structure TopWellFormed (plan : Plan) : Prop where
  /-- The segments of its table's name have text, are trimmed and have no dots. -/
  name : ∀ name, plan.table? = some name → ∀ segment ∈ name.segments,
    segment ≠ "" ∧ Text.trim segment = segment ∧ '.' ∉ segment.toList
  /-- A window has a length. -/
  window : ∀ size, plan.windowSize? = some size → 0 < size
  /-- An aggregation or a window refers to no table. -/
  bare : plan.label = "aggregate" ∨ plan.label = "window" → plan.table? = none

/-- All operators of the plan are such that can be written. -/
def WellFormed (plan : Plan) : Prop := ∀ part ∈ plan.subplans, part.TopWellFormed

end Plan

/-! ## What is written is within the limits -/

namespace Definition.Becomes

variable {definition : Definition} {plan : Plan}

theorem topWellFormed (h : Becomes definition plan) : plan.TopWellFormed where
  name name hname := by
    -- The name was read for a text, and what is read is in normal form.
    have hread := h.map_table?
    rw [hname, Option.map_some, eq_comm, Option.map_eq_some_iff] at hread
    obtain ⟨text, -, hparse⟩ := hread
    exact TableName.normal_of_parse hparse
  window size hsize := by
    cases h with
    | window partitionBy hpos hinput =>
      obtain rfl := Option.some.inj hsize
      exact hpos
    | _ => cases hsize
  bare hlabel := by
    -- The other operators have other labels.
    cases h with
    | aggregate groupBy aggregates hinput => rfl
    | window partitionBy hpos hinput => rfl
    | _ => simp [Plan.label] at hlabel

theorem wellFormed (h : Becomes definition plan) : plan.WellFormed := by
  -- Each part of the plan is what some node becomes.
  have hparts : List.Forall₂ (fun part node => part.TopWellFormed ∧ Becomes node part)
      plan.subplans definition.nodes :=
    (h.nodes.imp fun _ _ hnode => ⟨hnode.topWellFormed, hnode⟩).flip
  exact ((List.forall₂_and_left _ _).1 hparts).1

end Definition.Becomes

/-! ## What is within the limits can be written -/

theorem Definition.optionalName_map_dotted {table : Option TableName}
    (h : ∀ name, table = some name → name.Normal) :
    optionalName (table.map TableName.dotted) = .ok table := by
  cases table with
  | none => rfl
  | some name => exact optionalName_eq_ok_iff.2 (congrArg some (TableName.parse_dotted (h name rfl)))

namespace Plan

open Definition (Becomes)

variable {plan : Plan}

/-- A plan within the limits comes back from the way in which it is written. -/
theorem becomes_definition (h : plan.WellFormed) : Becomes plan.definition plan := by
  induction plan with
  | scan table =>
    exact .scan (Definition.optionalName_map_dotted (h _ (List.mem_singleton_self _)).name)
  | write table kind input ih =>
    obtain ⟨htop, hinput⟩ := List.forall_mem_cons.1 h
    exact .write kind (Definition.tableName_eq_ok_iff.2 (TableName.parse_dotted (htop.name table rfl)))
      (ih hinput)
  | binary op left right ihLeft ihRight =>
    -- Nothing can be wrong with a binary operator itself.
    obtain ⟨-, hinputs⟩ := List.forall_mem_cons.1 h
    obtain ⟨hleft, hright⟩ := List.forall_mem_append.1 hinputs
    cases op with
    | join joinType leftKey rightKey =>
      exact .join joinType leftKey rightKey (ihLeft hleft) (ihRight hright)
    | union => exact .union (ihLeft hleft) (ihRight hright)
  | unary op table input ih =>
    obtain ⟨htop, hinput⟩ := List.forall_mem_cons.1 h
    -- Writing drops the table of an aggregation or a window, which is right only if there is none.
    cases op with
    | project columns =>
      exact .project columns (Definition.optionalName_map_dotted htop.name) (ih hinput)
    | filter condition =>
      exact .filter condition (Definition.optionalName_map_dotted htop.name) (ih hinput)
    | aggregate groupBy aggregates =>
      obtain rfl : table = none := htop.bare (.inl rfl)
      exact .aggregate groupBy aggregates (ih hinput)
    | window partitionBy sizeMs =>
      obtain rfl : table = none := htop.bare (.inr rfl)
      exact .window partitionBy (htop.window sizeMs rfl) (ih hinput)

theorem toPlan_definition_iff : plan.definition.toPlan = .ok plan ↔ plan.WellFormed :=
  ⟨fun h => (Definition.becomes_of_toPlan h).wellFormed,
    fun h => Definition.toPlan_of_becomes (becomes_definition h)⟩

instance (plan : Plan) : Decidable plan.WellFormed := decidable_of_iff _ toPlan_definition_iff

/-- Writing keeps the parts of a plan in order. -/
theorem nodes_definition (plan : Plan) : plan.definition.nodes = plan.subplans.map definition := by
  induction plan with
  | scan table => rfl
  | write table kind input ih => simp [definition, Definition.nodes, subplans, ih]
  | binary op left right ihLeft ihRight =>
    cases op <;> simp [definition, Definition.nodes, subplans, ihLeft, ihRight]
  | unary op table input ih => cases op <;> simp [definition, Definition.nodes, subplans, ih]

theorem windowSize?_definition (plan : Plan) : plan.definition.windowSize? = plan.windowSize? := by
  cases plan with
  | scan table => rfl
  | write table kind input => rfl
  | binary op left right => cases op <;> rfl
  | unary op table input => cases op <;> rfl

theorem windowSizes_definition (plan : Plan) : plan.definition.windowSizes = plan.windowSizes := by
  rw [Definition.windowSizes, nodes_definition, List.filterMap_map, windowSizes]
  exact List.filterMap_congr fun part _ => windowSize?_definition part

/-- **Which plans can be written.** A plan is what some written plan is converted into exactly if all of
its names are made of trimmed segments with text and without dots, all of its windows have a length, and
none of its aggregations and windows refers to a table. It is then also what its own written form is
converted into. The windows of that form have the lengths of the plan's, so that 64 bits are enough for
the one if they are for the other. -/
theorem toPlan_reaches_iff_wellFormed (plan : Plan) :
    ((∃ definition : Definition, definition.toPlan = .ok plan) ↔ plan.WellFormed) ∧
    (plan.definition.toPlan = .ok plan ↔ plan.WellFormed) ∧
    plan.definition.windowSizes = plan.windowSizes := by
  refine ⟨⟨?_, fun h => ⟨plan.definition, toPlan_definition_iff.2 h⟩⟩, toPlan_definition_iff,
    windowSizes_definition plan⟩
  rintro ⟨definition, h⟩
  exact (Definition.becomes_of_toPlan h).wellFormed

/-- The table that users are looked up in. -/
def usersById : TableName := ⟨["users", "by id"], by decide, by decide +kernel⟩

/-- A filter may look records up in a table, a window may not. -/
theorem toPlan_reaches_iff_wellFormed_lookup :
    (∃ definition : Definition, definition.toPlan =
      .ok (.unary (.filter "known") (some usersById) (.unary (.window [] 5) none (.scan none)))) ∧
    ¬∃ definition : Definition, definition.toPlan =
      .ok (.unary (.window [] 5) (some usersById) (.unary (.filter "known") none (.scan none))) := by
  rw [(toPlan_reaches_iff_wellFormed _).1, (toPlan_reaches_iff_wellFormed _).1]
  decide +kernel

end Plan

end StreamPlan
