import StreamPlan.Proofs.Operator.Lowers
import StreamPlan.Proofs.Plan.Roles

/-!
# The streams of a lowered plan

The roles of a plan and the graph of its operators come from two walks over the plan. The first collects
the names that the plan refers to. The second makes an input of a scan, unless the stream has one already
or the scan is the table of a join; it makes a sink of a write, and drops the tables that unary operators
look up. This file shows that no name is lost or made up on the way (`roles_of_lower`), and that inputs
and sinks are on the systems that their streams are resolved to.

What lowering adds to a graph is said once, by induction on `Plan.Lowers`: `Lowers.touches_iff` for the
names and `Lowers.resolved_of_meets` for the systems.
-/

namespace StreamPlan

/-- The name that a stage touches in a role: the stream that it reads, the table that it joins with, or
the stream that it writes. -/
def Stage.touches? {σ : Type} : Stage σ → Role → Option String
  | .input stream _, .input => some stream
  | .tableJoin join _, .input => some join.table
  | .sink stream _ _, .output => some stream
  | _, _ => none

/-- The stream and the system at which data enters or leaves a job by a stage. -/
def Stage.endpoint? {σ : Type} : Stage σ → Role → Option (String × String)
  | .input stream system, .input => some (stream, system)
  | .sink stream system _, .output => some (stream, system)
  | _, _ => none

theorem Stage.eq_input_of_endpoint? {σ : Type} {stage : Stage σ} {stream system : String}
    (h : stage.endpoint? .input = some (stream, system)) : stage = .input stream system := by
  cases stage with
  | input stream' system' =>
    obtain ⟨rfl, rfl⟩ := Prod.mk.inj (Option.some.inj h)
    rfl
  | _ => cases h

/-- Some operator touches a name in a role. -/
def OperatorGraph.Touches (graph : OperatorGraph) (role : Role) (name : String) : Prop :=
  ∃ operator ∈ graph.operators, operator.stage.touches? role = some name

/-- Some operator takes data from a stream of a system, in the role of an input, or hands data to it. -/
def OperatorGraph.Meets (graph : OperatorGraph) (role : Role) (stream system : String) : Prop :=
  ∃ operator ∈ graph.operators, operator.stage.endpoint? role = some (stream, system)

namespace Plan

/-- The name that the topmost operator scans or writes. -/
def moves? : Plan → Role → Option String
  | .scan table, .input => table.map TableName.dotted
  | .write table _ _, .output => some table.dotted
  | _, _ => none

/-- Some part of the plan scans a name, in the role of an input, or writes it. -/
def Moves (plan : Plan) (role : Role) (name : String) : Prop :=
  ∃ part ∈ plan.subplans, part.moves? role = some name

/-- A unary operator of the plan looks a table up. -/
def LooksUp (plan : Plan) (name : String) : Prop :=
  ∃ op table input, Plan.unary op (some table) input ∈ plan.subplans ∧ table.dotted = name

/-! ## Names of plans -/

section Names

variable {role : Role} {name : String}

theorem moves_scan_iff {table : TableName} :
    (Plan.scan (some table)).Moves role name ↔ role = .input ∧ table.dotted = name := by
  cases role <;> simp [Moves, subplans, moves?]

theorem moves_write_iff {table : TableName} {kind : WriteKind} {plan : Plan} :
    (Plan.write table kind plan).Moves role name ↔
      plan.Moves role name ∨ role = .output ∧ table.dotted = name := by
  cases role <;> simp [Moves, subplans, moves?, or_comm]

theorem moves_unary_iff {op : UnaryOp} {table : Option TableName} {plan : Plan} :
    (Plan.unary op table plan).Moves role name ↔ plan.Moves role name := by
  cases role <;> simp [Moves, subplans, moves?]

theorem moves_binary_iff {op : BinaryOp} {left right : Plan} :
    (Plan.binary op left right).Moves role name ↔ left.Moves role name ∨ right.Moves role name := by
  cases role <;> simp [Moves, subplans, moves?, or_and_right, exists_or]

/-- The side of a join that is a scan of a table moves the table and nothing else. -/
theorem moves_iff_of_scannedTable? {resolution : Resolution} {side : Plan} {table : String}
    (h : resolution.scannedTable? side = some table) :
    side.Moves role name ↔ role = .input ∧ table = name := by
  obtain ⟨scanned, rfl, -, rfl⟩ := Resolution.scannedTable?_eq_some_iff.1 h
  exact moves_scan_iff

/-- An operator uses the name that it scans or writes, or a table that it looks up. -/
theorem uses?_eq_some_iff {part : Plan} :
    part.uses? role = some name ↔
      part.moves? role = some name ∨
        role = .input ∧ ∃ op table input, part = .unary op (some table) input ∧
          table.dotted = name := by
  cases part with
  | scan table => cases role <;> simp [uses?, moves?]
  | write table kind input => cases role <;> simp [uses?, moves?]
  | binary op left right => cases role <;> simp [uses?, moves?]
  | unary op table input =>
    cases role with
    | output => simp [uses?, moves?]
    | input => cases table <;> simp [uses?, moves?]

theorem uses_iff {plan : Plan} :
    plan.Uses role name ↔ plan.Moves role name ∨ role = .input ∧ plan.LooksUp name := by
  simp only [Uses, uses?_eq_some_iff, and_or_left, exists_or]
  refine or_congr Iff.rfl ?_
  constructor
  · rintro ⟨part, hpart, hrole, op, table, input, rfl, hname⟩
    exact ⟨hrole, op, table, input, hpart, hname⟩
  · rintro ⟨hrole, op, table, input, hpart, hname⟩
    exact ⟨_, hpart, hrole, op, table, input, rfl, hname⟩

end Names

end Plan

/-! ## Names of graphs -/

namespace OperatorGraph

variable {graph : OperatorGraph} {stage : Stage String} {role : Role} {name : String}

theorem touches_appended_iff :
    (graph.appended stage).Touches role name ↔
      graph.Touches role name ∨ stage.touches? role = some name := by
  simp only [Touches, mem_appended_iff, or_and_right, exists_or, exists_eq_left]

theorem meets_appended_iff {stream system : String} :
    (graph.appended stage).Meets role stream system ↔
      graph.Meets role stream system ∨ stage.endpoint? role = some (stream, system) := by
  simp only [Meets, mem_appended_iff, or_and_right, exists_or, exists_eq_left]

theorem not_touches_empty : ¬empty.Touches role name := by
  rintro ⟨operator, hmem, -⟩
  cases hmem

theorem touches_of_inputOf? {id : String} (h : graph.inputOf? name = some id) :
    graph.Touches .input name := by
  obtain ⟨operator, hfind, -⟩ := Option.map_eq_some_iff.1 h
  have hstream : inputStream? operator = some name := by simpa using List.find?_some hfind
  refine ⟨operator, List.mem_of_find?_eq_some hfind, ?_⟩
  rw [inputStream?] at hstream
  split at hstream
  · rename_i stream system hstage
    rw [hstage]
    exact hstream
  · cases hstream

/-- What is touched as an output is the stream of a sink. -/
theorem touches_output_iff :
    graph.Touches .output name ↔
      ∃ operator ∈ graph.sinks, ∃ system source, operator.stage = .sink name system source := by
  have hstage (operator : Operator) : operator.stage.touches? .output = some name ↔
      operator.code = .sink ∧ ∃ system source, operator.stage = .sink name system source := by
    obtain ⟨id, stage⟩ := operator
    cases stage <;> simp [Stage.touches?, Operator.code, Stage.code]
  simp [Touches, hstage, sinks, and_assoc]

/-- What is touched as an input is the stream of an input or the table of a join. -/
theorem touches_input_iff :
    graph.Touches .input name ↔
      (∃ operator ∈ graph.inputs, ∃ system, operator.stage = .input name system) ∨
        name ∈ graph.tables := by
  have hstage (operator : Operator) : operator.stage.touches? .input = some name ↔
      (operator.code = .input ∧ ∃ system, operator.stage = .input name system) ∨
        operator.table? = some name := by
    obtain ⟨id, stage⟩ := operator
    cases stage <;>
      simp [Stage.touches?, Operator.code, Stage.code, Operator.table?, Stage.tableJoin?]
  simp [Touches, hstage, and_or_left, exists_or, inputs, tables, and_assoc]

end OperatorGraph

namespace Plan.Lowers

variable {resolution : Resolution} {plan : Plan} {before after : OperatorGraph} {id : String}

/-- Lowering a plan adds the names that the plan scans or writes, and no others. -/
theorem touches_iff (h : Lowers resolution plan before id after) (role : Role) (name : String) :
    after.Touches role name ↔ before.Touches role name ∨ plan.Moves role name := by
  induction h with
  | shared hid =>
    -- Nothing is added: the input of an earlier scan has touched the name.
    rw [moves_scan_iff, iff_self_or]
    rintro ⟨rfl, rfl⟩
    exact OperatorGraph.touches_of_inputOf? hid
  | input _ _ =>
    rw [OperatorGraph.touches_appended_iff, moves_scan_iff]
    cases role <;> simp [Stage.touches?]
  | project _ ih | filter _ ih | window _ ih =>
    rw [OperatorGraph.touches_appended_iff, ih, moves_unary_iff]
    simp [Stage.touches?]
  | aggregate _ ih =>
    rw [OperatorGraph.touches_appended_iff, OperatorGraph.touches_appended_iff, ih, moves_unary_iff]
    simp [Stage.touches?]
  | union _ _ ihLeft ihRight | streams _ _ _ _ ihLeft ihRight =>
    rw [OperatorGraph.touches_appended_iff, ihRight, ihLeft, moves_binary_iff]
    simp [Stage.touches?, or_assoc]
  | tableOnRight _ hrightTable _ ih =>
    -- The side of the table is not lowered, and the join touches the table in its place.
    rw [OperatorGraph.touches_appended_iff, ih, moves_binary_iff,
      moves_iff_of_scannedTable? hrightTable]
    cases role <;> simp [Stage.touches?, fieldJoin, or_assoc]
  | tableOnLeft hleftTable _ _ ih =>
    rw [OperatorGraph.touches_appended_iff, ih, moves_binary_iff,
      moves_iff_of_scannedTable? hleftTable]
    cases role <;> simp [Stage.touches?, fieldJoin, or_comm, or_left_comm]
  | write _ _ ih =>
    rw [OperatorGraph.touches_appended_iff, ih, moves_write_iff]
    cases role <;> simp [Stage.touches?, or_assoc]

/-- The inputs and sinks that lowering adds are on the systems that their streams are resolved to. -/
theorem resolved_of_meets (h : Lowers resolution plan before id after) {role : Role}
    {stream system : String} (hmeets : after.Meets role stream system) :
    before.Meets role stream system ∨
      ∃ resolved, resolution.get? stream role = some resolved ∧ resolved.system = system := by
  induction h with
  | shared _ => exact .inl hmeets
  | input _ hresolved =>
    rcases OperatorGraph.meets_appended_iff.1 hmeets with hbefore | hnew
    · exact .inl hbefore
    · cases role with
      | output => cases hnew
      | input =>
        obtain ⟨rfl, rfl⟩ := Prod.mk.inj (Option.some.inj hnew)
        exact .inr ⟨_, hresolved, rfl⟩
  | write _ hresolved ih =>
    rcases OperatorGraph.meets_appended_iff.1 hmeets with hbelow | hnew
    · exact ih hbelow
    · cases role with
      | input => cases hnew
      | output =>
        obtain ⟨rfl, rfl⟩ := Prod.mk.inj (Option.some.inj hnew)
        exact .inr ⟨_, hresolved, rfl⟩
  -- The stages in between have no endpoints.
  | project _ ih | filter _ ih | window _ ih | aggregate _ ih | tableOnRight _ _ _ ih
  | tableOnLeft _ _ _ ih =>
    apply ih
    simpa [OperatorGraph.meets_appended_iff, Stage.endpoint?] using hmeets
  | union _ _ ihLeft ihRight | streams _ _ _ _ ihLeft ihRight =>
    rcases ihRight (by simpa [OperatorGraph.meets_appended_iff, Stage.endpoint?] using hmeets) with
      hbetween | hresolved
    · exact ihLeft hbetween
    · exact .inr hresolved

end Plan.Lowers

/-- The names that a plan writes are exactly the streams of the sinks of its graph. The names that it
reads are exactly the streams of the inputs, the tables of the joins, and the tables that unary operators
of the plan look up. Inputs and sinks are on the systems that their streams are resolved to, each in its
role. -/
theorem roles_of_lower {plan : Plan} {roles : StreamRoles} {resolution : Resolution}
    {graph : OperatorGraph} (hroles : plan.roles = .ok roles)
    (hlower : plan.lower resolution = .ok graph) :
    (∀ name, roles.outputs.contains name = true ↔
        ∃ operator ∈ graph.sinks, ∃ system source, operator.stage = .sink name system source) ∧
      (∀ name, roles.inputs.contains name = true ↔
        (∃ operator ∈ graph.inputs, ∃ system, operator.stage = .input name system) ∨
          name ∈ graph.tables ∨
          ∃ op table input, Plan.unary op (some table) input ∈ plan.subplans ∧
            table.dotted = name) ∧
      (∀ operator ∈ graph.operators, ∀ stream system, operator.stage = .input stream system →
        ∃ resolved, resolution.get? stream .input = some resolved ∧ resolved.system = system) ∧
      (∀ operator ∈ graph.operators, ∀ stream system source,
        operator.stage = .sink stream system source →
        ∃ resolved, resolution.get? stream .output = some resolved ∧ resolved.system = system) := by
  obtain ⟨id, hlowers⟩ := Plan.lowers_of_lower hlower
  have htouches (role : Role) (name : String) : graph.Touches role name ↔ plan.Moves role name := by
    rw [hlowers.touches_iff, or_iff_right OperatorGraph.not_touches_empty]
  have hmeets (role : Role) (stream system : String) (h : graph.Meets role stream system) :
      ∃ resolved, resolution.get? stream role = some resolved ∧ resolved.system = system := by
    rcases hlowers.resolved_of_meets h with ⟨operator, hmem, -⟩ | hresolved
    · cases hmem
    · exact hresolved
  refine ⟨fun name => ?_, fun name => ?_, ?_, ?_⟩
  · have hused := Plan.contains_of_roles hroles .output name
    rw [Plan.uses_iff, ← htouches, OperatorGraph.touches_output_iff] at hused
    simpa [StreamRoles.names] using hused
  · have hused := Plan.contains_of_roles hroles .input name
    rw [Plan.uses_iff, ← htouches, OperatorGraph.touches_input_iff] at hused
    simpa [StreamRoles.names, Plan.LooksUp, or_assoc] using hused
  · intro operator hmem stream system hstage
    exact hmeets .input stream system ⟨operator, hmem, by rw [hstage]; rfl⟩
  · intro operator hmem stream system source hstage
    exact hmeets .output stream system ⟨operator, hmem, by rw [hstage]; rfl⟩

/-- A plan that writes a stream which it also reads, joins with a table, and looks another one up. -/
def auditedOrders : Plan :=
  .write ⟨["shop", "audit"], by decide, by decide⟩ .insert
    (.unary (.filter "amount > maximum") (some ⟨["limits", "amounts"], by decide, by decide⟩)
      (.write ⟨["shop", "orders"], by decide, by decide⟩ .update
        (.binary (.join .inner "customer" "id")
          (.scan (some ⟨["shop", "orders"], by decide, by decide⟩))
          (.scan (some ⟨["stores", "customers"], by decide, by decide⟩)))))

/-- Where its streams and tables are. -/
def auditedOrdersStreams : Resolution where
  inputs := .ofList [("shop.orders", ⟨"shop.orders", "kafka", "orders", false, .empty⟩),
    ("stores.customers", ⟨"stores.customers", "rocks", "customers", true, .empty⟩)]
  outputs := .ofList [("shop.audit", ⟨"shop.audit", "kafka", "audit", false, .empty⟩),
    ("shop.orders", ⟨"shop.orders", "kafka", "orders", false, .empty⟩)]

/-- The stream that is read and written has an input and a sink, and the table that is looked up is read
although the graph knows nothing of it. -/
theorem roles_of_lower_auditedOrders :
    ∃ roles graph, auditedOrders.roles = .ok roles ∧
      auditedOrders.lower auditedOrdersStreams = .ok graph ∧
      roles.inputs.keys = ["limits.amounts", "shop.orders", "stores.customers"] ∧
      graph.tables = ["stores.customers"] ∧ graph.inputs.length = 1 ∧
      (∃ operator ∈ graph.inputs, ∃ system, operator.stage = .input "shop.orders" system) ∧
      (∃ operator ∈ graph.sinks, ∃ system source,
        operator.stage = .sink "shop.orders" system source) := by
  have hroles : auditedOrders.roles = .ok _ := rfl
  have hlower : auditedOrders.lower auditedOrdersStreams = .ok _ := rfl
  obtain ⟨hwritten, hread, -, -⟩ := roles_of_lower hroles hlower
  refine ⟨_, _, hroles, hlower, rfl, rfl, rfl, ?_, (hwritten "shop.orders").1 rfl⟩
  rcases (hread "shop.orders").1 rfl with hinput | htable | ⟨op, table, input, hpart, hname⟩
  · exact hinput
  · exact absurd htable (by decide)
  · -- Only the filter looks a table up, and that is another one.
    simp only [auditedOrders, Plan.subplans, List.cons_append, List.nil_append, List.mem_cons,
      reduceCtorEq, Plan.unary.injEq, Option.some.injEq, List.not_mem_nil, or_self, or_false,
      false_or] at hpart
    obtain ⟨-, rfl, -⟩ := hpart
    exact absurd hname (by decide)

end StreamPlan
