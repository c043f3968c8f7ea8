import StreamPlan.Proofs.Data.Except
import StreamPlan.Proofs.Operator.Growth

/-!
# What lowering does

`Plan.Lowers` lists the ways in which a plan is lowered into a graph, one for each kind of plan and
each choice that is made for it. It knows nothing of the number of the next id and of the cache of
inputs, as the graph tells both. `lowers_of_lowerInto` shows that every run is one of these ways and
that counter and cache stay true, so that everything about lowered plans can be proved by induction on
`Lowers`.
-/

namespace StreamPlan

namespace Resolution

/-- A plan that is nothing but a scan of a table. -/
theorem scannedTable?_eq_some_iff {resolution : Resolution} {plan : Plan} {name : String} :
    resolution.scannedTable? plan = some name ↔
      ∃ table, plan = .scan (some table) ∧ resolution.isTable name = true ∧ table.dotted = name := by
  constructor
  · intro h
    rw [scannedTable?.eq_def] at h
    split at h
    · rename_i table
      split at h
      · rename_i htable
        obtain rfl := Option.some.inj h
        exact ⟨table, rfl, htable, rfl⟩
      · cases h
    · cases h
  · rintro ⟨table, rfl, htable, rfl⟩
    rw [scannedTable?, if_pos htable]

theorem system_eq_ok_iff {resolution : Resolution} {name system : String} {role : Role} :
    resolution.system name role = .ok system ↔
      ∃ resolved, resolution.get? name role = some resolved ∧ resolved.system = system := by
  rw [Resolution.system]
  cases resolution.get? name role <;> simp

end Resolution

namespace Plan

/-- A plan is lowered into a graph: the topmost operator has the id, and the last graph is what the
first one has become. -/
inductive Lowers (resolution : Resolution) : Plan → OperatorGraph → String → OperatorGraph → Prop
  /-- A scan of a stream that has an input already. -/
  | shared {table : TableName} {graph : OperatorGraph} {id : String}
      (hid : graph.inputOf? table.dotted = some id) :
      Lowers resolution (.scan (some table)) graph id graph
  /-- A scan of a stream that has no input yet. -/
  | input {table : TableName} {graph : OperatorGraph} {resolved : ResolvedStream}
      (hnew : graph.inputOf? table.dotted = none)
      (hresolved : resolution.get? table.dotted .input = some resolved) :
      Lowers resolution (.scan (some table)) graph (graph.nextId .input)
        (graph.appended (.input table.dotted resolved.system))
  /-- A projection. -/
  | project {columns : List String} {table : Option TableName} {plan : Plan}
      {before after : OperatorGraph} {source : String}
      (hplan : Lowers resolution plan before source after) :
      Lowers resolution (.unary (.project columns) table plan) before (after.nextId .map)
        (after.appended (.map columns source))
  /-- A filter. -/
  | filter {condition : String} {table : Option TableName} {plan : Plan}
      {before after : OperatorGraph} {source : String}
      (hplan : Lowers resolution plan before source after) :
      Lowers resolution (.unary (.filter condition) table plan) before (after.nextId .filter)
        (after.appended (.filter condition source))
  /-- A window. -/
  | window {partitionBy : List String} {sizeMs : Nat} {table : Option TableName} {plan : Plan}
      {before after : OperatorGraph} {source : String}
      (hplan : Lowers resolution plan before source after) :
      Lowers resolution (.unary (.window partitionBy sizeMs) table plan) before
        (after.nextId .window) (after.appended (.window partitionBy sizeMs source))
  /-- An aggregation: records are distributed by the group and then computed. -/
  | aggregate {groupBy aggregates : List String} {table : Option TableName} {plan : Plan}
      {before after : OperatorGraph} {source : String}
      (hplan : Lowers resolution plan before source after) :
      Lowers resolution (.unary (.aggregate groupBy aggregates) table plan) before
        ((after.appended (.partitionBy groupBy source)).nextId .map)
        ((after.appended (.partitionBy groupBy source)).appended
          (.map (groupBy ++ aggregates) (after.nextId .partitionBy)))
  /-- A union. -/
  | union {left right : Plan} {before between after : OperatorGraph} {leftId rightId : String}
      (hleft : Lowers resolution left before leftId between)
      (hright : Lowers resolution right between rightId after) :
      Lowers resolution (.binary .union left right) before (after.nextId .merge)
        (after.appended (.merge [leftId, rightId]))
  /-- A join of a stream on the left with a table on the right. -/
  | tableOnRight {joinType : JoinType} {leftKey rightKey table : String} {left right : Plan}
      {before after : OperatorGraph} {stream : String}
      (hleftTable : resolution.scannedTable? left = none)
      (hrightTable : resolution.scannedTable? right = some table)
      (hleft : Lowers resolution left before stream after) :
      Lowers resolution (.binary (.join joinType leftKey rightKey) left right) before
        (after.nextId .join)
        (after.appended (.tableJoin (fieldJoin table leftKey rightKey joinType) [stream]))
  /-- A join of a table on the left with a stream on the right. -/
  | tableOnLeft {joinType : JoinType} {leftKey rightKey table : String} {left right : Plan}
      {before after : OperatorGraph} {stream : String}
      (hleftTable : resolution.scannedTable? left = some table)
      (hrightTable : resolution.scannedTable? right = none)
      (hright : Lowers resolution right before stream after) :
      Lowers resolution (.binary (.join joinType leftKey rightKey) left right) before
        (after.nextId .join)
        (after.appended (.tableJoin (fieldJoin table rightKey leftKey joinType) [stream]))
  /-- A join of two streams. -/
  | streams {joinType : JoinType} {leftKey rightKey : String} {left right : Plan}
      {before between after : OperatorGraph} {leftId rightId : String}
      (hleftTable : resolution.scannedTable? left = none)
      (hrightTable : resolution.scannedTable? right = none)
      (hleft : Lowers resolution left before leftId between)
      (hright : Lowers resolution right between rightId after) :
      Lowers resolution (.binary (.join joinType leftKey rightKey) left right) before
        (after.nextId .join) (after.appended (.streamJoin joinType leftKey rightKey leftId rightId))
  /-- A write. -/
  | write {table : TableName} {kind : WriteKind} {plan : Plan} {before after : OperatorGraph}
      {source : String} {resolved : ResolvedStream}
      (hplan : Lowers resolution plan before source after)
      (hresolved : resolution.get? table.dotted .output = some resolved) :
      Lowers resolution (.write table kind plan) before (after.nextId .sink)
        (after.appended (.sink table.dotted resolved.system source))

variable {resolution : Resolution} {before after : OperatorGraph} {id : String}
  {lowering lowering' : Lowering}

theorem lowers_of_lowerUnary {op : UnaryOp} {table : Option TableName} {plan : Plan} {source : String}
    (hsound : lowering.Sound) (hplan : Lowers resolution plan before source lowering.graph)
    (h : lowerUnary op source lowering = .ok (id, lowering')) :
    Lowers resolution (.unary op table plan) before id lowering'.graph ∧ lowering'.Sound := by
  cases op with
  | project columns =>
    obtain ⟨rfl, rfl⟩ := hsound.eq_appended_of_push h
    exact ⟨.project hplan, hsound.appended (by simp [Stage.code])⟩
  | filter condition =>
    obtain ⟨rfl, rfl⟩ := hsound.eq_appended_of_push h
    exact ⟨.filter hplan, hsound.appended (by simp [Stage.code])⟩
  | window partitionBy sizeMs =>
    obtain ⟨rfl, rfl⟩ := hsound.eq_appended_of_push h
    exact ⟨.window hplan, hsound.appended (by simp [Stage.code])⟩
  | aggregate groupBy aggregates =>
    obtain ⟨⟨keyed, distributed⟩, hkeyed, h⟩ := bind_eq_ok_iff.1 h
    obtain ⟨rfl, rfl⟩ := hsound.eq_appended_of_push hkeyed
    have hsound' : (lowering.appended (.partitionBy groupBy source)).Sound :=
      hsound.appended (by simp [Stage.code])
    obtain ⟨rfl, rfl⟩ := hsound'.eq_appended_of_push h
    exact ⟨.aggregate hplan, hsound'.appended (by simp [Stage.code])⟩

/-- A join that is lowered has a stream on one side at least, and is lowered as its sides ask. -/
theorem lowers_of_lowerInto_join {joinType : JoinType} {leftKey rightKey : String}
    {left right : Plan} (hsound : lowering.Sound)
    (hleft : ∀ {lowering lowering' id}, lowering.Sound →
      left.lowerInto resolution lowering = .ok (id, lowering') →
        Lowers resolution left lowering.graph id lowering'.graph ∧ lowering'.Sound)
    (hright : ∀ {lowering lowering' id}, lowering.Sound →
      right.lowerInto resolution lowering = .ok (id, lowering') →
        Lowers resolution right lowering.graph id lowering'.graph ∧ lowering'.Sound)
    (h : (Plan.binary (.join joinType leftKey rightKey) left right).lowerInto resolution lowering =
      .ok (id, lowering')) :
    Lowers resolution (.binary (.join joinType leftKey rightKey) left right) lowering.graph id
      lowering'.graph ∧ lowering'.Sound := by
  rw [lowerInto] at h
  split at h
  · -- Two tables have no stream to drive the join.
    cases h
  -- The table joins the stream of the left side, which is lowered alone.
  · rename_i table hleftTable hrightTable
    obtain ⟨⟨stream, between⟩, hstream, h⟩ := bind_eq_ok_iff.1 h
    obtain ⟨hlowers, hsound'⟩ := hleft hsound hstream
    obtain ⟨rfl, rfl⟩ := hsound'.eq_appended_of_push h
    exact ⟨.tableOnRight hleftTable hrightTable hlowers, hsound'.appended (by simp [Stage.code])⟩
  -- The table is on the left, so the keys change sides.
  · rename_i table hleftTable hrightTable
    split at h
    · -- A left join would have to keep the table.
      cases h
    · obtain ⟨⟨stream, between⟩, hstream, h⟩ := bind_eq_ok_iff.1 h
      obtain ⟨hlowers, hsound'⟩ := hright hsound hstream
      obtain ⟨rfl, rfl⟩ := hsound'.eq_appended_of_push h
      exact ⟨.tableOnLeft hleftTable hrightTable hlowers, hsound'.appended (by simp [Stage.code])⟩
  -- No side is a table: both are lowered, the left one first.
  · rename_i hleftTable hrightTable
    obtain ⟨⟨leftId, between⟩, hleftRun, h⟩ := bind_eq_ok_iff.1 h
    obtain ⟨⟨rightId, between'⟩, hrightRun, h⟩ := bind_eq_ok_iff.1 h
    obtain ⟨hlowersLeft, hsound₁⟩ := hleft hsound hleftRun
    obtain ⟨hlowersRight, hsound₂⟩ := hright hsound₁ hrightRun
    obtain ⟨rfl, rfl⟩ := hsound₂.eq_appended_of_push h
    exact ⟨.streams hleftTable hrightTable hlowersLeft hlowersRight,
      hsound₂.appended (by simp [Stage.code])⟩

/-- Every run of the lowering is one of the listed ways, and leaves counter and cache true. -/
theorem lowers_of_lowerInto {plan : Plan} (hsound : lowering.Sound)
    (h : plan.lowerInto resolution lowering = .ok (id, lowering')) :
    Lowers resolution plan lowering.graph id lowering'.graph ∧ lowering'.Sound := by
  induction plan generalizing lowering id lowering' with
  | scan table =>
    cases table with
    | none => cases h
    | some table =>
      rw [lowerInto] at h
      split at h
      · rename_i found hfound
        cases h
        exact ⟨.shared (hsound.inputs_eq _ ▸ hfound), hsound⟩
      · rename_i hnew
        -- The stream has no input yet, so the system for one is asked for.
        obtain ⟨system, hsystem, h⟩ := bind_eq_ok_iff.1 h
        obtain ⟨resolved, hresolved, rfl⟩ := Resolution.system_eq_ok_iff.1 hsystem
        obtain ⟨rfl, rfl⟩ := hsound.eq_appendedInput_of_pushInput h
        exact ⟨.input (hsound.inputs_eq _ ▸ hnew) hresolved, hsound.appendedInput hnew⟩
  | write table kind plan ih =>
    rw [lowerInto] at h
    obtain ⟨⟨source, between⟩, hplan, h⟩ := bind_eq_ok_iff.1 h
    obtain ⟨hlowers, hsound'⟩ := ih hsound hplan
    obtain ⟨system, hsystem, h⟩ := bind_eq_ok_iff.1 h
    obtain ⟨resolved, hresolved, rfl⟩ := Resolution.system_eq_ok_iff.1 hsystem
    obtain ⟨rfl, rfl⟩ := hsound'.eq_appended_of_push h
    exact ⟨.write hlowers hresolved, hsound'.appended (by simp [Stage.code])⟩
  | unary op table plan ih =>
    rw [lowerInto] at h
    obtain ⟨⟨source, between⟩, hplan, h⟩ := bind_eq_ok_iff.1 h
    obtain ⟨hlowers, hsound'⟩ := ih hsound hplan
    exact lowers_of_lowerUnary hsound' hlowers h
  | binary op left right ihLeft ihRight =>
    cases op with
    | join joinType leftKey rightKey => exact lowers_of_lowerInto_join hsound ihLeft ihRight h
    | union =>
      rw [lowerInto] at h
      obtain ⟨⟨leftId, between⟩, hleft, h⟩ := bind_eq_ok_iff.1 h
      obtain ⟨⟨rightId, between'⟩, hright, h⟩ := bind_eq_ok_iff.1 h
      obtain ⟨hlowersLeft, hsound₁⟩ := ihLeft hsound hleft
      obtain ⟨hlowersRight, hsound₂⟩ := ihRight hsound₁ hright
      obtain ⟨rfl, rfl⟩ := hsound₂.eq_appended_of_push h
      exact ⟨.union hlowersLeft hlowersRight, hsound₂.appended (by simp [Stage.code])⟩

/-- A plan that is lowered has been lowered from nothing. -/
theorem lowers_of_lower {plan : Plan} {graph : OperatorGraph}
    (h : plan.lower resolution = .ok graph) : ∃ id, Lowers resolution plan .empty id graph := by
  obtain ⟨⟨id, lowering⟩, hrun, rfl⟩ := map_eq_ok_iff.1 h
  exact ⟨id, (lowers_of_lowerInto Lowering.sound_start hrun).1⟩

namespace Lowers

/-- Lowering only adds stages. -/
theorem grows {plan : Plan} (h : Lowers resolution plan before id after) : before.Grows after := by
  induction h with
  | shared _ => exact .refl
  | input _ _ => exact OperatorGraph.Grows.refl.append _
  | project _ ih | filter _ ih | window _ ih | write _ _ ih => exact ih.append _
  | tableOnRight _ _ _ ih | tableOnLeft _ _ _ ih => exact ih.append _
  | aggregate _ ih => exact (ih.append _).append _
  | union _ _ ihLeft ihRight | streams _ _ _ _ ihLeft ihRight =>
    exact (ihLeft.trans ihRight).append _

end Lowers

end Plan

end StreamPlan
