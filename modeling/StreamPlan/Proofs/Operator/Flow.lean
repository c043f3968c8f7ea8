import StreamPlan.Proofs.Operator.Streams

/-!
# Lowering keeps the plan

A graph says by ids what its operators read from. Following the ids back from an operator gives a
tree of stages, its `Flow`; an input that several operators read from occurs in the tree once for
each of them. A plan asks for such a tree as well, `Plan.flow?`. This file proves that the two agree:
the graph of a plan, read back from its last operator, is what the plan asks for (`readBack?_lower`).

The proof is by induction on `Plan.Lowers`. What an id stands for does not change while the graph
grows (`flow?_mono`), and the input that a scan shares was made for the same stream
(`Lowers.inputsResolved`).
-/

namespace StreamPlan

namespace Stage

variable {σ τ : Type}

/-- The stage over what its sources stand for, if each of them stands for something. -/
def mapSources? (read : σ → Option τ) : Stage σ → Option (Stage τ)
  | .input stream system => some (.input stream system)
  | .map columns source => (read source).map (.map columns)
  | .filter condition source => (read source).map (.filter condition)
  | .window keys sizeMs source => (read source).map (.window keys sizeMs)
  | .partitionBy keys source => (read source).map (.partitionBy keys)
  | .tableJoin join sources => (sources.mapM read).map (.tableJoin join)
  | .streamJoin joinType leftKey rightKey left right => do
    let left ← read left
    let right ← read right
    some (.streamJoin joinType leftKey rightKey left right)
  | .merge sources => (sources.mapM read).map .merge
  | .sink stream system source => (read source).map (.sink stream system)

theorem mapM_mono {read read' : σ → Option τ} (h : ∀ s t, read s = some t → read' s = some t)
    {sources : List σ} {read₁ : List τ} (hread : sources.mapM read = some read₁) :
    sources.mapM read' = some read₁ := by
  induction sources generalizing read₁ with
  | nil => simpa using hread
  | cons source sources ih =>
    simp only [List.mapM_cons, Option.bind_eq_bind, Option.bind_eq_some_iff] at hread ⊢
    obtain ⟨t, ht, rest, hrest, heq⟩ := hread
    exact ⟨t, h source t ht, rest, ih hrest, heq⟩

/-- Sources that stand for something may come to stand for more. -/
theorem mapSources?_mono {read read' : σ → Option τ}
    (h : ∀ s t, read s = some t → read' s = some t) {stage : Stage σ} {stage' : Stage τ}
    (hstage : stage.mapSources? read = some stage') : stage.mapSources? read' = some stage' := by
  cases stage with
  | input stream system => exact hstage
  | map _ source | filter _ source | window _ _ source | partitionBy _ source | sink _ _ source =>
    obtain ⟨t, ht, rfl⟩ := Option.map_eq_some_iff.1 hstage
    exact Option.map_eq_some_iff.2 ⟨t, h source t ht, rfl⟩
  | tableJoin _ sources | merge sources =>
    obtain ⟨ts, hts, rfl⟩ := Option.map_eq_some_iff.1 hstage
    exact Option.map_eq_some_iff.2 ⟨ts, mapM_mono h hts, rfl⟩
  | streamJoin joinType leftKey rightKey left right =>
    simp only [mapSources?, Option.bind_eq_bind, Option.bind_eq_some_iff] at hstage ⊢
    obtain ⟨l, hl, r, hr, heq⟩ := hstage
    exact ⟨l, h left l hl, r, h right r hr, heq⟩

end Stage

/-- A tree of stages: each reads from the trees below it. -/
inductive Flow where
  /-- The tree with a stage at its top. -/
  | of (stage : Stage Flow)

/-- The tree that a plan asks for. A stream that is not resolved has none. -/
def Plan.flow? (resolution : Resolution) : Plan → Option Flow
  | .scan none => none
  | .scan (some table) => do
    let resolved ← resolution.get? table.dotted .input
    some (.of (.input table.dotted resolved.system))
  | .unary (.project columns) _ input => do
    let source ← input.flow? resolution
    some (.of (.map columns source))
  | .unary (.filter condition) _ input => do
    let source ← input.flow? resolution
    some (.of (.filter condition source))
  | .unary (.window partitionBy sizeMs) _ input => do
    let source ← input.flow? resolution
    some (.of (.window partitionBy sizeMs source))
  | .unary (.aggregate groupBy aggregates) _ input => do
    let source ← input.flow? resolution
    some (.of (.map (groupBy ++ aggregates) (.of (.partitionBy groupBy source))))
  | .binary .union left right => do
    let left ← left.flow? resolution
    let right ← right.flow? resolution
    some (.of (.merge [left, right]))
  | .binary (.join joinType leftKey rightKey) left right =>
    match resolution.scannedTable? left, resolution.scannedTable? right with
    -- The table is looked up by its own key, the message by that of the stream.
    | none, some table => do
      let stream ← left.flow? resolution
      some (.of (.tableJoin ⟨table, .fields ⟨leftKey, rightKey, joinType⟩, []⟩ [stream]))
    | some table, none => do
      let stream ← right.flow? resolution
      some (.of (.tableJoin ⟨table, .fields ⟨rightKey, leftKey, joinType⟩, []⟩ [stream]))
    | _, _ => do
      let left ← left.flow? resolution
      let right ← right.flow? resolution
      some (.of (.streamJoin joinType leftKey rightKey left right))
  | .write table _ input => do
    let source ← input.flow? resolution
    let resolved ← resolution.get? table.dotted .output
    some (.of (.sink table.dotted resolved.system source))

namespace OperatorGraph

/-- The tree that an id stands for: the stage of its operator over the trees that the ids of its
sources stand for. Sources are followed for a number of steps. -/
def flow? (graph : OperatorGraph) : (steps : Nat) → String → Option Flow
  | 0, _ => none
  | steps + 1, id => do
    let operator ← graph.get? id
    let stage ← operator.stage.mapSources? (graph.flow? steps)
    some (.of stage)

/-- The tree that the last operator stands for. No way back through a graph is longer than the
graph. -/
def readBack? (graph : OperatorGraph) : Option Flow := do
  let last ← graph.operators.getLast?
  graph.flow? graph.size last.id

variable {graph graph' : OperatorGraph} {resolution : Resolution}

/-! ## What an id stands for -/

theorem flow?_succ_eq_some_iff {steps : Nat} {id : String} {flow : Flow} :
    graph.flow? (steps + 1) id = some flow ↔
      ∃ operator stage, graph.get? id = some operator ∧
        operator.stage.mapSources? (graph.flow? steps) = some stage ∧ .of stage = flow := by
  simp only [flow?, Option.bind_eq_bind, Option.bind_eq_some_iff, Option.some.injEq]
  constructor
  · rintro ⟨operator, hget, stage, hstage, rfl⟩
    exact ⟨operator, stage, hget, hstage, rfl⟩
  · rintro ⟨operator, stage, hget, hstage, rfl⟩
    exact ⟨operator, hget, stage, hstage, rfl⟩

/-- What an id stands for stays the same when the graph goes on and when more steps are allowed. -/
theorem flow?_mono (hnum : graph.Numbered) (hnum' : graph'.Numbered)
    (hstart : graph.operators <+: graph'.operators) {steps steps' : Nat}
    (hsteps : steps ≤ steps') {id : String} {flow : Flow}
    (h : graph.flow? steps id = some flow) : graph'.flow? steps' id = some flow := by
  -- By induction on the steps of the first reading: each goes from an operator to its sources.
  induction steps generalizing steps' id flow with
  | zero => cases h
  | succ steps ih =>
    cases steps' with
    | zero => exact absurd hsteps (Nat.not_succ_le_zero steps)
    | succ steps' =>
      obtain ⟨operator, stage, hget, hstage, rfl⟩ := flow?_succ_eq_some_iff.1 h
      refine flow?_succ_eq_some_iff.2 ⟨operator, stage, hnum.get?_of_prefix hnum' hstart hget, ?_, rfl⟩
      exact Stage.mapSources?_mono (fun _ _ => ih (Nat.le_of_succ_le_succ hsteps)) hstage

/-- A stage that was added stands for itself over what its sources stood for before. -/
theorem flow?_appended (hnum : graph.Numbered) {stage : Stage String} {stage' : Stage Flow}
    (h : stage.mapSources? (graph.flow? graph.size) = some stage') :
    (graph.appended stage).flow? (graph.appended stage).size (graph.nextId stage.code) =
      some (.of stage') := by
  rw [size_appended]
  refine flow?_succ_eq_some_iff.2 ⟨_, stage', hnum.get?_appended stage, ?_, rfl⟩
  -- The one step that is new was spent on the stage itself; its sources are read as before.
  refine Stage.mapSources?_mono (fun id flow hflow => ?_) h
  exact flow?_mono hnum (numbered_appended hnum stage) (List.prefix_append _ _) (Nat.le_refl _) hflow

/-- What an id stands for in a graph, it stands for in every graph that this one grows into. -/
theorem Grows.flow? (h : graph.Grows graph') (hnum : graph.Numbered) {id : String} {flow : Flow}
    (hflow : graph.flow? graph.size id = some flow) :
    graph'.flow? graph'.size id = some flow :=
  flow?_mono hnum (h.numbered hnum) h.operators_prefix h.operators_prefix.length_le hflow

/-! ## Inputs -/

/-- Every input reads from the system that its stream is resolved to. -/
def InputsResolved (graph : OperatorGraph) (resolution : Resolution) : Prop :=
  ∀ operator ∈ graph.operators, ∀ stream system, operator.stage = .input stream system →
    ∃ resolved, resolution.get? stream .input = some resolved ∧ resolved.system = system

theorem inputsResolved_empty : empty.InputsResolved resolution := by
  intro operator hmem
  cases hmem

theorem exists_of_inputOf?_eq_some {stream id : String} (h : graph.inputOf? stream = some id) :
    ∃ operator ∈ graph.operators, operator.id = id ∧
      ∃ system, operator.stage = .input stream system := by
  obtain ⟨operator, hfind, rfl⟩ := Option.map_eq_some_iff.1 h
  refine ⟨operator, List.mem_of_find?_eq_some hfind, rfl, ?_⟩
  have hstream : inputStream? operator = some stream := by simpa using List.find?_some hfind
  rw [inputStream?] at hstream
  split at hstream
  · rename_i found system hstage
    obtain rfl := Option.some.inj hstream
    exact ⟨system, hstage⟩
  · cases hstream

/-- The input of a stream stands for the stream on the system that it is resolved to. -/
theorem flow?_of_inputOf? (hnum : graph.Numbered) (hinputs : graph.InputsResolved resolution)
    {stream id : String} (h : graph.inputOf? stream = some id) :
    ∃ resolved, resolution.get? stream .input = some resolved ∧
      graph.flow? graph.size id = some (.of (.input stream resolved.system)) := by
  obtain ⟨operator, hmem, rfl, system, hstage⟩ := exists_of_inputOf?_eq_some h
  obtain ⟨resolved, hresolved, rfl⟩ := hinputs operator hmem stream system hstage
  refine ⟨resolved, hresolved, ?_⟩
  -- An input has no sources, so that a single step is enough, and the graph has an operator.
  obtain ⟨steps, hsteps⟩ : ∃ steps, graph.size = steps + 1 :=
    Nat.exists_eq_succ_of_ne_zero (Nat.ne_of_gt (List.length_pos_of_mem hmem))
  rw [hsteps, flow?_succ_eq_some_iff]
  exact ⟨operator, _, hnum.get?_of_mem hmem, by rw [hstage]; rfl, rfl⟩

end OperatorGraph

namespace Plan.Lowers

variable {resolution : Resolution} {plan : Plan} {before after : OperatorGraph} {id : String}

/-- The inputs that lowering adds read from the systems that their streams are resolved to. -/
theorem inputsResolved (h : Lowers resolution plan before id after)
    (hinputs : before.InputsResolved resolution) : after.InputsResolved resolution := by
  intro operator hmem stream system hstage
  have hmeets : after.Meets .input stream system := ⟨operator, hmem, by rw [hstage]; rfl⟩
  rcases h.resolved_of_meets hmeets with ⟨earlier, hearlier, hend⟩ | hresolved
  · exact hinputs earlier hearlier stream system (Stage.eq_input_of_endpoint? hend)
  · exact hresolved

/-- The topmost operator of a lowered plan stands for what the plan asks for. -/
theorem flow?_eq (h : Lowers resolution plan before id after) (hnum : before.Numbered)
    (hinputs : before.InputsResolved resolution) :
    ∃ flow, plan.flow? resolution = some flow ∧ after.flow? after.size id = some flow := by
  induction h with
  | shared hid =>
    -- The input was made for an earlier scan; that its system is right is known from `hinputs`.
    obtain ⟨resolved, hresolved, hflow⟩ := OperatorGraph.flow?_of_inputOf? hnum hinputs hid
    exact ⟨_, by rw [Plan.flow?, hresolved]; rfl, hflow⟩
  | input _ hresolved =>
    exact ⟨_, by rw [Plan.flow?, hresolved]; rfl, OperatorGraph.flow?_appended hnum rfl⟩
  | project hplan ih | filter hplan ih | window hplan ih =>
    obtain ⟨flow, hasked, hread⟩ := ih hnum hinputs
    refine ⟨_, by rw [Plan.flow?, hasked]; rfl, ?_⟩
    exact OperatorGraph.flow?_appended (hplan.grows.numbered hnum)
      (by rw [Stage.mapSources?, hread]; rfl)
  | @aggregate groupBy aggregates _ plan before after source hplan ih =>
    obtain ⟨flow, hasked, hread⟩ := ih hnum hinputs
    have hnumAfter := hplan.grows.numbered hnum
    -- Two stages are added, and the second reads from the first.
    have hkeyed : (after.appended (.partitionBy groupBy source)).flow?
        (after.appended (.partitionBy groupBy source)).size (after.nextId .partitionBy) =
          some (.of (.partitionBy groupBy flow)) :=
      OperatorGraph.flow?_appended hnumAfter (by rw [Stage.mapSources?, hread]; rfl)
    refine ⟨_, by rw [Plan.flow?, hasked]; rfl, ?_⟩
    exact OperatorGraph.flow?_appended (OperatorGraph.numbered_appended hnumAfter _)
      (by rw [Stage.mapSources?, hkeyed]; rfl)
  | union hleft hright ihLeft ihRight =>
    have hnumBetween := hleft.grows.numbered hnum
    obtain ⟨leftFlow, hleftAsked, hleftRead⟩ := ihLeft hnum hinputs
    obtain ⟨rightFlow, hrightAsked, hrightRead⟩ :=
      ihRight hnumBetween (hleft.inputsResolved hinputs)
    refine ⟨_, by rw [Plan.flow?, hleftAsked, hrightAsked]; rfl, ?_⟩
    -- The left side was read in the graph between; lowering the right side has not changed it.
    refine OperatorGraph.flow?_appended (hright.grows.numbered hnumBetween) ?_
    simp [Stage.mapSources?, hright.grows.flow? hnumBetween hleftRead, hrightRead]
  | tableOnRight hleftTable hrightTable hleft ih =>
    -- The side of the table is not lowered: the join knows the table by its name.
    obtain ⟨flow, hasked, hread⟩ := ih hnum hinputs
    refine ⟨_, by rw [Plan.flow?, hleftTable, hrightTable, hasked]; rfl, ?_⟩
    exact OperatorGraph.flow?_appended (hleft.grows.numbered hnum)
      (by simp [Stage.mapSources?, hread, fieldJoin])
  | tableOnLeft hleftTable hrightTable hright ih =>
    obtain ⟨flow, hasked, hread⟩ := ih hnum hinputs
    refine ⟨_, by rw [Plan.flow?, hleftTable, hrightTable, hasked]; rfl, ?_⟩
    exact OperatorGraph.flow?_appended (hright.grows.numbered hnum)
      (by simp [Stage.mapSources?, hread, fieldJoin])
  | streams hleftTable hrightTable hleft hright ihLeft ihRight =>
    have hnumBetween := hleft.grows.numbered hnum
    obtain ⟨leftFlow, hleftAsked, hleftRead⟩ := ihLeft hnum hinputs
    obtain ⟨rightFlow, hrightAsked, hrightRead⟩ :=
      ihRight hnumBetween (hleft.inputsResolved hinputs)
    refine ⟨_, by rw [Plan.flow?, hleftTable, hrightTable, hleftAsked, hrightAsked]; rfl, ?_⟩
    refine OperatorGraph.flow?_appended (hright.grows.numbered hnumBetween) ?_
    rw [Stage.mapSources?, hright.grows.flow? hnumBetween hleftRead, hrightRead]
    rfl
  | write hplan hresolved ih =>
    obtain ⟨flow, hasked, hread⟩ := ih hnum hinputs
    refine ⟨_, by rw [Plan.flow?, hasked, hresolved]; rfl, ?_⟩
    exact OperatorGraph.flow?_appended (hplan.grows.numbered hnum)
      (by rw [Stage.mapSources?, hread]; rfl)

/-- A plan that adds anything has its topmost operator at the end. Only a scan of a stream that has
an input already adds nothing. -/
theorem last_or_shared (h : Lowers resolution plan before id after) :
    (∃ operator, after.operators.getLast? = some operator ∧ operator.id = id) ∨
      before.operators ≠ [] := by
  cases h with
  | shared hid =>
    obtain ⟨operator, hmem, -⟩ := OperatorGraph.exists_of_inputOf?_eq_some hid
    exact .inr (List.ne_nil_of_mem hmem)
  | input | project | filter | window | aggregate | union | tableOnRight | tableOnLeft | streams
  | write =>
    exact .inl ⟨_, List.getLast?_concat, rfl⟩

end Plan.Lowers

/-- A graph that a plan was lowered into, read back from its last operator, is the tree that the plan
asks for. -/
theorem readBack?_lower {plan : Plan} {resolution : Resolution} {graph : OperatorGraph}
    (h : plan.lower resolution = .ok graph) :
    ∃ flow, plan.flow? resolution = some flow ∧ graph.readBack? = some flow := by
  obtain ⟨id, hlowers⟩ := Plan.lowers_of_lower h
  obtain ⟨flow, hasked, hread⟩ :=
    hlowers.flow?_eq OperatorGraph.numbered_empty OperatorGraph.inputsResolved_empty
  refine ⟨flow, hasked, ?_⟩
  rcases hlowers.last_or_shared with ⟨last, hlast, rfl⟩ | hempty
  · rw [OperatorGraph.readBack?, hlast]
    exact hread
  · -- An empty graph has no input that a scan could share.
    exact absurd rfl hempty

/-- A plan that reads one stream twice and looks a table up on the left of a join. -/
def enrichment : Plan :=
  .write ⟨["kafka", "enriched"], by decide, by decide⟩ .insert
    (.binary .union
      (.binary (.join .inner "id" "user_id")
        (.scan (some ⟨["profiles", "users"], by decide, by decide⟩))
        (.scan (some ⟨["kafka", "views"], by decide, by decide⟩)))
      (.unary (.aggregate ["page"] ["COUNT(*)"]) none
        (.scan (some ⟨["kafka", "views"], by decide, by decide⟩))))

/-- Where its streams and its table are. -/
def enrichmentStreams : Resolution where
  inputs := .ofList [("kafka.views", ⟨"kafka.views", "kafka", "views", false, .empty⟩),
    ("profiles.users", ⟨"profiles.users", "rocks", "users", true, .empty⟩)]
  outputs := .ofList
    [("kafka.enriched", ⟨"kafka.enriched", "kafka", "enriched", false, .empty⟩)]

/-- The input of the stream is one operator and occurs twice in the tree, and the keys of the join
have changed sides. -/
theorem readBack?_lower_enrichment :
    ∃ graph, enrichment.lower enrichmentStreams = .ok graph ∧ graph.size = 6 ∧
      graph.readBack? = some (.of (.sink "kafka.enriched" "kafka" (.of (.merge [
        .of (.tableJoin ⟨"profiles.users", .fields ⟨"user_id", "id", .inner⟩, []⟩
          [.of (.input "kafka.views" "kafka")]),
        .of (.map ["page", "COUNT(*)"]
          (.of (.partitionBy ["page"] (.of (.input "kafka.views" "kafka")))))])))) := by
  have hlower : enrichment.lower enrichmentStreams = .ok _ := rfl
  obtain ⟨flow, hasked, hread⟩ := readBack?_lower hlower
  refine ⟨_, hlower, ?_, ?_⟩
  · rfl
  · exact hread.trans hasked.symm

end StreamPlan
