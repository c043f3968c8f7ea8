import Mathlib.Data.Finset.Card
import StreamPlan.Proofs.Operator.Flow
import StreamPlan.Proofs.Operator.History

/-!
# No operator too many

The graph of a plan has what the plan asks for and nothing else. This file says so in three ways, each by
induction on `Plan.Lowers`:

- `Lowers.reaches`: what lowering adds is read, directly or through others, by the topmost operator of the
  plan;
- `Lowers.inputNames_eq`: a stream gets its input with the first scan of it, and later scans add none;
- `Lowers.size_eq`: every operator of the plan that is no scan adds one operator to the graph, and an
  aggregation adds two.

A scan that is the table of a join adds nothing at all. `lower_counted` is what follows for a whole plan.
-/

namespace StreamPlan

/-- The names with one more at their end, unless it is one of them already. -/
def addNew (names : List String) (name : String) : List String :=
  if name ∈ names then names else names ++ [name]

theorem mem_foldl_addNew_iff {added names : List String} {name : String} :
    name ∈ added.foldl addNew names ↔ name ∈ names ∨ name ∈ added := by
  induction added generalizing names with
  | nil => simp
  | cons first rest ih =>
    have hfirst : name ∈ addNew names first ↔ name ∈ names ∨ name = first := by
      rw [addNew]
      split
      · rename_i hknown
        exact ⟨.inl, fun h => h.elim id fun heq => heq ▸ hknown⟩
      · simp
    rw [List.foldl_cons, ih, hfirst, List.mem_cons, or_assoc]

theorem nodup_foldl_addNew (added : List String) {names : List String} (h : names.Nodup) :
    (added.foldl addNew names).Nodup := by
  induction added generalizing names with
  | nil => exact h
  | cons first rest ih =>
    apply ih
    rw [addNew]
    split
    · exact h
    · rename_i hnew
      exact h.append (List.nodup_singleton first) (List.disjoint_singleton.2 hnew)

namespace Plan

/-- Whether the topmost operator is a scan. -/
def isScan : Plan → Bool
  | .scan _ => true
  | _ => false

/-- Whether the topmost operator is an aggregation. -/
def isAggregate : Plan → Bool
  | .unary (.aggregate ..) _ _ => true
  | _ => false

/-- The names that a plan scans as streams, one for each scan and from left to right. The side of a join
that is nothing but a scan of a table is left out. -/
def streamed (resolution : Resolution) : Plan → List String
  | .scan none => []
  | .scan (some table) => [table.dotted]
  | .write _ _ input => input.streamed resolution
  | .unary _ _ input => input.streamed resolution
  | .binary .union left right => left.streamed resolution ++ right.streamed resolution
  | .binary (.join ..) left right =>
    (if (resolution.scannedTable? left).isSome then [] else left.streamed resolution) ++
      if (resolution.scannedTable? right).isSome then [] else right.streamed resolution

/-- The number of operators that a plan adds besides inputs: one for each operator of the plan that is no
scan, and one more for each aggregation. -/
def innerCount (plan : Plan) : Nat :=
  plan.subplans.countP (fun part => !part.isScan) + plan.subplans.countP isAggregate

theorem innerCount_write (table : TableName) (kind : WriteKind) (input : Plan) :
    (Plan.write table kind input).innerCount = input.innerCount + 1 := by
  rw [innerCount, innerCount, subplans, List.countP_cons_of_pos rfl,
    List.countP_cons_of_neg Bool.false_ne_true]
  omega

theorem innerCount_unary {op : UnaryOp} {table : Option TableName} {input : Plan}
    (h : (Plan.unary op table input).isAggregate = false) :
    (Plan.unary op table input).innerCount = input.innerCount + 1 := by
  rw [innerCount, innerCount, subplans, List.countP_cons_of_pos rfl,
    List.countP_cons_of_neg (Bool.eq_false_iff.1 h)]
  omega

theorem innerCount_aggregate (groupBy aggregates : List String) (table : Option TableName)
    (input : Plan) :
    (Plan.unary (.aggregate groupBy aggregates) table input).innerCount = input.innerCount + 2 := by
  rw [innerCount, innerCount, subplans, List.countP_cons_of_pos rfl, List.countP_cons_of_pos rfl]
  omega

theorem innerCount_binary (op : BinaryOp) (left right : Plan) :
    (Plan.binary op left right).innerCount = left.innerCount + right.innerCount + 1 := by
  rw [innerCount, innerCount, innerCount, subplans, List.countP_cons_of_pos rfl,
    List.countP_cons_of_neg Bool.false_ne_true, List.countP_append, List.countP_append]
  omega

/-- The side of a join that is a table adds nothing. -/
theorem innerCount_of_scannedTable? {resolution : Resolution} {side : Plan} {table : String}
    (h : resolution.scannedTable? side = some table) : side.innerCount = 0 := by
  obtain ⟨name, rfl, -, -⟩ := Resolution.scannedTable?_eq_some_iff.1 h
  rfl

end Plan

namespace OperatorGraph

variable {graph graph' : OperatorGraph} {stage : Stage String}

/-- The streams of the inputs, in order. -/
def inputNames (graph : OperatorGraph) : List String := graph.operators.filterMap inputStream?

theorem inputNames_appended_input (graph : OperatorGraph) (stream system : String) :
    (graph.appended (.input stream system)).inputNames = graph.inputNames ++ [stream] := by
  simp [inputNames, appended, concat, inputStream?]

theorem inputNames_appended (graph : OperatorGraph) (hcode : stage.code ≠ .input) :
    (graph.appended stage).inputNames = graph.inputNames := by
  cases stage with
  | input => exact absurd rfl hcode
  | _ => simp [inputNames, appended, concat, inputStream?]

theorem inputOf?_eq_none_iff {stream : String} :
    graph.inputOf? stream = none ↔ stream ∉ graph.inputNames := by
  simp [inputOf?, inputNames]

/-- The inputs of a stream are as many as the stream occurs among their names. -/
theorem length_inputs_filter (graph : OperatorGraph) (stream : String) :
    (graph.inputs.filter fun operator => inputStream? operator = some stream).length =
      graph.inputNames.count stream := by
  have hinput (operator : Operator) (h : inputStream? operator = some stream) :
      operator.code = .input := by
    obtain ⟨id, stage⟩ := operator
    cases stage with
    | input => rfl
    | _ => cases h
  rw [inputs, List.filter_filter, inputNames, List.count_filterMap, List.countP_eq_length_filter]
  congr 1
  apply List.filter_congr
  intro operator _
  by_cases h : inputStream? operator = some stream
  · simp [h, hinput operator h]
  · simp [h]

/-! ## What an operator reads -/

/-- An operator reads from another one, directly or through others, or is that one. -/
def Reaches (graph : OperatorGraph) : String → String → Prop := Relation.ReflTransGen graph.ReadsFrom

theorem Reaches.mono (hstart : graph.operators <+: graph'.operators) {reader source : String}
    (h : graph.Reaches reader source) : graph'.Reaches reader source := by
  refine Relation.ReflTransGen.mono ?_ reader source h
  rintro a b ⟨operator, hmem, hreads⟩
  exact ⟨operator, hstart.subset hmem, hreads⟩

/-- Of what a new stage reads from, it also reaches all that was reached from there. -/
theorem reaches_appended {source target : String} (hsource : source ∈ stage.sources)
    (h : graph.Reaches source target) :
    (graph.appended stage).Reaches (graph.nextId stage.code) target := by
  have hreads : (graph.appended stage).ReadsFrom (graph.nextId stage.code) source :=
    ⟨⟨graph.nextId stage.code, stage⟩, mem_appended_iff.2 (.inr rfl), rfl, hsource⟩
  exact .head hreads (h.mono (List.prefix_append _ _))

/-- If all operators but earlier ones are reached from the sources of a stage, they are reached from the
stage, and so is the stage itself. -/
theorem all_reached_appended {earlier : OperatorGraph}
    (h : ∀ operator ∈ graph.operators, operator ∈ earlier.operators ∨
      ∃ source ∈ stage.sources, graph.Reaches source operator.id) :
    ∀ operator ∈ (graph.appended stage).operators, operator ∈ earlier.operators ∨
      (graph.appended stage).Reaches (graph.nextId stage.code) operator.id := by
  intro operator hmem
  rcases mem_appended_iff.1 hmem with hold | rfl
  · rcases h operator hold with hearlier | ⟨source, hsource, hreached⟩
    · exact .inl hearlier
    · exact .inr (reaches_appended hsource hreached)
  · exact .inr .refl

theorem all_reached_appended_one {earlier : OperatorGraph} {source : String}
    (hsource : source ∈ stage.sources)
    (h : ∀ operator ∈ graph.operators, operator ∈ earlier.operators ∨
      graph.Reaches source operator.id) :
    ∀ operator ∈ (graph.appended stage).operators, operator ∈ earlier.operators ∨
      (graph.appended stage).Reaches (graph.nextId stage.code) operator.id :=
  all_reached_appended fun operator hmem =>
    (h operator hmem).imp_right fun hreached => ⟨source, hsource, hreached⟩

/-- Ids differ from position to position, so what the last operator reaches at an earlier position is
not the last operator itself. -/
theorem transGen_of_reaches (hnum : graph.Numbered) {last operator : Operator} {position : Nat}
    (hlast : graph.operators.getLast? = some last)
    (hposition : graph.operators[position]? = some operator) (hbefore : position + 1 < graph.size)
    (h : graph.Reaches last.id operator.id) :
    Relation.TransGen graph.ReadsFrom last.id operator.id := by
  rcases Relation.reflTransGen_iff_eq_or_transGen.1 h with hsame | hreads
  -- The same id would be at two positions, which the numbers in the ids rule out.
  · rw [List.getLast?_eq_getElem?] at hlast
    rw [hnum.id_eq _ _ hposition, hnum.id_eq _ _ hlast] at hsame
    have hposition := positionalId_inj hsame
    rw [size] at hbefore
    omega
  · exact hreads

end OperatorGraph

namespace Plan.Lowers

variable {resolution : Resolution} {plan left right : Plan} {before between after : OperatorGraph}
  {id leftId rightId : String}

/-- What was added for two plans, one after the other, is reached from the topmost operator of one of
them. -/
theorem reaches_two {sources : List String} (hright : Lowers resolution right between rightId after)
    (hleftIn : leftId ∈ sources) (hrightIn : rightId ∈ sources)
    (ihLeft : ∀ operator ∈ between.operators, operator ∈ before.operators ∨
      between.Reaches leftId operator.id)
    (ihRight : ∀ operator ∈ after.operators, operator ∈ between.operators ∨
      after.Reaches rightId operator.id) :
    ∀ operator ∈ after.operators, operator ∈ before.operators ∨
      ∃ source ∈ sources, after.Reaches source operator.id := by
  intro operator hmem
  rcases ihRight operator hmem with hbetween | hreached
  · rcases ihLeft operator hbetween with hbefore | hreached
    · exact .inl hbefore
    · -- Lowering the right side has added operators, and no way back is lost by that.
      exact .inr ⟨leftId, hleftIn, hreached.mono hright.grows.operators_prefix⟩
  · exact .inr ⟨rightId, hrightIn, hreached⟩

/-- Every operator that lowering adds is reached from the topmost operator of the plan. -/
theorem reaches (h : Lowers resolution plan before id after) :
    ∀ operator ∈ after.operators, operator ∈ before.operators ∨ after.Reaches id operator.id := by
  induction h with
  | shared _ => exact fun operator hmem => .inl hmem
  | input _ _ => exact OperatorGraph.all_reached_appended fun operator hmem => .inl hmem
  | project _ ih | filter _ ih | window _ ih | tableOnRight _ _ _ ih | tableOnLeft _ _ _ ih
  | write _ _ ih =>
    exact OperatorGraph.all_reached_appended_one (List.mem_singleton_self _) ih
  | aggregate _ ih =>
    -- The second of the two stages reads from the first, and that one from the input.
    apply OperatorGraph.all_reached_appended_one (List.mem_singleton_self _)
    exact OperatorGraph.all_reached_appended_one (List.mem_singleton_self _) ih
  | union _ hright ihLeft ihRight | streams _ _ _ hright ihLeft ihRight =>
    apply OperatorGraph.all_reached_appended
    exact hright.reaches_two (by simp [Stage.sources]) (by simp [Stage.sources]) ihLeft ihRight

/-- The inputs after lowering are those before and one for each stream that is scanned for the first
time. -/
theorem inputNames_eq (h : Lowers resolution plan before id after) :
    after.inputNames = (plan.streamed resolution).foldl addNew before.inputNames := by
  induction h with
  | @shared table graph id hid =>
    -- A scan that shares an input adds no name, since the name must be there already.
    have hknown : table.dotted ∈ graph.inputNames := by
      by_contra hnew
      rw [OperatorGraph.inputOf?_eq_none_iff.2 hnew] at hid
      cases hid
    simp [streamed, addNew, hknown]
  | input hnew _ =>
    rw [OperatorGraph.inputNames_appended_input, streamed, List.foldl_cons, List.foldl_nil, addNew,
      if_neg (OperatorGraph.inputOf?_eq_none_iff.1 hnew)]
  | project _ ih | filter _ ih | window _ ih | write _ _ ih =>
    rw [OperatorGraph.inputNames_appended _ (by simp [Stage.code]), ih, streamed]
  | aggregate _ ih =>
    rw [OperatorGraph.inputNames_appended _ (by simp [Stage.code]),
      OperatorGraph.inputNames_appended _ (by simp [Stage.code]), ih, streamed]
  | union _ _ ihLeft ihRight =>
    rw [OperatorGraph.inputNames_appended _ (by simp [Stage.code]), ihRight, ihLeft, streamed,
      List.foldl_append]
  | tableOnRight hleftTable hrightTable _ ih =>
    rw [OperatorGraph.inputNames_appended _ (by simp [Stage.code]), ih]
    simp [streamed, hleftTable, hrightTable]
  | tableOnLeft hleftTable hrightTable _ ih =>
    rw [OperatorGraph.inputNames_appended _ (by simp [Stage.code]), ih]
    simp [streamed, hleftTable, hrightTable]
  | streams hleftTable hrightTable _ _ ihLeft ihRight =>
    rw [OperatorGraph.inputNames_appended _ (by simp [Stage.code]), ihRight, ihLeft]
    simp [streamed, hleftTable, hrightTable]

theorem mem_inputNames_iff (h : Lowers resolution plan before id after) {name : String} :
    name ∈ after.inputNames ↔ name ∈ before.inputNames ∨ name ∈ plan.streamed resolution := by
  rw [h.inputNames_eq, mem_foldl_addNew_iff]

theorem nodup_inputNames (h : Lowers resolution plan before id after)
    (hbefore : before.inputNames.Nodup) : after.inputNames.Nodup := by
  rw [h.inputNames_eq]
  exact nodup_foldl_addNew _ hbefore

/-- What lowering adds are inputs, and the operators that the plan asks for besides. -/
theorem size_eq (h : Lowers resolution plan before id after) :
    after.size + before.inputNames.length =
      before.size + after.inputNames.length + plan.innerCount := by
  induction h with
  | shared _ => rfl
  | @input _ graph _ _ _ =>
    rw [OperatorGraph.size_appended, OperatorGraph.inputNames_appended_input, List.length_append]
    show graph.size + 1 + _ = graph.size + (_ + 1) + 0
    omega
  | project _ ih | filter _ ih | window _ ih =>
    rw [OperatorGraph.size_appended, OperatorGraph.inputNames_appended _ (by simp [Stage.code]),
      innerCount_unary rfl]
    omega
  | aggregate _ ih =>
    rw [OperatorGraph.size_appended, OperatorGraph.size_appended,
      OperatorGraph.inputNames_appended _ (by simp [Stage.code]),
      OperatorGraph.inputNames_appended _ (by simp [Stage.code]), innerCount_aggregate]
    omega
  | union _ _ ihLeft ihRight | streams _ _ _ _ ihLeft ihRight =>
    rw [OperatorGraph.size_appended, OperatorGraph.inputNames_appended _ (by simp [Stage.code]),
      innerCount_binary]
    omega
  | tableOnRight _ htable _ ih | tableOnLeft htable _ _ ih =>
    rw [OperatorGraph.size_appended, OperatorGraph.inputNames_appended _ (by simp [Stage.code]),
      innerCount_binary, innerCount_of_scannedTable? htable]
    omega
  | write _ _ ih =>
    rw [OperatorGraph.size_appended, OperatorGraph.inputNames_appended _ (by simp [Stage.code]),
      innerCount_write]
    omega

end Plan.Lowers

/-- In the graph of a plan there is no operator too many:

- every operator but the last is read by the last one, directly or through others;
- each stream that is scanned, other than as the table of a join, has one input, and there are no others;
- there are as many operators as different such streams, operators of the plan that are no scans, and
  aggregations together. -/
theorem lower_counted {plan : Plan} {resolution : Resolution} {graph : OperatorGraph}
    (h : plan.lower resolution = .ok graph) :
    (∃ last, graph.operators.getLast? = some last ∧
      ∀ (position : Nat) (operator : Operator), graph.operators[position]? = some operator →
        position + 1 < graph.size → Relation.TransGen graph.ReadsFrom last.id operator.id) ∧
      (∀ name, (graph.inputs.filter fun operator =>
          OperatorGraph.inputStream? operator = some name).length =
        if name ∈ plan.streamed resolution then 1 else 0) ∧
      graph.size = (plan.streamed resolution).toFinset.card +
        plan.subplans.countP (fun part => !part.isScan) + plan.subplans.countP Plan.isAggregate := by
  obtain ⟨id, hlowers⟩ := Plan.lowers_of_lower h
  have hnodup : graph.inputNames.Nodup := hlowers.nodup_inputNames List.nodup_nil
  have hmem (name : String) : name ∈ graph.inputNames ↔ name ∈ plan.streamed resolution :=
    hlowers.mem_inputNames_iff.trans (or_iff_right List.not_mem_nil)
  refine ⟨?_, fun name => ?_, ?_⟩
  · rcases hlowers.last_or_shared with ⟨last, hlast, rfl⟩ | hempty
    · refine ⟨last, hlast, fun position operator hposition hbefore => ?_⟩
      have hnum := hlowers.grows.numbered OperatorGraph.numbered_empty
      apply OperatorGraph.transGen_of_reaches hnum hlast hposition hbefore
      -- No operator is from before: lowering started with an empty graph.
      exact (hlowers.reaches operator (List.mem_of_getElem? hposition)).resolve_left List.not_mem_nil
    · -- An empty graph has no input that a scan could share.
      exact absurd rfl hempty
  · rw [OperatorGraph.length_inputs_filter]
    split
    · rename_i hscanned
      exact List.count_eq_one_of_mem hnodup ((hmem name).2 hscanned)
    · rename_i hnot
      exact List.count_eq_zero_of_not_mem fun hin => hnot ((hmem name).1 hin)
  · have hcard : graph.inputNames.length = (plan.streamed resolution).toFinset.card := by
      rw [← List.toFinset_card_of_nodup hnodup]
      congr 1
      ext name
      rw [List.mem_toFinset, List.mem_toFinset, hmem]
    calc graph.size = 0 + graph.inputNames.length + plan.innerCount := hlowers.size_eq
      _ = _ := by rw [Nat.zero_add, hcard, Plan.innerCount, Nat.add_assoc]

/-- Calls with the agents who took them, and how often each agent is named in either. The agents are a
table in the join and a stream in the union below it. -/
def callReport : Plan :=
  .write ⟨["desk", "report"], by decide, by decide⟩ .insert
    (.binary .union
      (.binary (.join .inner "agent" "id") (.scan (some ⟨["desk", "calls"], by decide, by decide⟩))
        (.scan (some ⟨["desk", "agents"], by decide, by decide⟩)))
      (.unary (.aggregate ["agent"] ["COUNT(*)"]) none
        (.binary .union (.scan (some ⟨["desk", "agents"], by decide, by decide⟩))
          (.scan (some ⟨["desk", "calls"], by decide, by decide⟩)))))

/-- Where its streams and its table are. -/
def callReportStreams : Resolution where
  inputs := .ofList [("desk.agents", ⟨"desk.agents", "rocks", "agents", true, .empty⟩),
    ("desk.calls", ⟨"desk.calls", "kafka", "calls", false, .empty⟩)]
  outputs := .ofList [("desk.report", ⟨"desk.report", "kafka", "report", false, .empty⟩)]

/-- The calls are scanned twice and the agents once besides the join, so there are two inputs among the
eight operators. The first of them is read through the join and through the union. -/
theorem lower_counted_callReport :
    ∃ graph last, callReport.lower callReportStreams = .ok graph ∧
      graph.operators.getLast? = some last ∧ last.id = "sink_7" ∧
      Relation.TransGen graph.ReadsFrom "sink_7" "input_0" ∧
      (graph.inputs.filter fun operator =>
        OperatorGraph.inputStream? operator = some "desk.agents").length = 1 ∧
      graph.size = 8 := by
  have hlower : callReport.lower callReportStreams = .ok _ := rfl
  obtain ⟨⟨last, hlast, hread⟩, hinputs, hsize⟩ := lower_counted hlower
  obtain rfl := Option.some.inj hlast
  refine ⟨_, _, hlower, hlast, rfl, hread 0 _ rfl (by decide), ?_, ?_⟩
  · rw [hinputs]
    decide +kernel
  · rw [hsize]
    decide +kernel

end StreamPlan
