import StreamPlan.Operator.Summary
import StreamPlan.Proofs.Json.ReadBack
import StreamPlan.Proofs.Operator.Lowers

/-!
# What summaries tell

A summary tells the kind of an operator and not what it is set to: neither the condition of a filter
nor the system of an input. This file proves what can be told from the summaries of a graph all the same.

- `declared_compact_inj`: summaries that have the same text are the same;
- `lower_eq_of_summaries_eq`: a plan that is lowered with two resolutions to the same summaries, and with
  the same systems, is lowered to the same graph.

The second one is about the tables: a resolution also says which sides of a join are tables, and a table
becomes no operator. Lowering makes one operator for each join, in the order in which it comes to the end
of them, so the summaries tell which joins have a table (`Lowers.joinTables`).
-/

namespace StreamPlan

open Json (ReadsAs)

/-! ## Summaries as texts -/

theorem OperatorCode.name_injective : Function.Injective OperatorCode.name := by
  intro a b h
  cases a <;> cases b <;> first | rfl | exact absurd h (by decide)

theorem Json.ofStrings_injective : Function.Injective Json.ofStrings := by
  intro a b h
  exact List.map_injective_iff.2 (fun _ _ => Json.string.inj) (Json.array.inj h)

namespace OperatorSummary

variable {a b summary : OperatorSummary}

theorem keys_ne (summary : OperatorSummary) :
    summary.fields.Pairwise fun a b => a.1 ≠ b.1 := by
  rw [fields]
  cases summary.table <;> cases summary.capabilities <;> simp

theorem field?_toJson (summary : OperatorSummary) (name : String) :
    summary.toJson.field? name = Entries.get? name summary.fields := by
  rw [toJson, Json.field?_ofFields, Entries.get?_reverse summary.keys_ne]

theorem field?_table : summary.toJson.field? "table" = summary.table.map .string := by
  rw [field?_toJson, fields]
  cases summary.table <;> cases summary.capabilities <;> simp [Entries.get?]

theorem field?_capabilities :
    summary.toJson.field? "capabilities" =
      if summary.capabilities.isEmpty then none else some (.ofStrings summary.capabilities) := by
  rw [field?_toJson, fields]
  cases summary.table <;> cases summary.capabilities <;> simp [Entries.get?]

/-- Every field of a summary can be read from its stored form. -/
theorem toJson_injective : Function.Injective toJson := by
  intro a b h
  have hfield : ∀ name, a.toJson.field? name = b.toJson.field? name := fun name => by rw [h]
  have hid : a.id = b.id := by
    have hname := hfield "id"
    rw [field?_toJson, field?_toJson] at hname
    simpa [fields, Entries.get?] using hname
  have hcode : a.code = b.code := by
    have hname := hfield "op_code"
    rw [field?_toJson, field?_toJson] at hname
    exact OperatorCode.name_injective (by simpa [fields, Entries.get?] using hname)
  have hsources : a.sources = b.sources := by
    have hname := hfield "upstream"
    rw [field?_toJson, field?_toJson] at hname
    exact Json.ofStrings_injective (by simpa [fields, Entries.get?] using hname)
  have htable : a.table = b.table := by
    have hname := hfield "table"
    rw [field?_table, field?_table] at hname
    exact Option.map_injective (fun _ _ => Json.string.inj) hname
  have hcapabilities : a.capabilities = b.capabilities := by
    have hname := hfield "capabilities"
    rw [field?_capabilities, field?_capabilities] at hname
    -- Capabilities are left out only if there are none.
    split at hname <;> split at hname <;> simp_all [Json.ofStrings_injective.eq_iff]
  cases a
  cases b
  simp_all

theorem value_of_mem_fields {field : String × Json} (h : field ∈ summary.fields) :
    (∃ text, field.2 = .string text) ∨ ∃ items, field.2 = .ofStrings items := by
  rw [fields] at h
  cases htable : summary.table <;> cases hcapabilities : summary.capabilities <;> aesop

/-- The fields are written in the order of their declaration and read in key order. -/
theorem readsAs_declared (summary : OperatorSummary) :
    ReadsAs summary.declared.compact.toList summary.toJson := by
  refine Json.readsAs_object ?_
  rw [List.forall₂_same]
  intro field hfield
  refine ⟨rfl, ?_⟩
  rcases value_of_mem_fields hfield with ⟨text, htext⟩ | ⟨items, hitems⟩
  · rw [htext]
    exact Json.readsAs_string text
  · rw [hitems]
    exact Json.readsAs_ofStrings items

theorem parse?_declared (summaries : List OperatorSummary) :
    Json.parse? (Json.array (summaries.map declared)).compact =
      some (.array (summaries.map toJson)) := by
  refine Json.parse?_of_readsAs (Json.readsAs_array ?_)
  rw [List.forall₂_map_left_iff, List.forall₂_map_right_iff, List.forall₂_same]
  exact fun summary _ => readsAs_declared summary

/-- Different summaries have different texts. -/
theorem declared_compact_inj {a b : List OperatorSummary}
    (h : (Json.array (a.map declared)).compact = (Json.array (b.map declared)).compact) : a = b := by
  have hread := parse?_declared b
  rw [← h, parse?_declared] at hread
  exact List.map_injective_iff.2 toJson_injective (Json.array.inj (Option.some.inj hread))

end OperatorSummary

/-! ## The tables of joins -/

/-- The tables that the joins among operators look up, in order. -/
def OperatorSummary.joinTables (summaries : List OperatorSummary) : List (Option String) :=
  (summaries.filter fun summary => summary.code = .join).map OperatorSummary.table

namespace Plan

/-- The tables that the joins of a plan look up. A join comes after those of its sides. -/
def joinTables (resolution : Resolution) : Plan → List (Option String)
  | .scan _ => []
  | .unary _ _ input => input.joinTables resolution
  | .binary .union left right => left.joinTables resolution ++ right.joinTables resolution
  | .binary (.join ..) left right =>
    left.joinTables resolution ++ right.joinTables resolution ++
      [(resolution.scannedTable? left).or (resolution.scannedTable? right)]
  | .write _ _ input => input.joinTables resolution

variable {resolution first second : Resolution} {plan left right : Plan}
  {before after after' : OperatorGraph} {id id' : String}

theorem length_joinTables (first second : Resolution) (plan : Plan) :
    (plan.joinTables first).length = (plan.joinTables second).length := by
  induction plan with
  | scan table => rfl
  | unary op table input ih => exact ih
  | write table kind input ih => exact ih
  | binary op left right ihLeft ihRight => cases op <;> simp [joinTables, ihLeft, ihRight]

/-- A side that is a table has no joins. -/
theorem joinTables_of_scannedTable? {table : String}
    (h : resolution.scannedTable? plan = some table) : plan.joinTables resolution = [] := by
  obtain ⟨name, rfl, -, -⟩ := Resolution.scannedTable?_eq_some_iff.1 h
  rfl

theorem joinTables_appended (graph : OperatorGraph) (stage : Stage String) :
    OperatorSummary.joinTables (graph.appended stage).summaries =
      OperatorSummary.joinTables graph.summaries ++
        if stage.code = .join then [stage.tableJoin?.map TableJoin.table] else [] := by
  by_cases hcode : stage.code = .join
  · simp [OperatorSummary.joinTables, OperatorGraph.summaries, OperatorGraph.appended,
      OperatorGraph.concat, hcode, Operator.summary, Operator.code, Operator.table?]
  · simp [OperatorSummary.joinTables, OperatorGraph.summaries, OperatorGraph.appended,
      OperatorGraph.concat, hcode, Operator.summary, Operator.code]

/-- Lowering adds the joins of a plan to those of a graph. -/
theorem Lowers.joinTables (h : Lowers resolution plan before id after) :
    OperatorSummary.joinTables after.summaries =
      OperatorSummary.joinTables before.summaries ++ plan.joinTables resolution := by
  induction h with
  | shared _ => simp [Plan.joinTables]
  | input _ _ => simp [Plan.joinTables, joinTables_appended, Stage.code]
  | project _ ih | filter _ ih | window _ ih | aggregate _ ih | write _ _ ih =>
    simp [Plan.joinTables, joinTables_appended, Stage.code, ih]
  | union _ _ ihLeft ihRight =>
    simp [Plan.joinTables, joinTables_appended, Stage.code, ihLeft, ihRight]
  | tableOnRight hleftTable hrightTable _ ih =>
    simp [Plan.joinTables, joinTables_appended, Stage.code, Stage.tableJoin?, ih, hleftTable,
      hrightTable, joinTables_of_scannedTable? hrightTable, fieldJoin]
  | tableOnLeft hleftTable hrightTable _ ih =>
    simp [Plan.joinTables, joinTables_appended, Stage.code, Stage.tableJoin?, ih, hleftTable,
      hrightTable, joinTables_of_scannedTable? hleftTable, fieldJoin]
  | streams hleftTable hrightTable _ _ ihLeft ihRight =>
    simp [Plan.joinTables, joinTables_appended, Stage.code, Stage.tableJoin?, ihLeft, ihRight,
      hleftTable, hrightTable]

/-! ## Lowering twice -/

/-- Two resolutions that find the same table on the sides of a join find it on the same side. Scans of one
name cannot be told apart by a resolution. -/
theorem scannedTable?_eq_of_or_eq
    (hfirst : first.scannedTable? left = none ∨ first.scannedTable? right = none)
    (hsecond : second.scannedTable? left = none ∨ second.scannedTable? right = none)
    (h : (first.scannedTable? left).or (first.scannedTable? right) =
      (second.scannedTable? left).or (second.scannedTable? right)) :
    first.scannedTable? left = second.scannedTable? left ∧
      first.scannedTable? right = second.scannedTable? right := by
  -- A name that one resolution finds on the left is a scan there, so another that takes the name for a
  -- table finds it there too.
  have hother : ∀ {a b : Resolution} {name : String}, a.scannedTable? left = some name →
      b.scannedTable? right = some name → b.scannedTable? left = some name := by
    intro a b name ha hb
    obtain ⟨table, hleft, -, hname⟩ := Resolution.scannedTable?_eq_some_iff.1 ha
    obtain ⟨-, -, htable, -⟩ := Resolution.scannedTable?_eq_some_iff.1 hb
    exact Resolution.scannedTable?_eq_some_iff.2 ⟨table, hleft, htable, hname⟩
  cases hl : first.scannedTable? left with
  | none =>
    cases hl' : second.scannedTable? left with
    | none => simpa [hl, hl'] using h
    | some name =>
      have hright : first.scannedTable? right = some name := by simpa [hl, hl'] using h
      rw [hother hl' hright] at hl
      cases hl
  | some name =>
    cases hl' : second.scannedTable? left with
    | none =>
      have hright : second.scannedTable? right = some name := by simpa [hl, hl', eq_comm] using h
      rw [hother hl hright] at hl'
      cases hl'
    | some name' => simp_all

theorem joinTables_join_eq {joinType : JoinType} {leftKey rightKey : String}
    (h : (Plan.binary (.join joinType leftKey rightKey) left right).joinTables first =
      (Plan.binary (.join joinType leftKey rightKey) left right).joinTables second) :
    left.joinTables first = left.joinTables second ∧ right.joinTables first = right.joinTables second ∧
      (first.scannedTable? left).or (first.scannedTable? right) =
        (second.scannedTable? left).or (second.scannedTable? right) := by
  rw [joinTables, joinTables] at h
  obtain ⟨hsides, htable⟩ := List.append_inj' h rfl
  obtain ⟨hleft, hright⟩ := List.append_inj hsides (length_joinTables first second left)
  exact ⟨hleft, hright, (List.cons.inj htable).1⟩

/-- Where two resolutions agree about systems and about the tables of joins, a plan is lowered in one
way. -/
theorem Lowers.unique
    (hsystem : ∀ {name role resolved resolved'}, first.get? name role = some resolved →
      second.get? name role = some resolved' → resolved.system = resolved'.system)
    (h : Lowers first plan before id after) (h' : Lowers second plan before id' after')
    (htables : plan.joinTables first = plan.joinTables second) : id = id' ∧ after = after' := by
  -- Along the first run: the second one is at the same plan and graph. Only scans and joins leave it a
  -- choice, scans by the inputs of the graph and joins by the tables.
  induction h generalizing id' after' with
  | shared hid =>
    cases h' with
    | shared hid' => exact ⟨Option.some.inj (hid.symm.trans hid'), rfl⟩
    | input hnew _ => cases hid.symm.trans hnew
  | input hnew hresolved =>
    cases h' with
    | shared hid => cases hnew.symm.trans hid
    | input _ hresolved' => exact ⟨rfl, by rw [hsystem hresolved hresolved']⟩
  | project _ ih | filter _ ih | window _ ih | aggregate _ ih =>
    cases h'
    rename_i hplan
    obtain ⟨rfl, rfl⟩ := ih hplan htables
    exact ⟨rfl, rfl⟩
  | @union left right _ _ _ _ _ _ _ ihLeft ihRight =>
    cases h' with
    | union hleft hright =>
      obtain ⟨hleftTables, hrightTables⟩ :=
        List.append_inj htables (length_joinTables first second left)
      obtain ⟨rfl, rfl⟩ := ihLeft hleft hleftTables
      obtain ⟨rfl, rfl⟩ := ihRight hright hrightTables
      exact ⟨rfl, rfl⟩
  | tableOnRight hleftTable hrightTable _ ih =>
    -- The second run has the same table, hence on the same side.
    obtain ⟨hleftTables, -, htable⟩ := joinTables_join_eq htables
    cases h' with
    | tableOnRight hleftTable' hrightTable' hleft =>
      obtain ⟨-, hright⟩ := scannedTable?_eq_of_or_eq (.inl hleftTable) (.inl hleftTable') htable
      obtain rfl := Option.some.inj (hrightTable.symm.trans (hright.trans hrightTable'))
      obtain ⟨rfl, rfl⟩ := ih hleft hleftTables
      exact ⟨rfl, rfl⟩
    | tableOnLeft hleftTable' hrightTable' _ =>
      obtain ⟨hleft, -⟩ := scannedTable?_eq_of_or_eq (.inl hleftTable) (.inr hrightTable') htable
      cases hleftTable.symm.trans (hleft.trans hleftTable')
    | streams hleftTable' hrightTable' _ _ =>
      obtain ⟨-, hright⟩ := scannedTable?_eq_of_or_eq (.inl hleftTable) (.inl hleftTable') htable
      cases hrightTable.symm.trans (hright.trans hrightTable')
  | tableOnLeft hleftTable hrightTable _ ih =>
    obtain ⟨-, hrightTables, htable⟩ := joinTables_join_eq htables
    cases h' with
    | tableOnRight hleftTable' hrightTable' _ =>
      obtain ⟨hleft, -⟩ := scannedTable?_eq_of_or_eq (.inr hrightTable) (.inl hleftTable') htable
      cases hleftTable.symm.trans (hleft.trans hleftTable')
    | tableOnLeft hleftTable' hrightTable' hright =>
      obtain ⟨hleft, -⟩ := scannedTable?_eq_of_or_eq (.inr hrightTable) (.inr hrightTable') htable
      obtain rfl := Option.some.inj (hleftTable.symm.trans (hleft.trans hleftTable'))
      obtain ⟨rfl, rfl⟩ := ih hright hrightTables
      exact ⟨rfl, rfl⟩
    | streams hleftTable' hrightTable' _ _ =>
      obtain ⟨hleft, -⟩ := scannedTable?_eq_of_or_eq (.inr hrightTable) (.inl hleftTable') htable
      cases hleftTable.symm.trans (hleft.trans hleftTable')
  | streams hleftTable hrightTable _ _ ihLeft ihRight =>
    -- The second run has no table either.
    obtain ⟨hleftTables, hrightTables, htable⟩ := joinTables_join_eq htables
    rw [hleftTable, hrightTable] at htable
    cases h' with
    | tableOnRight hleftTable' hrightTable' _ => simp [hleftTable', hrightTable'] at htable
    | tableOnLeft hleftTable' hrightTable' _ => simp [hleftTable'] at htable
    | streams _ _ hleft hright =>
      obtain ⟨rfl, rfl⟩ := ihLeft hleft hleftTables
      obtain ⟨rfl, rfl⟩ := ihRight hright hrightTables
      exact ⟨rfl, rfl⟩
  | write _ hresolved ih =>
    cases h' with
    | write hplan hresolved' =>
      obtain ⟨rfl, rfl⟩ := ih hplan htables
      exact ⟨rfl, by rw [hsystem hresolved hresolved']⟩

/-- The summaries and the systems of streams determine the graph of a plan. -/
theorem lower_eq_of_summaries_eq {graph graph' : OperatorGraph}
    (hsystem : ∀ {name role resolved resolved'}, first.get? name role = some resolved →
      second.get? name role = some resolved' → resolved.system = resolved'.system)
    (h : plan.lower first = .ok graph) (h' : plan.lower second = .ok graph')
    (hsummaries : graph.summaries = graph'.summaries) : graph = graph' := by
  obtain ⟨id, hlowers⟩ := lowers_of_lower h
  obtain ⟨id', hlowers'⟩ := lowers_of_lower h'
  -- Both graphs start from nothing, so their joins are those of the plan.
  have htables : plan.joinTables first = plan.joinTables second := by
    have hjoins := hlowers.joinTables
    rw [hsummaries, hlowers'.joinTables] at hjoins
    exact (List.append_cancel_left hjoins).symm
  exact (hlowers.unique hsystem hlowers' htables).2

end Plan

end StreamPlan
