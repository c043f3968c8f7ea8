import StreamPlan.Proofs.Operator.Flow
import StreamPlan.Proofs.Stream.Resolution

/-!
# Plans that can be lowered

Once the roles of a plan are known and resolved, nothing can go wrong in lowering it but joins that
have no stream to drive them: those of two tables, and left joins that would have to keep the records
of a table. `lower_of_resolveRoles` says that these are the only failures, that the first of them from
the top and the left is the one reported, and that the tables of a graph are among the streams read.

The roles are found by one walk over the plan and the graph is built by another. What ties them
together is `Plan.ResolvedBy`: every name that a part of the plan uses has a stream in the role in
which it is used.
-/

namespace StreamPlan

namespace Resolution

variable {resolution : Resolution} {plan : Plan}

/-- A plan that is nothing but a scan of a table. -/
def ScansTable (resolution : Resolution) (plan : Plan) : Prop :=
  ∃ table resolved, plan = .scan (some table) ∧
    resolution.get? table.dotted .input = some resolved ∧ resolved.isTable = true

/-- A join that cannot be lowered: both sides are tables, or a left join has a table on the left and
none on the right. -/
def Unlowerable (resolution : Resolution) (plan : Plan) : Prop :=
  ∃ joinType leftKey rightKey left right,
    plan = .binary (.join joinType leftKey rightKey) left right ∧
      (resolution.ScansTable left ∧ resolution.ScansTable right ∨
        joinType = .left ∧ resolution.ScansTable left ∧ ¬resolution.ScansTable right)

/-- The error of a join that cannot be lowered. -/
def joinFault? (resolution : Resolution) : Plan → Option Error
  | .binary (.join joinType _ _) left right =>
    match resolution.scannedTable? left, resolution.scannedTable? right with
    | some left, some right => some (.tablesOnly left right)
    | some table, none => if joinType = .left then some (.keptTable table) else none
    | none, _ => none
  | _ => none

theorem isTable_eq_true_iff {name : String} :
    resolution.isTable name = true ↔
      ∃ resolved, resolution.get? name .input = some resolved ∧ resolved.isTable = true := by
  rw [isTable, get?]
  cases resolution.inputs.get? name <;> simp

theorem scannedTable?_isSome_iff :
    (resolution.scannedTable? plan).isSome = true ↔ resolution.ScansTable plan := by
  rw [Option.isSome_iff_exists]
  constructor
  · rintro ⟨name, h⟩
    obtain ⟨table, rfl, htable, rfl⟩ := scannedTable?_eq_some_iff.1 h
    obtain ⟨resolved, hresolved, hkind⟩ := isTable_eq_true_iff.1 htable
    exact ⟨table, resolved, rfl, hresolved, hkind⟩
  · rintro ⟨table, resolved, rfl, hresolved, hkind⟩
    have htable := isTable_eq_true_iff.2 ⟨resolved, hresolved, hkind⟩
    exact ⟨table.dotted, scannedTable?_eq_some_iff.2 ⟨table, rfl, htable, rfl⟩⟩

instance (resolution : Resolution) (plan : Plan) : Decidable (resolution.ScansTable plan) :=
  decidable_of_iff _ scannedTable?_isSome_iff

/-- Exactly the joins that cannot be lowered have an error. -/
theorem joinFault?_isSome_iff :
    (resolution.joinFault? plan).isSome = true ↔ resolution.Unlowerable plan := by
  constructor
  · intro h
    rw [joinFault?.eq_def] at h
    split at h
    · rename_i joinType leftKey rightKey left right
      refine ⟨joinType, leftKey, rightKey, left, right, rfl, ?_⟩
      rw [← scannedTable?_isSome_iff, ← scannedTable?_isSome_iff]
      split at h
      · rename_i hleft hright
        simp [hleft, hright]
      · rename_i hleft hright
        split at h
        · rename_i hkept
          simp [hleft, hright, hkept]
        · cases h
      · cases h
    · cases h
  · rintro ⟨joinType, leftKey, rightKey, left, right, rfl, h⟩
    rw [← scannedTable?_isSome_iff, ← scannedTable?_isSome_iff] at h
    rw [joinFault?]
    cases hleft : resolution.scannedTable? left <;>
      cases hright : resolution.scannedTable? right <;> simp_all

theorem eq_of_joinFault?_eq_some {error : Error} (h : resolution.joinFault? plan = some error) :
    (∃ left right, error = .tablesOnly left right) ∨ ∃ table, error = .keptTable table := by
  rw [joinFault?.eq_def] at h
  split at h
  · split at h
    · exact .inl ⟨_, _, (Option.some.inj h).symm⟩
    · split at h
      · exact .inr ⟨_, (Option.some.inj h).symm⟩
      · cases h
    · cases h
  · cases h

end Resolution

namespace Plan

variable {resolution : Resolution} {plan : Plan} {lowering : Lowering}

/-- Every name that a part of the plan uses has a stream, and every scan has a name. -/
def ResolvedBy (plan : Plan) (resolution : Resolution) : Prop :=
  ∀ part ∈ plan.subplans, part ≠ .scan none ∧
    ∀ role name, part.uses? role = some name → ∃ resolved, resolution.get? name role = some resolved

theorem resolvedBy_of_resolveRoles {resolver : Resolver} {roles : StreamRoles}
    (hroles : plan.roles = .ok roles) (hres : resolver.resolveRoles roles = .ok resolution) :
    plan.ResolvedBy resolution := by
  intro part hpart
  refine ⟨ne_unnamed_of_roles hroles part hpart, fun role name hname => ?_⟩
  have hcontains := (contains_of_roles hroles role name).2 ⟨part, hpart, hname⟩
  exact Resolver.exists_get?_of_resolveRoles hres hcontains

/-- A part of a plan is resolved with the plan. -/
theorem ResolvedBy.of_subset {part : Plan} (h : plan.ResolvedBy resolution)
    (hsub : part.subplans ⊆ plan.subplans) : part.ResolvedBy resolution :=
  fun inner hinner => h inner (hsub hinner)

theorem ResolvedBy.exists_system (h : plan.ResolvedBy resolution) {role : Role} {name : String}
    (huses : plan.uses? role = some name) :
    ∃ system, resolution.system name role = .ok system := by
  obtain ⟨resolved, hresolved⟩ := (h plan plan.mem_subplans_self).2 role name huses
  exact ⟨resolved.system, Resolution.system_eq_ok_iff.2 ⟨resolved, hresolved, rfl⟩⟩

/-! ## Without a fault lowering succeeds -/

/-- The lowering of the plan succeeds, and its graph holds the topmost operator. -/
def Succeeds (resolution : Resolution) (plan : Plan) (lowering : Lowering) : Prop :=
  ∃ id lowering', plan.lowerInto resolution lowering = .ok (id, lowering') ∧
    lowering'.graph.contains id = true

/-- A stage that reads from operators of the graph is added and is then one of them. -/
theorem exists_push (hsound : lowering.Sound) {stage : Stage String}
    (hsources : ∀ source ∈ stage.sources, lowering.graph.contains source = true)
    (hsome : stage.sources = [] → stage.code = .input) :
    ∃ id lowering', lowering.push stage = .ok (id, lowering') ∧
      lowering'.graph.contains id = true := by
  refine ⟨_, _, hsound.push_eq_ok hsources hsome, ?_⟩
  exact (OperatorGraph.numbered_appended hsound.numbered stage).contains_of_mem
    (OperatorGraph.mem_appended_iff.2 (.inr rfl))

theorem exists_push_one (hsound : lowering.Sound) {stage : Stage String} {source : String}
    (hstage : stage.sources = [source]) (hsource : lowering.graph.contains source = true) :
    ∃ id lowering', lowering.push stage = .ok (id, lowering') ∧
      lowering'.graph.contains id = true :=
  exists_push hsound (by simpa [hstage] using hsource) (by simp [hstage])

theorem exists_pushInput (hsound : lowering.Sound) (stream system : String) :
    ∃ id lowering', lowering.pushInput stream system = .ok (id, lowering') ∧
      lowering'.graph.contains id = true := by
  obtain ⟨id, added, hpush, hid⟩ : ∃ id added,
      lowering.push (.input stream system) = .ok (id, added) ∧ added.graph.contains id = true :=
    exists_push hsound (by simp [Stage.sources]) (fun _ => rfl)
  rw [Lowering.pushInput, hpush]
  exact ⟨_, _, rfl, hid⟩

theorem exists_lowerUnary (hsound : lowering.Sound) (op : UnaryOp) {source : String}
    (hsource : lowering.graph.contains source = true) :
    ∃ id lowering', lowerUnary op source lowering = .ok (id, lowering') ∧
      lowering'.graph.contains id = true := by
  cases op with
  | project _ | filter _ | window _ _ => exact exists_push_one hsound rfl hsource
  | aggregate groupBy aggregates =>
    -- An aggregate is two operators, and the second one needs a sound lowering as well.
    obtain ⟨keyed, distributed, hpush, hkeyed⟩ : ∃ keyed distributed,
        lowering.push (.partitionBy groupBy source) = .ok (keyed, distributed) ∧
          distributed.graph.contains keyed = true := exists_push_one hsound rfl hsource
    have hsound' : distributed.Sound := by
      rw [(hsound.eq_appended_of_push hpush).2]
      exact hsound.appended (by simp [Stage.code])
    rw [lowerUnary, hpush]
    exact exists_push_one hsound' rfl hkeyed

/-- The lowering that a plan leaves is sound, and its graph has what the first graph had. -/
theorem sound_of_lowerInto {lowering' : Lowering} {id : String} (hsound : lowering.Sound)
    (h : plan.lowerInto resolution lowering = .ok (id, lowering')) :
    lowering'.Sound ∧ ∀ other, lowering.graph.contains other = true →
      lowering'.graph.contains other = true := by
  obtain ⟨hlowers, hsound'⟩ := lowers_of_lowerInto hsound h
  exact ⟨hsound', fun _ =>
    hsound.numbered.contains_of_prefix hsound'.numbered hlowers.grows.operators_prefix⟩

/-- What comes after a plan in a sequence succeeds if it does so after the plan. -/
theorem Succeeds.bind (h : plan.Succeeds resolution lowering) (hsound : lowering.Sound)
    {next : String × Lowering → Except Error (String × Lowering)}
    (hnext : ∀ {id lowering'}, lowering'.Sound → lowering'.graph.contains id = true →
      (∀ other, lowering.graph.contains other = true → lowering'.graph.contains other = true) →
        ∃ id' lowering'', next (id, lowering') = .ok (id', lowering'') ∧
          lowering''.graph.contains id' = true) :
    ∃ id lowering', (plan.lowerInto resolution lowering >>= next) = .ok (id, lowering') ∧
      lowering'.graph.contains id = true := by
  obtain ⟨id, lowering', hrun, hid⟩ := h
  obtain ⟨hsound', hkept⟩ := sound_of_lowerInto hsound hrun
  rw [hrun]
  exact hnext hsound' hid hkept

/-- Both sides of an operator are lowered, the left one first, and then the operator is added. -/
theorem exists_push_two {left right : Plan} (stage : String → String → Stage String)
    (hstage : ∀ l r, (stage l r).sources = [l, r]) (hsound : lowering.Sound)
    (hleft : left.Succeeds resolution lowering)
    (hright : ∀ {lowering}, lowering.Sound → right.Succeeds resolution lowering) :
    ∃ id lowering', (do
      let (l, lowering) ← left.lowerInto resolution lowering
      let (r, lowering) ← right.lowerInto resolution lowering
      lowering.push (stage l r)) = .ok (id, lowering') ∧ lowering'.graph.contains id = true := by
  refine hleft.bind hsound fun hsound₁ hl _ => ?_
  refine (hright hsound₁).bind hsound₁ fun hsound₂ hr hkept => ?_
  refine exists_push hsound₂ ?_ (by simp [hstage])
  simpa [hstage] using ⟨hkept _ hl, hr⟩

/-- A plan that is resolved and has no join that cannot be lowered is lowered. -/
theorem succeeds_of_resolvedBy (hres : plan.ResolvedBy resolution) (hsound : lowering.Sound)
    (hnone : ∀ part ∈ plan.subplans, resolution.joinFault? part = none) :
    plan.Succeeds resolution lowering := by
  induction plan generalizing lowering with
  | scan table =>
    cases table with
    | none => exact absurd rfl (hres _ (mem_subplans_self _)).1
    | some table =>
      rw [Succeeds, lowerInto]
      cases hinput : lowering.inputs.get? table.dotted with
      | some id => exact ⟨id, lowering, rfl, hsound.contains_of_inputs hinput⟩
      | none =>
        obtain ⟨system, hsystem⟩ := hres.exists_system (uses?_scan_eq_some_iff.2 ⟨rfl, rfl⟩)
        rw [hsystem]
        exact exists_pushInput hsound table.dotted system
  | write table kind plan ih =>
    have hsub : plan.subplans ⊆ (Plan.write table kind plan).subplans := List.subset_cons_self _ _
    have hplan := ih (hres.of_subset hsub) hsound fun part hpart => hnone part (hsub hpart)
    obtain ⟨system, hsystem⟩ := hres.exists_system (uses?_write_eq_some_iff.2 ⟨rfl, rfl⟩)
    rw [Succeeds, lowerInto]
    -- The target is looked up only after the input has been lowered.
    refine hplan.bind hsound fun hsound' hid _ => ?_
    simp only [hsystem]
    exact exists_push_one hsound' rfl hid
  | unary op table plan ih =>
    have hsub : plan.subplans ⊆ (Plan.unary op table plan).subplans := List.subset_cons_self _ _
    have hplan := ih (hres.of_subset hsub) hsound fun part hpart => hnone part (hsub hpart)
    rw [Succeeds, lowerInto]
    exact hplan.bind hsound fun hsound' hid _ => exists_lowerUnary hsound' op hid
  | binary op left right ihLeft ihRight =>
    have hsubLeft := subplans_subset_left op left right
    have hsubRight := subplans_subset_right op left right
    have hleft : ∀ {lowering}, lowering.Sound → left.Succeeds resolution lowering := fun hsound =>
      ihLeft (hres.of_subset hsubLeft) hsound fun part hpart => hnone part (hsubLeft hpart)
    have hright : ∀ {lowering}, lowering.Sound → right.Succeeds resolution lowering := fun hsound =>
      ihRight (hres.of_subset hsubRight) hsound fun part hpart => hnone part (hsubRight hpart)
    have hself := hnone _ (mem_subplans_self _)
    cases op with
    | union =>
      rw [Succeeds, lowerInto]
      exact exists_push_two (fun l r => .merge [l, r]) (fun _ _ => rfl) hsound (hleft hsound) hright
    | join joinType leftKey rightKey =>
      -- The side of a table is not lowered, so that only the stream has to succeed; that the join
      -- itself has no fault rules out the choices without a stream.
      rw [Succeeds, lowerInto]
      rw [Resolution.joinFault?] at hself
      cases hleftTable : resolution.scannedTable? left with
      | none =>
        cases hrightTable : resolution.scannedTable? right with
        | none =>
          exact exists_push_two (.streamJoin joinType leftKey rightKey) (fun _ _ => rfl) hsound
            (hleft hsound) hright
        | some table =>
          exact (hleft hsound).bind hsound fun hsound' hid _ => exists_push_one hsound' rfl hid
      | some table =>
        cases hrightTable : resolution.scannedTable? right with
        | none =>
          have hkept : ¬joinType = .left := by
            intro hkept
            simp [hleftTable, hrightTable, hkept] at hself
          simp only [if_neg hkept]
          exact (hright hsound).bind hsound fun hsound' hid _ => exists_push_one hsound' rfl hid
        | some other => simp [hleftTable, hrightTable] at hself

/-! ## The first fault is the one reported -/

theorem findSome?_subplans_of_scannedTable? {name : String}
    (h : resolution.scannedTable? plan = some name) :
    plan.subplans.findSome? resolution.joinFault? = none := by
  obtain ⟨table, rfl, -⟩ := Resolution.scannedTable?_eq_some_iff.1 h
  rfl

/-- Of two plans that are lowered one after the other the first fault is reported. -/
theorem pair_eq_error {left right : Plan} {error : Error}
    (next : String → String → Lowering → Except Error (String × Lowering))
    (h : (left.subplans ++ right.subplans).findSome? resolution.joinFault? = some error)
    (hsound : lowering.Sound)
    (hsucceeds : left.subplans.findSome? resolution.joinFault? = none →
      left.Succeeds resolution lowering)
    (hleft : left.subplans.findSome? resolution.joinFault? = some error →
      left.lowerInto resolution lowering = .error error)
    (hright : ∀ {lowering}, lowering.Sound →
      right.subplans.findSome? resolution.joinFault? = some error →
        right.lowerInto resolution lowering = .error error) :
    (do
      let (l, lowering) ← left.lowerInto resolution lowering
      let (r, lowering) ← right.lowerInto resolution lowering
      next l r lowering) = .error error := by
  rw [List.findSome?_append] at h
  cases hfirst : left.subplans.findSome? resolution.joinFault? with
  | some first =>
    rw [hfirst, Option.some_or] at h
    rw [hleft (hfirst.trans h)]
    rfl
  | none =>
    -- The left side has no fault, so the right side is reached, in a graph that has grown.
    rw [hfirst, Option.none_or] at h
    obtain ⟨l, lowering', hrun, -⟩ := hsucceeds hfirst
    rw [hrun, ok_bind]
    simp only [hright (sound_of_lowerInto hsound hrun).1 h, error_bind]

/-- A plan that is resolved fails with the error of its first join that cannot be lowered. -/
theorem lowerInto_eq_error (hres : plan.ResolvedBy resolution) (hsound : lowering.Sound)
    {error : Error} (h : plan.subplans.findSome? resolution.joinFault? = some error) :
    plan.lowerInto resolution lowering = .error error := by
  induction plan generalizing lowering with
  | scan table => cases h
  | write table kind plan ih =>
    rw [lowerInto, ih (hres.of_subset (List.subset_cons_self _ _)) hsound h]
    rfl
  | unary op table plan ih =>
    rw [lowerInto, ih (hres.of_subset (List.subset_cons_self _ _)) hsound h]
    rfl
  | binary op left right ihLeft ihRight =>
    have hresLeft := hres.of_subset (subplans_subset_left op left right)
    have hresRight := hres.of_subset (subplans_subset_right op left right)
    have hsucceeds (hnone : left.subplans.findSome? resolution.joinFault? = none) :
        left.Succeeds resolution lowering :=
      succeeds_of_resolvedBy hresLeft hsound (List.findSome?_eq_none_iff.1 hnone)
    rw [subplans, List.findSome?_cons] at h
    cases op with
    | union =>
      rw [lowerInto]
      exact pair_eq_error (fun l r lowering => lowering.push (.merge [l, r])) h hsound hsucceeds
        (ihLeft hresLeft hsound) (ihRight hresRight)
    | join joinType leftKey rightKey =>
      -- A join is checked before its sides are lowered, and its own fault is the first in order too.
      rw [lowerInto]
      rw [Resolution.joinFault?] at h
      cases hleftTable : resolution.scannedTable? left with
      | none =>
        simp only [hleftTable] at h
        cases hrightTable : resolution.scannedTable? right with
        | none =>
          exact pair_eq_error
            (fun l r lowering => lowering.push (.streamJoin joinType leftKey rightKey l r)) h hsound
            hsucceeds (ihLeft hresLeft hsound) (ihRight hresRight)
        | some table =>
          -- The table is skipped by the lowering, and as a scan it has no fault to be skipped with it.
          rw [List.findSome?_append, findSome?_subplans_of_scannedTable? hrightTable,
            Option.or_none] at h
          simp only [ihLeft hresLeft hsound h, error_bind]
      | some table =>
        cases hrightTable : resolution.scannedTable? right with
        | none =>
          simp only [hleftTable, hrightTable] at h
          by_cases hkept : joinType = .left
          · rw [if_pos hkept] at h
            obtain rfl := Option.some.inj h
            simp only [if_pos hkept]
          · rw [if_neg hkept, List.findSome?_append,
              findSome?_subplans_of_scannedTable? hleftTable, Option.none_or] at h
            simp only [if_neg hkept, ihRight hresRight hsound h, error_bind]
        | some other =>
          simp only [hleftTable, hrightTable] at h
          obtain rfl := Option.some.inj h
          rfl

end Plan

/-- The tables of a lowered plan are known as streams that the plan reads, whatever else is
registered. -/
theorem OperatorGraph.checkTables_of_lower {plan : Plan} {resolution : Resolution}
    {roles : StreamRoles} {graph : OperatorGraph} (hroles : plan.roles = .ok roles)
    (h : plan.lower resolution = .ok graph) (registered : String → Bool) :
    graph.checkTables roles.inputs registered = .ok () := by
  obtain ⟨id, hlowers⟩ := Plan.lowers_of_lower h
  have hknown : ∀ table ∈ graph.tables, roles.inputs.contains table = true := by
    intro table hmem
    have htouches := OperatorGraph.touches_input_iff.2 (.inr hmem)
    rcases (hlowers.touches_iff .input table).1 htouches with hnone | hmoves
    · exact absurd hnone OperatorGraph.not_touches_empty
    · exact (Plan.contains_of_roles hroles .input table).2 (Plan.uses_iff.2 (.inl hmoves))
  -- Nothing is looked up in what is registered, as all tables are read by the plan.
  have hfind : graph.tables.find? (fun table => !roles.inputs.contains table && !registered table) =
      none := by
    rw [List.find?_eq_none]
    intro table hmem
    simp [hknown table hmem]
  rw [checkTables, hfind]

/-- The errors of joins are errors about the graph of operators. -/
theorem Resolution.message_of_joinFault? {resolution : Resolution} {plan : Plan} {error : Error}
    (h : resolution.joinFault? plan = some error) :
    ∃ detail, error.message = "Operator graph error: " ++ detail := by
  rcases eq_of_joinFault?_eq_some h with ⟨left, right, rfl⟩ | ⟨table, rfl⟩
  · have hlead : "Operator graph error: join between tables '" =
        "Operator graph error: " ++ "join between tables '" := by decide +kernel
    refine ⟨"join between tables '" ++ (left ++ ("' and '" ++ (right ++ "' has no stream side"))), ?_⟩
    change "Operator graph error: join between tables '" ++ left ++ "' and '" ++ right ++ _ = _
    rw [hlead, String.append_assoc, String.append_assoc, String.append_assoc, String.append_assoc]
  · have hlead : "Operator graph error: left join must keep the stream on the left, found table '" =
        "Operator graph error: " ++ "left join must keep the stream on the left, found table '" := by
      decide +kernel
    refine ⟨"left join must keep the stream on the left, found table '" ++ (table ++ "'"), ?_⟩
    change "Operator graph error: left join must keep the stream on the left, found table '" ++ _ ++ _ =
      _
    rw [hlead, String.append_assoc, String.append_assoc]

/-- A plan whose roles are resolved fails with the error of its first join that cannot be lowered, and
in no other way. -/
theorem Plan.lower_eq_error_iff {plan : Plan} {resolution : Resolution}
    (hres : plan.ResolvedBy resolution) {error : Error} :
    plan.lower resolution = .error error ↔
      plan.subplans.findSome? resolution.joinFault? = some error := by
  constructor
  · intro h
    cases hfault : plan.subplans.findSome? resolution.joinFault? with
    | none =>
      obtain ⟨id, lowering, hrun, -⟩ := succeeds_of_resolvedBy hres Lowering.sound_start
        (List.findSome?_eq_none_iff.1 hfault)
      rw [lower, hrun] at h
      cases h
    | some fault =>
      rw [lower, lowerInto_eq_error hres Lowering.sound_start hfault] at h
      exact congrArg some (Except.error.inj h)
  · intro h
    rw [lower, lowerInto_eq_error hres Lowering.sound_start h]
    rfl

/-- Once its roles are known and resolved, a plan fails to be lowered exactly if it has a join that
cannot be. The error is that of the first such join, from the top and the left, and is never about a
name. A plan that is lowered only joins with tables that it reads. -/
theorem lower_of_resolveRoles {plan : Plan} {roles : StreamRoles} {resolver : Resolver}
    {resolution : Resolution} (hroles : plan.roles = .ok roles)
    (hres : resolver.resolveRoles roles = .ok resolution) :
    (∀ name, plan.lower resolution ≠ .error (.unresolvedStream name)) ∧
      plan.lower resolution ≠ .error .unnamedInput ∧
      (∀ path, plan.lower resolution ≠ .error (.unnamedScan path)) ∧
      ((∃ error, plan.lower resolution = .error error) ↔
        ∃ part ∈ plan.subplans, resolution.Unlowerable part) ∧
      (∀ error, plan.lower resolution = .error error →
        ∃ before join after, plan.subplans = before ++ join :: after ∧
          (∀ part ∈ before, ¬resolution.Unlowerable part) ∧ resolution.Unlowerable join ∧
          resolution.joinFault? join = some error ∧
          ∃ detail, error.message = "Operator graph error: " ++ detail) ∧
      ∀ graph, plan.lower resolution = .ok graph →
        ∀ registered, graph.checkTables roles.inputs registered = .ok () := by
  have hresolved := Plan.resolvedBy_of_resolveRoles hroles hres
  -- Everything that is said of errors follows from what the first fault among the parts can be.
  have hfirst : ∀ error, plan.lower resolution = .error error →
      ∃ before join after, plan.subplans = before ++ join :: after ∧
        resolution.joinFault? join = some error ∧
        ∀ part ∈ before, resolution.joinFault? part = none :=
    fun error h => List.findSome?_eq_some_iff.1 ((Plan.lower_eq_error_iff hresolved).1 h)
  have hkind : ∀ error, plan.lower resolution = .error error →
      (∃ left right, error = .tablesOnly left right) ∨ ∃ table, error = .keptTable table := by
    intro error h
    obtain ⟨_, join, _, -, hfault, -⟩ := hfirst error h
    exact Resolution.eq_of_joinFault?_eq_some hfault
  have hnot : ∀ part, resolution.joinFault? part = none → ¬resolution.Unlowerable part := by
    intro part hnone hpart
    have hsome := Resolution.joinFault?_isSome_iff.2 hpart
    rw [hnone] at hsome
    cases hsome
  refine ⟨fun name h => ?_, fun h => ?_, fun path h => ?_, ⟨?_, ?_⟩, ?_, ?_⟩
  · rcases hkind _ h with ⟨_, _, herror⟩ | ⟨_, herror⟩ <;> cases herror
  · rcases hkind _ h with ⟨_, _, herror⟩ | ⟨_, herror⟩ <;> cases herror
  · rcases hkind _ h with ⟨_, _, herror⟩ | ⟨_, herror⟩ <;> cases herror
  · rintro ⟨error, h⟩
    obtain ⟨before, join, after, hparts, hfault, -⟩ := hfirst error h
    refine ⟨join, by simp [hparts], ?_⟩
    exact Resolution.joinFault?_isSome_iff.1 (Option.isSome_iff_exists.2 ⟨error, hfault⟩)
  · rintro ⟨part, hpart, hbad⟩
    have hsome : (plan.subplans.findSome? resolution.joinFault?).isSome = true :=
      List.findSome?_isSome_iff.2 ⟨part, hpart, Resolution.joinFault?_isSome_iff.2 hbad⟩
    obtain ⟨error, herror⟩ := Option.isSome_iff_exists.1 hsome
    exact ⟨error, (Plan.lower_eq_error_iff hresolved).2 herror⟩
  · intro error h
    obtain ⟨before, join, after, hparts, hfault, hbefore⟩ := hfirst error h
    have hjoin := Resolution.joinFault?_isSome_iff.1 (Option.isSome_iff_exists.2 ⟨error, hfault⟩)
    exact ⟨before, join, after, hparts, fun part hpart => hnot part (hbefore part hpart), hjoin,
      hfault, Resolution.message_of_joinFault? hfault⟩
  · intro graph h registered
    exact OperatorGraph.checkTables_of_lower hroles h registered

/-- A system of streams and one of tables. -/
def streamsAndTables : Catalog :=
  (Catalog.empty.register ⟨"kafka", "kafka", .both, .stream, .empty, .empty⟩).register
    ⟨"profiles", "rocks", .both, .table, .empty, .empty⟩

/-- A left join that would have to keep the records of a table. On its right stands a join of two
tables. -/
def keptTable : Plan :=
  .write ⟨["kafka", "out"], by decide, by decide⟩ .insert
    (.binary (.join .left "id" "user_id") (.scan (some ⟨["profiles", "accounts"], by decide, by decide⟩))
      (.binary (.join .inner "user_id" "user_id")
        (.scan (some ⟨["profiles", "visits"], by decide, by decide⟩))
        (.scan (some ⟨["profiles", "orders"], by decide, by decide⟩))))

/-- Both joins are faulty, and the outer one is reported. -/
theorem lower_of_resolveRoles_keptTable :
    ∃ roles resolution, keptTable.roles = .ok roles ∧
      streamsAndTables.resolver.resolveRoles roles = .ok resolution ∧
      keptTable.lower resolution = .error (.keptTable "profiles.accounts") ∧
      ∃ before join after, keptTable.subplans = before ++ join :: after ∧
        (∀ part ∈ before, ¬resolution.Unlowerable part) ∧ resolution.Unlowerable join ∧
        resolution.joinFault? join = some (.keptTable "profiles.accounts") := by
  have hroles : keptTable.roles = .ok _ := rfl
  have hall := lower_of_resolveRoles hroles
    (rfl : streamsAndTables.resolver.resolveRoles _ = .ok _)
  obtain ⟨before, join, after, hparts, hbefore, hjoin, hfault, -⟩ :=
    hall.2.2.2.2.1 (.keptTable "profiles.accounts") rfl
  exact ⟨_, _, hroles, rfl, rfl, before, join, after, hparts, hbefore, hjoin, hfault⟩

end StreamPlan
