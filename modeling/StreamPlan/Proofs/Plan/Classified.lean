import StreamPlan.Proofs.Plan.Roles

/-!
# What classifying a plan finds

A plan is walked once, from the top and from the left, and its names are sorted into those that are read
and those that are written. The walk stops at a scan without a name and tells the way to it.

`Plan.located` lists the parts of a plan with the ways to them, in the order of the walk.

- `rolesFrom_eq_error`: the walk reports the first scan of that list that has no name, whatever subtrees
  it has left behind;
- `exists_rolesFrom`: without such a scan the plan has roles;
- `roles_of_swaps`: plans that differ in the order of the inputs of their binary operators have the same
  roles, since they have the same parts up to such differences.

`roles_exact` collects what is known of a classification.
-/

namespace StreamPlan

/-- A set of names is determined by its members. -/
theorem NameSet.ext_contains {a b : NameSet}
    (h : ∀ name, a.contains name = true ↔ b.contains name = true) : a = b := by
  apply SortedMap.ext_get?
  intro name
  -- There is one value only, so that it matters whether a name has one and not which one.
  have hsome : (a.get? name).isSome = (b.get? name).isSome := Bool.eq_iff_iff.2 (h name)
  cases ha : a.get? name <;> cases hb : b.get? name <;> simp_all

namespace Plan

/-- The parts of a plan, each with the labels of the operators from the topmost one down to it. A part
stands before its inputs, and the left input before the right. -/
def located : Plan → List (List String × Plan)
  | .scan table => [([(Plan.scan table).label], .scan table)]
  | .write table kind input =>
    let plan := Plan.write table kind input
    ([plan.label], plan) :: input.located.map fun place => (plan.label :: place.1, place.2)
  | .binary op left right =>
    let plan := Plan.binary op left right
    ([plan.label], plan) ::
      (left.located ++ right.located).map fun place => (plan.label :: place.1, place.2)
  | .unary op table input =>
    let plan := Plan.unary op table input
    ([plan.label], plan) :: input.located.map fun place => (plan.label :: place.1, place.2)

/-- The way to the first scan without a name. -/
def firstUnnamed? (plan : Plan) : Option (List String) :=
  (plan.located.find? fun place => place.2 = .scan none).map Prod.fst

/-- Two plans that are the same but for the order of the inputs of some of their binary operators. -/
inductive Swaps : Plan → Plan → Prop
  /-- A scan has no inputs. -/
  | scan (table : Option TableName) : Swaps (.scan table) (.scan table)
  /-- The operators in question are below a write. -/
  | write {input input' : Plan} (table : TableName) (kind : WriteKind) (h : Swaps input input') :
      Swaps (.write table kind input) (.write table kind input')
  /-- The operators in question are below a unary operator. -/
  | unary {input input' : Plan} (op : UnaryOp) (table : Option TableName) (h : Swaps input input') :
      Swaps (.unary op table input) (.unary op table input')
  /-- A binary operator whose inputs keep their order. -/
  | kept {left left' right right' : Plan} (op : BinaryOp) (hleft : Swaps left left')
      (hright : Swaps right right') : Swaps (.binary op left right) (.binary op left' right')
  /-- A binary operator whose inputs change places. -/
  | swapped {left left' right right' : Plan} (op : BinaryOp) (hleft : Swaps left left')
      (hright : Swaps right right') : Swaps (.binary op left right) (.binary op right' left')

variable {plan other : Plan} {path below : List String} {roles : StreamRoles}

/-! ## The first scan without a name -/

theorem map_snd_located (plan : Plan) : plan.located.map Prod.snd = plan.subplans := by
  induction plan with
  | scan table => rfl
  | write table kind input ih => simp [located, subplans, ← ih, Function.comp_def]
  | binary op left right ihLeft ihRight =>
    simp [located, subplans, ← ihLeft, ← ihRight, Function.comp_def]
  | unary op table input ih => simp [located, subplans, ← ih, Function.comp_def]

/-- Below an operator that is no scan, the way to a place starts with the label of the operator. -/
theorem find?_located_below {top : List String × Plan} (htop : top.2 ≠ .scan none) (label : String)
    (places : List (List String × Plan)) :
    ((top :: places.map fun place => (label :: place.1, place.2)).find?
        fun place => place.2 = .scan none).map Prod.fst =
      ((places.find? fun place => place.2 = .scan none).map Prod.fst).map (label :: ·) := by
  rw [List.find?_cons_of_neg (by simpa using htop), List.find?_map, Option.map_map, Option.map_map]
  rfl

theorem firstUnnamed?_write (table : TableName) (kind : WriteKind) (input : Plan) :
    (Plan.write table kind input).firstUnnamed? = input.firstUnnamed?.map ("modify" :: ·) :=
  find?_located_below (by simp) _ _

theorem firstUnnamed?_unary (op : UnaryOp) (table : Option TableName) (input : Plan) :
    (Plan.unary op table input).firstUnnamed? =
      input.firstUnnamed?.map ((Plan.unary op table input).label :: ·) :=
  find?_located_below (by simp) _ _

/-- The left input is searched before the right one. -/
theorem firstUnnamed?_binary (op : BinaryOp) (left right : Plan) :
    (Plan.binary op left right).firstUnnamed? =
      (left.firstUnnamed?.or right.firstUnnamed?).map ((Plan.binary op left right).label :: ·) := by
  have hsides : ((left.located ++ right.located).find? fun place => place.2 = .scan none).map Prod.fst =
      left.firstUnnamed?.or right.firstUnnamed? := by
    rw [List.find?_append, Option.map_or]
    rfl
  rw [← hsides]
  exact find?_located_below (by simp) _ _

theorem firstUnnamed?_eq_none_iff :
    plan.firstUnnamed? = none ↔ ∀ part ∈ plan.subplans, part ≠ .scan none := by
  rw [firstUnnamed?, Option.map_eq_none_iff, List.find?_eq_none, ← map_snd_located,
    List.forall_mem_map]
  simp

/-! ## What the walk does -/

/-- Without a scan that has no name the walk comes to an end. -/
theorem exists_rolesFrom (h : plan.firstUnnamed? = none) (path : List String) (roles : StreamRoles) :
    ∃ roles', plan.rolesFrom path roles = .ok roles' := by
  -- The roles that one input leaves are those that the next one starts from, hence for all of them.
  induction plan generalizing path roles with
  | scan table =>
    cases table with
    | none => cases h
    | some table => exact ⟨_, rfl⟩
  | write table kind input ih =>
    rw [firstUnnamed?_write, Option.map_eq_none_iff] at h
    exact ih h _ _
  | binary op left right ihLeft ihRight =>
    rw [firstUnnamed?_binary, Option.map_eq_none_iff, Option.or_eq_none_iff] at h
    obtain ⟨between, hleft⟩ := ihLeft h.1 (path ++ [(Plan.binary op left right).label]) roles
    obtain ⟨roles', hright⟩ := ihRight h.2 (path ++ [(Plan.binary op left right).label]) between
    refine ⟨roles', ?_⟩
    rw [rolesFrom, hleft, ok_bind, hright]
  | unary op table input ih =>
    rw [firstUnnamed?_unary, Option.map_eq_none_iff] at h
    cases table with
    | none => exact ih h _ _
    | some table => exact ih h _ _

/-- The walk ends at the first scan that has no name. The error has the labels above the plan and then
those within it; of the inputs that were walked before nothing is left in it. -/
theorem rolesFrom_eq_error (h : plan.firstUnnamed? = some below) (path : List String)
    (roles : StreamRoles) :
    plan.rolesFrom path roles = .error (.unnamedScan (path ++ below)) := by
  induction plan generalizing path below roles with
  | scan table =>
    cases table with
    | none =>
      obtain rfl := Option.some.inj h
      rfl
    | some table => simp [firstUnnamed?, located] at h
  | write table kind input ih =>
    -- The label of the operator goes from the end of the path to the start of the way below it.
    rw [firstUnnamed?_write] at h
    obtain ⟨rest, hrest, rfl⟩ := Option.map_eq_some_iff.1 h
    rw [rolesFrom, ih hrest, List.append_assoc, List.singleton_append]
  | binary op left right ihLeft ihRight =>
    rw [firstUnnamed?_binary] at h
    obtain ⟨rest, hrest, rfl⟩ := Option.map_eq_some_iff.1 h
    rw [List.append_cons, rolesFrom]
    rcases Option.or_eq_some_iff.1 hrest with hleft | ⟨hnone, hright⟩
    · rw [ihLeft hleft, error_bind]
    · -- The left input has been walked to its end; the way to the right one is as if it had not been.
      obtain ⟨between, hleft⟩ :=
        exists_rolesFrom hnone (path ++ [(Plan.binary op left right).label]) roles
      rw [hleft, ok_bind, ihRight hright]
  | unary op table input ih =>
    rw [firstUnnamed?_unary] at h
    obtain ⟨rest, hrest, rfl⟩ := Option.map_eq_some_iff.1 h
    rw [List.append_cons]
    cases table with
    | none => exact ih hrest _ _
    | some table => exact ih hrest _ _

theorem roles_eq_error_iff {error : Error} :
    plan.roles = .error error ↔
      ∃ path, plan.firstUnnamed? = some path ∧ error = .unnamedScan path := by
  rw [roles]
  cases hfirst : plan.firstUnnamed? with
  | none =>
    obtain ⟨roles', hroles⟩ := exists_rolesFrom hfirst [] .empty
    simp [hroles]
  | some path => simp [rolesFrom_eq_error hfirst, eq_comm]

theorem exists_roles_iff :
    (∃ roles, plan.roles = .ok roles) ↔ ∀ part ∈ plan.subplans, part ≠ .scan none := by
  constructor
  · rintro ⟨roles, hroles⟩
    exact ne_unnamed_of_roles hroles
  · intro h
    exact exists_rolesFrom (firstUnnamed?_eq_none_iff.2 h) [] .empty

/-! ## The order of inputs -/

/-- What passes from the inputs of a plan to the plan holds of all plans. -/
theorem inputs_induction {motive : Plan → Prop}
    (step : ∀ plan, (∀ input ∈ plan.inputs, motive input) → motive plan) (plan : Plan) :
    motive plan := by
  induction plan with
  | scan table => exact step _ (by simp [inputs])
  | write table kind input ih => exact step _ (by simpa [inputs] using ih)
  | binary op left right ihLeft ihRight => exact step _ (by simpa [inputs] using ⟨ihLeft, ihRight⟩)
  | unary op table input ih => exact step _ (by simpa [inputs] using ih)

/-- The parts of a plan are the plan and the parts of its inputs. -/
theorem mem_subplans_iff {part : Plan} :
    part ∈ plan.subplans ↔ part = plan ∨ ∃ input ∈ plan.inputs, part ∈ input.subplans := by
  cases plan <;> simp [subplans, inputs]

namespace Swaps

theorem symm (h : Swaps plan other) : Swaps other plan := by
  induction h with
  | scan table => exact .scan table
  | write table kind _ ih => exact .write table kind ih
  | unary op table _ ih => exact .unary op table ih
  | kept op _ _ ihLeft ihRight => exact .kept op ihLeft ihRight
  | swapped op _ _ ihLeft ihRight => exact .swapped op ihRight ihLeft

/-- The topmost operators of two such plans use the same name. -/
theorem uses?_eq (h : Swaps plan other) (role : Role) : plan.uses? role = other.uses? role := by
  cases h with
  | scan | write | unary => cases role <;> rfl
  | kept | swapped => rfl

theorem eq_scan_iff (h : Swaps plan other) (table : Option TableName) :
    plan = .scan table ↔ other = .scan table := by
  cases h <;> simp

theorem exists_input (h : Swaps plan other) {input : Plan} (hinput : input ∈ plan.inputs) :
    ∃ input' ∈ other.inputs, Swaps input input' := by
  cases h with
  | scan => cases hinput
  | write _ _ h | unary _ _ h =>
    obtain rfl := List.mem_singleton.1 hinput
    exact ⟨_, List.mem_singleton_self _, h⟩
  | kept _ hleft hright =>
    obtain rfl | rfl : input = _ ∨ input = _ := by simpa [inputs] using hinput
    · exact ⟨_, List.mem_cons_self, hleft⟩
    · exact ⟨_, List.mem_cons_of_mem _ List.mem_cons_self, hright⟩
  | swapped _ hleft hright =>
    -- What was on the left is on the right now, and the other way round.
    obtain rfl | rfl : input = _ ∨ input = _ := by simpa [inputs] using hinput
    · exact ⟨_, List.mem_cons_of_mem _ List.mem_cons_self, hleft⟩
    · exact ⟨_, List.mem_cons_self, hright⟩

/-- Each part of one plan is found in the other, wherever it has gone. -/
theorem exists_part (h : Swaps plan other) {part : Plan} (hpart : part ∈ plan.subplans) :
    ∃ part' ∈ other.subplans, Swaps part part' := by
  induction plan using inputs_induction generalizing other with
  | step plan ih =>
    rcases mem_subplans_iff.1 hpart with rfl | ⟨input, hinput, hbelow⟩
    · exact ⟨other, mem_subplans_self other, h⟩
    · obtain ⟨input', hinput', hswaps⟩ := h.exists_input hinput
      obtain ⟨part', hpart', hsame⟩ := ih input hinput hswaps hbelow
      exact ⟨part', mem_subplans_iff.2 (.inr ⟨input', hinput', hpart'⟩), hsame⟩

theorem uses (h : Swaps plan other) {role : Role} {name : String} (huses : plan.Uses role name) :
    other.Uses role name := by
  obtain ⟨part, hpart, hname⟩ := huses
  obtain ⟨part', hpart', hswaps⟩ := h.exists_part hpart
  exact ⟨part', hpart', (hswaps.uses?_eq role).symm.trans hname⟩

theorem ne_unnamed (h : Swaps plan other) (hplan : ∀ part ∈ plan.subplans, part ≠ .scan none) :
    ∀ part ∈ other.subplans, part ≠ .scan none := by
  intro part hpart hscan
  obtain ⟨part', hpart', hswaps⟩ := h.symm.exists_part hpart
  exact hplan part' hpart' ((hswaps.eq_scan_iff none).1 hscan)

end Swaps

/-- The order of the inputs of binary operators does not count. -/
theorem roles_of_swaps (h : Swaps plan other) (hroles : plan.roles = .ok roles) :
    other.roles = .ok roles := by
  obtain ⟨roles', hroles'⟩ := exists_roles_iff.2 (h.ne_unnamed (ne_unnamed_of_roles hroles))
  -- Both sets of names are what the plans use, and that is the same for both.
  have hnames (role : Role) : roles'.names role = roles.names role := by
    apply NameSet.ext_contains
    intro name
    rw [contains_of_roles hroles', contains_of_roles hroles]
    exact ⟨h.symm.uses, h.uses⟩
  have hinputs : roles'.inputs = roles.inputs := hnames .input
  have houtputs : roles'.outputs = roles.outputs := hnames .output
  obtain ⟨inputs, outputs⟩ := roles
  obtain ⟨inputs', outputs'⟩ := roles'
  rw [hroles', show inputs' = inputs from hinputs, show outputs' = outputs from houtputs]

/-! ## The names that are found -/

/-- What a plan reads is what its scans and its unary operators name. -/
theorem uses_input_iff {name : String} :
    plan.Uses .input name ↔ ∃ table : TableName, table.dotted = name ∧
      (Plan.scan (some table) ∈ plan.subplans ∨
        ∃ op input, Plan.unary op (some table) input ∈ plan.subplans) := by
  constructor
  · rintro ⟨part, hpart, hname⟩
    cases part with
    | scan table =>
      obtain ⟨table, rfl, hdotted⟩ := Option.map_eq_some_iff.1 hname
      exact ⟨table, hdotted, .inl hpart⟩
    | unary op table input =>
      obtain ⟨table, rfl, hdotted⟩ := Option.map_eq_some_iff.1 hname
      exact ⟨table, hdotted, .inr ⟨op, input, hpart⟩⟩
    | write | binary => cases hname
  · rintro ⟨table, rfl, hpart | ⟨op, input, hpart⟩⟩
    · exact ⟨_, hpart, rfl⟩
    · exact ⟨_, hpart, rfl⟩

/-- What a plan writes is what its writes name. -/
theorem uses_output_iff {name : String} :
    plan.Uses .output name ↔ ∃ (table : TableName) (kind : WriteKind) (input : Plan),
      table.dotted = name ∧ Plan.write table kind input ∈ plan.subplans := by
  constructor
  · rintro ⟨part, hpart, hname⟩
    cases part with
    | write table kind input => exact ⟨table, kind, input, Option.some.inj hname, hpart⟩
    | scan | unary | binary => cases hname
  · rintro ⟨table, kind, input, rfl, hpart⟩
    exact ⟨_, hpart, rfl⟩

end Plan

/-- What is known of the classification of a plan:

- it fails exactly if the plan has a scan without a name;
- the error then tells the labels from the topmost operator to the first such scan;
- otherwise the names that are read are those on scans and on unary operators, and the names that are
  written are those on writes;
- a plan in which some binary operators have their inputs the other way round has the same roles, or has
  none either. -/
theorem roles_exact (plan : Plan) :
    ((∃ error, plan.roles = .error error) ↔ Plan.scan none ∈ plan.subplans) ∧
      (∀ error, plan.roles = .error error →
        ∃ before path after, plan.located = before ++ (path, .scan none) :: after ∧
          (∀ place ∈ before, place.2 ≠ .scan none) ∧ error = .unnamedScan path ∧
          error.message = "Plan classification error: scan at '" ++ Text.join " > " path ++
            "' has no table reference") ∧
      (∀ roles, plan.roles = .ok roles →
        (∀ name, roles.inputs.contains name = true ↔ ∃ table : TableName, table.dotted = name ∧
          (Plan.scan (some table) ∈ plan.subplans ∨
            ∃ op input, Plan.unary op (some table) input ∈ plan.subplans)) ∧
        ∀ name, roles.outputs.contains name = true ↔
          ∃ (table : TableName) (kind : WriteKind) (input : Plan), table.dotted = name ∧
            Plan.write table kind input ∈ plan.subplans) ∧
      ∀ other, plan.Swaps other → ∀ roles, plan.roles = .ok roles ↔ other.roles = .ok roles := by
  refine ⟨?_, fun error herror => ?_, fun roles hroles => ⟨fun name => ?_, fun name => ?_⟩, ?_⟩
  · have hfails : (∃ error, plan.roles = .error error) ↔ ¬∃ roles, plan.roles = .ok roles := by
      cases plan.roles <;> simp
    rw [hfails, Plan.exists_roles_iff]
    simp
  · obtain ⟨path, hfirst, rfl⟩ := Plan.roles_eq_error_iff.1 herror
    obtain ⟨⟨way, part⟩, hfind, rfl⟩ := Option.map_eq_some_iff.1 hfirst
    obtain ⟨hpart, before, after, hsplit, hbefore⟩ := List.find?_eq_some_iff_append.1 hfind
    obtain rfl : part = .scan none := by simpa using hpart
    refine ⟨before, way, after, hsplit, ?_, rfl, rfl⟩
    intro place hplace
    simpa using hbefore place hplace
  · rw [← Plan.uses_input_iff]
    exact Plan.contains_of_roles hroles .input name
  · rw [← Plan.uses_output_iff]
    exact Plan.contains_of_roles hroles .output name
  · intro other hswaps roles
    exact ⟨Plan.roles_of_swaps hswaps, Plan.roles_of_swaps hswaps.symm⟩

/-- The pages that a dashboard shows: clicks with the users who made them, and views of pages that a table
knows. The views may be left unnamed. -/
def dashboard (views : Option TableName) : Plan :=
  .write ⟨["board", "live"], by decide, by decide⟩ .insert
    (.binary .union
      (.binary (.join .inner "user" "id") (.scan (some ⟨["feed", "clicks"], by decide, by decide⟩))
        (.scan (some ⟨["feed", "accounts"], by decide, by decide⟩)))
      (.unary (.filter "page.known") (some ⟨["dims", "pages"], by decide, by decide⟩) (.scan views)))

/-- The same with both binary operators the other way round. -/
def dashboardSwapped (views : Option TableName) : Plan :=
  .write ⟨["board", "live"], by decide, by decide⟩ .insert
    (.binary .union
      (.unary (.filter "page.known") (some ⟨["dims", "pages"], by decide, by decide⟩) (.scan views))
      (.binary (.join .inner "user" "id") (.scan (some ⟨["feed", "accounts"], by decide, by decide⟩))
        (.scan (some ⟨["feed", "clicks"], by decide, by decide⟩))))

theorem dashboard_swaps (views : Option TableName) :
    (dashboard views).Swaps (dashboardSwapped views) :=
  .write _ _ (.swapped _ (.swapped _ (.scan _) (.scan _)) (.unary _ _ (.scan _)))

/-- Named views are classified in either order. Unnamed ones are reported by the way to them, which has
nothing of the join that was walked before. -/
theorem roles_exact_dashboard :
    (∃ roles views, (dashboard views).roles = .ok roles ∧ (dashboardSwapped views).roles = .ok roles ∧
      roles.inputs.contains "dims.pages" = true ∧ roles.outputs.contains "board.live" = true) ∧
    (dashboard none).roles = .error (.unnamedScan ["modify", "union", "filter", "scan"]) ∧
    (Error.unnamedScan ["modify", "union", "filter", "scan"]).message =
      "Plan classification error: scan at 'modify > union > filter > scan' has no table reference" ∧
    ∃ error, (dashboardSwapped none).roles = .error error := by
  have hunnamed : (dashboard none).roles =
      .error (.unnamedScan ["modify", "union", "filter", "scan"]) := rfl
  refine ⟨?_, hunnamed, ?_, ?_⟩
  · let views : TableName := ⟨["feed", "views"], by decide, by decide⟩
    have hroles : (dashboard (some views)).roles = .ok _ := rfl
    obtain ⟨-, -, hnames, hswaps⟩ := roles_exact (dashboard (some views))
    obtain ⟨hread, hwritten⟩ := hnames _ hroles
    have hlookup : Plan.unary (.filter "page.known") (some ⟨["dims", "pages"], by decide, by decide⟩)
        (.scan (some views)) ∈ (dashboard (some views)).subplans := by
      simp [dashboard, Plan.subplans]
    refine ⟨_, some views, hroles, (hswaps _ (dashboard_swaps _) _).1 hroles, ?_, ?_⟩
    · exact (hread "dims.pages").2 ⟨_, rfl, .inr ⟨_, _, hlookup⟩⟩
    · exact (hwritten "board.live").2 ⟨_, _, _, rfl, Plan.mem_subplans_self _⟩
  · obtain ⟨-, path, -, -, -, hpath, hmessage⟩ := (roles_exact (dashboard none)).2.1 _ hunnamed
    obtain rfl := Error.unnamedScan.inj hpath
    rw [hmessage]
    decide +kernel
  · have hpart : Plan.scan none ∈ (dashboardSwapped none).subplans := by decide +kernel
    exact (roles_exact (dashboardSwapped none)).1.2 hpart

end StreamPlan
