import StreamPlan.Plan.Roles
import StreamPlan.Proofs.Data.Except
import StreamPlan.Proofs.Data.SortedMap

/-!
# Roles and names

The roles of a plan hold the name of every table that the plan refers to, and no others: what is
scanned or looked up is read, what a write puts records into is written (`contains_of_roles`). A plan
that has roles has no scan without a name (`ne_unnamed_of_roles`).
-/

namespace StreamPlan

theorem NameSet.contains_add {set : NameSet} {name k : String} :
    (set.add name).contains k = true ↔ set.contains k = true ∨ name = k := by
  rw [SortedMap.contains, SortedMap.contains, add, SortedMap.get?_insert]
  split
  · rename_i heq
    simp [heq]
  · rename_i hne
    simp [Ne.symm hne]

namespace StreamRoles

/-- The names in a role. -/
def names (roles : StreamRoles) : Role → NameSet
  | .input => roles.inputs
  | .output => roles.outputs

theorem contains_names_read {roles : StreamRoles} {table : TableName} {role : Role} {k : String} :
    ((roles.read table).names role).contains k = true ↔
      (roles.names role).contains k = true ∨ role = .input ∧ table.dotted = k := by
  cases role with
  | input => simp [names, read, NameSet.contains_add]
  | output => simp [names, read]

theorem contains_names_written {roles : StreamRoles} {table : TableName} {role : Role}
    {k : String} :
    ((roles.written table).names role).contains k = true ↔
      (roles.names role).contains k = true ∨ role = .output ∧ table.dotted = k := by
  cases role with
  | input => simp [names, written]
  | output => simp [names, written, NameSet.contains_add]

end StreamRoles

namespace Plan

/-- The name that the topmost operator itself uses in a role. -/
def uses? : Plan → Role → Option String
  | .scan table, .input => table.map TableName.dotted
  | .unary _ table _, .input => table.map TableName.dotted
  | .write table _ _, .output => some table.dotted
  | _, _ => none

/-- Some part of the plan uses a name in a role. -/
def Uses (plan : Plan) (role : Role) (name : String) : Prop :=
  ∃ part ∈ plan.subplans, part.uses? role = some name

variable {plan : Plan} {path : List String} {roles roles' : StreamRoles}

theorem mem_subplans_self (plan : Plan) : plan ∈ plan.subplans := by
  cases plan <;> simp [subplans]

theorem subplans_subset_left (op : BinaryOp) (left right : Plan) :
    left.subplans ⊆ (Plan.binary op left right).subplans := fun _ h =>
  List.mem_cons_of_mem _ (List.mem_append_left _ h)

theorem subplans_subset_right (op : BinaryOp) (left right : Plan) :
    right.subplans ⊆ (Plan.binary op left right).subplans := fun _ h =>
  List.mem_cons_of_mem _ (List.mem_append_right _ h)

theorem uses?_scan_eq_some_iff {table : TableName} {role : Role} {name : String} :
    (Plan.scan (some table)).uses? role = some name ↔ role = .input ∧ table.dotted = name := by
  cases role <;> simp [uses?]

theorem uses?_write_eq_some_iff {table : TableName} {kind : WriteKind} {role : Role}
    {name : String} :
    (Plan.write table kind plan).uses? role = some name ↔
      role = .output ∧ table.dotted = name := by
  cases role <;> simp [uses?]

theorem uses?_unary_eq_some_iff {op : UnaryOp} {table : TableName} {role : Role}
    {name : String} :
    (Plan.unary op (some table) plan).uses? role = some name ↔
      role = .input ∧ table.dotted = name := by
  cases role <;> simp [uses?]

/-- Names are never dropped from the roles, and those that the plan uses are added. -/
theorem contains_of_rolesFrom (h : plan.rolesFrom path roles = .ok roles') (role : Role)
    (name : String) :
    (roles'.names role).contains name = true ↔
      (roles.names role).contains name = true ∨ plan.Uses role name := by
  unfold Uses
  -- The walk hands the roles from part to part, so the statement is about any roles to start from.
  induction plan generalizing path roles roles' with
  | scan table =>
    cases table with
    | none => cases h
    | some table =>
      obtain rfl := Except.ok.inj h
      simp only [subplans, List.mem_singleton, exists_eq_left]
      rw [StreamRoles.contains_names_read, uses?_scan_eq_some_iff]
  | write table kind plan ih =>
    simp only [subplans, List.mem_cons, exists_eq_or_imp]
    rw [ih h, StreamRoles.contains_names_written, uses?_write_eq_some_iff, or_assoc]
  | binary op left right ihLeft ihRight =>
    rw [rolesFrom] at h
    obtain ⟨between, hleft, hright⟩ := bind_eq_ok_iff.1 h
    rw [ihRight hright, ihLeft hleft, or_assoc]
    simp [subplans, uses?, or_and_right, exists_or]
  | unary op table plan ih =>
    simp only [subplans, List.mem_cons, exists_eq_or_imp]
    cases table with
    | none =>
      rw [ih h]
      cases role <;> simp [uses?]
    | some table =>
      rw [ih h, StreamRoles.contains_names_read, uses?_unary_eq_some_iff, or_assoc]

theorem ne_unnamed_of_rolesFrom (h : plan.rolesFrom path roles = .ok roles') :
    ∀ part ∈ plan.subplans, part ≠ .scan none := by
  induction plan generalizing path roles roles' with
  | scan table =>
    cases table with
    | none => cases h
    | some table => simp [subplans]
  | write table kind plan ih => simpa [subplans] using ih h
  | binary op left right ihLeft ihRight =>
    rw [rolesFrom] at h
    -- Both inputs were walked to their ends, the right one with what the left one had added.
    obtain ⟨between, hleft, hright⟩ := bind_eq_ok_iff.1 h
    intro part hpart
    rw [subplans, List.mem_cons, List.mem_append] at hpart
    rcases hpart with rfl | hpart | hpart
    · exact fun heq => nomatch heq
    · exact ihLeft hleft part hpart
    · exact ihRight hright part hpart
  | unary op table plan ih =>
    cases table with
    | none => simpa [subplans] using ih h
    | some table => simpa [subplans] using ih h

/-- The roles of a plan are exactly the names that it uses. -/
theorem contains_of_roles (h : plan.roles = .ok roles) (role : Role) (name : String) :
    (roles.names role).contains name = true ↔ plan.Uses role name := by
  rw [contains_of_rolesFrom h role name]
  cases role <;> simp [StreamRoles.names, StreamRoles.empty, SortedMap.contains]

/-- A plan that has roles names everything that it scans. -/
theorem ne_unnamed_of_roles (h : plan.roles = .ok roles) :
    ∀ part ∈ plan.subplans, part ≠ .scan none :=
  ne_unnamed_of_rolesFrom h

end Plan

end StreamPlan
