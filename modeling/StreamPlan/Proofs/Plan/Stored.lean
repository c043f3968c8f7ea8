import StreamPlan.Plan.Stored
import StreamPlan.Proofs.Data.Except
import StreamPlan.Proofs.TableName

/-!
# Stored plans read back

A plan is stored as a tree of JSON objects. Two things in it are stored in another form than they have:
table names, which become texts and are parsed again, and window sizes, which are numbers of 64 bits. They
decide whether a plan can be read back as it was (`Plan.Storable`).

- `TableName.parse_dotted`: names in normal form come back from their dotted texts, and these are the
  names that parsing gives at all (`TableName.normal_of_parse`).
- `Plan.ofJson_toJson`: a storable plan is read back as it was stored.
- `Plan.storable_of_ofJson`: whatever is read from JSON is storable.
-/

namespace StreamPlan

/-! ## Single values -/

namespace Json.Decode

theorem strings_ofStrings (items : List String) : strings (.ofStrings items) = .ok items := by
  rw [ofStrings, strings, list]
  induction items with
  | nil => rfl
  | cons item items ih =>
    rw [List.map_cons, List.mapM_cons, ih]
    rfl

theorem nat64_ofNat {n : Nat} (h : n < Nat.pow 2 64) : nat64 (.ofNat n) = .ok n := by
  have hbound : (0 ≤ (n : Int) && (n : Int) < (Nat.pow 2 64 : Nat)) = true := by
    rw [Bool.and_eq_true, decide_eq_true_iff, decide_eq_true_iff]
    exact ⟨Int.natCast_nonneg n, Int.ofNat_lt.2 h⟩
  rw [nat64, ofNat, natBelow, if_pos hbound, Int.toNat_natCast]

theorem lt_of_nat64 {value : Json} {n : Nat} (h : nat64 value = .ok n) : n < Nat.pow 2 64 := by
  rw [nat64] at h
  unfold natBelow at h
  split at h
  · split at h
    · rename_i hbound
      obtain rfl := Except.ok.inj h
      obtain ⟨hzero, hless⟩ := Bool.and_eq_true_iff.1 hbound
      exact (Int.toNat_lt (of_decide_eq_true hzero)).2 (of_decide_eq_true hless)
    · cases h
  · cases h

theorem required_eq_ok_iff {α : Type} {name : String} {value? : Option α} {value : α} :
    required name value? = .ok value ↔ value? = some value := by
  cases value? <;> simp [required]

theorem tableName_dotted {name : TableName} (h : name.Normal) :
    tableName (.string name.dotted) = .ok name := by
  rw [tableName, string, ok_bind, TableName.parse_dotted h]

theorem normal_of_tableName {value : Json} {name : TableName} (h : tableName value = .ok name) :
    name.Normal := by
  obtain ⟨text, -, h⟩ := bind_eq_ok_iff.1 h
  split at h
  · rename_i parsed hparse
    obtain rfl := Except.ok.inj h
    exact TableName.normal_of_parse hparse
  · cases h

theorem optional_tableName {table : Option TableName} (h : ∀ name ∈ table, name.Normal) :
    optional tableName (TableName.optionToJson table) = .ok table := by
  cases table with
  | none => rfl
  | some name =>
    change (tableName (.string name.dotted)).map some = _
    rw [tableName_dotted (h name rfl)]
    rfl

theorem normal_of_optional_tableName {value : Json} {table : Option TableName}
    (h : optional tableName value = .ok table) : ∀ name ∈ table, name.Normal := by
  unfold optional at h
  split at h
  · obtain rfl := Except.ok.inj h
    simp
  · obtain ⟨name, hname, rfl⟩ := map_eq_ok_iff.1 h
    rintro _ ⟨⟩
    exact normal_of_tableName hname

end Json.Decode

/-! ## Operators -/

/-- The size of a window. -/
def UnaryOp.windowSize? : UnaryOp → Option Nat
  | .window _ sizeMs => some sizeMs
  | _ => none

theorem WriteKind.ofJson_name (kind : WriteKind) : ofJson (.string kind.name) = .ok kind := by
  cases kind <;> rfl

theorem BinaryOp.ofJson_toJson (op : BinaryOp) : ofJson op.toJson = .ok op := by
  cases op with
  | join joinType leftKey rightKey => cases joinType <;> rfl
  | union => rfl

theorem UnaryOp.ofJson_toJson {op : UnaryOp} (h : ∀ size ∈ op.windowSize?, size < Nat.pow 2 64) :
    ofJson op.toJson = .ok op := by
  cases op with
  | project columns =>
    have hread : OperatorFields.read ["columns"] {} [("columns", .ofStrings columns)] =
        .ok { columns := some columns } := by
      simp [OperatorFields.read, OperatorFields.set, Json.Decode.strings_ofStrings, ok_bind]
    simp only [toJson, ofJson, Json.Decode.variant, ok_bind, Json.Decode.content, hread]
    rfl
  | filter condition => rfl
  | aggregate groupBy aggregates =>
    have hread : OperatorFields.read ["group_by", "aggregates"] {}
        [("aggregates", .ofStrings aggregates), ("group_by", .ofStrings groupBy)] =
        .ok { groupBy := some groupBy, aggregates := some aggregates } := by
      simp [OperatorFields.read, OperatorFields.set, Json.Decode.strings_ofStrings, ok_bind]
    simp only [toJson, ofJson, Json.Decode.variant, ok_bind, Json.Decode.content, hread]
    rfl
  | window partitionBy sizeMs =>
    have hread : OperatorFields.read ["partition_by", "size_ms"] {}
        [("partition_by", .ofStrings partitionBy), ("size_ms", .ofNat sizeMs)] =
        .ok { partitionBy := some partitionBy, sizeMs := some sizeMs } := by
      simp [OperatorFields.read, OperatorFields.set, Json.Decode.strings_ofStrings,
        Json.Decode.nat64_ofNat (h sizeMs rfl), ok_bind]
    simp only [toJson, ofJson, Json.Decode.variant, ok_bind, Json.Decode.content, hread]
    rfl

/-- No field but that for the size of a window sets it. -/
theorem OperatorFields.sizeMs_of_set {fields result : OperatorFields} {name : String} {value : Json}
    (h : fields.set name value = .ok result) :
    result.sizeMs = fields.sizeMs ∨
      ∃ size, Json.Decode.nat64 value = .ok size ∧ result.sizeMs = some size := by
  by_cases hname : name = "size_ms"
  · subst hname
    obtain ⟨size, hsize, h⟩ := bind_eq_ok_iff.1 h
    obtain rfl := Except.ok.inj h
    exact .inr ⟨size, hsize, rfl⟩
  · left
    unfold set at h
    -- Of the other fields it is enough that they are read into places of their own.
    split at h <;> simp only [bind_eq_ok_iff, Except.ok.injEq] at h
    all_goals first
      | exact absurd rfl hname
      | rw [h]
      | (obtain ⟨_, -, rfl⟩ := h; rfl)

/-- What has been read for the size of a window has 64 bits. -/
theorem OperatorFields.lt_of_read {names : List String} {fields result : OperatorFields}
    {given : List (String × Json)} (h : read names fields given = .ok result)
    (hfields : ∀ size ∈ fields.sizeMs, size < Nat.pow 2 64) :
    ∀ size ∈ result.sizeMs, size < Nat.pow 2 64 := by
  induction given generalizing fields with
  | nil =>
    obtain rfl := Except.ok.inj h
    exact hfields
  | cons field given ih =>
    obtain ⟨name, value⟩ := field
    rw [read] at h
    split at h
    · exact ih h hfields
    · obtain ⟨next, hset, h⟩ := bind_eq_ok_iff.1 h
      refine ih h ?_
      rcases sizeMs_of_set hset with hsame | ⟨size, hsize, hnew⟩
      · rw [hsame]
        exact hfields
      · rw [hnew]
        rintro _ ⟨⟩
        exact Json.Decode.lt_of_nat64 hsize

theorem UnaryOp.lt_of_ofJson {op : UnaryOp} {value : Json} (h : ofJson value = .ok op) :
    ∀ size ∈ op.windowSize?, size < Nat.pow 2 64 := by
  obtain ⟨⟨name, given⟩, -, h⟩ := bind_eq_ok_iff.1 h
  dsimp only at h
  split at h <;> simp only [bind_eq_ok_iff, Except.ok.injEq, reduceCtorEq] at h
  -- Projections, filters and aggregations have no size.
  · obtain ⟨content, -, fields, -, columns, -, rfl⟩ := h
    rintro _ ⟨⟩
  · obtain ⟨content, -, fields, -, condition, -, rfl⟩ := h
    rintro _ ⟨⟩
  · obtain ⟨content, -, fields, -, groupBy, -, aggregates, -, rfl⟩ := h
    rintro _ ⟨⟩
  -- The size of a window was read as a number of 64 bits.
  · obtain ⟨content, -, fields, hread, partitionBy, -, size, hsize, rfl⟩ := h
    rintro _ ⟨⟩
    refine OperatorFields.lt_of_read hread ?_ size (Json.Decode.required_eq_ok_iff.1 hsize)
    rintro _ ⟨⟩

/-! ## Plans -/

namespace Plan

/-- The tables that a plan refers to. -/
def tables (plan : Plan) : List TableName := plan.subplans.filterMap table?

/-- The size of the window that the topmost operator is. -/
def windowSize? : Plan → Option Nat
  | .unary op _ _ => op.windowSize?
  | _ => none

/-- The sizes of the windows of a plan. -/
def windowSizes (plan : Plan) : List Nat := plan.subplans.filterMap windowSize?

/-- The names of the tables are in normal form and the sizes of the windows have 64 bits. -/
def Storable (plan : Plan) : Prop :=
  (∀ table ∈ plan.tables, table.Normal) ∧ ∀ size ∈ plan.windowSizes, size < Nat.pow 2 64

section Storable

variable {op : UnaryOp} {table : Option TableName} {input left right : Plan}

theorem tables_binary {op : BinaryOp} : (binary op left right).tables = left.tables ++ right.tables := by
  simp [tables, subplans, table?, List.filterMap_cons]

theorem windowSizes_binary {op : BinaryOp} :
    (binary op left right).windowSizes = left.windowSizes ++ right.windowSizes := by
  simp [windowSizes, subplans, windowSize?, List.filterMap_cons]

theorem tables_unary : (unary op table input).tables = table.toList ++ input.tables := by
  cases table <;> simp [tables, subplans, table?, List.filterMap_cons]

theorem windowSizes_unary :
    (unary op table input).windowSizes = op.windowSize?.toList ++ input.windowSizes := by
  cases hsize : op.windowSize? <;> simp [windowSizes, subplans, windowSize?, hsize]

theorem storable_scan : (scan table).Storable ↔ ∀ name ∈ table, name.Normal := by
  cases table <;> simp [Storable, tables, windowSizes, windowSize?, subplans, table?]

theorem storable_write {table : TableName} {kind : WriteKind} :
    (write table kind input).Storable ↔ table.Normal ∧ input.Storable := by
  simp [Storable, tables, windowSizes, windowSize?, subplans, table?, and_assoc]

theorem storable_binary {op : BinaryOp} :
    (binary op left right).Storable ↔ left.Storable ∧ right.Storable := by
  rw [Storable, tables_binary, windowSizes_binary, List.forall_mem_append, List.forall_mem_append]
  exact and_and_and_comm

theorem storable_unary :
    (unary op table input).Storable ↔
      (∀ size ∈ op.windowSize?, size < Nat.pow 2 64) ∧ (∀ name ∈ table, name.Normal) ∧
        input.Storable := by
  rw [Storable, tables_unary, windowSizes_unary, List.forall_mem_append, List.forall_mem_append,
    and_and_and_comm, and_assoc, and_left_comm]
  simp only [Option.mem_toList]
  rfl

end Storable

/-- A storable plan is read back as it was stored. -/
theorem ofJson_toJson {plan : Plan} (h : plan.Storable) : ofJson plan.toJson = .ok plan := by
  induction plan with
  | scan table =>
    -- For each node: its fields are read as they were written, and then put together.
    have hread : readNodeFields .scan {} [("table", TableName.optionToJson table)] =
        .ok { table := some table } := by
      simp [readNodeFields, NodeFields.readLeaf,
        Json.Decode.optional_tableName (storable_scan.1 h), ok_bind]
    simp only [toJson, ofJson, NodeKind.ofName?, hread]
    rfl
  | write table kind input ih =>
    obtain ⟨htable, hinput⟩ := storable_write.1 h
    have hread : readNodeFields .write {} [("input", input.toJson), ("op", .string kind.name),
        ("table", .string table.dotted)] =
        .ok { table := some (some table), writeKind := some kind, input := some input } := by
      simp [readNodeFields, NodeFields.readLeaf, ih hinput, WriteKind.ofJson_name,
        Json.Decode.tableName_dotted htable, ok_bind]
    simp only [toJson, ofJson, NodeKind.ofName?, hread]
    rfl
  | binary op left right ihleft ihright =>
    obtain ⟨hleft, hright⟩ := storable_binary.1 h
    have hread : readNodeFields .binary {} [("left", left.toJson), ("op", op.toJson),
        ("right", right.toJson)] =
        .ok { binaryOp := some op, left := some left, right := some right } := by
      simp [readNodeFields, NodeFields.readLeaf, ihleft hleft, ihright hright, BinaryOp.ofJson_toJson,
        ok_bind]
    simp only [toJson, ofJson, NodeKind.ofName?, hread]
    rfl
  | unary op table input ih =>
    obtain ⟨hop, htable, hinput⟩ := storable_unary.1 h
    have hread : readNodeFields .unary {} [("input", input.toJson), ("op", op.toJson),
        ("table", TableName.optionToJson table)] =
        .ok { table := some table, unaryOp := some op, input := some input } := by
      simp [readNodeFields, NodeFields.readLeaf, ih hinput, UnaryOp.ofJson_toJson hop,
        Json.Decode.optional_tableName htable, ok_bind]
    simp only [toJson, ofJson, NodeKind.ofName?, hread]
    rfl

end Plan

/-- What has been read for a node is storable as far as it goes. -/
structure NodeFields.Storable (fields : NodeFields) : Prop where
  /-- The name of the table is in normal form. -/
  table : ∀ name ∈ fields.table.join, name.Normal
  /-- The size of a window has 64 bits. -/
  unaryOp : ∀ op ∈ fields.unaryOp, ∀ size ∈ op.windowSize?, size < Nat.pow 2 64
  /-- The input of a node with one input is storable. -/
  input : ∀ plan ∈ fields.input, plan.Storable
  /-- The left input is storable. -/
  left : ∀ plan ∈ fields.left, plan.Storable
  /-- The right input is storable. -/
  right : ∀ plan ∈ fields.right, plan.Storable

namespace NodeFields

variable {kind : NodeKind} {fields result : NodeFields}

theorem storable_of_readLeaf {name : String} {value : Json}
    (h : fields.readLeaf kind name value = .ok result) (hfields : fields.Storable) :
    result.Storable := by
  unfold readLeaf at h
  split at h <;> simp only [bind_eq_ok_iff, Except.ok.injEq] at h
  -- The table of a scan and that of a lookup, which need not be there, and that of a write.
  · obtain ⟨table, htable, rfl⟩ := h
    exact { hfields with table := Json.Decode.normal_of_optional_tableName htable }
  · obtain ⟨table, htable, rfl⟩ := h
    exact { hfields with table := Json.Decode.normal_of_optional_tableName htable }
  · obtain ⟨table, htable, rfl⟩ := h
    refine { hfields with table := ?_ }
    rintro _ ⟨⟩
    exact Json.Decode.normal_of_tableName htable
  -- Of the operators only a unary one can have a window.
  · obtain ⟨writeKind, -, rfl⟩ := h
    exact { hfields with }
  · obtain ⟨binaryOp, -, rfl⟩ := h
    exact { hfields with }
  · obtain ⟨unaryOp, hop, rfl⟩ := h
    refine { hfields with unaryOp := ?_ }
    rintro _ ⟨⟩
    exact UnaryOp.lt_of_ofJson hop
  -- All other fields are passed over.
  · rw [← h]
    exact hfields

/-- Fields are storable if the plans among their values are. -/
theorem storable_of_readNodeFields {given : List (String × Json)}
    (hplans : ∀ field ∈ given, ∀ plan, Plan.ofJson field.2 = .ok plan → plan.Storable)
    (h : readNodeFields kind fields given = .ok result) (hfields : fields.Storable) :
    result.Storable := by
  induction given generalizing fields with
  | nil =>
    rw [readNodeFields] at h
    obtain rfl := Except.ok.inj h
    exact hfields
  | cons field given ih =>
    obtain ⟨name, value⟩ := field
    -- A plan among the fields is storable by assumption, and a leaf by its own reader.
    have hvalue := hplans (name, value) List.mem_cons_self
    have hlater : ∀ field ∈ given, ∀ plan, Plan.ofJson field.2 = .ok plan → plan.Storable :=
      fun field hmem => hplans field (List.mem_cons_of_mem _ hmem)
    rw [readNodeFields] at h
    split_ifs at h
    · split at h
      · rename_i plan hplan
        exact ih hlater h { hfields with input := by rintro _ ⟨⟩; exact hvalue plan hplan }
      · cases h
    · split at h
      · rename_i plan hplan
        exact ih hlater h { hfields with left := by rintro _ ⟨⟩; exact hvalue plan hplan }
      · cases h
    · split at h
      · rename_i plan hplan
        exact ih hlater h { hfields with right := by rintro _ ⟨⟩; exact hvalue plan hplan }
      · cases h
    · split at h
      · rename_i next hleaf
        exact ih hlater h (storable_of_readLeaf hleaf hfields)
      · cases h

theorem storable_of_plan {plan : Plan} (h : fields.plan kind = .ok plan) (hfields : fields.Storable) :
    plan.Storable := by
  -- A table that was not given counts as none.
  have htable : ∀ name ∈ fields.table.getD none, name.Normal := by
    intro name hname
    refine hfields.table name ?_
    cases htable : fields.table with
    | none => rw [htable] at hname; cases hname
    | some table? => rwa [htable] at hname
  cases kind with
  | scan =>
    obtain rfl := Except.ok.inj h
    exact Plan.storable_scan.2 htable
  | write =>
    obtain ⟨table, htable, h⟩ := bind_eq_ok_iff.1 h
    obtain ⟨writeKind, -, h⟩ := bind_eq_ok_iff.1 h
    obtain ⟨input, hinput, h⟩ := bind_eq_ok_iff.1 h
    obtain rfl := Except.ok.inj h
    rw [Json.Decode.required_eq_ok_iff] at htable hinput
    exact Plan.storable_write.2 ⟨hfields.table table htable, hfields.input input hinput⟩
  | binary =>
    obtain ⟨op, -, h⟩ := bind_eq_ok_iff.1 h
    obtain ⟨left, hleft, h⟩ := bind_eq_ok_iff.1 h
    obtain ⟨right, hright, h⟩ := bind_eq_ok_iff.1 h
    obtain rfl := Except.ok.inj h
    rw [Json.Decode.required_eq_ok_iff] at hleft hright
    exact Plan.storable_binary.2 ⟨hfields.left left hleft, hfields.right right hright⟩
  | unary =>
    obtain ⟨op, hop, h⟩ := bind_eq_ok_iff.1 h
    obtain ⟨input, hinput, h⟩ := bind_eq_ok_iff.1 h
    obtain rfl := Except.ok.inj h
    rw [Json.Decode.required_eq_ok_iff] at hop hinput
    exact Plan.storable_unary.2 ⟨hfields.unaryOp op hop, htable, hfields.input input hinput⟩

end NodeFields

namespace Plan

/-- Whatever is read from JSON is storable. -/
theorem storable_of_ofJson {json : Json} {plan : Plan} (h : ofJson json = .ok plan) : plan.Storable := by
  -- By the size of the value: the plans within it are among the values of its fields.
  induction hsize : sizeOf json using Nat.strong_induction_on generalizing json plan with
  | _ size ih =>
    unfold ofJson at h
    split at h
    · rename_i name content
      split at h
      · cases h
      · split at h
        · split at h
          · rename_i given _ fields hread
            refine NodeFields.storable_of_plan h (NodeFields.storable_of_readNodeFields ?_ hread ?_)
            · rintro ⟨name, value⟩ hmem plan hplan
              have hlt := List.sizeOf_lt_of_mem hmem
              refine ih (sizeOf value) ?_ hplan rfl
              simp at hlt hsize
              omega
            · constructor <;> simp
          · cases h
        · cases h
    -- Nothing else is a plan: objects with other than one field, names without content, other values.
    · cases h
    · split at h <;> cases h
    · cases h

/-- **Stored plans read back.** A plan comes back from its JSON form as it was exactly if its table
names can be written as texts and its window sizes have 64 bits. Only such plans are ever read, so the
names of a plan that was read are made of trimmed segments with text and without dots.

This is about JSON as a tree of values. A text of it is read in addition by a parser, which may refuse
values that are nested too deeply. -/
theorem ofJson_toJson_eq_ok_iff_and_normal :
    (∀ plan : Plan, ofJson plan.toJson = .ok plan ↔
      (∀ table ∈ plan.tables, ∃ text, TableName.parse text = .ok table) ∧
        ∀ size ∈ plan.windowSizes, size < Nat.pow 2 64) ∧
    ∀ json plan, ofJson json = .ok plan → ∀ table ∈ plan.tables, ∀ segment ∈ table.segments,
      segment ≠ "" ∧ Text.trim segment = segment ∧ '.' ∉ segment.toList := by
  refine ⟨fun plan => ⟨fun h => ?_, fun ⟨htables, hsizes⟩ => ?_⟩, fun json plan h => ?_⟩
  · obtain ⟨htables, hsizes⟩ := storable_of_ofJson h
    exact ⟨fun table hmem => ⟨table.dotted, TableName.parse_dotted (htables table hmem)⟩, hsizes⟩
  · refine ofJson_toJson ⟨fun table hmem => ?_, hsizes⟩
    obtain ⟨text, htext⟩ := htables table hmem
    exact TableName.normal_of_parse htext
  · exact (storable_of_ofJson h).1

/-- Refunds by shop in the longest window there is, joined with purchases that are looked up in a
table. -/
def refunds : Plan :=
  .write ⟨["shop", "refunds by week"], by decide, by decide +kernel⟩ .update
    (.binary (.join .left "id" "purchase.id")
      (.unary (.window ["shop"] 18446744073709551615) none (.scan none))
      (.unary (.filter "") (some ⟨["purchases"], by decide, by decide +kernel⟩) (.scan none)))

theorem ofJson_toJson_refunds :
    ofJson refunds.toJson = .ok refunds ∧ refunds.windowSizes = [18446744073709551615] ∧
      ∀ table ∈ refunds.tables, ∀ segment ∈ table.segments,
        segment ≠ "" ∧ Text.trim segment = segment ∧ '.' ∉ segment.toList := by
  have htables : ∀ table ∈ refunds.tables, ∃ text, TableName.parse text = .ok table := by
    intro table hmem
    simp only [refunds, tables, subplans, List.filterMap_cons, List.cons_append, List.nil_append, table?,
      List.filterMap_nil, List.mem_cons, List.not_mem_nil, or_false] at hmem
    obtain rfl | rfl := hmem
    · exact ⟨" shop. refunds by week", TableName.parse_eq_ok_iff.2 (by decide +kernel)⟩
    · exact ⟨"purchases", TableName.parse_eq_ok_iff.2 (by decide +kernel)⟩
  have hread := (ofJson_toJson_eq_ok_iff_and_normal.1 refunds).2 ⟨htables, by decide⟩
  exact ⟨hread, rfl, ofJson_toJson_eq_ok_iff_and_normal.2 _ _ hread⟩

end Plan

end StreamPlan
