import StreamPlan.Proofs.Operator.Lowerable

/-!
# The sides of a join with a table

A join that has a table on one side is driven by the stream on the other. Where the join is inner it does
not matter on which side the table stands, as long as each key goes with its side: the same operators are
added under the same ids, and what cannot be lowered fails with the same error. `Plan.SideSwaps` relates
plans in which any number of such joins, at any depth, have their sides the other way round, and
`lower_of_sideSwaps` says that they are lowered to the same.

The choice between the ways of lowering a join looks at nothing of its sides but whether they are scans of
tables. That is what makes the swaps independent of each other: a side does not stop or start being such
a scan when joins below it are swapped (`SideSwaps.scannedTable?_eq`).
-/

namespace StreamPlan

namespace Plan

/-- Two plans that are the same but for the sides of some inner joins of a stream with a table. The sides
change places together with their keys. -/
inductive SideSwaps (resolution : Resolution) : Plan → Plan → Prop
  /-- A scan joins nothing. -/
  | scan (table : Option TableName) : SideSwaps resolution (.scan table) (.scan table)
  /-- The joins in question are below a write. -/
  | write {input input' : Plan} (table : TableName) (kind : WriteKind)
      (h : SideSwaps resolution input input') :
      SideSwaps resolution (.write table kind input) (.write table kind input')
  /-- The joins in question are below a unary operator. -/
  | unary {input input' : Plan} (op : UnaryOp) (table : Option TableName)
      (h : SideSwaps resolution input input') :
      SideSwaps resolution (.unary op table input) (.unary op table input')
  /-- A union, or a join that keeps its sides. -/
  | kept {left left' right right' : Plan} (op : BinaryOp) (hleft : SideSwaps resolution left left')
      (hright : SideSwaps resolution right right') :
      SideSwaps resolution (.binary op left right) (.binary op left' right')
  /-- An inner join with a table on exactly one side. -/
  | swapped {left left' right right' : Plan} (leftKey rightKey : String)
      (hone : resolution.ScansTable left ↔ ¬resolution.ScansTable right)
      (hleft : SideSwaps resolution left left') (hright : SideSwaps resolution right right') :
      SideSwaps resolution (.binary (.join .inner leftKey rightKey) left right)
        (.binary (.join .inner rightKey leftKey) right' left')

variable {resolution : Resolution} {plan other left left' right right' : Plan}

theorem SideSwaps.scannedTable?_eq (h : SideSwaps resolution plan other) :
    resolution.scannedTable? plan = resolution.scannedTable? other := by
  cases h <;> rfl

/-- A binary operator is lowered by its kind, by which of its sides are scans of tables, and by what the
sides are lowered to. -/
theorem lowerInto_binary_congr (op : BinaryOp)
    (hleftTable : resolution.scannedTable? left = resolution.scannedTable? left')
    (hrightTable : resolution.scannedTable? right = resolution.scannedTable? right')
    (hleft : ∀ lowering, left.lowerInto resolution lowering = left'.lowerInto resolution lowering)
    (hright : ∀ lowering, right.lowerInto resolution lowering = right'.lowerInto resolution lowering)
    (lowering : Lowering) :
    (Plan.binary op left right).lowerInto resolution lowering =
      (Plan.binary op left' right').lowerInto resolution lowering := by
  -- A union does not ask whether its sides are tables.
  cases op with
  | union => simp only [lowerInto, hleft, hright]
  | join joinType leftKey rightKey =>
    simp only [lowerInto, hleftTable, hrightTable, hleft, hright]

/-- One join with the table on the right is lowered like the same join with the table on the left. -/
theorem lowerInto_join_swap {leftKey rightKey table : String}
    (hleft : resolution.scannedTable? left = none)
    (hright : resolution.scannedTable? right = some table) (lowering : Lowering) :
    (Plan.binary (.join .inner leftKey rightKey) left right).lowerInto resolution lowering =
      (Plan.binary (.join .inner rightKey leftKey) right left).lowerInto resolution lowering := by
  rw [lowerInto, lowerInto, hleft, hright]
  -- The table is not lowered on either side, and the message has the key of the stream on both.
  rfl

/-- If exactly one side is a table, one of the two is found to be one and the other is not. -/
theorem scannedTable?_of_one (hone : resolution.ScansTable left ↔ ¬resolution.ScansTable right) :
    (∃ table, resolution.scannedTable? left = none ∧ resolution.scannedTable? right = some table) ∨
      ∃ table, resolution.scannedTable? right = none ∧
        resolution.scannedTable? left = some table := by
  rw [← Resolution.scannedTable?_isSome_iff, ← Resolution.scannedTable?_isSome_iff] at hone
  by_cases hleft : (resolution.scannedTable? left).isSome = true
  · obtain ⟨table, htable⟩ := Option.isSome_iff_exists.1 hleft
    exact .inr ⟨table, by simpa using hone.1 hleft, htable⟩
  · have hright : (resolution.scannedTable? right).isSome = true :=
      Decidable.not_not.1 fun h => hleft (hone.2 h)
    obtain ⟨table, htable⟩ := Option.isSome_iff_exists.1 hright
    exact .inl ⟨table, by simpa using hleft, htable⟩

/-- Swapping sides changes neither what is added, counted and remembered nor why nothing can be. -/
theorem lowerInto_of_sideSwaps (h : SideSwaps resolution plan other) (lowering : Lowering) :
    plan.lowerInto resolution lowering = other.lowerInto resolution lowering := by
  induction h generalizing lowering with
  | scan table => rfl
  | write table kind _ ih => simp only [lowerInto, ih]
  | unary op table _ ih => simp only [lowerInto, ih]
  | kept op hleft hright ihLeft ihRight =>
    exact lowerInto_binary_congr op hleft.scannedTable?_eq hright.scannedTable?_eq ihLeft ihRight
      lowering
  | @swapped left left' right right' leftKey rightKey hone hleft hright ihLeft ihRight =>
    -- First the joins below the sides are swapped, then the sides themselves.
    trans (Plan.binary (.join .inner rightKey leftKey) right left).lowerInto resolution lowering
    · rcases scannedTable?_of_one hone with ⟨table, hstream, htable⟩ | ⟨table, hstream, htable⟩
      · exact lowerInto_join_swap hstream htable lowering
      · exact (lowerInto_join_swap hstream htable lowering).symm
    · exact lowerInto_binary_congr _ hright.scannedTable?_eq hleft.scannedTable?_eq ihRight ihLeft
        lowering

end Plan

/-- Plans that differ in the sides of inner joins of a stream with a table are lowered to the same
graph, or fail with the same error. -/
theorem lower_of_sideSwaps {resolution : Resolution} {plan other : Plan}
    (h : plan.SideSwaps resolution other) : plan.lower resolution = other.lower resolution := by
  rw [Plan.lower, Plan.lower, Plan.lowerInto_of_sideSwaps h]

/-- The orders of a till. -/
def tillOrders : TableName := ⟨["till", "orders"], by decide, by decide⟩

/-- The customers who made them. -/
def tillCustomers : TableName := ⟨["till", "customers"], by decide, by decide⟩

/-- The products that they ordered. -/
def tillProducts : TableName := ⟨["till", "products"], by decide, by decide⟩

/-- Open orders with their customers and products. What is written goes to the given stream. -/
def invoices (target : TableName) : Plan :=
  .write target .insert
    (.binary (.join .inner "product" "sku")
      (.unary (.filter "open") none
        (.binary (.join .inner "customer" "id") (.scan (some tillOrders)) (.scan (some tillCustomers))))
      (.scan (some tillProducts)))

/-- The same with both tables on the left of their joins. -/
def invoicesByTable (target : TableName) : Plan :=
  .write target .insert
    (.binary (.join .inner "sku" "product")
      (.scan (some tillProducts))
      (.unary (.filter "open") none
        (.binary (.join .inner "id" "customer") (.scan (some tillCustomers)) (.scan (some tillOrders)))))

/-- Where the streams and tables of the orders are. Only one stream can be written. -/
def invoiceStreams : Resolution where
  inputs := .ofList [("till.orders", ⟨"till.orders", "kafka", "orders", false, .empty⟩),
    ("till.customers", ⟨"till.customers", "rocks", "customers", true, .empty⟩),
    ("till.products", ⟨"till.products", "rocks", "products", true, .empty⟩)]
  outputs := .ofList [("till.invoices", ⟨"till.invoices", "kafka", "invoices", false, .empty⟩)]

theorem invoices_sideSwaps (target : TableName) :
    (invoices target).SideSwaps invoiceStreams (invoicesByTable target) := by
  refine .write _ _ (.swapped _ _ ?_ (.unary _ _ (.swapped _ _ ?_ (.scan _) (.scan _))) (.scan _))
  · decide +kernel
  · decide +kernel

/-- Two joins are swapped, one of them within a side of the other. The plans have the same graph if what
they write is resolved, with the keys of the messages first in both joins, and the same error if it is
not. -/
theorem lower_of_sideSwaps_invoices :
    (∃ target graph, (invoices target).lower invoiceStreams = .ok graph ∧
      (invoicesByTable target).lower invoiceStreams = .ok graph ∧
      graph.operators[1]? = some ⟨"join_1", .tableJoin
        ⟨"till.customers", .fields ⟨"customer", "id", .inner⟩, []⟩ ["input_0"]⟩ ∧
      graph.operators[3]? = some ⟨"join_3", .tableJoin
        ⟨"till.products", .fields ⟨"product", "sku", .inner⟩, []⟩ ["filter_2"]⟩) ∧
    ∃ target, (invoices target).lower invoiceStreams = .error (.unresolvedStream "till.refunds") ∧
      (invoicesByTable target).lower invoiceStreams = .error (.unresolvedStream "till.refunds") := by
  constructor
  · let target : TableName := ⟨["till", "invoices"], by decide, by decide⟩
    have hlower : (invoices target).lower invoiceStreams = .ok _ := rfl
    exact ⟨target, _, hlower, (lower_of_sideSwaps (invoices_sideSwaps target)).symm.trans hlower, rfl,
      rfl⟩
  · let target : TableName := ⟨["till", "refunds"], by decide, by decide⟩
    have hlower : (invoices target).lower invoiceStreams = .error (.unresolvedStream "till.refunds") :=
      rfl
    exact ⟨target, hlower, (lower_of_sideSwaps (invoices_sideSwaps target)).symm.trans hlower⟩

end StreamPlan
