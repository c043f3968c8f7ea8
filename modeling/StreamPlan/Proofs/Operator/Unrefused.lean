import StreamPlan.Proofs.Operator.Lowerable

/-!
# Lowering is never refused

A graph refuses an operator under an id that is taken, one that reads from what is not there, and one that
reads from nothing without being an input. An addition that is refused ends the lowering with the fault of
the graph. Whatever the plan is and however much of it is resolved, this does not happen
(`lower_unrefused`): lowering fails because of the plan or of what is missing in the resolution.

The invariant has two parts. Ids are made of kinds and of a number that is the position, so the next one
is free (`Lowering.Sound`), and what is handed up from below a plan is the id of an operator that the
graph has and keeps while it grows (`Plan.Unrefused`).
-/

namespace StreamPlan

namespace Plan

variable {resolution : Resolution} {plan left right : Plan} {lowering : Lowering}

/-- What a lowering ends with that the graph has not refused anything of: the id of an operator of the
graph, or an error that does not come from the graph. -/
def Unrefused : Except Error (String × Lowering) → Prop
  | .ok (id, lowering) => lowering.graph.contains id = true
  | .error error => ∀ fault, error ≠ .graph fault

theorem unrefused_of_exists {outcome : Except Error (String × Lowering)}
    (h : ∃ id lowering, outcome = .ok (id, lowering) ∧ lowering.graph.contains id = true) :
    Unrefused outcome := by
  obtain ⟨id, lowering, rfl, hid⟩ := h
  exact hid

theorem unrefused_push_one (hsound : lowering.Sound) {stage : Stage String} {source : String}
    (hstage : stage.sources = [source]) (hsource : lowering.graph.contains source = true) :
    Unrefused (lowering.push stage) :=
  unrefused_of_exists (exists_push_one hsound hstage hsource)

/-- A stream that is not resolved is no fault of the graph. -/
theorem unrefused_bind_system {name : String} {role : Role}
    {next : String → Except Error (String × Lowering)} (h : ∀ system, Unrefused (next system)) :
    Unrefused (resolution.system name role >>= next) := by
  rw [Resolution.system]
  cases resolution.get? name role with
  | none =>
    intro fault h
    cases h
  | some resolved => exact h resolved.system

/-- What follows on a plan is not refused if it is not refused after the plan. -/
theorem Unrefused.bind (h : Unrefused (plan.lowerInto resolution lowering)) (hsound : lowering.Sound)
    {next : String × Lowering → Except Error (String × Lowering)}
    (hnext : ∀ {id lowering'}, lowering'.Sound → lowering'.graph.contains id = true →
      (∀ other, lowering.graph.contains other = true → lowering'.graph.contains other = true) →
        Unrefused (next (id, lowering'))) :
    Unrefused (plan.lowerInto resolution lowering >>= next) := by
  cases hrun : plan.lowerInto resolution lowering with
  | error error =>
    -- The error of the plan is passed on as it is.
    rw [hrun] at h
    exact h
  | ok result =>
    obtain ⟨id, lowering'⟩ := result
    rw [hrun] at h
    obtain ⟨hsound', hkept⟩ := sound_of_lowerInto hsound hrun
    exact hnext hsound' h hkept

/-- Both sides of an operator are lowered, the left one first, and then the operator is added. -/
theorem unrefused_push_two (stage : String → String → Stage String)
    (hstage : ∀ l r, (stage l r).sources = [l, r]) (hsound : lowering.Sound)
    (hleft : Unrefused (left.lowerInto resolution lowering))
    (hright : ∀ {lowering}, lowering.Sound → Unrefused (right.lowerInto resolution lowering)) :
    Unrefused (do
      let (l, lowering) ← left.lowerInto resolution lowering
      let (r, lowering) ← right.lowerInto resolution lowering
      lowering.push (stage l r)) := by
  apply hleft.bind hsound
  intro l between hsound₁ hl _
  apply (hright hsound₁).bind hsound₁
  intro r after hsound₂ hr hkept
  apply unrefused_of_exists
  -- The operator on the left was there before the right side was lowered, and is there still.
  refine exists_push hsound₂ ?_ (by simp [hstage])
  simpa [hstage] using ⟨hkept l hl, hr⟩

/-- No addition is refused while a plan is lowered, if counter and cache are true at the start. -/
theorem unrefused_lowerInto (plan : Plan) (resolution : Resolution) (hsound : lowering.Sound) :
    Unrefused (plan.lowerInto resolution lowering) := by
  induction plan generalizing lowering with
  | scan table =>
    cases table with
    | none =>
      intro fault h
      cases h
    | some table =>
      rw [lowerInto]
      cases hinput : lowering.inputs.get? table.dotted with
      | some id =>
        -- The input of an earlier scan is an operator of the graph.
        exact hsound.contains_of_inputs hinput
      | none =>
        apply unrefused_bind_system
        intro system
        exact unrefused_of_exists (exists_pushInput hsound table.dotted system)
  | write table kind plan ih =>
    rw [lowerInto]
    apply (ih hsound).bind hsound
    intro source lowering' hsound' hsource _
    apply unrefused_bind_system
    intro system
    exact unrefused_push_one hsound' rfl hsource
  | unary op table plan ih =>
    rw [lowerInto]
    apply (ih hsound).bind hsound
    intro source lowering' hsound' hsource _
    exact unrefused_of_exists (exists_lowerUnary hsound' op hsource)
  | binary op left right ihLeft ihRight =>
    cases op with
    | union =>
      rw [lowerInto]
      exact unrefused_push_two (fun l r => .merge [l, r]) (fun _ _ => rfl) hsound (ihLeft hsound) ihRight
    | join joinType leftKey rightKey =>
      -- The side of a table adds nothing, and the joins without a stream are errors of the plan.
      rw [lowerInto]
      split
      · intro fault h
        cases h
      · apply (ihLeft hsound).bind hsound
        intro stream lowering' hsound' hstream _
        exact unrefused_push_one hsound' rfl hstream
      · split
        · intro fault h
          cases h
        · apply (ihRight hsound).bind hsound
          intro stream lowering' hsound' hstream _
          exact unrefused_push_one hsound' rfl hstream
      · exact unrefused_push_two (.streamJoin joinType leftKey rightKey) (fun _ _ => rfl) hsound
          (ihLeft hsound) ihRight

end Plan

/-- Lowering never ends with a fault of the graph, for any plan and any resolution, and the operators of a
lowered plan have ids made of their kinds and positions. -/
theorem lower_unrefused (plan : Plan) (resolution : Resolution) :
    (∀ fault, plan.lower resolution ≠ .error (.graph fault)) ∧
      ∀ graph, plan.lower resolution = .ok graph →
        ∀ (position : Nat) (operator : Operator), graph.operators[position]? = some operator →
          operator.id = operator.code.name ++ "_" ++ Decimal.intText position := by
  constructor
  · intro fault h
    have hunrefused := plan.unrefused_lowerInto resolution Lowering.sound_start
    rw [Plan.lower] at h
    cases hrun : plan.lowerInto resolution .start with
    | ok result =>
      rw [hrun] at h
      cases h
    | error error =>
      rw [hrun] at h hunrefused
      exact hunrefused fault (Except.error.inj h)
  · intro graph h
    obtain ⟨id, hlowers⟩ := Plan.lowers_of_lower h
    exact (hlowers.grows.numbered OperatorGraph.numbered_empty).id_eq

/-- The plan `enrichment` has a table on the left of a join, a scan that is shared and an aggregation that
becomes two operators. Without the stream that it writes it fails at its very end, after all additions but
one. -/
theorem lower_unrefused_enrichment :
    (∃ graph operator, enrichment.lower enrichmentStreams = .ok graph ∧
      graph.operators[3]? = some operator ∧ operator.id = "map_3") ∧
    enrichment.lower { enrichmentStreams with outputs := .empty } =
      .error (.unresolvedStream "kafka.enriched") ∧
    ∀ fault, enrichment.lower { enrichmentStreams with outputs := .empty } ≠ .error (.graph fault) := by
  refine ⟨?_, rfl, (lower_unrefused enrichment _).1⟩
  have hlower : enrichment.lower enrichmentStreams = .ok _ := rfl
  have hid := (lower_unrefused enrichment enrichmentStreams).2 _ hlower 3 _ rfl
  exact ⟨_, _, hlower, rfl, hid⟩

end StreamPlan
