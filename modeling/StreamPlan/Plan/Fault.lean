import StreamPlan.Decode.Fault
import StreamPlan.Plan.Definition
import StreamPlan.Yaml.Value

/-!
# Faults of statements

Everything that can be wrong with the text of statements, and how it is reported.
-/

namespace StreamPlan

/-- YAML calls an absent value a unit value and writes numbers out in full, rounded up between two
equally near ones. -/
def Yaml.wording : Wording := ⟨"unit value", ⟨fun _ => true, "", "inf", "NaN", .up⟩⟩

/-- Why a statement is no plan. -/
inductive StatementFault where
  /-- The statement denotes no value. -/
  | yaml (fault : Yaml.Fault)
  /-- The value has not the shape of a plan. -/
  | shape (fault : DecodeFault)

/-- The text of a fault. -/
def StatementFault.message : StatementFault → String
  | .yaml fault => fault.message
  | .shape fault => fault.message Yaml.wording

/-- Why a text gives no plans. -/
inductive PlanFault where
  /-- A plan is written in the right shape, but with a wrong name or window. -/
  | definition (fault : DefinitionFault)
  /-- A text that has to be one plan is none. -/
  | malformed
  /-- The statement at a position is no plan. -/
  | statement (position : Nat) (fault : StatementFault)
  /-- There are only blank statements. -/
  | noStatements
  /-- A converter gave no plans. -/
  | noRoots

/-- The text of a fault. -/
def PlanFault.message : PlanFault → String
  | .definition fault => fault.message
  | .malformed => "invalid plan: <yaml>"
  | .statement position fault =>
    "statement " ++ Decimal.intText position ++ ": " ++ fault.message
  | .noStatements => "no plan statements found"
  | .noRoots => "converter returned no plan roots"

end StreamPlan
