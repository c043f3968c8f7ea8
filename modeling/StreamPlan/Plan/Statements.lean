import StreamPlan.Config.Basic
import StreamPlan.Plan.Fault
import StreamPlan.Plan.Written

/-!
# Statements

A text holds one plan per YAML document. Blank documents, tagged or not, are skipped, but they count in
the position by which a fault is reported. Several statements are put into one text with a separator
between them.
-/

namespace StreamPlan

/-- The plan of a value, in the place of the statement at a position. -/
def planOfValue (position : Nat) (value : Yaml.Value) : Except PlanFault Plan :=
  match Written.top value with
  | .error fault => .error (.statement position (.shape fault))
  | .ok definition => definition.toPlan.mapError .definition

/-- The plan of a document, or nothing for a blank one. -/
def planOfDocument (position : Nat) (document : Yaml.Document) : Except PlanFault (Option Plan) :=
  match document.value with
  | .error fault => .error (.statement position (.yaml fault))
  | .ok value => if value.isNull then .ok none else (planOfValue position value).map some

/-- The plans of documents, of which the first has a position. The first fault ends the reading. -/
def plansOfDocuments (position : Nat) : List Yaml.Document → Except PlanFault (List Plan)
  | [] => .ok []
  | document :: documents => do
    let plan ← planOfDocument position document
    let plans ← plansOfDocuments (position + 1) documents
    .ok (plan.toList ++ plans)

/-- The plans of a text, at least one. -/
def plansOfText (text : String) : Except PlanFault (List Plan) := do
  let plans ← plansOfDocuments 0 (Yaml.documents text)
  if plans.isEmpty then .error .noStatements else .ok plans

/-- Reads plans from the text of statements. -/
structure Converter where
  /-- What stands between two statements. -/
  separator : String
  /-- The plans of a text, one for each statement. -/
  convert : String → Except PlanFault (List Plan)

namespace Converter

/-- What stands between two statements if nothing else is said. -/
def defaultSeparator : String := "\n"

/-- The converter of YAML statements. -/
def yaml : Converter := ⟨"\n---\n", plansOfText⟩

/-- One text of several statements. -/
def joinStatements (converter : Converter) (statements : List String) : String :=
  Text.join converter.separator statements

/-- The converter for the format that a configuration names. -/
def ofConfig (config : Config) : Except ConfigFault Converter :=
  match config.getOr Config.formatKey "yaml" with
  | "yaml" => .ok yaml
  | "yml" => .ok yaml
  | other => .error (.unknownFormat other)

end Converter

end StreamPlan
