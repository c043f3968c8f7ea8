import StreamPlan.Job.Statements
import StreamPlan.Proofs.Data.Except
import StreamPlan.Proofs.Json.ReadBack

/-!
# Statements that are stored and fetched

A job keeps its statements as a JSON list of texts in its configuration. The list is read back character
by character (`Json.parse?_ofStrings`), so that statements come back whatever they are made of; only a
list without any visible character is refused, after it has been read.
-/

namespace StreamPlan.Config

variable {config : Config} {statements : List String}

theorem all_isBlankText_iff :
    statements.all Text.isBlankText = true ↔
      ∀ statement ∈ statements, ∀ c ∈ statement.toList, Text.isBlank c = true := by
  simp [Text.isBlankText]

/-- Statements are looked at after they have been read, and only for being blank. -/
theorem statements_of_storedStatements (h : config.storedStatements = .ok statements) :
    config.statements =
      if statements.all Text.isBlankText then .error .blankStatements else .ok statements := by
  rw [Config.statements, h, ok_bind]

/-- Without a single statement, what is stored as the list is read back. -/
theorem storedStatements_insert (hsingle : config.get? statementKey = none) (statements : List String) :
    storedStatements (config.insert statementsKey (statementsText statements)) = .ok statements := by
  have hnone : (config.insert statementsKey (statementsText statements)).get? statementKey = none := by
    rw [SortedMap.get?_insert, if_neg (by decide), hsingle]
  have hlist : (config.insert statementsKey (statementsText statements)).get? statementsKey =
      some (statementsText statements) := by
    rw [SortedMap.get?_insert, if_pos rfl]
  have hread : (Json.parse? (statementsText statements)).bind Json.strings? = some statements :=
    Json.parse?_ofStrings statements
  simp only [storedStatements, hnone, hlist, hread]

/-- **Stored statements come back.** Whatever texts are stored as the list of a job that has no single
statement, they are its statements if and only if one of them has a character that is no white space.
Otherwise, and only then, the job is refused for its blank statements. -/
theorem statements_insert_statementsText (hsingle : config.get? statementKey = none)
    (statements : List String) :
    (Config.statements (config.insert statementsKey (statementsText statements)) = .ok statements ↔
      ∃ statement ∈ statements, ∃ c ∈ statement.toList, Text.isBlank c = false) ∧
    (Config.statements (config.insert statementsKey (statementsText statements)) =
        .error .blankStatements ↔
      ∀ statement ∈ statements, ∀ c ∈ statement.toList, Text.isBlank c = true) := by
  rw [statements_of_storedStatements (storedStatements_insert hsingle statements),
    ← all_isBlankText_iff]
  cases hblank : statements.all Text.isBlankText with
  | false =>
    have hvisible := mt all_isBlankText_iff.2 (Bool.eq_false_iff.1 hblank)
    simpa using hvisible
  | true =>
    have hnone := all_isBlankText_iff.1 hblank
    simpa using hnone

/-- A job with a list that will be replaced. -/
def oldList : Config := SortedMap.empty.insert "relflow.sql.stmts.json" "[\"op: scan\"]"

/-- Quotes, backslashes, controls, line separators and characters beyond the first plane come back. A list
of blanks is refused. -/
theorem statements_insert_statementsText_oldList :
    oldList.get? statementKey = none ∧
    Config.statements (oldList.insert statementsKey
        (statementsText ["", "op: \"filter\"\r\n\tcondition: a\\b\x00\x1f\x7f", "\u2028\u3000😀"])) =
      .ok ["", "op: \"filter\"\r\n\tcondition: a\\b\x00\x1f\x7f", "\u2028\u3000😀"] ∧
    Config.statements (oldList.insert statementsKey (statementsText ["", " \n\t", "\u2028\u3000"])) =
      .error .blankStatements := by
  have hsingle : oldList.get? statementKey = none := by decide +kernel
  refine ⟨hsingle, (statements_insert_statementsText hsingle _).1.2 ?_,
    (statements_insert_statementsText hsingle _).2.2 (all_isBlankText_iff.1 (by decide +kernel))⟩
  exact ⟨"\u2028\u3000😀", by simp, '😀', by decide +kernel, by decide +kernel⟩

end StreamPlan.Config
