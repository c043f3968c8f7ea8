import StreamPlan.Proofs.Job.Recompile
import StreamPlan.Proofs.Json.ReadBack

/-!
# What a job records of its statements

The configuration of a job lists statements under a key of its own. A compilation puts the statements
there that it compiled, but a list that the job was described with stands above it. Since a single
statement goes before a list when a job is compiled, the two can differ: `listed?_of_compile` says
exactly when they do not.
-/

namespace StreamPlan

/-- The statements that a configuration lists. -/
def Config.listed? (config : Config) : Option (List String) :=
  (config.get? statementsKey).bind fun text => (Json.parse? text).bind Json.strings?

namespace Config

variable {config : Config} {statements : List String}

/-- The statements of a job are the single one, or else those that are listed. -/
theorem storedStatements_of_statements (h : config.statements = .ok statements) :
    config.storedStatements = .ok statements := by
  obtain ⟨stored, hstored, h⟩ := bind_eq_ok_iff.1 h
  split at h
  · cases h
  · rwa [Except.ok.inj h] at hstored

theorem statements_eq_singleton {single : String} (h : config.statements = .ok statements)
    (hsingle : config.get? statementKey = some single) : statements = [single] := by
  have hstored := storedStatements_of_statements h
  rw [storedStatements, hsingle] at hstored
  exact (Except.ok.inj hstored).symm

theorem listed?_of_statements (h : config.statements = .ok statements)
    (hnone : config.get? statementKey = none) : config.listed? = some statements := by
  have hstored := storedStatements_of_statements h
  obtain ⟨text, htext⟩ := exists_list_of_statements h hnone
  simp only [storedStatements, hnone, htext] at hstored
  rw [listed?, htext, Option.bind_some]
  split at hstored
  · rename_i listed hlist
    rw [hlist, Except.ok.inj hstored]
  · cases hstored

end Config

namespace Compiler

variable {compiler : Compiler} {statements : List String} {overrides : Config} {mode : Mode} {job : Job}

/-- A job lists the statements that the overrides list, or else those that it was compiled from. -/
theorem get?_statementsKey_of_compile (h : compiler.compile statements overrides mode = .ok job) :
    job.config.get? Config.statementsKey =
      (overrides.get? Config.statementsKey).or (some (Config.statementsText statements)) := by
  obtain ⟨plan, resolution, config, -, -, -, hsnap, -, -, hconfig⟩ := compile_eq_ok_iff.1 h
  obtain ⟨merged, -, rfl⟩ := snapshot_eq_ok_iff.1 hsnap
  rw [← hconfig, SortedMap.get?_overlay, SortedMap.get?_insert, if_neg (by decide),
    SortedMap.get?_insert, if_pos rfl]

theorem listed?_of_compile_of_get?_eq_none (h : compiler.compile statements overrides mode = .ok job)
    (hnone : overrides.get? Config.statementsKey = none) : job.config.listed? = some statements := by
  rw [Config.listed?, get?_statementsKey_of_compile h, hnone, Option.none_or, Option.bind_some]
  exact Json.parse?_ofStrings statements

theorem listed?_of_compile_of_get?_eq_some {text : String}
    (h : compiler.compile statements overrides mode = .ok job)
    (htext : overrides.get? Config.statementsKey = some text) :
    job.config.listed? = overrides.listed? := by
  rw [Config.listed?, Config.listed?, get?_statementsKey_of_compile h, htext, Option.some_or]

end Compiler

/-- A job lists the statements that were compiled, unless it was described by a single statement beside
a list of others. A list in the description is kept as it is. -/
theorem listed?_of_compile {config : Config} {mode : Mode} {job : Job}
    (h : config.compile mode = .ok job) :
    ∃ statements, config.statements = .ok statements ∧
      (job.config.listed? = some statements ↔
        ¬∃ single list, config.get? Config.statementKey = some single ∧
          config.get? Config.statementsKey = some list ∧ config.listed? ≠ some [single]) ∧
      (∀ list, config.get? Config.statementsKey = some list →
        job.config.get? Config.statementsKey = some list) := by
  obtain ⟨statements, compiler, hstatements, -, hcompile⟩ := Config.compile_eq_ok_iff.1 h
  refine ⟨statements, hstatements, ?_, fun list => Compiler.get?_config_of_override hcompile⟩
  cases hlist : config.get? Config.statementsKey with
  | none =>
    -- Nothing stands above the list of the compilation.
    have hjob := Compiler.listed?_of_compile_of_get?_eq_none hcompile hlist
    simp [hjob]
  | some list =>
    rw [Compiler.listed?_of_compile_of_get?_eq_some hcompile hlist]
    cases hsingle : config.get? Config.statementKey with
    | none =>
      have hlisted := Config.listed?_of_statements hstatements hsingle
      simp [hlisted]
    | some single =>
      -- The single statement was compiled, and the list of the description stands in the job.
      obtain rfl := Config.statements_eq_singleton hstatements hsingle
      simp

/-- A job with a single statement, which needs escapes in a list. -/
def quotedScan : Config := SortedMap.ofList [
  ("relflow.sql.io.systems", "a"), ("relflow.sql.stmt", "[scan, \"a.b\"]\n")]

/-- The same job with an empty list beside its statement. -/
def listedBeside : Config := quotedScan.insert "relflow.sql.stmts.json" "[]"

/-- A list that was not compiled stays in the job in the place of the statement that was. -/
theorem listed?_of_shadowed_list :
    ∃ job, listedBeside.compile .inProcess = .ok job ∧
      listedBeside.statements = .ok ["[scan, \"a.b\"]\n"] ∧ job.config.listed? = some [] := by
  have hrun : (listedBeside.compile .inProcess).toOption.map (fun job => job.config.listed?) =
      some (some []) := by
    decide +kernel
  obtain ⟨job, hjob, hlisted⟩ := Option.map_eq_some_iff.1 hrun
  exact ⟨job, toOption_eq_some_iff.1 hjob, toOption_eq_some_iff.1 (by decide +kernel), hlisted⟩

theorem listed?_of_compile_quotedScan :
    ∃ job, quotedScan.compile .inProcess = .ok job ∧
      job.config.listed? = some ["[scan, \"a.b\"]\n"] := by
  have hrun : (quotedScan.compile .inProcess).toOption.isSome = true := by decide +kernel
  obtain ⟨job, hjob⟩ := Option.isSome_iff_exists.1 hrun
  have hcompile := toOption_eq_some_iff.1 hjob
  obtain ⟨statements, hstatements, hlisted, -⟩ := listed?_of_compile hcompile
  have hsingle : quotedScan.get? Config.statementKey = some "[scan, \"a.b\"]\n" := by decide +kernel
  obtain rfl := Config.statements_eq_singleton hstatements hsingle
  refine ⟨job, hcompile, hlisted.2 ?_⟩
  rintro ⟨-, list, -, hlist, -⟩
  have hnone : quotedScan.get? Config.statementsKey = none := by decide +kernel
  rw [hnone] at hlist
  cases hlist

end StreamPlan
