import StreamPlan.Proofs.Job.Merged
import StreamPlan.Proofs.Stream.Catalog

/-!
# Compiling again

The configuration of a compiled job is complete: compiled again, in whatever mode, it gives the same
job (`compile_config_of_compile`).

Two things make it so. What a compilation adds stands under `streams.`, `systems.` and two keys of its
own, and everything that selects statements, converter, resolver and systems stands under `relflow.`, so
both runs see the same statements and the same systems. And what the second run adds stands in its
overrides already, which win.
-/

namespace StreamPlan

/-- The streams of a catalog claim no keys but those of streams and those of systems. -/
theorem Catalog.hasLead_of_claim? {catalog : Catalog} {role : Role} {name key value : String}
    {resolved : ResolvedStream} (hlookup : catalog.lookup role name = .ok resolved)
    (hclaim : resolved.claim? key = some value) :
    Text.hasLead "streams." key = true ∨ Text.hasLead "systems." key = true := by
  obtain ⟨system, stream, -, -, rfl⟩ := lookup_eq_ok_iff.1 hlookup
  rw [ResolvedStream.claim?, Option.or_eq_some_iff] at hclaim
  -- Its own keys have one of the leads by their making, and the binding is a key of streams.
  rcases hclaim with hown | ⟨-, hbinding⟩
  · exact hasLead_of_get?_streamConfig hown
  · split at hbinding
    · rename_i hkey
      rw [Config.bindingKey, String.append_assoc] at hkey
      exact .inl (Text.hasLead_iff.2 ⟨_, hkey⟩)
    · cases hbinding

/-- No stream of a catalog claims a key that selects jobs. Texts of the same length that start a key are
the same, and `relflow.` is neither of the two that start a claim. -/
theorem Catalog.lastClaim?_eq_none_of_hasLead {catalog : Catalog} {roles : StreamRoles}
    {resolution : Resolution} {key : String}
    (hres : catalog.resolver.resolveRoles roles = .ok resolution)
    (hlead : Text.hasLead "relflow." key = true) : lastClaim? resolution.all key = none := by
  by_contra hsome
  obtain ⟨value, hvalue⟩ := Option.ne_none_iff_exists'.1 hsome
  obtain ⟨resolved, hmem, hclaim⟩ := exists_claim_of_lastClaim? hvalue
  obtain ⟨role, name, hlookup⟩ := mem_all_of_resolveRoles hres hmem
  rcases hasLead_of_claim? hlookup hclaim with hstream | hsystem
  · exact absurd (Text.eq_of_hasLead hlead hstream (by decide)) (by decide)
  · exact absurd (Text.eq_of_hasLead hlead hsystem (by decide)) (by decide)

namespace Compiler

variable {compiler : Compiler} {statements : List String} {overrides config : Config} {mode : Mode}
  {job : Job} {resolution : Resolution}

/-- A snapshot holds what the streams need, the statements and the class that runs the job. -/
theorem snapshot_eq_ok_iff :
    snapshot resolution statements mode = .ok config ↔
      ∃ merged, resolution.merged = .ok merged ∧
        (merged.insert Config.statementsKey (Config.statementsText statements)).insert
          Config.runnerKey mode.name = config := by
  rw [snapshot, bind_eq_ok_iff]
  simp only [Except.ok.injEq]

/-- What has been done when a compilation ends with a job. -/
theorem compile_eq_ok_iff :
    compiler.compile statements overrides mode = .ok job ↔
      ∃ plan resolution config, compiler.plan statements = .ok plan ∧ plan.roles = .ok job.roles ∧
        compiler.resolver.resolveRoles job.roles = .ok resolution ∧
        snapshot resolution statements mode = .ok config ∧ plan.lower resolution = .ok job.graph ∧
        job.graph.checkTables job.roles.inputs compiler.resolver.isTable = .ok () ∧
        config.overlay overrides = job.config := by
  constructor
  · intro h
    -- One bind for each stage, in the order in which the stages can fail.
    obtain ⟨plan, hplan, h⟩ := bind_eq_ok_iff.1 h
    obtain ⟨roles, hroles, h⟩ := bind_eq_ok_iff.1 h
    obtain ⟨resolution, hres, h⟩ := bind_eq_ok_iff.1 h
    obtain ⟨config, hsnap, h⟩ := bind_eq_ok_iff.1 h
    obtain ⟨graph, hgraph, h⟩ := bind_eq_ok_iff.1 h
    obtain ⟨_, htables, h⟩ := bind_eq_ok_iff.1 h
    obtain rfl := Except.ok.inj h
    exact ⟨plan, resolution, config, hplan, hroles, hres, hsnap, hgraph, htables, rfl⟩
  · rintro ⟨plan, resolution, config, hplan, hroles, hres, hsnap, hgraph, htables, hconfig⟩
    rw [compile, hplan, ok_bind, hroles, ok_bind, hres, ok_bind, hsnap, ok_bind, hgraph, ok_bind,
      htables, ok_bind, hconfig]

/-- What a compilation itself has for a key: the class that runs the job, the statements, and what the
streams need. -/
def synthesized? (resolution : Resolution) (statements : List String) (mode : Mode) (key : String) :
    Option String :=
  if key = Config.runnerKey then some mode.name
  else if key = Config.statementsKey then some (Config.statementsText statements)
  else lastClaim? resolution.all key

theorem get?_snapshot (h : snapshot resolution statements mode = .ok config) (key : String) :
    config.get? key = synthesized? resolution statements mode key := by
  obtain ⟨merged, hmerged, rfl⟩ := snapshot_eq_ok_iff.1 h
  rw [SortedMap.get?_insert, SortedMap.get?_insert, Resolution.get?_merged hmerged, synthesized?]

/-- The keys of a snapshot do not depend on the mode, so a job compiled with its own configuration as
overrides gets that configuration. -/
theorem compile_config (h : compiler.compile statements overrides mode = .ok job) (mode' : Mode) :
    compiler.compile statements job.config mode' = .ok job := by
  obtain ⟨plan, resolution, config, hplan, hroles, hres, hsnap, hgraph, htables, hconfig⟩ :=
    compile_eq_ok_iff.1 h
  obtain ⟨merged, hmerged, rfl⟩ := snapshot_eq_ok_iff.1 hsnap
  refine compile_eq_ok_iff.2 ⟨plan, resolution, _, hplan, hroles, hres,
    snapshot_eq_ok_iff.2 ⟨merged, hmerged, rfl⟩, hgraph, htables, ?_⟩
  refine SortedMap.overlay_eq_top fun key hnone => ?_
  -- A key that is missing in the configuration of the job was missing in the first snapshot.
  rw [← hconfig, SortedMap.get?_overlay, Option.or_eq_none_iff] at hnone
  have hfirst := hnone.2
  rw [SortedMap.get?_insert] at hfirst ⊢
  split at hfirst
  · cases hfirst
  · rename_i hkey
    rw [if_neg hkey]
    exact hfirst

/-- The overrides win. -/
theorem get?_config_of_override (h : compiler.compile statements overrides mode = .ok job)
    {key value : String} (hkey : overrides.get? key = some value) :
    job.config.get? key = some value := by
  obtain ⟨_, _, _, -, -, -, -, -, -, hconfig⟩ := compile_eq_ok_iff.1 h
  rw [← hconfig, SortedMap.get?_overlay, hkey, Option.some_or]

/-- What selects a job is not touched by compiling it: streams only need keys of streams and systems. -/
theorem get?_config_of_compile {catalog : Catalog} (hcatalog : catalog.resolver = compiler.resolver)
    (h : compiler.compile statements overrides mode = .ok job) {key : String}
    (hlead : Text.hasLead "relflow." key = true) (hne : key ≠ Config.statementsKey) :
    job.config.get? key = overrides.get? key := by
  obtain ⟨plan, resolution, config, -, -, hres, hsnap, -, -, hconfig⟩ := compile_eq_ok_iff.1 h
  have hrunner : key ≠ Config.runnerKey := by
    rintro rfl
    exact absurd hlead (by decide)
  rw [← hconfig, SortedMap.get?_overlay, get?_snapshot hsnap, synthesized?, if_neg hrunner, if_neg hne,
    Catalog.lastClaim?_eq_none_of_hasLead (hcatalog ▸ hres) hlead, Option.or_none]

end Compiler

namespace Config

variable {config : Config} {mode : Mode} {job : Job}

theorem compile_eq_ok_iff :
    config.compile mode = .ok job ↔
      ∃ statements compiler, config.statements = .ok statements ∧
        Compiler.ofConfig config = .ok compiler ∧
        compiler.compile statements config mode = .ok job := by
  constructor
  · intro h
    obtain ⟨statements, hstatements, h⟩ := bind_eq_ok_iff.1 h
    obtain ⟨compiler, hcompiler, h⟩ := bind_eq_ok_iff.1 h
    exact ⟨statements, compiler, mapError_eq_ok_iff.1 hstatements, mapError_eq_ok_iff.1 hcompiler, h⟩
  · rintro ⟨statements, compiler, hstatements, hcompiler, h⟩
    rw [compile, mapError_eq_ok_iff.2 hstatements, ok_bind, mapError_eq_ok_iff.2 hcompiler, ok_bind, h]

/-- The statements stay the same if both of their keys do, and already if a single statement does. -/
theorem statements_congr {other : Config} (hsingle : other.get? statementKey = config.get? statementKey)
    (hlist : config.get? statementKey = none → other.get? statementsKey = config.get? statementsKey) :
    other.statements = config.statements := by
  have hstored : other.storedStatements = config.storedStatements := by
    rw [storedStatements, storedStatements, hsingle]
    cases hstatement : config.get? statementKey with
    | none => rw [hlist hstatement]
    | some statement => rfl
  rw [statements, statements, hstored]

/-- Statements that are not a single one are a list. -/
theorem exists_list_of_statements {statements : List String}
    (h : config.statements = .ok statements) (hnone : config.get? statementKey = none) :
    ∃ text, config.get? statementsKey = some text := by
  obtain ⟨stored, hstored, -⟩ := bind_eq_ok_iff.1 h
  rw [storedStatements, hnone] at hstored
  cases htext : config.get? statementsKey with
  | none =>
    rw [htext] at hstored
    cases hstored
  | some text => exact ⟨text, rfl⟩

end Config

namespace Compiler

variable {compiler : Compiler} {config other : Config}

theorem ofConfig_eq_ok_iff :
    ofConfig config = .ok compiler ↔
      Converter.ofConfig config = .ok compiler.converter ∧
        Text.trim (config.getOr Config.resolverKey Registry.defaultName) = Registry.defaultName ∧
        ∃ catalog, Catalog.ofConfig config = .ok catalog ∧ catalog.resolver = compiler.resolver := by
  rw [← Registry.create_standard_eq_ok_iff]
  constructor
  · intro h
    obtain ⟨converter, hconverter, h⟩ := bind_eq_ok_iff.1 h
    obtain ⟨resolver, hresolver, h⟩ := bind_eq_ok_iff.1 h
    obtain rfl := Except.ok.inj h
    exact ⟨hconverter, hresolver⟩
  · rintro ⟨hconverter, hresolver⟩
    rw [ofConfig, hconverter, ok_bind, hresolver, ok_bind]

/-- Configurations that agree on everything under `relflow.`, save the list of statements, ask for the
same compiler. -/
theorem ofConfig_of_agree
    (hagree : ∀ key, Text.hasLead "relflow." key = true → key ≠ Config.statementsKey →
      other.get? key = config.get? key)
    (h : ofConfig config = .ok compiler) : ofConfig other = .ok compiler := by
  obtain ⟨hconverter, hname, catalog, hcatalog, hresolver⟩ := ofConfig_eq_ok_iff.1 h
  have hformat : other.get? Config.formatKey = config.get? Config.formatKey :=
    hagree _ (by decide) (by decide)
  have hnamed : other.get? Config.resolverKey = config.get? Config.resolverKey :=
    hagree _ (by decide) (by decide)
  have hsystem : ∀ name ∈ other.list Config.systemsKey, ∀ rest,
      other.get? (Config.systemLead ++ name ++ "." ++ rest) =
        config.get? (Config.systemLead ++ name ++ "." ++ rest) := by
    intro name _ rest
    rw [String.append_assoc, String.append_assoc]
    -- The list of statements is no key of a system, whatever the system is called.
    have hlead : Text.hasLead Config.systemLead (Config.systemLead ++ (name ++ ("." ++ rest))) = true :=
      Text.hasLead_iff.2 ⟨_, rfl⟩
    apply hagree
    · have hsplit : Config.systemLead = "relflow." ++ "sql.io.system." := by decide
      rw [hsplit, String.append_assoc]
      exact Text.hasLead_iff.2 ⟨_, rfl⟩
    · intro heq
      rw [heq] at hlead
      exact absurd hlead (by decide)
  refine ofConfig_eq_ok_iff.2 ⟨?_, ?_, catalog, ?_, hresolver⟩
  · rw [Converter.ofConfig, Config.getOr, hformat]
    exact hconverter
  · rw [Config.getOr, hnamed]
    exact hname
  · rw [Catalog.ofConfig_congr (hagree _ (by decide) (by decide)) hsystem]
    exact hcatalog

end Compiler

/-- Compiling the configuration of a compiled job gives the same job: the same configuration, graph and
roles, in whatever mode either compilation is made. -/
theorem compile_config_of_compile {config : Config} {mode : Mode} {job : Job}
    (h : config.compile mode = .ok job) (mode' : Mode) : job.config.compile mode' = .ok job := by
  obtain ⟨statements, compiler, hstatements, hcompiler, hcompile⟩ := Config.compile_eq_ok_iff.1 h
  obtain ⟨-, -, catalog, -, hcatalog⟩ := Compiler.ofConfig_eq_ok_iff.1 hcompiler
  have hagree : ∀ key, Text.hasLead "relflow." key = true → key ≠ Config.statementsKey →
      job.config.get? key = config.get? key := fun key hlead hne =>
    Compiler.get?_config_of_compile hcatalog hcompile hlead hne
  -- The list of statements may be new, but then a single statement goes before it.
  have hsame : job.config.statements = config.statements := by
    refine Config.statements_congr (hagree _ (by decide) (by decide)) fun hnone => ?_
    obtain ⟨text, htext⟩ := Config.exists_list_of_statements hstatements hnone
    rw [Compiler.get?_config_of_override hcompile htext, htext]
  exact Config.compile_eq_ok_iff.2 ⟨statements, compiler, hsame.trans hstatements,
    Compiler.ofConfig_of_agree hagree hcompiler, Compiler.compile_config hcompile mode'⟩

/-- A job that reads and writes streams of one system. The physical name of the system and the values
under it spell keys that select jobs. -/
def pageViews : Config := SortedMap.ofList [
  ("relflow.sql.io.systems", "kafka"),
  ("relflow.sql.io.system.kafka.physical", "relflow.sql"),
  ("relflow.sql.io.system.kafka.config.stmt", "x"),
  ("relflow.sql.io.system.kafka.stream.views.samza.offset.default", "oldest"),
  ("relflow.sql.stmts.json", "[\"[insert, kafka.hits, insert, [scan, kafka.views]]\"]")]

/-- Both compilations have the same value under such a key, the same operators and the same roles. -/
theorem compile_config_of_compile_pageViews :
    ∃ job, pageViews.compile .inProcess = .ok job ∧
      job.config.get? "systems.relflow.sql.stmt" = some "x" ∧
      job.graph.summaries =
        [⟨"input_0", .input, [], none, []⟩, ⟨"sink_1", .sink, ["input_0"], none, []⟩] ∧
      job.roles.inputs.keys = ["kafka.views"] ∧ job.roles.outputs.keys = ["kafka.hits"] ∧
      job.config.compile .remote = .ok job := by
  have hrun : (pageViews.compile .inProcess).toOption.map (fun job =>
      (job.config.get? "systems.relflow.sql.stmt", job.graph.summaries, job.roles.inputs.keys,
        job.roles.outputs.keys)) =
      some (some "x", [⟨"input_0", .input, [], none, []⟩, ⟨"sink_1", .sink, ["input_0"], none, []⟩],
        ["kafka.views"], ["kafka.hits"]) := by
    decide +kernel
  obtain ⟨job, hjob, hparts⟩ := Option.map_eq_some_iff.1 hrun
  simp only [Prod.mk.injEq] at hparts
  obtain ⟨hvalue, hgraph, hinputs, houtputs⟩ := hparts
  have h := toOption_eq_some_iff.1 hjob
  exact ⟨job, h, hvalue, hgraph, hinputs, houtputs, compile_config_of_compile h .remote⟩

end StreamPlan
