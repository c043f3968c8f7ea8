import StreamPlan.Proofs.Job.Recorded
import StreamPlan.Proofs.Operator.Summarized
import StreamPlan.Proofs.Stream.Registered

/-!
# What fingerprints are taken of

The fingerprint of a job is taken of two texts, that of its configuration and that of the summaries of
its operators (`Job.hashedTexts`). Jobs with the same texts have the same configuration and the same
summaries (`Job.hashedTexts_eq_iff`), but summaries leave out what operators are set to. The
configuration makes up for it if it lists the statements that were compiled: a job is then determined
by its texts and the systems of its streams (`compile_eq_of_hashedTexts_eq`). Overrides can hide the
statements, and then it is not (`hashedTexts_of_hidden_statements`).

Jobs that are compiled from configurations are determined by their texts in any case
(`Config.job_eq_of_hashedTexts_eq`), since a configuration that does not list what is compiled
has it under a key of its own.
-/

namespace StreamPlan

namespace Job

/-- The texts that the fingerprint of a job is taken of. -/
def hashedTexts (job : Job) : List String :=
  [(Json.ofMap job.config).compact,
    (Json.array (job.graph.summaries.map OperatorSummary.declared)).compact]

theorem fingerprint_eq_ofParts (job : Job) :
    job.fingerprint = .ofParts (job.hashedTexts.map .ofText) := rfl

theorem hashedTexts_eq_iff {a b : Job} :
    a.hashedTexts = b.hashedTexts ↔ a.config = b.config ∧ a.graph.summaries = b.graph.summaries := by
  constructor
  · intro h
    obtain ⟨hconfig, hrest⟩ := List.cons.inj h
    exact ⟨Json.ofMap_compact_inj hconfig,
      OperatorSummary.declared_compact_inj (List.cons.inj hrest).1⟩
  · rintro ⟨hconfig, hsummaries⟩
    rw [hashedTexts, hashedTexts, hconfig, hsummaries]

end Job

/-- Two resolvers find streams on the same systems. -/
def Resolver.SameSystems (a b : Resolver) : Prop :=
  ∀ {name role resolved resolved'}, a.resolve name role = .ok resolved →
    b.resolve name role = .ok resolved' → resolved.system = resolved'.system

theorem Resolver.SameSystems.refl (resolver : Resolver) : resolver.SameSystems resolver := by
  intro name role resolved resolved' h h'
  rw [Except.ok.inj (h.symm.trans h')]

/-- Two resolvers know streams by the same names within their systems. -/
def Resolver.SameStreams (a b : Resolver) : Prop :=
  ∀ {name role resolved resolved'}, a.resolve name role = .ok resolved →
    b.resolve name role = .ok resolved' → resolved.stream = resolved'.stream

/-- In a catalog the stream is what follows the system in a name. -/
theorem Catalog.sameStreams (a b : Catalog) : a.resolver.SameStreams b.resolver := by
  intro name role resolved resolved' h h'
  rw [resolve_resolver] at h h'
  obtain ⟨system, stream, hfind, -, rfl⟩ := lookup_eq_ok_iff.1 h
  obtain ⟨system', stream', hfind', -, rfl⟩ := lookup_eq_ok_iff.1 h'
  obtain ⟨parsed, hparsed, rfl, -, -⟩ := find?_eq_some_iff.1 hfind
  obtain ⟨parsed', hparsed', rfl, -, -⟩ := find?_eq_some_iff.1 hfind'
  rw [Except.ok.inj (hparsed.symm.trans hparsed')]

namespace Compiler

variable {compiler compiler' : Compiler} {statements statements' : List String}
  {overrides overrides' : Config} {mode mode' : Mode} {job job' : Job}

/-- The streams of a job, as a compiler resolves them. -/
def streams (compiler : Compiler) (job : Job) : List ResolvedStream :=
  match compiler.resolver.resolveRoles job.roles with
  | .ok resolution => resolution.all
  | .error _ => []

/-- The configuration of a job binds its streams to the systems that they were found on. -/
def Binds (compiler : Compiler) (job : Job) : Prop :=
  ∀ resolved ∈ compiler.streams job,
    job.config.get? (Config.bindingKey resolved.stream) = some resolved.system

instance : Decidable (compiler.Binds job) :=
  inferInstanceAs (Decidable (∀ resolved ∈ compiler.streams job, _))

theorem resolve_of_resolveRoles {resolution : Resolution} {name : String} {role : Role}
    {resolved : ResolvedStream} (hres : compiler.resolver.resolveRoles job.roles = .ok resolution)
    (hget : resolution.get? name role = some resolved) :
    compiler.resolver.resolve name role = .ok resolved ∧ resolved ∈ compiler.streams job := by
  constructor
  · rw [Resolver.get?_resolveRoles hres] at hget
    split at hget
    · exact toOption_eq_some_iff.1 hget
    · cases hget
  · rw [streams, hres]
    exact Resolution.mem_all_iff.2 ⟨role, name, hget⟩

/-- Jobs of one plan, with their streams on the same systems, are determined by their configurations and
summaries. -/
theorem job_eq_of_plan_eq (h : compiler.compile statements overrides mode = .ok job)
    (h' : compiler'.compile statements' overrides' mode' = .ok job')
    (hplan : compiler.plan statements = compiler'.plan statements')
    (hsystem : ∀ {name role resolved resolved'}, resolved ∈ compiler.streams job →
      resolved' ∈ compiler'.streams job' → compiler.resolver.resolve name role = .ok resolved →
      compiler'.resolver.resolve name role = .ok resolved' → resolved.system = resolved'.system)
    (hconfig : job.config = job'.config) (hsummaries : job.graph.summaries = job'.graph.summaries) :
    job = job' := by
  obtain ⟨plan, resolution, -, hrun, hroles, hres, -, hgraph, -, -⟩ := compile_eq_ok_iff.1 h
  obtain ⟨plan', resolution', -, hrun', hroles', hres', -, hgraph', -, -⟩ := compile_eq_ok_iff.1 h'
  rw [hplan, hrun'] at hrun
  obtain rfl := Except.ok.inj hrun
  -- The plan is the same, so the roles are; the graph follows from the summaries and the systems.
  have hroles_eq : job.roles = job'.roles := Except.ok.inj (hroles.symm.trans hroles')
  have hgraph_eq : job.graph = job'.graph := by
    refine Plan.lower_eq_of_summaries_eq ?_ hgraph hgraph' hsummaries
    intro name role resolved resolved' hget hget'
    obtain ⟨hresolve, hmem⟩ := resolve_of_resolveRoles hres hget
    obtain ⟨hresolve', hmem'⟩ := resolve_of_resolveRoles hres' hget'
    exact hsystem hmem hmem' hresolve hresolve'
  cases job
  cases job'
  simp_all

theorem plan_congr (h : compiler.converter = compiler'.converter) (statements : List String) :
    compiler.plan statements = compiler'.plan statements := by
  rw [plan, plan, h]

end Compiler

/-- Two jobs have the same texts exactly if they have the same configuration and the same summaries. If
the configurations also list the statements that were compiled, and the resolvers agree about systems or
the configurations bind the streams to them, the jobs are the same. -/
theorem compile_eq_of_hashedTexts_eq {compiler compiler' : Compiler}
    {statements statements' : List String} {overrides overrides' : Config} {mode mode' : Mode}
    {job job' : Job}
    (h : compiler.compile statements overrides mode = .ok job)
    (h' : compiler'.compile statements' overrides' mode' = .ok job') :
    (job.hashedTexts = job'.hashedTexts ↔
      job.config = job'.config ∧ job.graph.summaries = job'.graph.summaries) ∧
    (compiler.converter = compiler'.converter →
      job.config.listed? = some statements → job'.config.listed? = some statements' →
      (compiler.resolver.SameSystems compiler'.resolver ∨
        compiler.resolver.SameStreams compiler'.resolver ∧ compiler.Binds job ∧ compiler'.Binds job') →
      job.hashedTexts = job'.hashedTexts → job = job') := by
  refine ⟨Job.hashedTexts_eq_iff, ?_⟩
  intro hconverter hlisted hlisted' hplaced htexts
  obtain ⟨hconfig, hsummaries⟩ := Job.hashedTexts_eq_iff.1 htexts
  -- The same list stands in both configurations, so the same statements were compiled.
  rw [← hconfig, hlisted] at hlisted'
  obtain rfl := Option.some.inj hlisted'
  have hplan := Compiler.plan_congr hconverter statements
  refine Compiler.job_eq_of_plan_eq h h' hplan ?_ hconfig hsummaries
  intro name role resolved resolved' hmem hmem' hresolve hresolve'
  rcases hplaced with hsystems | ⟨hstreams, hbinds, hbinds'⟩
  · exact hsystems hresolve hresolve'
  · -- Both systems stand under one key of one configuration.
    have hsystem := hbinds resolved hmem
    rw [hconfig, hstreams hresolve hresolve', hbinds' resolved' hmem'] at hsystem
    exact (Option.some.inj hsystem).symm

/-- The condition of a filter. -/
def Operator.condition? (operator : Operator) : Option String :=
  match operator.stage with
  | .filter condition _ => some condition
  | _ => none

/-- A compiler over one system. -/
def oneSystem : Compiler :=
  ⟨.yaml, (Catalog.empty.register ⟨"a", "a", .both, .stream, .empty, .empty⟩).resolver⟩

/-- A statement that filters a stream of the system. -/
def filtered (condition : String) : String := "[filter, " ++ condition ++ ", ~, [scan, a.b]]"

/-- Overrides that hide the statements of a job. -/
def hidden : Config := SortedMap.ofList [("relflow.sql.stmts.json", "[]")]

/-- Two filters on one stream, of which the texts and hence the fingerprints are the same. -/
theorem hashedTexts_of_hidden_statements :
    ∃ job job', oneSystem.compile [filtered "x"] hidden .inProcess = .ok job ∧
      oneSystem.compile [filtered "y"] hidden .inProcess = .ok job' ∧
      job.hashedTexts = job'.hashedTexts ∧ job.fingerprint = job'.fingerprint ∧
      job.graph.operators.filterMap Operator.condition? = ["x"] ∧
      job'.graph.operators.filterMap Operator.condition? = ["y"] := by
  have hx : (oneSystem.compile [filtered "x"] hidden .inProcess).toOption.map
      (fun job => job.graph.operators.filterMap Operator.condition?) = some ["x"] := by
    decide +kernel
  have hy : (oneSystem.compile [filtered "y"] hidden .inProcess).toOption.map
      (fun job => job.graph.operators.filterMap Operator.condition?) = some ["y"] := by
    decide +kernel
  have hsame : (oneSystem.compile [filtered "x"] hidden .inProcess).toOption.map
        (fun job => (job.config.entries, job.graph.summaries)) =
      (oneSystem.compile [filtered "y"] hidden .inProcess).toOption.map
        (fun job => (job.config.entries, job.graph.summaries)) := by
    decide +kernel
  obtain ⟨job, hjob, hcondition⟩ := Option.map_eq_some_iff.1 hx
  obtain ⟨job', hjob', hcondition'⟩ := Option.map_eq_some_iff.1 hy
  rw [hjob, hjob'] at hsame
  obtain ⟨hentries, hsummaries⟩ := Prod.mk.inj (Option.some.inj hsame)
  have htexts := Job.hashedTexts_eq_iff.2 ⟨SortedMap.ext_entries hentries, hsummaries⟩
  refine ⟨job, job', toOption_eq_some_iff.1 hjob, toOption_eq_some_iff.1 hjob', htexts, ?_,
    hcondition, hcondition'⟩
  rw [Job.fingerprint_eq_ofParts, Job.fingerprint_eq_ofParts, htexts]

/-- A compiler that knows one more system. -/
def twoSystems : Compiler :=
  ⟨.yaml, ((Catalog.empty.register ⟨"a", "a", .both, .stream, .empty, .empty⟩).register
    ⟨"c", "d", .both, .table, .empty, .empty⟩).resolver⟩

/-- Overrides that undo the choice of another mode. -/
def runLocally : Config := SortedMap.empty.insert Config.runnerKey Mode.inProcess.name

theorem compile_eq_of_hashedTexts_eq_twoSystems :
    ∃ job job', oneSystem.compile [filtered "x"] .empty .inProcess = .ok job ∧
      twoSystems.compile [filtered "x"] runLocally .remote = .ok job' ∧
      job.hashedTexts = job'.hashedTexts ∧ job = job' := by
  have hone : (oneSystem.compile [filtered "x"] .empty .inProcess).toOption.map
      (fun job => (job.config.listed?, decide (oneSystem.Binds job))) =
        some (some [filtered "x"], true) := by
    decide +kernel
  have htwo : (twoSystems.compile [filtered "x"] runLocally .remote).toOption.map
      (fun job => (job.config.listed?, decide (twoSystems.Binds job))) =
        some (some [filtered "x"], true) := by
    decide +kernel
  have hsame : (oneSystem.compile [filtered "x"] .empty .inProcess).toOption.map
        (fun job => (job.config.entries, job.graph.summaries)) =
      (twoSystems.compile [filtered "x"] runLocally .remote).toOption.map
        (fun job => (job.config.entries, job.graph.summaries)) := by
    decide +kernel
  obtain ⟨job, hjob, htold⟩ := Option.map_eq_some_iff.1 hone
  obtain ⟨job', hjob', htold'⟩ := Option.map_eq_some_iff.1 htwo
  obtain ⟨hlisted, hbinds⟩ := Prod.mk.inj htold
  obtain ⟨hlisted', hbinds'⟩ := Prod.mk.inj htold'
  rw [hjob, hjob'] at hsame
  obtain ⟨hentries, hsummaries⟩ := Prod.mk.inj (Option.some.inj hsame)
  have htexts := Job.hashedTexts_eq_iff.2 ⟨SortedMap.ext_entries hentries, hsummaries⟩
  have h := toOption_eq_some_iff.1 hjob
  have h' := toOption_eq_some_iff.1 hjob'
  exact ⟨job, job', h, h', htexts, (compile_eq_of_hashedTexts_eq h h').2 rfl hlisted hlisted'
    (.inr ⟨Catalog.sameStreams _ _, of_decide_eq_true hbinds, of_decide_eq_true hbinds'⟩) htexts⟩

/-- A job that is compiled from a configuration is determined by the texts of its fingerprint. -/
theorem Config.job_eq_of_hashedTexts_eq {config config' : Config} {mode mode' : Mode}
    {job job' : Job} (h : config.compile mode = .ok job) (h' : config'.compile mode' = .ok job')
    (htexts : job.hashedTexts = job'.hashedTexts) : job = job' := by
  obtain ⟨hconfig, hsummaries⟩ := Job.hashedTexts_eq_iff.1 htexts
  obtain ⟨statements, compiler, hstatements, hcompiler, hcompile⟩ := compile_eq_ok_iff.1 h
  obtain ⟨statements', compiler', hstatements', hcompiler', hcompile'⟩ := compile_eq_ok_iff.1 h'
  obtain ⟨-, -, catalog, -, hcatalog⟩ := Compiler.ofConfig_eq_ok_iff.1 hcompiler
  obtain ⟨-, -, catalog', -, hcatalog'⟩ := Compiler.ofConfig_eq_ok_iff.1 hcompiler'
  -- What selects the job stands in the one configuration of both jobs.
  have hagree : ∀ key, Text.hasLead "relflow." key = true → key ≠ statementsKey →
      config'.get? key = config.get? key := by
    intro key hlead hne
    rw [← Compiler.get?_config_of_compile hcatalog' hcompile' hlead hne, ← hconfig,
      Compiler.get?_config_of_compile hcatalog hcompile hlead hne]
  have hsingle : config'.get? statementKey = config.get? statementKey :=
    hagree statementKey (by decide) (by decide)
  have hsame : config'.statements = config.statements := by
    refine statements_congr hsingle fun hnone => ?_
    obtain ⟨text, htext⟩ := exists_list_of_statements hstatements hnone
    obtain ⟨text', htext'⟩ := exists_list_of_statements hstatements' (hsingle.trans hnone)
    rw [htext, htext', ← Compiler.get?_config_of_override hcompile htext,
      ← Compiler.get?_config_of_override hcompile' htext', hconfig]
  rw [hsame, hstatements] at hstatements'
  obtain rfl := Except.ok.inj hstatements'
  rw [Compiler.ofConfig_of_agree hagree hcompiler] at hcompiler'
  obtain rfl := Except.ok.inj hcompiler'
  exact Compiler.job_eq_of_plan_eq hcompile hcompile' rfl
    (fun _ _ => Resolver.SameSystems.refl compiler.resolver) hconfig hsummaries

end StreamPlan
