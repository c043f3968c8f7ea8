import StreamPlan.Proofs.Job.Recompile

/-!
# What a compiled configuration holds

The configuration of a job is put together in layers. At the bottom is what the streams of the plan put
into it, one after the other and over each other; then come the statements and the class that runs the
job, and the overrides lie on top. `get?_config_eq` reads the value of every key off the layers, for
every compiler, whatever its resolver says about streams.

A stream puts its binding before its own entries, and streams that are read come before those that are
written, each in the order of their names. `ResolvedStream.contributions` and `lastContribution?` say this
as lists; `lastClaim?_eq_lastContribution?` ties them to what gathering the streams gives.
-/

namespace StreamPlan

/-- What a stream puts into a configuration, in order: its binding, and then its own entries. -/
def ResolvedStream.contributions (resolved : ResolvedStream) : List (String × String) :=
  (Config.bindingKey resolved.stream, resolved.system) :: resolved.config.entries

/-- The value of the last contribution to a key that some streams make, one after the other. -/
def lastContribution? (streams : List ResolvedStream) (key : String) : Option String :=
  ((streams.flatMap ResolvedStream.contributions).reverse.find? fun entry => entry.1 = key).map
    Prod.snd

/-- The last contribution of one stream is what it claims: an own entry, or else its binding. -/
theorem ResolvedStream.claim?_eq_find? (resolved : ResolvedStream) (key : String) :
    resolved.claim? key =
      (resolved.contributions.reverse.find? fun entry => entry.1 = key).map Prod.snd := by
  -- No own key occurs twice, so it does not matter from which end the own entries are searched.
  have hown : resolved.config.get? key =
      (resolved.config.entries.reverse.find? fun entry => entry.1 = key).map Prod.snd := by
    rw [← Entries.get?_eq_find?, Entries.get?_reverse resolved.config.sorted.keys_ne]
    rfl
  rw [claim?, contributions, List.reverse_cons, List.find?_append, Option.map_or, ← hown]
  congr 1
  by_cases hkey : key = Config.bindingKey resolved.stream
  · simp [hkey]
  · simp [hkey, Ne.symm hkey]

/-- Of several streams the last one with a claim makes the last contribution. -/
theorem lastClaim?_eq_lastContribution? (streams : List ResolvedStream) (key : String) :
    lastClaim? streams key = lastContribution? streams key := by
  induction streams with
  | nil => rfl
  | cons first rest ih =>
    rw [lastClaim?, ih, first.claim?_eq_find?, lastContribution?, lastContribution?, List.flatMap_cons,
      List.reverse_append, List.find?_append, Option.map_or]

namespace Resolver

variable {resolver : Resolver} {roles : StreamRoles} {resolution : Resolution}

/-- What a resolution of roles has under a name is what the resolver says about it. -/
theorem resolve_eq_of_get? (h : resolver.resolveRoles roles = .ok resolution) {role : Role}
    {name : String} {resolved : ResolvedStream} (hget : resolution.get? name role = some resolved) :
    (roles.names role).contains name = true ∧ resolver.resolve name role = .ok resolved := by
  rw [get?_resolveRoles h] at hget
  split at hget
  · rename_i hname
    exact ⟨hname, toOption_eq_some_iff.1 hget⟩
  · cases hget

/-- The streams of a resolution in a role are the answers of the resolver for the names in that role, in
the order of the names. -/
theorem map_resolve_keys (h : resolver.resolveRoles roles = .ok resolution) (role : Role)
    (streams : SortedMap ResolvedStream)
    (hstreams : ∀ name, streams.get? name = resolution.get? name role) :
    ((roles.names role).keys.map fun name => resolver.resolve name role) = streams.values.map .ok := by
  -- Exactly the names in the role have a stream.
  have hkeys : (roles.names role).keys = streams.keys := by
    apply SortedMap.keys_eq_of_contains
    intro name
    rw [@SortedMap.contains_iff _ streams, hstreams]
    constructor
    · exact exists_get?_of_resolveRoles h
    · rintro ⟨resolved, hget⟩
      exact (resolve_eq_of_get? h hget).1
  rw [hkeys]
  apply SortedMap.map_keys_eq_map_values
  intro name resolved hget
  exact (resolve_eq_of_get? h (hstreams name ▸ hget)).2

end Resolver

/-- A job that was compiled has one stream for each name that its plan reads or writes, as the resolver
has answered. The value of a key in its configuration is the first that there is of these: that of the
overrides, the class that runs the job under its key, the list of statements under its key, and the last
contribution that the streams make to the key, those that are read before those that are written and
each in the order of their names. A key for which there is none of these is absent. -/
theorem get?_config_eq {compiler : Compiler} {statements : List String} {overrides : Config} {mode : Mode}
    {job : Job} (h : compiler.compile statements overrides mode = .ok job) :
    ∃ plan inputs outputs, compiler.plan statements = .ok plan ∧ plan.roles = .ok job.roles ∧
      job.roles.inputs.keys.map compiler.resolver.input = inputs.map .ok ∧
      job.roles.outputs.keys.map compiler.resolver.output = outputs.map .ok ∧
      ∀ key, job.config.get? key =
        (overrides.get? key).or
          (if key = Config.runnerKey then some mode.name
          else if key = Config.statementsKey then some (Config.statementsText statements)
          else lastContribution? (inputs ++ outputs) key) := by
  obtain ⟨plan, resolution, config, hplan, hroles, hres, hsnap, -, -, hconfig⟩ :=
    Compiler.compile_eq_ok_iff.1 h
  have hinputs : job.roles.inputs.keys.map compiler.resolver.input = resolution.inputs.values.map .ok :=
    Resolver.map_resolve_keys hres .input resolution.inputs fun _ => rfl
  have houtputs : job.roles.outputs.keys.map compiler.resolver.output =
      resolution.outputs.values.map .ok :=
    Resolver.map_resolve_keys hres .output resolution.outputs fun _ => rfl
  refine ⟨plan, resolution.inputs.values, resolution.outputs.values, hplan, hroles, hinputs, houtputs, ?_⟩
  intro key
  rw [← hconfig, SortedMap.get?_overlay, Compiler.get?_snapshot hsnap, Compiler.synthesized?,
    lastClaim?_eq_lastContribution?, Resolution.all]

/-- A stream that is read. One of its entries spells the key of the class that runs the job. -/
def fleetPositions : ResolvedStream :=
  ⟨"fleet.positions", "cars", "positions", false, .ofList [("app.runner.class", "own"), ("retries", "1")]⟩

/-- A stream that is written. One of its entries spells its own binding. -/
def fleetJournal : ResolvedStream :=
  ⟨"fleet.journal", "cars", "journal", false,
    .ofList [("retries", "2"), ("streams.journal.samza.system", "depot")]⟩

/-- A compiler that knows one plan and two streams. -/
def fleetCompiler : Compiler where
  converter := ⟨Converter.defaultSeparator, fun _ => .ok [
    .write ⟨["fleet", "journal"], by decide, by decide⟩ .insert
      (.scan (some ⟨["fleet", "positions"], by decide, by decide⟩))]⟩
  resolver := ⟨fun _ => .ok fleetPositions, fun _ => .ok fleetJournal, fun _ => false⟩

/-- The written stream comes after the read one, its own entry after its binding, the class of the mode
over both, and an override over everything. -/
theorem get?_config_eq_fleet :
    ∃ job, fleetCompiler.compile ["keep"] (.ofList [("streams.positions.samza.system", "trucks")])
        .inProcess = .ok job ∧
      job.config.get? "retries" = some "2" ∧
      job.config.get? "streams.journal.samza.system" = some "depot" ∧
      job.config.get? "app.runner.class" = some "local" ∧
      job.config.get? "relflow.sql.stmts.json" = some "[\"keep\"]" ∧
      job.config.get? "streams.positions.samza.system" = some "trucks" ∧
      job.config.get? "app.name" = none := by
  have hrun : (fleetCompiler.compile ["keep"] (.ofList [("streams.positions.samza.system", "trucks")])
      .inProcess).toOption.isSome = true := by decide +kernel
  obtain ⟨job, hjob⟩ := Option.isSome_iff_exists.1 hrun
  have h := toOption_eq_some_iff.1 hjob
  obtain ⟨plan, inputs, outputs, hplan, hroles, hinputs, houtputs, hconfig⟩ := get?_config_eq h
  obtain rfl := Except.ok.inj hplan
  rw [← Except.ok.inj hroles] at hinputs houtputs
  obtain rfl : [fleetPositions] = inputs := (List.map_inj_right fun _ _ => Except.ok.inj).1 hinputs
  obtain rfl : [fleetJournal] = outputs := (List.map_inj_right fun _ _ => Except.ok.inj).1 houtputs
  refine ⟨job, h, ?_, ?_, ?_, ?_, ?_, ?_⟩ <;> rw [hconfig] <;> decide +kernel

end StreamPlan
