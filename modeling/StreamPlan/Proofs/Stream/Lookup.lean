import StreamPlan.Proofs.Stream.Registered

/-!
# Looking up streams

Systems are registered one after the other, and of several with one name the last counts. A name is
looked up by its segments: the first is the system, the others the stream within it. This file says what
comes out of that for every name in every role (`resolve_registerAll`).

- `find?_eq_none_iff`: a name is not found if it cannot be read, if it has one segment only, or if its
  system is not registered;
- `size_streamConfig`: the keys of a system and those of a stream never meet, so that the configuration
  of a resolved stream has as many entries as both together;
- `lookup_of_parse_eq`: blanks in a name are kept in what says where a stream comes from, and matter for
  nothing else.
-/

namespace StreamPlan

/-- What is resolved for a name in the system that the name starts with. -/
structure ResolvedIn (system : System) (name : String) (resolved : ResolvedStream) : Prop where
  /-- The name is kept as it was written. -/
  source_eq : resolved.source = name
  /-- The stream is bound to the physical name of the system. -/
  system_eq : resolved.system = system.physical
  /-- The stream within the system is what stands after the first segment of the name. -/
  stream_eq : resolved.stream = Text.join "." ((Text.split '.' name).map Text.trim).tail
  /-- The configuration has what the system needs and what the stream needs, and nothing else. -/
  get?_config (key value : String) : resolved.config.get? key = some value ↔
    (∃ rest, key = "systems." ++ system.physical ++ "." ++ rest ∧
      system.systemConfig.get? rest = some value) ∨
    ∃ rest, key = "streams." ++ resolved.stream ++ "." ++ rest ∧
      (system.properties resolved.stream).get? rest = some value
  /-- Nothing is needed both for the system and for the stream. -/
  keys_ne (rest rest' : String) :
    "systems." ++ system.physical ++ "." ++ rest ≠ "streams." ++ resolved.stream ++ "." ++ rest'
  /-- The entries of both are counted. -/
  size_config : resolved.config.size =
    system.systemConfig.size + (system.properties resolved.stream).size

namespace Catalog

/-- The catalog of systems that are registered in order. -/
def registerAll (systems : List System) : Catalog := systems.foldl register empty

/-- The last system of a name. -/
def lastNamed? (systems : List System) (name : String) : Option System :=
  systems.reverse.find? fun system => system.name = name

theorem get?_foldl_register (systems : List System) (catalog : Catalog) (name : String) :
    (systems.foldl register catalog).systems.get? name =
      (lastNamed? systems name).or (catalog.systems.get? name) := by
  induction systems generalizing catalog with
  | nil => rfl
  | cons system systems ih =>
    rw [List.foldl_cons, ih, register, SortedMap.get?_insert, lastNamed?, lastNamed?,
      List.reverse_cons, List.find?_append, Option.or_assoc]
    -- The first system is the last of the reversed list, and comes after what the catalog had.
    congr 1
    by_cases hname : name = system.name
    · simp [hname]
    · simp [hname, Ne.symm hname]

/-- Of several systems with one name the last is registered. -/
theorem get?_registerAll (systems : List System) (name : String) :
    (registerAll systems).systems.get? name = lastNamed? systems name := by
  rw [registerAll, get?_foldl_register, empty, SortedMap.get?_empty, Option.or_none]

variable {catalog : Catalog} {role : Role} {name other : String} {system : System}
  {resolved : ResolvedStream}

theorem find?_eq_none_iff :
    catalog.find? name = none ↔
      (∃ fault, TableName.parse name = .error fault) ∨
        ∃ parsed, TableName.parse name = .ok parsed ∧
          (parsed.segments.length = 1 ∨ catalog.systems.get? parsed.head = none) := by
  rw [find?]
  cases hparse : TableName.parse name with
  | error fault => simp
  | ok parsed =>
    -- A tail is empty only if there is none, since segments are not.
    by_cases hone : parsed.segments.length = 1
    · simp [hone, parsed.tail_eq_empty_iff.2 hone]
    · have htail : parsed.tail ≠ "" := fun h => hone (parsed.tail_eq_empty_iff.1 h)
      simp [hone, htail]

theorem lookup_eq_unresolved_iff :
    catalog.lookup role name = .error (.unresolvedStream name) ↔ catalog.find? name = none := by
  rw [lookup]
  cases catalog.find? name with
  | none => simp
  | some found =>
    obtain ⟨system, stream⟩ := found
    by_cases hrole : system.roles.allows role = true <;> simp [hrole]

theorem lookup_eq_roleMismatch_iff :
    catalog.lookup role name = .error (.roleMismatch name role) ↔
      ∃ system stream, catalog.find? name = some (system, stream) ∧
        system.roles.allows role = false := by
  rw [lookup]
  cases catalog.find? name with
  | none => simp
  | some found =>
    obtain ⟨system, stream⟩ := found
    by_cases hrole : system.roles.allows role = true <;> simp [hrole]

/-- A name is found if it has two segments at least and the first of them is a registered system. -/
theorem exists_find?_iff :
    (∃ stream, catalog.find? name = some (system, stream)) ↔
      ∃ parsed, TableName.parse name = .ok parsed ∧ 2 ≤ parsed.segments.length ∧
        catalog.systems.get? parsed.head = some system := by
  -- Only a name of one segment has an empty tail.
  have hlong (parsed : TableName) : parsed.tail ≠ "" ↔ 2 ≤ parsed.segments.length := by
    have hpos := List.length_pos_iff.2 parsed.nonempty
    rw [ne_eq, parsed.tail_eq_empty_iff]
    omega
  constructor
  · rintro ⟨stream, hfind⟩
    obtain ⟨parsed, hparse, rfl, htail, hsystem⟩ := find?_eq_some_iff.1 hfind
    exact ⟨parsed, hparse, (hlong parsed).1 htail, hsystem⟩
  · rintro ⟨parsed, hparse, hlength, hsystem⟩
    exact ⟨parsed.tail, find?_eq_some_iff.2
      ⟨parsed, hparse, rfl, (hlong parsed).2 hlength, hsystem⟩⟩

/-! ## What is found -/

theorem lead_keys_ne (lead : String) (config : Config) :
    (config.entries.map fun (key, value) => (lead ++ key, value)).Pairwise
      fun a b => a.1 ≠ b.1 := by
  rw [List.pairwise_map]
  refine config.sorted.keys_ne.imp fun hne heq => hne ?_
  exact (String.append_right_inj lead).1 heq

/-- What a stream needs has an entry for each value of the system and one for each property. -/
theorem size_streamConfig (system : System) (stream : String) :
    (streamConfig system stream).size = system.systemConfig.size + (system.properties stream).size := by
  rw [streamConfig, SortedMap.size_ofList]
  · rw [List.length_append, List.length_map, List.length_map]
    rfl
  · rw [List.pairwise_append]
    refine ⟨lead_keys_ne _ _, lead_keys_ne _ _, ?_⟩
    intro setting hsetting property hproperty
    obtain ⟨⟨rest, value⟩, -, rfl⟩ := List.mem_map.1 hsetting
    obtain ⟨⟨rest', value'⟩, -, rfl⟩ := List.mem_map.1 hproperty
    exact (streams_ne_systems stream system.physical rest' rest).symm

/-- What the catalog says about a name that it has found. -/
theorem resolvedIn_of_lookup {stream : String} (hfind : catalog.find? name = some (system, stream))
    (h : catalog.lookup role name = .ok resolved) : ResolvedIn system name resolved := by
  obtain ⟨found, stream, hfound, -, rfl⟩ := lookup_eq_ok_iff.1 h
  obtain ⟨rfl, rfl⟩ := Prod.mk.inj (Option.some.inj (hfind.symm.trans hfound))
  obtain ⟨parsed, hparse, rfl, -, -⟩ := find?_eq_some_iff.1 hfind
  refine ⟨rfl, rfl, ?_, ?_, ?_, size_streamConfig system parsed.tail⟩
  · rw [← TableName.parse_eq_ok_iff.1 hparse]
    rfl
  · intro key value
    rw [get?_streamConfig_eq_some_iff, or_comm]
  · intro rest rest'
    exact (streams_ne_systems parsed.tail system.physical rest' rest).symm

theorem isTable_of_lookup (h : catalog.lookup role name = .ok resolved) :
    resolved.isTable = catalog.isTable name := by
  obtain ⟨system, stream, hfind, -, rfl⟩ := lookup_eq_ok_iff.1 h
  rw [isTable, hfind]

/-- Names with the same segments are resolved to the same stream. -/
theorem lookup_of_parse_eq (hparse : TableName.parse name = TableName.parse other)
    (h : catalog.lookup role name = .ok resolved) :
    catalog.lookup role other = .ok { resolved with source := other } := by
  obtain ⟨system, stream, hfind, hrole, rfl⟩ := lookup_eq_ok_iff.1 h
  have hfind' : catalog.find? other = some (system, stream) := by
    rw [← hfind, find?, find?, hparse]
  exact lookup_eq_ok_iff.2 ⟨system, stream, hfind', hrole, rfl⟩

/-- What registered systems answer about a name in a role:

- no system claims a stream whose name cannot be read, has one segment only, or starts with a system that
  is not registered;
- a name that starts with a registered system can be refused for its role, and for nothing else;
- otherwise the name is resolved, to a table exactly if the resolver says that it is one;
- two names with the same segments are resolved to the same but for the name itself. -/
theorem resolve_registerAll (systems : List System) (name : String) (role : Role) :
    ((registerAll systems).resolver.resolve name role = .error (.unresolvedStream name) ↔
      (∃ fault, TableName.parse name = .error fault) ∨
        ∃ parsed, TableName.parse name = .ok parsed ∧
          (parsed.segments.length = 1 ∨ lastNamed? systems parsed.head = none)) ∧
    ((registerAll systems).resolver.resolve name role = .error (.roleMismatch name role) ↔
      ∃ parsed system, TableName.parse name = .ok parsed ∧ 2 ≤ parsed.segments.length ∧
        lastNamed? systems parsed.head = some system ∧ system.roles.allows role = false) ∧
    (∀ parsed system, TableName.parse name = .ok parsed → 2 ≤ parsed.segments.length →
      lastNamed? systems parsed.head = some system → system.roles.allows role = true →
      ∃ resolved, (registerAll systems).resolver.resolve name role = .ok resolved ∧
        ResolvedIn system name resolved ∧
        resolved.isTable = (registerAll systems).resolver.isTable name) ∧
    ∀ other parsed resolved, TableName.parse name = .ok parsed → TableName.parse other = .ok parsed →
      (registerAll systems).resolver.resolve name role = .ok resolved →
      (registerAll systems).resolver.resolve other role = .ok { resolved with source := other } := by
  simp only [resolve_resolver, ← get?_registerAll]
  refine ⟨?_, ?_, ?_, ?_⟩
  · rw [lookup_eq_unresolved_iff, find?_eq_none_iff]
  · rw [lookup_eq_roleMismatch_iff]
    constructor
    · rintro ⟨system, stream, hfind, hrole⟩
      obtain ⟨parsed, hparse, hlength, hsystem⟩ := exists_find?_iff.1 ⟨stream, hfind⟩
      exact ⟨parsed, system, hparse, hlength, hsystem, hrole⟩
    · rintro ⟨parsed, system, hparse, hlength, hsystem, hrole⟩
      obtain ⟨stream, hfind⟩ := exists_find?_iff.2 ⟨parsed, hparse, hlength, hsystem⟩
      exact ⟨system, stream, hfind, hrole⟩
  · intro parsed system hparse hlength hsystem hrole
    obtain ⟨stream, hfind⟩ := exists_find?_iff.2 ⟨parsed, hparse, hlength, hsystem⟩
    have hlookup := lookup_eq_ok_iff.2 ⟨system, stream, hfind, hrole, rfl⟩
    exact ⟨_, hlookup, resolvedIn_of_lookup hfind hlookup, isTable_of_lookup hlookup⟩
  · intro other parsed resolved hparse hother hlookup
    exact lookup_of_parse_eq (hparse.trans hother.symm) hlookup

/-- A system of metrics that is moved to another physical system, with a setting of its own and a
property of one stream. -/
def movedMetrics : System where
  name := "metrics"
  physical := "pulsar"
  systemConfig := .ofList [("url", "broker:6650")]
  streamConfig := .ofList [("cpu.load", .ofList [("offset", "oldest")])]

/-- The system of metrics is registered twice. Nothing can be read from the other system. -/
def metricSystems : List System :=
  [{ name := "metrics" }, movedMetrics, { name := "alerts", roles := .outputOnly }]

/-- Blanks in a name do not count, and the later of two systems does. -/
theorem resolve_registerAll_metricSystems :
    (∃ resolved,
      (registerAll metricSystems).resolver.resolve " metrics . cpu.load" .input = .ok resolved ∧
      (registerAll metricSystems).resolver.resolve "metrics.cpu.load" .input =
        .ok { resolved with source := "metrics.cpu.load" } ∧
      resolved.system = "pulsar" ∧ resolved.stream = "cpu.load" ∧ resolved.isTable = false ∧
      resolved.config.get? "streams.cpu.load.offset" = some "oldest" ∧ resolved.config.size = 2) ∧
    (registerAll metricSystems).resolver.resolve "alerts.page" .input =
      .error (.roleMismatch "alerts.page" .input) ∧
    (registerAll metricSystems).resolver.resolve "alerts" .input =
      .error (.unresolvedStream "alerts") := by
  refine ⟨?_, ?_, ?_⟩
  · let parsed : TableName := ⟨["metrics", "cpu", "load"], by decide, by decide⟩
    have hparse : TableName.parse " metrics . cpu.load" = .ok parsed :=
      TableName.parse_eq_ok_iff.2 (by decide +kernel)
    have hparse' : TableName.parse "metrics.cpu.load" = .ok parsed :=
      TableName.parse_eq_ok_iff.2 (by decide +kernel)
    obtain ⟨-, -, hfound, hsame⟩ := resolve_registerAll metricSystems " metrics . cpu.load" .input
    obtain ⟨resolved, hresolve, hin, htable⟩ :=
      hfound parsed movedMetrics hparse (by decide) rfl (by decide)
    have hstream : resolved.stream = "cpu.load" := hin.stream_eq.trans (by decide +kernel)
    have hproperty : (movedMetrics.properties resolved.stream).get? "offset" = some "oldest" := by
      rw [hstream]
      rfl
    refine ⟨resolved, hresolve, hsame _ parsed resolved hparse hparse' hresolve, hin.system_eq, hstream,
      htable.trans (by decide +kernel), ?_, ?_⟩
    · refine (hin.get?_config _ _).2 (.inr ⟨"offset", ?_, hproperty⟩)
      rw [hstream]
      decide
    · rw [hin.size_config, hstream]
      rfl
  · let parsed : TableName := ⟨["alerts", "page"], by decide, by decide⟩
    have hparse : TableName.parse "alerts.page" = .ok parsed :=
      TableName.parse_eq_ok_iff.2 (by decide +kernel)
    obtain ⟨-, hrefused, -, -⟩ := resolve_registerAll metricSystems "alerts.page" .input
    exact hrefused.2 ⟨parsed, { name := "alerts", roles := .outputOnly }, hparse, by decide, rfl, rfl⟩
  · let parsed : TableName := ⟨["alerts"], by decide, by decide⟩
    have hparse : TableName.parse "alerts" = .ok parsed :=
      TableName.parse_eq_ok_iff.2 (by decide +kernel)
    obtain ⟨hunknown, -, -, -⟩ := resolve_registerAll metricSystems "alerts" .input
    exact hunknown.2 (.inr ⟨parsed, hparse, .inl rfl⟩)

end Catalog

end StreamPlan
