import StreamPlan.Proofs.Config.Subset
import StreamPlan.Proofs.Stream.Resolution

/-!
# Catalogs of systems

What a catalog answers about a stream, and what of a configuration a catalog is made of.

- `get?_streamConfig`: what a stream needs is its properties, under its own name, and the values of its
  system, under the physical name;
- `mem_all_of_resolveRoles`: every stream of resolved roles is an answer of the catalog;
- `ofConfig_congr`: the catalog of a configuration depends on the list of systems and on the keys of
  the listed systems, and on nothing else.
-/

namespace StreamPlan

namespace Catalog

/-- The properties that a catalog has for a stream. -/
def properties (catalog : Catalog) (resolved : ResolvedStream) : Config :=
  match catalog.find? resolved.source with
  | some (system, stream) => system.properties stream
  | none => SortedMap.empty

variable {catalog : Catalog} {role : Role} {name : String} {resolved : ResolvedStream}

theorem lookup_eq_ok_iff :
    catalog.lookup role name = .ok resolved ↔
      ∃ system stream, catalog.find? name = some (system, stream) ∧
        system.roles.allows role = true ∧
        resolved = ⟨name, system.physical, stream, decide (system.kind = .table),
          streamConfig system stream⟩ := by
  rw [lookup]
  constructor
  · intro h
    split at h
    · cases h
    · rename_i system stream hfind
      split at h
      · rename_i hrole
        exact ⟨system, stream, hfind, hrole, (Except.ok.inj h).symm⟩
      · cases h
  · rintro ⟨system, stream, hfind, hrole, rfl⟩
    simp [hfind, hrole]

theorem resolve_resolver : catalog.resolver.resolve name role = catalog.lookup role name := by
  cases role <;> rfl

/-- Every stream of resolved roles is what the catalog says about some name in some role. -/
theorem mem_all_of_resolveRoles {roles : StreamRoles} {resolution : Resolution}
    (hres : catalog.resolver.resolveRoles roles = .ok resolution) (hmem : resolved ∈ resolution.all) :
    ∃ role name, catalog.lookup role name = .ok resolved := by
  obtain ⟨role, name, hget⟩ := Resolution.mem_all_iff.1 hmem
  rw [Resolver.get?_resolveRoles hres, resolve_resolver] at hget
  split at hget
  · exact ⟨role, name, toOption_eq_some_iff.1 hget⟩
  · cases hget

/-- The properties of a stream stand under `streams.`, the values of its system under `systems.`. -/
theorem get?_streamConfig (system : System) (stream key : String) :
    (streamConfig system stream).get? key =
      ((Text.stripLead? ("streams." ++ stream ++ ".") key).bind (system.properties stream).get?).or
      ((Text.stripLead? ("systems." ++ system.physical ++ ".") key).bind
        system.systemConfig.get?) := by
  -- The properties are put in last, so they are looked up first.
  rw [streamConfig, SortedMap.get?_ofList, List.reverse_append, Entries.get?_append,
    ← List.map_reverse, ← List.map_reverse, Entries.get?_map_lead, Entries.get?_map_lead]
  congr 2
  · funext rest
    exact Entries.get?_reverse (SortedMap.sorted _).keys_ne rest
  · funext rest
    exact Entries.get?_reverse (SortedMap.sorted _).keys_ne rest

/-- No key is that of a stream and that of a system. -/
theorem not_hasLead_systems {key : String} (h : Text.hasLead "streams." key = true) :
    ¬Text.hasLead "systems." key = true := by
  intro h'
  exact absurd (Text.eq_of_hasLead h h' (by decide)) (by decide)

theorem hasLead_append (lead name rest : String) :
    Text.hasLead lead (lead ++ name ++ "." ++ rest) = true := by
  rw [String.append_assoc, String.append_assoc]
  exact Text.hasLead_iff.2 ⟨_, rfl⟩

theorem streams_ne_systems (stream system rest rest' : String) :
    "streams." ++ stream ++ "." ++ rest ≠ "systems." ++ system ++ "." ++ rest' := by
  intro hkey
  exact not_hasLead_systems (hasLead_append "streams." stream rest)
    (hkey ▸ hasLead_append "systems." system rest')

/-- What a stream needs: its properties and the values of its system. -/
theorem get?_streamConfig_eq_some_iff {system : System} {stream key value : String} :
    (streamConfig system stream).get? key = some value ↔
      (∃ rest, key = "streams." ++ stream ++ "." ++ rest ∧
        (system.properties stream).get? rest = some value) ∨
      (∃ rest, key = "systems." ++ system.physical ++ "." ++ rest ∧
        system.systemConfig.get? rest = some value) := by
  rw [get?_streamConfig, Option.or_eq_some_iff]
  simp only [Option.bind_eq_some_iff, Text.stripLead?_eq_some_iff]
  refine or_congr_right (and_iff_right_of_imp ?_)
  -- A key of a system is none of a stream, so that no property hides the value.
  rintro ⟨rest, rfl, -⟩
  rw [Option.eq_none_iff_forall_ne_some]
  intro hidden hvalue
  obtain ⟨rest', hstrip, -⟩ := Option.bind_eq_some_iff.1 hvalue
  exact streams_ne_systems stream system.physical rest' rest (Text.stripLead?_eq_some_iff.1 hstrip).symm

/-- A stream needs no keys but those of streams and those of systems. -/
theorem hasLead_of_get?_streamConfig {system : System} {stream key value : String}
    (h : (streamConfig system stream).get? key = some value) :
    Text.hasLead "streams." key = true ∨ Text.hasLead "systems." key = true := by
  rcases get?_streamConfig_eq_some_iff.1 h with ⟨rest, rfl, -⟩ | ⟨rest, rfl, -⟩
  · exact .inl (hasLead_append _ _ _)
  · exact .inr (hasLead_append _ _ _)

section OfConfig

variable {config other : Config}

theorem registerListed_congr {names : List String}
    (hkeys : ∀ name ∈ names, systemKeys config name = systemKeys other name) (catalog : Catalog) :
    registerListed config catalog names = registerListed other catalog names := by
  induction names generalizing catalog with
  | nil => rfl
  | cons name names ih =>
    rw [registerListed, registerListed, hkeys name List.mem_cons_self]
    cases System.ofKeys name (systemKeys other name) with
    | error fault => rfl
    | ok system => exact ih (fun later hlater => hkeys later (List.mem_cons_of_mem _ hlater)) _

/-- The catalog depends only on the list of systems and on the keys of the systems in it. -/
theorem ofConfig_congr (hlist : config.get? Config.systemsKey = other.get? Config.systemsKey)
    (hkeys : ∀ name ∈ config.list Config.systemsKey, ∀ rest,
      config.get? (Config.systemLead ++ name ++ "." ++ rest) =
        other.get? (Config.systemLead ++ name ++ "." ++ rest)) :
    ofConfig config = ofConfig other := by
  have hnames : config.list Config.systemsKey = other.list Config.systemsKey := by
    rw [Config.list, Config.list, hlist]
  rw [ofConfig, ofConfig, ← hnames]
  exact registerListed_congr (fun name hname => Config.subset_congr (hkeys name hname)) empty

end OfConfig

end Catalog

namespace Registry

/-- The only resolver of the standard registry is the catalog of a configuration. -/
theorem create_standard_eq_ok_iff {config : Config} {resolver : Resolver} :
    standard.create config = .ok resolver ↔
      Text.trim (config.getOr Config.resolverKey defaultName) = defaultName ∧
        ∃ catalog, Catalog.ofConfig config = .ok catalog ∧ catalog.resolver = resolver := by
  -- There is a maker for one name only.
  have hmakers : ∀ name, standard.makers.get? name =
      if name = defaultName then some makeCatalog else none := fun name => by
    rw [standard, register, SortedMap.get?_insert, empty, SortedMap.get?_empty]
  rw [create, hmakers]
  by_cases hname : Text.trim (config.getOr Config.resolverKey defaultName) = defaultName
  · rw [hname, if_pos rfl, and_iff_right rfl]
    exact map_eq_ok_iff
  · rw [if_neg hname]
    exact ⟨fun h => (nomatch h), fun h => absurd h.1 hname⟩

end Registry

end StreamPlan
