import StreamPlan.Proofs.Job.Conflict

/-!
# What gathering keeps

Whatever a stream needs is put under a key, over what an earlier stream has put there. Only the binding of
a stream is compared with what stands under its key, so every other value is replaced without notice: the
values of two systems that share a physical name, or properties that spell the same key.

`merged_keeps_iff` says what is kept. No key that a stream needs is missing and no value is made up, and
nothing is lost exactly if the registrations are compatible.
-/

namespace StreamPlan

/-- What a stream needs under a key: its system under its binding, and the values of its own keys. -/
def ResolvedStream.Needs (resolved : ResolvedStream) (key value : String) : Prop :=
  resolved.binding = (key, value) ∨ resolved.config.get? key = some value

namespace Catalog

/-- The values that a catalog has for the system of a stream. -/
def settings (catalog : Catalog) (resolved : ResolvedStream) : Config :=
  match catalog.find? resolved.source with
  | some (system, _) => system.systemConfig
  | none => SortedMap.empty

/-- Registrations that say the same of streams wherever they are written under the same key. -/
structure Compatible (catalog : Catalog) (streams : List ResolvedStream) : Prop where
  /-- Values of systems agree. Two systems may share a physical name. -/
  settings_agree : ∀ first ∈ streams, ∀ second ∈ streams,
    ∀ setting ∈ (catalog.settings first).entries, ∀ setting' ∈ (catalog.settings second).entries,
      first.system ++ "." ++ setting.1 = second.system ++ "." ++ setting'.1 →
        setting.2 = setting'.2
  /-- Properties of streams agree. -/
  properties_agree : ∀ first ∈ streams, ∀ second ∈ streams,
    ∀ property ∈ (catalog.properties first).entries,
      ∀ property' ∈ (catalog.properties second).entries,
        first.stream ++ "." ++ property.1 = second.stream ++ "." ++ property'.1 →
          property.2 = property'.2
  /-- A property that spells the binding of a stream has the system of that stream. -/
  bindings_agree : ∀ first ∈ streams, ∀ second ∈ streams,
    ∀ property ∈ (catalog.properties first).entries,
      first.stream ++ "." ++ property.1 = second.stream ++ ".samza.system" →
        property.2 = second.system

variable {catalog : Catalog} {role : Role} {name key value : String} {resolved : ResolvedStream}

/-- The own keys of a stream are its properties and the values of its system. -/
theorem get?_config_of_lookup (hlookup : catalog.lookup role name = .ok resolved) :
    resolved.config.get? key = some value ↔
      (∃ property ∈ (catalog.properties resolved).entries,
        key = "streams." ++ resolved.stream ++ "." ++ property.1 ∧ property.2 = value) ∨
      (∃ setting ∈ (catalog.settings resolved).entries,
        key = "systems." ++ resolved.system ++ "." ++ setting.1 ∧ setting.2 = value) := by
  obtain ⟨system, stream, hfind, -, rfl⟩ := lookup_eq_ok_iff.1 hlookup
  -- Looking a key up below a lead and finding an entry for it are the same.
  have hentry (config : Config) (lead : String) :
      (∃ rest, key = lead ++ rest ∧ config.get? rest = some value) ↔
        ∃ entry ∈ config.entries, key = lead ++ entry.1 ∧ entry.2 = value := by
    simp [SortedMap.get?_eq_some_iff_mem, and_comm]
  simp only [properties, settings, hfind]
  rw [get?_streamConfig_eq_some_iff, hentry, hentry]

/-- What a stream of a catalog needs: its binding, its properties and the values of its system. -/
theorem needs_iff_of_lookup (hlookup : catalog.lookup role name = .ok resolved) :
    resolved.Needs key value ↔
      (key = Config.bindingKey resolved.stream ∧ resolved.system = value) ∨
      (∃ property ∈ (catalog.properties resolved).entries,
        key = "streams." ++ resolved.stream ++ "." ++ property.1 ∧ property.2 = value) ∨
      (∃ setting ∈ (catalog.settings resolved).entries,
        key = "systems." ++ resolved.system ++ "." ++ setting.1 ∧ setting.2 = value) := by
  rw [ResolvedStream.Needs, get?_config_of_lookup hlookup, ResolvedStream.binding, Prod.mk.injEq,
    @eq_comm _ _ key]

/-- Keys under one lead agree if they agree after it. -/
theorem append_lead_inj {lead first second rest rest' : String} :
    lead ++ first ++ "." ++ rest = lead ++ second ++ "." ++ rest' ↔
      first ++ "." ++ rest = second ++ "." ++ rest' := by
  simp only [String.append_assoc, String.append_right_inj]

end Catalog

/-! ## Keeping and agreeing -/

/-- Streams that need no key for two values. -/
def Agree (streams : List ResolvedStream) : Prop :=
  ∀ first ∈ streams, ∀ second ∈ streams, ∀ key value value',
    first.Needs key value → second.Needs key value' → value = value'

namespace ResolvedStream

variable {resolved : ResolvedStream} {key value : String}

theorem needs_of_claim? (h : resolved.claim? key = some value) : resolved.Needs key value := by
  rw [claim?, Option.or_eq_some_iff] at h
  rcases h with hown | ⟨-, hbinding⟩
  · exact .inr hown
  · split at hbinding
    · rename_i hkey
      obtain rfl := Option.some.inj hbinding
      exact .inl (by rw [binding, hkey])
    · cases hbinding

theorem exists_claim?_of_needs (h : resolved.Needs key value) :
    ∃ claimed, resolved.claim? key = some claimed := by
  rcases h with hbinding | hown
  · obtain ⟨rfl, rfl⟩ := Prod.mk.inj hbinding
    exact resolved.exists_claim?_bindingKey
  · exact ⟨value, by rw [claim?, hown, Option.some_or]⟩

end ResolvedStream

namespace Resolution

variable {resolution : Resolution} {merged : Config} {key value : String}

/-- Nothing is made up. -/
theorem exists_needs_of_merged (h : resolution.merged = .ok merged)
    (hvalue : merged.get? key = some value) :
    ∃ resolved ∈ resolution.all, resolved.Needs key value := by
  rw [get?_merged h] at hvalue
  obtain ⟨resolved, hmem, hclaim⟩ := exists_claim_of_lastClaim? hvalue
  exact ⟨resolved, hmem, ResolvedStream.needs_of_claim? hclaim⟩

/-- No key is missing. -/
theorem exists_merged_of_needs (h : resolution.merged = .ok merged) {resolved : ResolvedStream}
    (hmem : resolved ∈ resolution.all) (hneeds : resolved.Needs key value) :
    ∃ kept, merged.get? key = some kept := by
  obtain ⟨claimed, hclaim⟩ := ResolvedStream.exists_claim?_of_needs hneeds
  rw [get?_merged h]
  exact exists_lastClaim?_of_claim? hmem hclaim

/-- Everything is kept exactly if no key is needed for two values. -/
theorem keeps_iff_agree (h : resolution.merged = .ok merged) :
    (∀ resolved ∈ resolution.all, ∀ key value, resolved.Needs key value →
        merged.get? key = some value) ↔ Agree resolution.all := by
  constructor
  · intro hkeeps first hfirst second hsecond key value value' hneeds hneeds'
    have hvalue := hkeeps first hfirst key value hneeds
    rw [hkeeps second hsecond key value' hneeds'] at hvalue
    exact (Option.some.inj hvalue).symm
  · intro hagree resolved hmem key value hneeds
    -- Some stream needs the value that was kept, and it needs no other than this one does.
    obtain ⟨kept, hkept⟩ := exists_merged_of_needs h hmem hneeds
    obtain ⟨keeper, hkeeper, hneeds'⟩ := exists_needs_of_merged h hkept
    rw [hkept, hagree resolved hmem keeper hkeeper key value kept hneeds hneeds']

end Resolution

section Compatible

variable {catalog : Catalog} {streams : List ResolvedStream}

/-- Each kind of clash between registrations is a key that two streams need. -/
theorem compatible_of_agree
    (hlookup : ∀ resolved ∈ streams, ∃ role name, catalog.lookup role name = .ok resolved)
    (hagree : Agree streams) : catalog.Compatible streams := by
  have hsetting : ∀ resolved ∈ streams, ∀ setting ∈ (catalog.settings resolved).entries,
      resolved.Needs ("systems." ++ resolved.system ++ "." ++ setting.1) setting.2 := by
    intro resolved hmem setting hentry
    obtain ⟨role, name, hfound⟩ := hlookup resolved hmem
    exact (Catalog.needs_iff_of_lookup hfound).2 (.inr (.inr ⟨setting, hentry, rfl, rfl⟩))
  have hproperty : ∀ resolved ∈ streams, ∀ property ∈ (catalog.properties resolved).entries,
      resolved.Needs ("streams." ++ resolved.stream ++ "." ++ property.1) property.2 := by
    intro resolved hmem property hentry
    obtain ⟨role, name, hfound⟩ := hlookup resolved hmem
    exact (Catalog.needs_iff_of_lookup hfound).2 (.inr (.inl ⟨property, hentry, rfl, rfl⟩))
  -- For each rule: if the two spell the same key, both streams need it, and so for one value.
  constructor
  · intro first hfirst second hsecond setting hentry setting' hentry' hkey
    have hneeds' := hsetting second hsecond setting' hentry'
    rw [← Catalog.append_lead_inj.2 hkey] at hneeds'
    exact hagree first hfirst second hsecond _ _ _ (hsetting first hfirst setting hentry) hneeds'
  · intro first hfirst second hsecond property hentry property' hentry' hkey
    have hneeds' := hproperty second hsecond property' hentry'
    rw [← Catalog.append_lead_inj.2 hkey] at hneeds'
    exact hagree first hfirst second hsecond _ _ _ (hproperty first hfirst property hentry) hneeds'
  · intro first hfirst second hsecond property hentry hkey
    have hneeds := hproperty first hfirst property hentry
    rw [← Config.bindingKey_eq_append_iff.2 hkey] at hneeds
    exact hagree first hfirst second hsecond _ _ _ hneeds (.inl rfl)

/-- Compatible streams that can be gathered are on one system for each name. -/
theorem system_eq_of_compatible
    (hlookup : ∀ resolved ∈ streams, ∃ role name, catalog.lookup role name = .ok resolved)
    (hcons : Consistent streams) (hcompatible : catalog.Compatible streams) :
    ∀ first ∈ streams, ∀ second ∈ streams, first.stream = second.stream →
      first.system = second.system := by
  -- Bindings that properties spell agree with the systems, which is all that is needed to compare
  -- claims.
  refine (consistent_iff_of_own ?_).1 hcons
  intro resolved hmem other hother value hvalue
  obtain ⟨role, name, hfound⟩ := hlookup resolved hmem
  rcases (Catalog.get?_config_of_lookup hfound).1 hvalue with
    ⟨property, hproperty, hkey, rfl⟩ | ⟨setting, -, hkey, -⟩
  · exact hcompatible.bindings_agree resolved hmem other hother property hproperty
      (Config.bindingKey_eq_append_iff.1 hkey)
  · exact absurd hkey (Config.bindingKey_ne_append _ _ _)

theorem agree_of_compatible
    (hlookup : ∀ resolved ∈ streams, ∃ role name, catalog.lookup role name = .ok resolved)
    (hcons : Consistent streams) (hcompatible : catalog.Compatible streams) : Agree streams := by
  intro first hfirst second hsecond key value value' hneeds hneeds'
  obtain ⟨role, name, hfound⟩ := hlookup first hfirst
  obtain ⟨role', name', hfound'⟩ := hlookup second hsecond
  -- A key of a system is none of a stream, so that two needs of one key are of the same kind, or a
  -- property spells a binding.
  rcases (Catalog.needs_iff_of_lookup hfound).1 hneeds with
    ⟨rfl, rfl⟩ | ⟨property, hproperty, rfl, rfl⟩ | ⟨setting, hsetting, rfl, rfl⟩
  · rcases (Catalog.needs_iff_of_lookup hfound').1 hneeds' with
      ⟨hkey, rfl⟩ | ⟨property', hproperty', hkey, rfl⟩ | ⟨setting', -, hkey, -⟩
    · exact system_eq_of_compatible hlookup hcons hcompatible first hfirst second hsecond
        (Config.bindingKey_inj.1 hkey)
    · exact (hcompatible.bindings_agree second hsecond first hfirst property' hproperty'
        (Config.bindingKey_eq_append_iff.1 hkey)).symm
    · exact absurd hkey (Config.bindingKey_ne_append _ _ _)
  · rcases (Catalog.needs_iff_of_lookup hfound').1 hneeds' with
      ⟨hkey, rfl⟩ | ⟨property', hproperty', hkey, rfl⟩ | ⟨setting', -, hkey, -⟩
    · exact hcompatible.bindings_agree first hfirst second hsecond property hproperty
        (Config.bindingKey_eq_append_iff.1 hkey.symm)
    · exact hcompatible.properties_agree first hfirst second hsecond property hproperty property'
        hproperty' (Catalog.append_lead_inj.1 hkey)
    · exact absurd hkey (Catalog.streams_ne_systems _ _ _ _)
  · rcases (Catalog.needs_iff_of_lookup hfound').1 hneeds' with
      ⟨hkey, -⟩ | ⟨property', -, hkey, -⟩ | ⟨setting', hsetting', hkey, rfl⟩
    · exact absurd hkey.symm (Config.bindingKey_ne_append _ _ _)
    · exact absurd hkey.symm (Catalog.streams_ne_systems _ _ _ _)
    · exact hcompatible.settings_agree first hfirst second hsecond setting hsetting setting'
        hsetting' (Catalog.append_lead_inj.1 hkey)

end Compatible

/-- When the needs of the streams of a catalog have been gathered, every key that a stream needs has a
value that some stream needs under it, and there are no others. All values are kept exactly if the
registrations of the streams are compatible: systems of one physical name, properties, and properties and
bindings say the same where they are spelled the same. -/
theorem merged_keeps_iff {catalog : Catalog} {roles : StreamRoles} {resolution : Resolution}
    {merged : Config} (hres : catalog.resolver.resolveRoles roles = .ok resolution)
    (hmerged : resolution.merged = .ok merged) :
    (∀ resolved ∈ resolution.all, ∀ key value, resolved.Needs key value →
        ∃ kept, merged.get? key = some kept) ∧
      (∀ key kept, merged.get? key = some kept →
        ∃ resolved ∈ resolution.all, resolved.Needs key kept) ∧
      ((∀ resolved ∈ resolution.all, ∀ key value, resolved.Needs key value →
          merged.get? key = some value) ↔ catalog.Compatible resolution.all) := by
  have hcons : Consistent resolution.all :=
    Resolution.exists_foldlM_addStream_iff.1 ⟨merged, hmerged⟩
  refine ⟨?_, ?_, ?_⟩
  · intro resolved hmem key value hneeds
    exact Resolution.exists_merged_of_needs hmerged hmem hneeds
  · intro key kept hkept
    exact Resolution.exists_needs_of_merged hmerged hkept
  · have hlookup : ∀ resolved ∈ resolution.all, ∃ role name,
        catalog.lookup role name = .ok resolved :=
      fun resolved hmem => Catalog.mem_all_of_resolveRoles hres hmem
    rw [Resolution.keeps_iff_agree hmerged]
    exact ⟨compatible_of_agree hlookup, agree_of_compatible hlookup hcons⟩

/-- Systems `a` and `b` that are one physical system, each with an address for it. -/
def sharedBrokers (address address' : String) : Catalog :=
  (Catalog.empty.register (System.addSystemKey ⟨"a", "kafka", .both, .stream, .empty, .empty⟩
    "bootstrap" address)).register (System.addSystemKey
      ⟨"b", "kafka", .both, .stream, .empty, .empty⟩ "bootstrap" address')

/-- Of two addresses for one physical system the first is lost without an error. -/
theorem merged_of_lost_setting :
    ∃ resolution merged,
      (sharedBrokers "x" "y").resolver.resolveRoles (eventRoles "b.orders") = .ok resolution ∧
      resolution.merged = .ok merged ∧
      ∃ resolved ∈ resolution.all, resolved.Needs "systems.kafka.bootstrap" "x" ∧
        merged.get? "systems.kafka.bootstrap" = some "y" := by
  refine ⟨_, _, rfl, rfl, _, List.mem_cons_self, .inr ?_, ?_⟩
  · decide +kernel
  · decide +kernel

/-- Nothing is lost if both say the same. -/
theorem merged_keeps_iff_sharedBrokers :
    ∃ resolution merged,
      (sharedBrokers "x" "x").resolver.resolveRoles (eventRoles "b.orders") = .ok resolution ∧
      resolution.merged = .ok merged ∧ resolution.all.length = 2 ∧
      (sharedBrokers "x" "x").Compatible resolution.all ∧
      ∀ resolved ∈ resolution.all, ∀ key value, resolved.Needs key value →
        merged.get? key = some value := by
  have hres : (sharedBrokers "x" "x").resolver.resolveRoles (eventRoles "b.orders") = .ok _ := rfl
  refine ⟨_, _, hres, rfl, rfl, ?compatible, (merged_keeps_iff hres rfl).2.2.2 ?compatible⟩
  exact ⟨by decide +kernel, by decide +kernel, by decide +kernel⟩

end StreamPlan
