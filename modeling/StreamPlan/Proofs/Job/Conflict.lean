import Mathlib.Data.List.Induction
import Mathlib.Tactic.Push
import StreamPlan.Proofs.Job.Merged
import StreamPlan.Proofs.Stream.Catalog

/-!
# Conflicts between systems

Streams of one name on two systems cannot both be bound, and gathering what streams need is to find
them. A stream is compared with what stands under its binding, though, and a property of a stream may
spell a binding too: it can hide a conflict from the streams that follow, or feign one.

`merged_of_resolveRoles` says exactly when gathering fails. It fails where it should, and nowhere else,
whenever no property of a stream spells the binding of a stream to another system.
-/

namespace StreamPlan

theorem Config.bindingKey_inj {stream stream' : String} :
    bindingKey stream = bindingKey stream' ↔ stream = stream' := by
  rw [bindingKey, bindingKey, String.append_left_inj, String.append_right_inj]

/-- A property spells a binding if they agree after the lead of streams. -/
theorem Config.bindingKey_eq_append_iff {stream stream' rest : String} :
    bindingKey stream' = "streams." ++ stream ++ "." ++ rest ↔
      stream ++ "." ++ rest = stream' ++ ".samza.system" := by
  rw [bindingKey, eq_comm]
  simp only [String.append_assoc, String.append_right_inj]

/-- The values of systems stand elsewhere than bindings. -/
theorem Config.bindingKey_ne_append (stream system rest : String) :
    bindingKey stream ≠ "systems." ++ system ++ "." ++ rest := by
  intro hkey
  have hlead : Text.hasLead "streams." (bindingKey stream) = true := by
    rw [bindingKey, String.append_assoc]
    exact Text.hasLead_iff.2 ⟨_, rfl⟩
  exact Catalog.not_hasLead_systems hlead (hkey ▸ Catalog.hasLead_append "systems." system rest)

/-- Some name is that of streams on two systems. -/
def Resolution.OnTwoSystems (resolution : Resolution) : Prop :=
  ∃ first ∈ resolution.all, ∃ second ∈ resolution.all,
    first.stream = second.stream ∧ first.system ≠ second.system

instance (resolution : Resolution) : Decidable resolution.OnTwoSystems :=
  inferInstanceAs (Decidable (∃ first ∈ resolution.all, ∃ second ∈ resolution.all,
    first.stream = second.stream ∧ first.system ≠ second.system))

namespace ResolvedStream

variable {resolved : ResolvedStream} {stream value : String}

/-- A binding is claimed by a key that spells it or by a stream of its name. -/
theorem own_or_same_of_claim? (h : resolved.claim? (Config.bindingKey stream) = some value) :
    resolved.config.get? (Config.bindingKey stream) = some value ∨
      resolved.stream = stream ∧ resolved.system = value := by
  rw [claim?, Option.or_eq_some_iff] at h
  rcases h with hown | ⟨-, hbinding⟩
  · exact .inl hown
  · split at hbinding
    · rename_i hkey
      exact .inr ⟨(Config.bindingKey_inj.1 hkey).symm, Option.some.inj hbinding⟩
    · cases hbinding

theorem exists_claim?_bindingKey (resolved : ResolvedStream) :
    ∃ value, resolved.claim? (Config.bindingKey resolved.stream) = some value := by
  rw [claim?, if_pos rfl]
  cases resolved.config.get? (Config.bindingKey resolved.stream) with
  | none => exact ⟨_, rfl⟩
  | some value => exact ⟨value, rfl⟩

end ResolvedStream

/-- If no stream's own keys spell the binding of a stream to another system, streams are consistent
exactly if streams of one name are on one system. -/
theorem consistent_iff_of_own {streams : List ResolvedStream}
    (hown : ∀ resolved ∈ streams, ∀ other ∈ streams, ∀ value,
      resolved.config.get? (Config.bindingKey other.stream) = some value → value = other.system) :
    Consistent streams ↔
      ∀ first ∈ streams, ∀ second ∈ streams, first.stream = second.stream →
        first.system = second.system := by
  constructor
  · intro hcons
    -- The streams before the last one are on one system per name, so what the last one is compared
    -- with is the system of all earlier streams of its name, whichever of them claimed it.
    induction streams using List.reverseRecOn with
    | nil => simp
    | append_singleton earlier last ih =>
      have hearlier : ∀ first ∈ earlier, ∀ second ∈ earlier, first.stream = second.stream →
          first.system = second.system := by
        apply ih
        · intro resolved hmem other hother
          exact hown resolved (List.mem_append_left _ hmem) other (List.mem_append_left _ hother)
        · intro before resolved after existing hsplit
          apply hcons before resolved (after ++ [last]) existing
          rw [hsplit, List.append_assoc, List.cons_append]
      have hlast : ∀ first ∈ earlier, first.stream = last.stream → first.system = last.system := by
        intro first hfirst hname
        obtain ⟨value, hclaim⟩ := first.exists_claim?_bindingKey
        obtain ⟨existing, hexisting⟩ := exists_lastClaim?_of_claim? hfirst hclaim
        obtain ⟨claimant, hclaimant, hvalue⟩ := exists_claim_of_lastClaim? hexisting
        have hsystem : existing = last.system := by
          rw [hname] at hexisting
          exact hcons earlier last [] existing rfl hexisting
        rcases ResolvedStream.own_or_same_of_claim? hvalue with hkey | ⟨hsame, hbound⟩
        · have hfirstSystem := hown claimant (List.mem_append_left _ hclaimant) first
            (List.mem_append_left _ hfirst) existing hkey
          rw [← hfirstSystem, hsystem]
        · rw [← hearlier claimant hclaimant first hfirst hsame, hbound, hsystem]
      intro first hfirst second hsecond hname
      rcases List.mem_append.1 hfirst with hfirst | hfirst
      · rcases List.mem_append.1 hsecond with hsecond | hsecond
        · exact hearlier first hfirst second hsecond hname
        · rw [List.mem_singleton.1 hsecond] at hname ⊢
          exact hlast first hfirst hname
      · rw [List.mem_singleton.1 hfirst] at hname ⊢
        rcases List.mem_append.1 hsecond with hsecond | hsecond
        · exact (hlast second hsecond hname.symm).symm
        · rw [List.mem_singleton.1 hsecond]
  · rintro hsame before resolved after existing rfl hexisting
    obtain ⟨claimant, hclaimant, hvalue⟩ := exists_claim_of_lastClaim? hexisting
    have hmem := List.mem_append_left (resolved :: after) hclaimant
    have hresolved : resolved ∈ before ++ resolved :: after := by simp
    rcases ResolvedStream.own_or_same_of_claim? hvalue with hkey | ⟨hname, rfl⟩
    · exact hown claimant hmem resolved hresolved existing hkey
    · exact hsame claimant hmem resolved hresolved hname

namespace Catalog

/-- The own keys of a stream spell a binding through its properties only: the values of its system
stand elsewhere. -/
theorem get?_bindingKey_of_lookup {catalog : Catalog} {role : Role} {name stream value : String}
    {resolved : ResolvedStream} (hlookup : catalog.lookup role name = .ok resolved) :
    resolved.config.get? (Config.bindingKey stream) = some value ↔
      ∃ key, (catalog.properties resolved).get? key = some value ∧
        resolved.stream ++ "." ++ key = stream ++ ".samza.system" := by
  obtain ⟨system, within, hfind, -, rfl⟩ := lookup_eq_ok_iff.1 hlookup
  rw [get?_streamConfig_eq_some_iff]
  simp only [Config.bindingKey_eq_append_iff, Config.bindingKey_ne_append, false_and, exists_false,
    or_false, properties, hfind]
  exact exists_congr fun key => and_comm

end Catalog

/-- Gathering what the streams of a catalog need succeeds exactly if they are consistent, and otherwise
reports the first stream that is not. It fails exactly for streams of one name on two systems whenever no
property of a stream spells the binding of a stream to another system. -/
theorem merged_of_resolveRoles {catalog : Catalog} {roles : StreamRoles} {resolution : Resolution}
    (hres : catalog.resolver.resolveRoles roles = .ok resolution) :
    ((∃ merged, resolution.merged = .ok merged) ↔ Consistent resolution.all) ∧
      (∀ error, resolution.merged = .error error ↔
        ∃ before resolved after existing, resolution.all = before ++ resolved :: after ∧
          Consistent before ∧ lastClaim? before (Config.bindingKey resolved.stream) = some existing ∧
          existing ≠ resolved.system ∧
          error = .conflict resolved.stream existing resolved.system) ∧
      ((∀ resolved ∈ resolution.all, ∀ other ∈ resolution.all, ∀ key value,
          (catalog.properties resolved).get? key = some value →
          resolved.stream ++ "." ++ key = other.stream ++ ".samza.system" → value = other.system) →
        ((∃ error, resolution.merged = .error error) ↔ resolution.OnTwoSystems)) := by
  have hok : (∃ merged, resolution.merged = .ok merged) ↔ Consistent resolution.all :=
    Resolution.exists_foldlM_addStream_iff
  have hfails : (∃ error, resolution.merged = .error error) ↔ ¬Consistent resolution.all := by
    rw [← hok]
    cases resolution.merged <;> simp
  refine ⟨hok, fun error => Resolution.merged_eq_error_iff, fun hproperty => ?_⟩
  have hown : ∀ resolved ∈ resolution.all, ∀ other ∈ resolution.all, ∀ value,
      resolved.config.get? (Config.bindingKey other.stream) = some value → value = other.system := by
    intro resolved hresolved other hother value hkey
    obtain ⟨role, name, hlookup⟩ := Catalog.mem_all_of_resolveRoles hres hresolved
    obtain ⟨key, hvalue, hspell⟩ := (Catalog.get?_bindingKey_of_lookup hlookup).1 hkey
    exact hproperty resolved hresolved other hother key value hvalue hspell
  rw [hfails, consistent_iff_of_own hown, Resolution.OnTwoSystems]
  push Not
  rfl

/-- The streams `a.events`, which is read, and one that is written. -/
def eventRoles (written : String) : StreamRoles :=
  ⟨.ofList [("a.events", ())], .ofList [(written, ())]⟩

/-- Systems `a` and `b`. A property of the stream `events` of `a` spells its binding. -/
def reboundEvents (system : String) : Catalog :=
  (Catalog.empty.register (System.addStreamKey ⟨"a", "a", .both, .stream, .empty, .empty⟩
    "events" "samza.system" system)).register ⟨"b", "b", .both, .stream, .empty, .empty⟩

/-- The streams `events` of two systems go unnoticed if the first is rebound to the second system. -/
theorem merged_of_hidden_conflict :
    ∃ resolution, (reboundEvents "b").resolver.resolveRoles (eventRoles "b.events") = .ok resolution ∧
      resolution.OnTwoSystems ∧ ∃ merged, resolution.merged = .ok merged := by
  refine ⟨_, rfl, ?_, _, rfl⟩
  decide +kernel

/-- A stream that is read and written on one system is refused if it is rebound to another. -/
theorem merged_of_resolveRoles_feigned_conflict :
    ∃ resolution, (reboundEvents "x").resolver.resolveRoles (eventRoles "a.events") = .ok resolution ∧
      resolution.merged = .error (.conflict "events" "x" "a") ∧ ¬resolution.OnTwoSystems ∧
      ¬Consistent resolution.all := by
  have hres : (reboundEvents "x").resolver.resolveRoles (eventRoles "a.events") = .ok _ := rfl
  refine ⟨_, hres, rfl, by decide +kernel, fun hcons => ?_⟩
  obtain ⟨merged, hmerged⟩ := (merged_of_resolveRoles hres).1.2 hcons
  cases hmerged

end StreamPlan
