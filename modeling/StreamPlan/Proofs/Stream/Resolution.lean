import StreamPlan.Job.Compile
import StreamPlan.Proofs.Plan.Roles

/-!
# Resolutions

Resolving the roles of a plan gives every name of them a stream, in the role that it has, and gives
nothing else: `get?_resolveRoles`.
-/

namespace StreamPlan

namespace Resolution

theorem get?_insert (resolution : Resolution) (role role' : Role) (name k : String)
    (resolved : ResolvedStream) :
    (resolution.insert role name resolved).get? k role' =
      if role' = role ∧ k = name then some resolved else resolution.get? k role' := by
  cases role <;> cases role' <;> simp [insert, get?, SortedMap.get?_insert]

theorem get?_empty (name : String) (role : Role) : empty.get? name role = none := by
  cases role <;> rfl

/-- The streams of a resolution are what it answers in either role. -/
theorem mem_all_iff {resolution : Resolution} {resolved : ResolvedStream} :
    resolved ∈ resolution.all ↔ ∃ role name, resolution.get? name role = some resolved := by
  rw [all, List.mem_append, SortedMap.mem_values_iff, SortedMap.mem_values_iff]
  constructor
  · rintro (⟨name, h⟩ | ⟨name, h⟩)
    · exact ⟨.input, name, h⟩
    · exact ⟨.output, name, h⟩
  · rintro ⟨role, name, h⟩
    cases role
    · exact .inl ⟨name, h⟩
    · exact .inr ⟨name, h⟩

end Resolution

namespace Resolver

variable {resolver : Resolver} {resolution resolution' : Resolution} {roles : StreamRoles}

/-- Resolving names in a role answers them there and leaves everything else as it is. -/
theorem get?_resolveAll {role : Role} {names : List String}
    (h : resolver.resolveAll role names resolution = .ok resolution') (name : String)
    (role' : Role) :
    resolution'.get? name role' =
      if role' = role ∧ name ∈ names then (resolver.resolve name role).toOption
      else resolution.get? name role' := by
  induction names generalizing resolution with
  | nil =>
    obtain rfl := Except.ok.inj h
    simp
  | cons first names ih =>
    rw [resolveAll] at h
    split at h
    · cases h
    · rename_i resolved hresolved
      rw [ih h, Resolution.get?_insert]
      -- A name that occurs again later is resolved again, to the same stream.
      by_cases hrest : role' = role ∧ name ∈ names
      · simp [hrest]
      · rw [if_neg hrest]
        by_cases hfirst : role' = role ∧ name = first
        · obtain ⟨rfl, rfl⟩ := hfirst
          simp [hresolved, Except.toOption]
        · rw [if_neg hfirst, if_neg]
          rintro ⟨hrole, hmem⟩
          rcases List.mem_cons.1 hmem with hname | hmem
          · exact hfirst ⟨hrole, hname⟩
          · exact hrest ⟨hrole, hmem⟩

theorem exists_resolve_of_resolveAll {role : Role} {names : List String}
    (h : resolver.resolveAll role names resolution = .ok resolution') :
    ∀ name ∈ names, ∃ resolved, resolver.resolve name role = .ok resolved := by
  induction names generalizing resolution with
  | nil => simp
  | cons first names ih =>
    rw [resolveAll] at h
    split at h
    · cases h
    · rename_i resolved hresolved
      intro name hmem
      rcases List.mem_cons.1 hmem with rfl | hmem
      · exact ⟨resolved, hresolved⟩
      · exact ih h name hmem

/-- The resolution of roles holds, for each name in each role, what the resolver says about it. -/
theorem get?_resolveRoles (h : resolver.resolveRoles roles = .ok resolution) (name : String)
    (role : Role) :
    resolution.get? name role =
      if (roles.names role).contains name then (resolver.resolve name role).toOption else none := by
  obtain ⟨between, hinputs, houtputs⟩ := bind_eq_ok_iff.1 h
  rw [get?_resolveAll houtputs, get?_resolveAll hinputs, Resolution.get?_empty]
  cases role with
  | input => by_cases hname : roles.inputs.contains name <;>
      simp [StreamRoles.names, SortedMap.mem_keys_iff_contains, hname]
  | output => by_cases hname : roles.outputs.contains name <;>
      simp [StreamRoles.names, SortedMap.mem_keys_iff_contains, hname]

/-- Every name of resolved roles has a stream. -/
theorem exists_get?_of_resolveRoles (h : resolver.resolveRoles roles = .ok resolution)
    {name : String} {role : Role} (hname : (roles.names role).contains name = true) :
    ∃ resolved, resolution.get? name role = some resolved := by
  -- The two rounds, one for each role, both ask the resolver for all of their names.
  have hresolve : ∃ resolved, resolver.resolve name role = .ok resolved := by
    obtain ⟨between, hinputs, houtputs⟩ := bind_eq_ok_iff.1 h
    have hmem := SortedMap.mem_keys_iff_contains.2 hname
    cases role
    · exact exists_resolve_of_resolveAll hinputs name hmem
    · exact exists_resolve_of_resolveAll houtputs name hmem
  obtain ⟨resolved, hresolved⟩ := hresolve
  refine ⟨resolved, ?_⟩
  rw [get?_resolveRoles h, if_pos hname, hresolved]
  rfl

end Resolver

end StreamPlan
