import StreamPlan.Proofs.Stream.Resolution

/-!
# What streams need of a configuration

The needs of the streams of a plan are gathered stream by stream. A stream claims the key that binds it
to its system, and then its own keys, which may spell any binding. What has been gathered answers every
key with the last claim (`get?_merged`), and gathering fails at the first stream whose binding is
claimed for another system already (`merged_eq_error_iff`).
-/

namespace StreamPlan

/-- What a stream puts under a key: the value of its own key, or else its system if the key is its
binding. -/
def ResolvedStream.claim? (resolved : ResolvedStream) (key : String) : Option String :=
  (resolved.config.get? key).or
    (if key = Config.bindingKey resolved.stream then some resolved.system else none)

/-- What the last of some streams with a claim puts under a key. -/
def lastClaim? : List ResolvedStream → String → Option String
  | [], _ => none
  | first :: rest, key => (lastClaim? rest key).or (first.claim? key)

/-- Streams whose bindings, as far as earlier streams claim them, are claimed for the systems that the
streams have. -/
def Consistent (streams : List ResolvedStream) : Prop :=
  ∀ before resolved after existing, streams = before ++ resolved :: after →
    lastClaim? before (Config.bindingKey resolved.stream) = some existing →
    existing = resolved.system

theorem exists_claim_of_lastClaim? {streams : List ResolvedStream} {key value : String}
    (h : lastClaim? streams key = some value) :
    ∃ resolved ∈ streams, resolved.claim? key = some value := by
  induction streams with
  | nil => cases h
  | cons first rest ih =>
    rw [lastClaim?, Option.or_eq_some_iff] at h
    rcases h with hrest | ⟨-, hfirst⟩
    · obtain ⟨resolved, hmem, hclaim⟩ := ih hrest
      exact ⟨resolved, List.mem_cons_of_mem _ hmem, hclaim⟩
    · exact ⟨first, List.mem_cons_self, hfirst⟩

theorem exists_lastClaim?_of_claim? {streams : List ResolvedStream} {resolved : ResolvedStream}
    {key value : String} (hmem : resolved ∈ streams) (hclaim : resolved.claim? key = some value) :
    ∃ last, lastClaim? streams key = some last := by
  induction streams with
  | nil => cases hmem
  | cons first rest ih =>
    rw [lastClaim?]
    -- A later stream may have a claim of its own, which then counts instead.
    cases hrest : lastClaim? rest key with
    | some last => exact ⟨last, rfl⟩
    | none =>
      rcases List.mem_cons.1 hmem with rfl | hmem
      · exact ⟨value, hclaim⟩
      · obtain ⟨last, hlast⟩ := ih hmem
        rw [hrest] at hlast
        cases hlast

namespace Resolution

variable {config added merged : Config} {resolved : ResolvedStream} {streams : List ResolvedStream}

/-- A stream is refused if its binding has another value, and is added otherwise. -/
theorem addStream_eq_error_iff {error : Error} :
    addStream config resolved = .error error ↔
      ∃ existing, config.get? (Config.bindingKey resolved.stream) = some existing ∧
        existing ≠ resolved.system ∧ error = .conflict resolved.stream existing resolved.system := by
  rw [addStream, ResolvedStream.binding]
  cases hbound : config.get? (Config.bindingKey resolved.stream) with
  | none => simp [hbound]
  | some existing =>
    by_cases hsame : existing = resolved.system
    · simp [hbound, hsame]
    · simp [hbound, hsame, eq_comm]

theorem get?_addStream (h : addStream config resolved = .ok added) (key : String) :
    added.get? key = (resolved.claim? key).or (config.get? key) := by
  have hadded : added = (config.insert (Config.bindingKey resolved.stream) resolved.system).overlay
      resolved.config := by
    rw [addStream, ResolvedStream.binding] at h
    dsimp only at h
    split at h
    · split at h
      · cases h
      · exact (Except.ok.inj h).symm
    · exact (Except.ok.inj h).symm
  -- The own keys lie over the binding, and the binding over what was there before.
  rw [hadded, SortedMap.get?_overlay, SortedMap.get?_insert, ResolvedStream.claim?, Option.or_assoc]
  congr 1
  split <;> rfl

/-- What has been gathered answers a key with the last claim on it. -/
theorem get?_foldlM_addStream (h : streams.foldlM addStream config = .ok merged) (key : String) :
    merged.get? key = (lastClaim? streams key).or (config.get? key) := by
  induction streams generalizing config with
  | nil =>
    obtain rfl := Except.ok.inj h
    rfl
  | cons first rest ih =>
    rw [List.foldlM_cons] at h
    obtain ⟨added, hfirst, hrest⟩ := bind_eq_ok_iff.1 h
    rw [ih hrest, get?_addStream hfirst, lastClaim?, Option.or_assoc]

/-- All streams can be added if they are consistent, and only then. -/
theorem exists_foldlM_addStream_iff :
    (∃ merged, streams.foldlM addStream SortedMap.empty = .ok merged) ↔ Consistent streams := by
  constructor
  · -- A stream in the middle was added to what the streams before it had left.
    rintro ⟨merged, h⟩ before resolved after existing rfl hclaim
    rw [List.foldlM_append] at h
    obtain ⟨reached, hbefore, hrest⟩ := bind_eq_ok_iff.1 h
    rw [List.foldlM_cons] at hrest
    obtain ⟨added, hadded, -⟩ := bind_eq_ok_iff.1 hrest
    by_contra hne
    have hbound : reached.get? (Config.bindingKey resolved.stream) = some existing := by
      rw [get?_foldlM_addStream hbefore, hclaim, Option.some_or]
    rw [addStream_eq_error_iff.2 ⟨existing, hbound, hne, rfl⟩] at hadded
    cases hadded
  · -- A first stream that is refused would not be consistent with those before it.
    intro hcons
    cases hrun : streams.foldlM addStream SortedMap.empty with
    | ok merged => exact ⟨merged, rfl⟩
    | error error =>
      obtain ⟨before, resolved, after, reached, hsplit, hbefore, hfail⟩ := foldlM_eq_error_iff.1 hrun
      obtain ⟨existing, hbound, hne, -⟩ := addStream_eq_error_iff.1 hfail
      rw [get?_foldlM_addStream hbefore, SortedMap.get?_empty, Option.or_none] at hbound
      exact absurd (hcons before resolved after existing hsplit hbound) hne

theorem get?_merged {resolution : Resolution} (h : resolution.merged = .ok merged) (key : String) :
    merged.get? key = lastClaim? resolution.all key := by
  rw [get?_foldlM_addStream h, SortedMap.get?_empty, Option.or_none]

/-- The error names the first stream that is not consistent with those before it, the system for which
its binding was claimed last, and its own. -/
theorem merged_eq_error_iff {resolution : Resolution} {error : Error} :
    resolution.merged = .error error ↔
      ∃ before resolved after existing, resolution.all = before ++ resolved :: after ∧
        Consistent before ∧ lastClaim? before (Config.bindingKey resolved.stream) = some existing ∧
        existing ≠ resolved.system ∧ error = .conflict resolved.stream existing resolved.system := by
  rw [merged, foldlM_eq_error_iff]
  constructor
  · rintro ⟨before, resolved, after, reached, hsplit, hbefore, hfail⟩
    obtain ⟨existing, hbound, hne, herror⟩ := addStream_eq_error_iff.1 hfail
    -- What was compared is the last claim of the streams before, since all of them had been added.
    rw [get?_foldlM_addStream hbefore, SortedMap.get?_empty, Option.or_none] at hbound
    exact ⟨before, resolved, after, existing, hsplit,
      exists_foldlM_addStream_iff.1 ⟨reached, hbefore⟩, hbound, hne, herror⟩
  · rintro ⟨before, resolved, after, existing, hsplit, hcons, hclaim, hne, herror⟩
    obtain ⟨reached, hbefore⟩ := exists_foldlM_addStream_iff.2 hcons
    have hbound : reached.get? (Config.bindingKey resolved.stream) = some existing := by
      rw [get?_foldlM_addStream hbefore, hclaim, Option.some_or]
    exact ⟨before, resolved, after, reached, hsplit, hbefore,
      addStream_eq_error_iff.2 ⟨existing, hbound, hne, herror⟩⟩

end Resolution

end StreamPlan
