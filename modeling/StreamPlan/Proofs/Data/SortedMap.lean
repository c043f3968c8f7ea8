import StreamPlan.Data.SortedMap
import Mathlib.Data.List.Pairwise

/-!
# Lookups in sorted maps

What `get?` answers after each operation of a map, and that a map is nothing but its answers.

- `get?_insert`, `get?_insertAll`, `get?_overlay`: one equation for each way of adding bindings, and
  `get?_erase` for dropping one;
- `get?_eq_some_iff_mem`: the answers are the entries, and `size_ofList` counts them;
- `ext_get?`: two maps with the same answers are equal.
-/

namespace StreamPlan

universe u v

variable {α : Type u}

namespace Entries

/-- No sortedness is needed: `insert` stops at the first entry that `get?` would compare. -/
theorem get?_insert (key : String) (value : α) (k : String) (entries : List (String × α)) :
    get? k (insert key value entries) = if k = key then some value else get? k entries := by
  induction entries with
  | nil => simp [insert, get?, eq_comm]
  | cons entry rest ih =>
    rw [insert]
    split
    -- The new entry comes first, before a greater key.
    · simp [get?, eq_comm]
    · split
      -- An entry of the same key is replaced.
      · rename_i heq
        by_cases hk : k = key
        · simp [get?, hk]
        · have hk' : ¬entry.1 = k := fun h => hk (h ▸ heq.symm)
          simp [get?, hk, hk', Ne.symm hk]
      · rename_i hne
        rw [get?, get?, ih]
        by_cases hk : k = key
        · subst hk
          rw [if_neg (Ne.symm hne), if_pos rfl, if_pos rfl]
        · simp [hk]

theorem get?_eq_find? (k : String) (entries : List (String × α)) :
    get? k entries = (entries.find? fun entry => entry.1 = k).map Prod.snd := by
  induction entries with
  | nil => rfl
  | cons entry rest ih =>
    by_cases hk : entry.1 = k
    · simp [get?, hk]
    · simp [get?, hk, ih]

theorem get?_append (k : String) (entries more : List (String × α)) :
    get? k (entries ++ more) = (get? k entries).or (get? k more) := by
  induction entries with
  | nil => simp [get?]
  | cons entry rest ih =>
    rw [List.cons_append, get?, get?]
    split
    · simp
    · exact ih

theorem get?_map {β : Type u} (f : α → β) (k : String) (entries : List (String × α)) :
    get? k (entries.map fun (key, value) => (key, f value)) = (get? k entries).map f := by
  induction entries with
  | nil => rfl
  | cons entry rest ih =>
    rw [List.map_cons, get?, get?, ih]
    by_cases hk : entry.1 = k
    · simp [hk]
    · simp [hk]

theorem get?_filter_ne (key k : String) (entries : List (String × α)) :
    get? k (entries.filter fun entry => entry.1 != key) =
      if k = key then none else get? k entries := by
  induction entries with
  | nil => simp [get?]
  | cons entry rest ih =>
    -- Entries of `key` are dropped, and no other key is looked up in one of them.
    by_cases hentry : entry.1 = key
    · rw [List.filter_cons_of_neg (by simp [hentry]), ih, get?]
      by_cases hk : k = key
      · simp [hk]
      · have hne : ¬entry.1 = k := fun h => hk (h ▸ hentry)
        simp [hk, hne]
    · rw [List.filter_cons_of_pos (by simp [hentry]), get?, get?, ih]
      by_cases hk : entry.1 = k
      · have hne : ¬k = key := fun h => hentry (hk ▸ h)
        simp [hk, hne]
      · simp [hk]

theorem mem_of_get?_eq_some {k : String} {value : α} {entries : List (String × α)}
    (h : get? k entries = some value) : (k, value) ∈ entries := by
  induction entries with
  | nil => simp [get?] at h
  | cons entry rest ih =>
    rw [get?] at h
    split at h
    · rename_i hk
      obtain rfl := Option.some.inj h
      exact hk ▸ List.mem_cons_self
    · exact List.mem_cons_of_mem _ (ih h)

theorem get?_isSome_iff {k : String} {entries : List (String × α)} :
    (get? k entries).isSome = true ↔ ∃ value, (k, value) ∈ entries := by
  induction entries with
  | nil => simp [get?]
  | cons entry rest ih =>
    rw [get?]
    by_cases hk : entry.1 = k
    · subst hk
      simp only [if_true, Option.isSome_some, true_iff]
      exact ⟨entry.2, List.mem_cons_self⟩
    · have hne : ∀ value, (k, value) ≠ entry := fun value h => hk (h ▸ rfl)
      simp [hk, ih, hne]

/-- A key that occurs in one entry only is looked up in that entry. -/
theorem get?_eq_some_of_mem {k : String} {value : α} {entries : List (String × α)}
    (hkeys : entries.Pairwise fun a b => a.1 ≠ b.1) (h : (k, value) ∈ entries) :
    get? k entries = some value := by
  induction entries with
  | nil => simp at h
  | cons entry rest ih =>
    obtain ⟨hentry, hrest⟩ := List.pairwise_cons.1 hkeys
    rcases List.mem_cons.1 h with rfl | h
    · simp [get?]
    · rw [get?, if_neg (hentry _ h)]
      exact ih hrest h

theorem Sorted.keys_ne {entries : List (String × α)} (h : Sorted entries) :
    entries.Pairwise fun a b => a.1 ≠ b.1 := by
  refine h.imp ?_
  intro a b hlt heq
  exact String.lt_irrefl b.1 (heq ▸ hlt)

/-- The first of some sorted entries is the one with the least key. -/
theorem Sorted.find?_eq_some_iff {entries : List (String × α)} (h : Sorted entries)
    {p : String × α → Bool} {entry : String × α} :
    entries.find? p = some entry ↔
      entry ∈ entries ∧ p entry = true ∧ ∀ other ∈ entries, p other = true → entry.1 ≤ other.1 := by
  induction entries with
  | nil => simp
  | cons first rest ih =>
    obtain ⟨hfirst, hrest⟩ := List.pairwise_cons.1 h
    by_cases hp : p first = true
    · rw [List.find?_cons_of_pos hp, Option.some.injEq]
      constructor
      · rintro rfl
        refine ⟨List.mem_cons_self, hp, fun other hother _ => ?_⟩
        obtain rfl | hother := List.mem_cons.1 hother
        · exact String.le_refl _
        · exact Std.le_of_lt (hfirst other hother)
      · rintro ⟨hmem, -, hleast⟩
        -- An entry after the first has a greater key, so that it cannot be the least.
        obtain rfl | hmem := List.mem_cons.1 hmem
        · rfl
        · exact absurd (hfirst entry hmem) (Std.not_lt.2 (hleast first List.mem_cons_self hp))
    · rw [List.find?_cons_of_neg hp, ih hrest]
      simp only [List.mem_cons]
      constructor
      · rintro ⟨hmem, hentry, hleast⟩
        refine ⟨.inr hmem, hentry, ?_⟩
        rintro other (rfl | hother) hpother
        · exact absurd hpother hp
        · exact hleast other hother hpother
      · rintro ⟨rfl | hmem, hentry, hleast⟩
        · exact absurd hentry hp
        · exact ⟨hmem, hentry, fun other hother => hleast other (.inr hother)⟩

theorem nodup_of_keys_ne {entries : List (String × α)}
    (hkeys : entries.Pairwise fun a b => a.1 ≠ b.1) : entries.Nodup :=
  hkeys.imp fun hne heq => hne (congrArg Prod.fst heq)

/-- Entries with pairwise different keys may be looked up from either end. -/
theorem get?_reverse {entries : List (String × α)}
    (hkeys : entries.Pairwise fun a b => a.1 ≠ b.1) (k : String) :
    get? k entries.reverse = get? k entries := by
  have hrev : entries.reverse.Pairwise fun a b => a.1 ≠ b.1 :=
    List.pairwise_reverse.2 (hkeys.imp Ne.symm)
  refine Option.ext fun value => ⟨fun h => ?_, fun h => ?_⟩
  · exact get?_eq_some_of_mem hkeys (List.mem_reverse.1 (mem_of_get?_eq_some h))
  · exact get?_eq_some_of_mem hrev (List.mem_reverse.2 (mem_of_get?_eq_some h))

/-- Sorted entries with the same lookups are the same. -/
theorem eq_of_get?_eq {a b : List (String × α)} (ha : Sorted a) (hb : Sorted b)
    (h : ∀ k, get? k a = get? k b) : a = b := by
  -- A lookup tells an entry, so the two lists have the same entries.
  have hmem : ∀ entry, entry ∈ a ↔ entry ∈ b := fun (k, value) =>
    ⟨fun hin => mem_of_get?_eq_some (h k ▸ get?_eq_some_of_mem ha.keys_ne hin),
      fun hin => mem_of_get?_eq_some ((h k).symm ▸ get?_eq_some_of_mem hb.keys_ne hin)⟩
  have hperm : a.Perm b := by
    rw [List.perm_ext_iff_of_nodup (nodup_of_keys_ne ha.keys_ne) (nodup_of_keys_ne hb.keys_ne)]
    exact hmem
  -- Of a set of entries there is one sorted order.
  refine hperm.eq_of_pairwise ?_ ha hb
  intro x y _ _ hxy hyx
  exact absurd (String.lt_trans hxy hyx) (String.lt_irrefl _)

end Entries

namespace SortedMap

@[simp]
theorem get?_empty (k : String) : (empty : SortedMap α).get? k = none := rfl

theorem get?_insert (map : SortedMap α) (key : String) (value : α) (k : String) :
    (map.insert key value).get? k = if k = key then some value else map.get? k :=
  Entries.get?_insert key value k map.entries

theorem get?_erase (map : SortedMap α) (key k : String) :
    (map.erase key).get? k = if k = key then none else map.get? k :=
  Entries.get?_filter_ne key k map.entries

/-- Of several bindings of a key the last one counts, and then the map before. -/
theorem get?_insertAll (map : SortedMap α) (bindings : List (String × α)) (k : String) :
    (map.insertAll bindings).get? k = (Entries.get? k bindings.reverse).or (map.get? k) := by
  induction bindings generalizing map with
  | nil => rfl
  | cons binding bindings ih =>
    have hstep : map.insertAll (binding :: bindings) =
        (map.insert binding.1 binding.2).insertAll bindings := rfl
    rw [hstep, ih, get?_insert, List.reverse_cons, Entries.get?_append, Option.or_assoc]
    -- The head is inserted first, hence it is the last of the reversed bindings to be looked at.
    congr 1
    by_cases hk : k = binding.1
    · simp [Entries.get?, hk]
    · simp [Entries.get?, hk, Ne.symm hk]

theorem entries_ofList (bindings : List (String × α)) :
    (ofList bindings).entries = Entries.ofList bindings :=
  (List.foldl_hom entries fun _ _ => rfl).symm

theorem insertAll_append (map : SortedMap α) (bindings more : List (String × α)) :
    map.insertAll (bindings ++ more) = (map.insertAll bindings).insertAll more :=
  List.foldl_append

theorem get?_ofList (bindings : List (String × α)) (k : String) :
    (ofList bindings).get? k = Entries.get? k bindings.reverse := by
  rw [ofList, get?_insertAll, get?_empty, Option.or_none]

/-- If no key is bound twice, the map answers with exactly what the bindings say. -/
theorem get?_ofList_eq_some_iff {bindings : List (String × α)}
    (hkeys : bindings.Pairwise fun a b => a.1 ≠ b.1) {k : String} {value : α} :
    (ofList bindings).get? k = some value ↔ (k, value) ∈ bindings := by
  rw [get?_ofList, Entries.get?_reverse hkeys]
  exact ⟨Entries.mem_of_get?_eq_some, Entries.get?_eq_some_of_mem hkeys⟩

/-- Where both maps bind a key, the top one decides. -/
theorem get?_overlay (base top : SortedMap α) (k : String) :
    (base.overlay top).get? k = (top.get? k).or (base.get? k) := by
  rw [overlay, get?_insertAll, Entries.get?_reverse top.sorted.keys_ne]
  rfl

/-- A map answers a key with exactly what its entries say. -/
theorem get?_eq_some_iff_mem {map : SortedMap α} {k : String} {value : α} :
    map.get? k = some value ↔ (k, value) ∈ map.entries :=
  ⟨Entries.mem_of_get?_eq_some, Entries.get?_eq_some_of_mem map.sorted.keys_ne⟩

/-- If no key is bound twice, the map has as many entries as there are bindings. -/
theorem size_ofList {bindings : List (String × α)}
    (hkeys : bindings.Pairwise fun a b => a.1 ≠ b.1) : (ofList bindings).size = bindings.length := by
  have hperm : (ofList bindings).entries.Perm bindings := by
    rw [List.perm_ext_iff_of_nodup (Entries.nodup_of_keys_ne (ofList bindings).sorted.keys_ne)
      (Entries.nodup_of_keys_ne hkeys)]
    rintro ⟨k, value⟩
    rw [← get?_ofList_eq_some_iff hkeys, get?_eq_some_iff_mem]
  exact hperm.length_eq

theorem ext_entries {a b : SortedMap α} (h : a.entries = b.entries) : a = b := by
  cases a
  cases b
  cases h
  rfl

/-- A map is determined by its answers. -/
theorem ext_get? {a b : SortedMap α} (h : ∀ k, a.get? k = b.get? k) : a = b :=
  ext_entries (Entries.eq_of_get?_eq a.sorted b.sorted h)

/-- A binding made on top of both maps is one made in the top map. -/
theorem insert_overlay (base top : SortedMap α) (key : String) (value : α) :
    (base.overlay top).insert key value = base.overlay (top.insert key value) := by
  refine ext_get? fun k => ?_
  rw [get?_insert, get?_overlay, get?_overlay, get?_insert]
  split
  · rw [Option.some_or]
  · rfl

theorem isEmpty_iff {map : SortedMap α} : map.isEmpty = true ↔ map = empty := by
  rw [isEmpty, List.isEmpty_iff]
  exact ⟨fun h => ext_entries h, fun h => h ▸ rfl⟩

/-- Nothing shows through a top map that binds every key of the map below. -/
theorem overlay_eq_top {base top : SortedMap α}
    (h : ∀ key, top.get? key = none → base.get? key = none) : base.overlay top = top := by
  refine ext_get? fun key => ?_
  rw [get?_overlay]
  cases htop : top.get? key with
  | none => rw [Option.none_or, h key htop]
  | some value => rw [Option.some_or]

theorem mem_values_iff {map : SortedMap α} {value : α} :
    value ∈ map.values ↔ ∃ k, map.get? k = some value := by
  simp [values, get?_eq_some_iff_mem]

theorem contains_iff {map : SortedMap α} {k : String} :
    map.contains k = true ↔ ∃ value, map.get? k = some value := by
  rw [contains, Option.isSome_iff_exists]

theorem contains_of_mem {map : SortedMap α} {entry : String × α} (h : entry ∈ map.entries) :
    map.contains entry.1 = true :=
  contains_iff.2 ⟨entry.2, get?_eq_some_iff_mem.2 h⟩

theorem mem_keys_iff_contains {map : SortedMap α} {k : String} :
    k ∈ map.keys ↔ map.contains k = true := by
  simp [keys, contains_iff, get?_eq_some_iff_mem]

theorem keys_sorted (map : SortedMap α) : map.keys.Pairwise (· < ·) :=
  List.pairwise_map.2 map.sorted

theorem keys_nodup (map : SortedMap α) : map.keys.Nodup := by
  refine map.keys_sorted.imp ?_
  rintro a b hlt rfl
  exact String.lt_irrefl a hlt

/-- Maps that bind the same keys list them in the same order. -/
theorem keys_eq_of_contains {β : Type v} {a : SortedMap α} {b : SortedMap β}
    (h : ∀ k, a.contains k = true ↔ b.contains k = true) : a.keys = b.keys := by
  have hperm : a.keys.Perm b.keys := by
    rw [List.perm_ext_iff_of_nodup a.keys_nodup b.keys_nodup]
    intro k
    rw [mem_keys_iff_contains, mem_keys_iff_contains, h]
  refine hperm.eq_of_pairwise ?_ a.keys_sorted b.keys_sorted
  intro x y _ _ hxy hyx
  exact absurd (String.lt_trans hxy hyx) (String.lt_irrefl _)

/-- A function that has a map's values on its keys gives them in order. -/
theorem map_keys_eq_map_values {β : Type v} {map : SortedMap α} {f : String → β} {g : α → β}
    (h : ∀ k value, map.get? k = some value → f k = g value) : map.keys.map f = map.values.map g := by
  rw [keys, values, List.map_map, List.map_map]
  apply List.map_congr_left
  intro entry hentry
  exact h entry.1 entry.2 (get?_eq_some_iff_mem.2 hentry)

end SortedMap

end StreamPlan
