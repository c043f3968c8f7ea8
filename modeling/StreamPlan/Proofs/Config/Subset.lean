import StreamPlan.Config.Basic
import StreamPlan.Proofs.Data.SortedMap

/-!
# Subsets of configurations

The entries whose keys start with a common lead are found as one run of the entries in key order. That
the run misses none of them is a property of the order: a text between `lead` and `lead ++ rest` starts
with `lead`. Hence the run may be forgotten.

- `get?_subset`: a subset answers a key as the configuration answers the key with the lead in front;
- `entries_subset`: the entries are those of the whole configuration that have the lead, in their order,
  since texts with a common lead are ordered by what follows it;
- `subset_subset`, `subset_overlay`: subsets are taken in one step or in two, and before overlaying or
  after it.
-/

namespace StreamPlan

namespace Text

/-- What lies between a text and one of its extensions, in the order of texts, extends it too. -/
theorem isPrefix_of_lt_append {lead chars rest : List Char} (hge : ¬chars < lead)
    (hlt : chars < lead ++ rest) : lead <+: chars := by
  induction lead generalizing chars with
  | nil => exact List.nil_prefix
  | cons c lead ih =>
    cases chars with
    | nil => exact absurd (List.nil_lt_cons c lead) hge
    | cons d chars =>
      rw [List.cons_lt_cons_iff, not_or, not_and] at hge
      rw [List.cons_append, List.cons_lt_cons_iff] at hlt
      obtain ⟨hdc, hchars⟩ := hge
      -- The first characters agree: a smaller one would put the text before the lead.
      obtain hlt | ⟨rfl, hlt⟩ := hlt
      · exact absurd hlt hdc
      · exact List.cons_prefix_cons.2 ⟨rfl, ih (hchars rfl) hlt⟩

theorem stripLead?_eq_some_iff {lead s rest : String} :
    stripLead? lead s = some rest ↔ s = lead ++ rest := by
  rw [stripLead?]
  constructor
  · intro h
    split at h
    · rename_i hlead
      obtain rfl := Option.some.inj h
      obtain ⟨tail, htail⟩ := List.isPrefixOf_iff_prefix.1 hlead
      -- What is dropped is the lead, counted in characters.
      apply String.toList_injective
      rw [String.toList_append, String.toList_ofList, ← htail, ← String.length_toList,
        List.drop_left]
    · cases h
  · rintro rfl
    rw [if_pos, String.toList_append, ← String.length_toList, List.drop_left, String.ofList_toList]
    rw [String.toList_append]
    exact List.isPrefixOf_iff_prefix.2 (List.prefix_append _ _)

theorem hasLead_iff {lead s : String} : hasLead lead s = true ↔ ∃ rest, s = lead ++ rest := by
  constructor
  · intro h
    have hsome : stripLead? lead s = some (String.ofList (s.toList.drop lead.length)) := if_pos h
    exact ⟨_, stripLead?_eq_some_iff.1 hsome⟩
  · rintro ⟨rest, rfl⟩
    rw [hasLead, String.toList_append]
    exact List.isPrefixOf_iff_prefix.2 (List.prefix_append _ _)

/-- No text starts with two different texts of the same length. -/
theorem eq_of_hasLead {lead lead' s : String} (h : hasLead lead s = true) (h' : hasLead lead' s = true)
    (hlength : lead.length = lead'.length) : lead = lead' := by
  have hchars : lead.toList.length = lead'.toList.length := by
    rw [String.length_toList, String.length_toList, hlength]
  have hstart : lead.toList <+: lead'.toList :=
    List.prefix_of_prefix_length_le (List.isPrefixOf_iff_prefix.1 h) (List.isPrefixOf_iff_prefix.1 h')
      (Nat.le_of_eq hchars)
  exact String.toList_injective (hstart.eq_of_length hchars)

/-- A text that starts with `lead` is not before it. -/
theorem not_lt_of_hasLead {lead s : String} (h : hasLead lead s = true) : ¬s < lead := by
  obtain ⟨rest, rfl⟩ := hasLead_iff.1 h
  rw [String.lt_iff, String.toList_append]
  exact List.not_lt.2 (List.le_append_left)

/-- Every text from `lead` up to one that starts with `lead` starts with it as well. -/
theorem hasLead_of_lt {lead s later : String} (hge : ¬s < lead) (hlt : s < later)
    (hlater : hasLead lead later = true) : hasLead lead s = true := by
  obtain ⟨rest, rfl⟩ := hasLead_iff.1 hlater
  rw [String.lt_iff] at hge
  rw [String.lt_iff, String.toList_append] at hlt
  exact List.isPrefixOf_iff_prefix.2 (isPrefix_of_lt_append hge hlt)

/-- Texts with a common lead are ordered by what follows it. -/
theorem append_lt_append_iff {lead a b : String} : lead ++ a < lead ++ b ↔ a < b := by
  rw [String.lt_iff, String.lt_iff, String.toList_append, String.toList_append]
  induction lead.toList with
  | nil => rfl
  | cons c chars ih => rwa [List.cons_append, List.cons_append, List.cons_lt_cons_self]

end Text

/-- In sorted entries, the run that starts at `lead` and goes on while keys start with `lead` holds
exactly the entries whose keys do. -/
theorem Entries.mem_run_iff {α : Type} {entries : List (String × α)} (hsorted : Sorted entries)
    (lead : String) {entry : String × α} :
    entry ∈ (entries.dropWhile fun entry => entry.1 < lead).takeWhile
        (fun entry => Text.hasLead lead entry.1) ↔
      entry ∈ entries ∧ Text.hasLead lead entry.1 = true := by
  constructor
  · intro h
    refine ⟨(List.dropWhile_sublist _).mem ((List.takeWhile_sublist _).mem h), ?_⟩
    exact List.all_eq_true.1 List.all_takeWhile entry h
  · rintro ⟨hmem, hlead⟩
    induction entries with
    | nil => cases hmem
    | cons first rest ih =>
      obtain ⟨hfirst, hrest⟩ := List.pairwise_cons.1 hsorted
      rw [List.dropWhile_cons]
      split
      -- The first entry is less than the lead, and no key with the lead is.
      · rename_i hlt
        rcases List.mem_cons.1 hmem with rfl | hmem
        · exact absurd (of_decide_eq_true hlt) (Text.not_lt_of_hasLead hlead)
        · exact ih hrest hmem
      · -- The run has started: whatever is before the entry lies between `lead` and its key.
        rename_i hge
        have hall : ∀ later ∈ first :: rest, ¬later.1 < lead := by
          intro later hlater hlt
          rcases List.mem_cons.1 hlater with rfl | hlater
          · exact hge (decide_eq_true hlt)
          · exact hge (decide_eq_true (String.lt_trans (hfirst later hlater) hlt))
        obtain ⟨before, after, hsplit⟩ := List.append_of_mem hmem
        rw [hsplit] at hsorted hall ⊢
        -- A key between the lead and a key with the lead has the lead as well.
        have hbefore : ∀ earlier ∈ before, Text.hasLead lead earlier.1 = true := by
          intro earlier hearlier
          have hlt := (List.pairwise_append.1 hsorted).2.2 earlier hearlier entry List.mem_cons_self
          exact Text.hasLead_of_lt (hall earlier (List.mem_append_left _ hearlier)) hlt hlead
        rw [List.takeWhile_append_of_pos hbefore, List.takeWhile_cons, if_pos hlead]
        exact List.mem_append_right _ List.mem_cons_self

/-- Entries with a lead put in front of every key answer a key as they did without the lead. -/
theorem Entries.get?_map_lead {α : Type} (lead key : String) (entries : List (String × α)) :
    get? key (entries.map fun entry => (lead ++ entry.1, entry.2)) =
      (Text.stripLead? lead key).bind fun rest => get? rest entries := by
  induction entries with
  | nil => cases Text.stripLead? lead key <;> rfl
  | cons first rest ih =>
    rw [List.map_cons, get?, ih]
    split
    · rename_i hkey
      rw [Text.stripLead?_eq_some_iff.2 hkey.symm, Option.bind_some, get?, if_pos rfl]
    · rename_i hkey
      cases hstrip : Text.stripLead? lead key with
      | none => rfl
      | some tail =>
        -- The lead can be taken off in one way only.
        have hne : first.1 ≠ tail := fun heq =>
          hkey (heq ▸ (Text.stripLead?_eq_some_iff.1 hstrip).symm)
        rw [Option.bind_some, Option.bind_some, get?, if_neg hne]

namespace Config

/-- An entry without the lead of its key, if something is left of the key. -/
def stripped? (lead : String) (entry : String × String) : Option (String × String) :=
  match Text.stripLead? lead entry.1 with
  | none => none
  | some "" => none
  | some rest => some (rest, entry.2)

theorem stripped?_eq_some_iff {lead rest value : String} {entry : String × String} :
    stripped? lead entry = some (rest, value) ↔ rest ≠ "" ∧ entry = (lead ++ rest, value) := by
  obtain ⟨key, text⟩ := entry
  rw [stripped?]
  constructor
  · intro h
    split at h
    · cases h
    · cases h
    · rename_i hne hstrip
      cases h
      exact ⟨hne, Prod.ext (Text.stripLead?_eq_some_iff.1 hstrip) rfl⟩
  · rintro ⟨hne, hentry⟩
    obtain ⟨rfl, rfl⟩ := Prod.mk.inj hentry
    rw [Text.stripLead?_eq_some_iff.2 rfl]
    split
    · rename_i hnone
      cases hnone
    · rename_i hempty
      exact absurd (Option.some.inj hempty) hne
    · rename_i hrest
      rw [Option.some.inj hrest]

/-- Sorted entries are still sorted without the lead of their keys. -/
theorem sorted_stripped {lead : String} {entries : List (String × String)}
    (h : Entries.Sorted entries) : Entries.Sorted (entries.filterMap (stripped? lead)) := by
  rw [Entries.Sorted, List.pairwise_filterMap]
  refine h.imp fun {a b} hlt => ?_
  rintro ⟨restA, valueA⟩ ha ⟨restB, valueB⟩ hb
  rw [(stripped?_eq_some_iff.1 ha).2, (stripped?_eq_some_iff.1 hb).2] at hlt
  exact Text.append_lt_append_iff.1 hlt

/-- A subset answers a key as the configuration does with the lead in front of the key. A key that is
nothing but the lead has no place in it. -/
theorem get?_subset (config : Config) (lead rest : String) :
    (config.subset lead).get? rest = if rest = "" then none else config.get? (lead ++ rest) := by
  have hsorted : Entries.Sorted ((config.entries.dropWhile fun entry => entry.1 < lead).takeWhile
      fun entry => Text.hasLead lead entry.1) :=
    config.sorted.sublist ((List.takeWhile_sublist _).trans (List.dropWhile_sublist _))
  -- No key occurs twice, so both sides may be compared entry by entry.
  refine Option.ext fun value => ?_
  have hmem : (config.subset lead).get? rest = some value ↔ _ :=
    SortedMap.get?_ofList_eq_some_iff (sorted_stripped hsorted).keys_ne
  rw [hmem, List.mem_filterMap]
  split
  · rename_i hempty
    constructor
    · rintro ⟨entry, -, hentry⟩
      exact absurd hempty (stripped?_eq_some_iff.1 hentry).1
    · intro h
      cases h
  · rename_i hne
    rw [SortedMap.get?_eq_some_iff_mem]
    constructor
    · rintro ⟨entry, hrun, hentry⟩
      obtain ⟨-, rfl⟩ := stripped?_eq_some_iff.1 hentry
      exact ((Entries.mem_run_iff config.sorted lead).1 hrun).1
    · intro hin
      refine ⟨(lead ++ rest, value), ?_, stripped?_eq_some_iff.2 ⟨hne, rfl⟩⟩
      exact (Entries.mem_run_iff config.sorted lead).2 ⟨hin, Text.hasLead_iff.2 ⟨rest, rfl⟩⟩

/-- The subset of a lead depends only on the keys that start with it. -/
theorem subset_congr {config other : Config} {lead : String}
    (h : ∀ rest, config.get? (lead ++ rest) = other.get? (lead ++ rest)) :
    config.subset lead = other.subset lead := by
  refine SortedMap.ext_get? fun rest => ?_
  rw [get?_subset, get?_subset, h]

theorem mem_entries_subset_iff {config : Config} {lead rest value : String} :
    (rest, value) ∈ (config.subset lead).entries ↔
      rest ≠ "" ∧ config.get? (lead ++ rest) = some value := by
  rw [← SortedMap.get?_eq_some_iff_mem, get?_subset]
  by_cases hrest : rest = ""
  · simp [hrest]
  · simp [hrest]

/-- The entries of a subset are all entries that have the lead, without it and in their order. -/
theorem entries_subset (config : Config) (lead : String) :
    (config.subset lead).entries = config.entries.filterMap (stripped? lead) := by
  have hsorted : Entries.Sorted (config.entries.filterMap (stripped? lead)) :=
    sorted_stripped config.sorted
  -- Both sides are sorted, so it is enough that they have the same members.
  refine Entries.eq_of_get?_eq (SortedMap.sorted _) hsorted fun rest => Option.ext fun value => ?_
  calc Entries.get? rest (config.subset lead).entries = some value
    _ ↔ rest ≠ "" ∧ (lead ++ rest, value) ∈ config.entries := by
      rw [← SortedMap.get?_eq_some_iff_mem, ← mem_entries_subset_iff]
      exact SortedMap.get?_eq_some_iff_mem
    _ ↔ (rest, value) ∈ config.entries.filterMap (stripped? lead) := by
      simp only [List.mem_filterMap, stripped?_eq_some_iff]
      constructor
      · rintro ⟨hrest, hmem⟩
        exact ⟨_, hmem, hrest, rfl⟩
      · rintro ⟨entry, hmem, hrest, rfl⟩
        exact ⟨hrest, hmem⟩
    _ ↔ Entries.get? rest (config.entries.filterMap (stripped? lead)) = some value :=
      ⟨Entries.get?_eq_some_of_mem hsorted.keys_ne, Entries.mem_of_get?_eq_some⟩

/-- A subset of a subset is the subset of both leads together. -/
theorem subset_subset (config : Config) (lead more : String) :
    (config.subset lead).subset more = config.subset (lead ++ more) := by
  refine SortedMap.ext_get? fun rest => ?_
  rw [get?_subset, get?_subset, get?_subset, String.append_assoc]
  by_cases hrest : rest = ""
  · rw [if_pos hrest, if_pos hrest]
  · -- What the first step drops is the empty key, which does not end in `rest`.
    have hmore : more ++ rest ≠ "" := fun hempty => hrest (String.append_eq_empty_iff.1 hempty).2
    rw [if_neg hrest, if_neg hrest, if_neg hmore]

/-- Overlaying works on each lead for itself. -/
theorem subset_overlay (base top : Config) (lead : String) :
    subset (base.overlay top) lead = (base.subset lead).overlay (top.subset lead) := by
  refine SortedMap.ext_get? fun rest => ?_
  rw [get?_subset, SortedMap.get?_overlay, SortedMap.get?_overlay, get?_subset, get?_subset]
  by_cases hrest : rest = ""
  · rw [if_pos hrest, if_pos hrest, if_pos hrest, Option.none_or]
  · rw [if_neg hrest, if_neg hrest, if_neg hrest]

/-- The run that a subset scans is nothing but a filter:

- its entries are what filtering all entries of the configuration leaves;
- it has a key exactly if the key is not empty and the configuration has it with the lead in front;
- subsets of subsets are subsets, and subsets of overlaid configurations are overlaid. -/
theorem subset_eq_filter (config : Config) (lead : String) :
    (config.subset lead).entries = config.entries.filterMap (stripped? lead) ∧
      (∀ rest value, (rest, value) ∈ (config.subset lead).entries ↔
        rest ≠ "" ∧ config.get? (lead ++ rest) = some value) ∧
      (∀ more, (config.subset lead).subset more = config.subset (lead ++ more)) ∧
      ∀ top : Config,
        subset (config.overlay top) lead = (config.subset lead).overlay (top.subset lead) :=
  ⟨entries_subset config lead, fun _ _ => mem_entries_subset_iff, subset_subset config lead,
    fun top => subset_overlay config top lead⟩

end Config

end StreamPlan
