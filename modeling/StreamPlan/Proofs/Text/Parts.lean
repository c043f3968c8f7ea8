import StreamPlan.Text.Blank
import StreamPlan.Text.Split
import Mathlib.Data.List.DropRight

/-!
# Parts of texts

What splitting, cutting and trimming leave of a text.

- `join_split`, `split_append`: splitting at a character and joining with it undo each other;
- `cut_eq_some_iff`: a text is cut at its first separator;
- `trim_eq_self_iff`: a text is its own trimming exactly if neither of its ends is blank.
-/

namespace StreamPlan.Text

/-! ## Splitting and cutting -/

section Split

variable {sep : Char} {s before after part : String}

theorem splitChars_eq_splitOn (sep : Char) (cs : List Char) :
    splitChars sep cs = cs.splitOn sep := by
  induction cs with
  | nil => simp [splitChars]
  | cons c cs ih =>
    rw [splitChars, List.splitOn_eq_splitOnP, List.splitOnP_cons_eq_if_modifyHead]
    by_cases hc : c = sep
    · simp [hc, ih, List.splitOn_eq_splitOnP]
    -- Before `c` there is no cut, so it joins the first part; and there is a first part.
    · rw [if_neg hc, if_neg (by simpa using hc), ih, ← List.splitOn_eq_splitOnP]
      obtain ⟨part, parts, hparts⟩ := List.exists_cons_of_ne_nil (List.splitOn_ne_nil sep cs)
      rw [hparts, List.modifyHead_cons]

theorem split_ne_nil (sep : Char) (s : String) : split sep s ≠ [] := by
  simp [split, splitChars_ne_nil]

/-- Joining undoes splitting. -/
theorem join_split (sep : Char) (s : String) : join (String.singleton sep) (split sep s) = s := by
  apply String.toList_injective
  rw [join, split, String.toList_intercalate, List.map_map, splitChars_eq_splitOn]
  simp [Function.comp_def, List.intercalate_splitOn]

/-- The parts of two texts with a separator between them are those of the one and those of the other. -/
theorem split_append (sep : Char) (a b : String) :
    split sep (a ++ String.singleton sep ++ b) = split sep a ++ split sep b := by
  simp [split, splitChars_eq_splitOn, List.splitOn_eq_splitOnP, List.splitOnP_append_cons]

theorem split_of_not_mem (h : sep ∉ s.toList) : split sep s = [s] := by
  simp [split, splitChars_eq_splitOn, List.splitOn_eq_singleton h]

theorem not_mem_of_mem_splitChars {cs part : List Char} (h : part ∈ splitChars sep cs) :
    sep ∉ part := by
  induction cs generalizing part with
  | nil => simp_all [splitChars]
  | cons c cs ih =>
    rw [splitChars] at h
    split at h
    · rcases List.mem_cons.1 h with rfl | h
      · simp
      · exact ih h
    · rename_i hc
      -- The character goes to the first part, which holds no separator without it.
      obtain ⟨first, parts, hparts⟩ := List.exists_cons_of_ne_nil (splitChars_ne_nil sep cs)
      rw [hparts] at h ih
      rcases List.mem_cons.1 h with rfl | h
      · have hfirst := ih List.mem_cons_self
        simp [hfirst, Ne.symm hc]
      · exact ih (List.mem_cons_of_mem _ h)

theorem not_mem_of_mem_split (h : part ∈ split sep s) : sep ∉ part.toList := by
  obtain ⟨chars, hchars, rfl⟩ := List.mem_map.1 h
  rw [String.toList_ofList]
  exact not_mem_of_mem_splitChars hchars

/-- A text without separators is one part. -/
theorem length_split_eq_one_iff : (split sep s).length = 1 ↔ sep ∉ s.toList := by
  constructor
  · intro h
    obtain ⟨part, hpart⟩ := List.length_eq_one_iff.1 h
    have hs : s = part := by
      rw [← join_split sep s, hpart]
      simp [join]
    exact hs ▸ not_mem_of_mem_split (hpart ▸ List.mem_singleton_self part)
  · intro h
    rw [split_of_not_mem h, List.length_singleton]

/-- Several joined parts have a separator among them. -/
theorem length_le_one_of_join {parts : List String}
    (h : sep ∉ (join (String.singleton sep) parts).toList) : parts.length ≤ 1 := by
  match parts with
  | [] => simp
  | [_] => simp
  | first :: second :: parts =>
    refine absurd ?_ h
    simp [join, String.toList_intercalate]

theorem cutChars_eq_some_iff {cs before after : List Char} :
    cutChars sep cs = some (before, after) ↔ sep ∉ before ∧ cs = before ++ sep :: after := by
  induction cs generalizing before after with
  | nil => simp [cutChars]
  | cons c cs ih =>
    rw [cutChars]
    split
    · -- The separator is the first character, so nothing stands before it.
      rename_i hc
      subst hc
      cases before with
      | nil => simp
      | cons b before => grind
    · rename_i hc
      -- `c` is no separator, so it stands before the cut on both sides.
      rw [Option.map_eq_some_iff]
      constructor
      · rintro ⟨⟨chars, chars'⟩, hcut, heq⟩
        obtain ⟨rfl, rfl⟩ := Prod.mk.inj heq
        obtain ⟨hsep, rfl⟩ := ih.1 hcut
        exact ⟨by simp [hsep, Ne.symm hc], rfl⟩
      · rintro ⟨hsep, hcs⟩
        cases before with
        | nil => exact absurd (List.cons.inj hcs).1 hc
        | cons b before =>
          obtain ⟨rfl, rfl⟩ := List.cons.inj hcs
          have hrest : sep ∉ before := fun h => hsep (List.mem_cons_of_mem _ h)
          exact ⟨(before, after), ih.2 ⟨hrest, rfl⟩, rfl⟩

/-- A text is cut at its first separator. -/
theorem cut_eq_some_iff :
    cut sep s = some (before, after) ↔
      sep ∉ before.toList ∧ s = before ++ String.singleton sep ++ after := by
  rw [cut, Option.map_eq_some_iff]
  constructor
  · rintro ⟨⟨chars, chars'⟩, hcut, heq⟩
    obtain ⟨rfl, rfl⟩ := Prod.mk.inj heq
    obtain ⟨hsep, hs⟩ := cutChars_eq_some_iff.1 hcut
    exact ⟨by simpa using hsep, String.toList_injective (by simp [hs])⟩
  · rintro ⟨hsep, rfl⟩
    exact ⟨(before.toList, after.toList), cutChars_eq_some_iff.2 ⟨hsep, by simp⟩, by simp⟩

/-- Only a text without separators is not cut. -/
theorem cut_eq_none_iff : cut sep s = none ↔ sep ∉ s.toList := by
  constructor
  · intro hnone hmem
    -- Cutting a text with a separator in two, as the first occurrence does, would be an answer.
    obtain ⟨chars, chars', hs, hsep⟩ := List.eq_append_cons_of_mem hmem
    have hcut : cut sep s = some (String.ofList chars, String.ofList chars') :=
      cut_eq_some_iff.2 ⟨by simpa using hsep, String.toList_injective (by simp [hs])⟩
    rw [hnone] at hcut
    cases hcut
  · intro hsep
    refine Option.eq_none_iff_forall_ne_some.2 ?_
    rintro ⟨before, after⟩ hcut
    obtain ⟨-, rfl⟩ := cut_eq_some_iff.1 hcut
    exact hsep (by simp)

theorem join_empty_cons (s : String) (parts : List String) :
    join "" (s :: parts) = s ++ join "" parts := by
  apply String.toList_injective
  cases parts with
  | nil => simp [join]
  | cons part parts => simp [join, String.toList_intercalate]

theorem join_ne_empty {sep : String} (parts : List String) (h : s ≠ "") :
    join sep (s :: parts) ≠ "" := by
  intro hempty
  apply h
  rw [← String.toList_eq_nil_iff] at hempty ⊢
  cases parts with
  | nil => simpa [join] using hempty
  | cons part parts =>
    rw [join, String.toList_intercalate, List.map_cons, List.map_cons, List.intercalate_cons_cons,
      List.append_eq_nil_iff] at hempty
    exact (List.append_eq_nil_iff.1 hempty.1).1

end Split

/-! ## Trimming -/

section Trim

variable {cs : List Char} {s : String}

theorem trimChars_eq_rdropWhile (cs : List Char) :
    trimChars cs = (cs.dropWhile isBlank).rdropWhile isBlank := rfl

theorem trimChars_eq_self_iff :
    trimChars cs = cs ↔
      (∀ c ∈ cs.head?, isBlank c = false) ∧ ∀ c ∈ cs.getLast?, isBlank c = false := by
  have hstart : cs.dropWhile isBlank = cs ↔ ∀ c ∈ cs.head?, isBlank c = false := by
    cases cs <;> simp [List.dropWhile_eq_self_iff]
  have hend : cs.rdropWhile isBlank = cs ↔ ∀ c ∈ cs.getLast?, isBlank c = false := by
    rw [List.rdropWhile_eq_self_iff]
    cases cs <;> simp [List.getLast?_eq_some_getLast]
  rw [← hstart, ← hend, trimChars_eq_rdropWhile]
  constructor
  · intro h
    -- Neither step can have dropped anything, or the text would be shorter than it is.
    have hle := (List.rdropWhile_prefix isBlank (cs.dropWhile isBlank)).length_le
    have hdrop : cs.dropWhile isBlank = cs :=
      (List.dropWhile_suffix isBlank).eq_of_length_le (by rwa [h] at hle)
    exact ⟨hdrop, by rwa [hdrop] at h⟩
  · rintro ⟨hdrop, hrdrop⟩
    rw [hdrop, hrdrop]

/-- A text is its own trimming exactly if neither of its ends is blank. -/
theorem trim_eq_self_iff :
    trim s = s ↔
      (∀ c ∈ s.toList.head?, isBlank c = false) ∧ ∀ c ∈ s.toList.getLast?, isBlank c = false := by
  rw [← trimChars_eq_self_iff, ← toList_trim, String.toList_inj]

/-- Trimming again changes nothing. -/
@[simp]
theorem trim_trim (s : String) : trim (trim s) = trim s := by
  rw [trim_eq_self_iff, toList_trim, trimChars_eq_rdropWhile]
  constructor
  · intro c hc
    -- The trimming starts where the text goes on after its blanks.
    obtain ⟨rest, hrest⟩ := List.rdropWhile_prefix isBlank (s.toList.dropWhile isBlank)
    have hhead : (s.toList.dropWhile isBlank).head? = some c := by
      rw [← hrest, List.head?_append, Option.mem_def.1 hc, Option.some_or]
    have hnot := List.head?_dropWhile_not isBlank s.toList
    rwa [hhead] at hnot
  · intro c hc
    obtain ⟨hne, rfl⟩ := List.mem_getLast?_eq_getLast hc
    exact eq_false_of_ne_true (List.rdropWhile_last_not isBlank _ hne)

theorem mem_of_mem_trim {c : Char} (h : c ∈ (trim s).toList) : c ∈ s.toList := by
  rw [toList_trim, trimChars_eq_rdropWhile] at h
  exact (List.dropWhile_suffix isBlank).mem ((List.rdropWhile_prefix isBlank _).mem h)

/-- A text that does not start with a blank starts with its trimming. -/
theorem trimChars_isPrefix (h : ∀ c ∈ cs.head?, isBlank c = false) : trimChars cs <+: cs := by
  have hdrop : cs.dropWhile isBlank = cs := by
    cases cs with
    | nil => rfl
    | cons c cs => rw [List.dropWhile_cons_of_neg (by simp [h c rfl])]
  have hstart := List.rdropWhile_prefix isBlank (cs.dropWhile isBlank)
  rwa [← trimChars_eq_rdropWhile, hdrop] at hstart

/-- Only the empty text is blank and its own trimming. -/
theorem isBlankText_eq_false (h : trim s = s) (hne : s ≠ "") : isBlankText s = false := by
  rw [isBlankText, Bool.eq_false_iff, ne_eq, ← trimChars_eq_nil_iff, ← toList_trim, h,
    String.toList_eq_nil_iff]
  exact hne

end Trim

end StreamPlan.Text
