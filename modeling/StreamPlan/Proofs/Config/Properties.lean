import StreamPlan.Config.Properties
import StreamPlan.Proofs.Config.Subset
import StreamPlan.Proofs.Data.Except
import StreamPlan.Proofs.Text.Parts

/-!
# Properties read back

The line format has no escapes, so not every configuration can be written in it. `Writable` says of one
entry what a line can say, and reading never answers anything else (`writable_of_ofProperties`). Hence
the main result, `ofProperties_properties_iff`: a written configuration is read back as itself exactly
if all of its entries are writable, and every configuration that was read once is.
-/

namespace StreamPlan.Config

variable {raw key value : String} {config start : Config}

/-- A key and a value that stand on a line as they are. -/
structure Writable (key value : String) : Prop where
  key_ne_empty : key ≠ ""
  trim_key : Text.trim key = key
  /-- The line is no comment. -/
  key_head : ∀ c ∈ key.toList.head?, c ≠ '#' ∧ c ≠ '!'
  /-- The line is not divided inside the key. -/
  equals_not_mem : '=' ∉ key.toList
  newline_not_mem_key : '\n' ∉ key.toList
  trim_value : Text.trim value = value
  newline_not_mem_value : '\n' ∉ value.toList

/-! ## One line -/

theorem isComment_eq_false_iff {line : String} :
    isComment line = false ↔ ∀ c ∈ line.toList.head?, c ≠ '#' ∧ c ≠ '!' := by
  rw [isComment, Text.hasLead, Text.hasLead, Bool.or_eq_false_iff]
  cases line.toList with
  | nil => simp
  | cons c cs => simp [List.isPrefixOf, @eq_comm _ c]

/-- A line says a pair if it is no comment and is divided after something that is not blank. -/
theorem readLine_eq_pair_iff :
    readLine raw = .pair key value ↔
      (Text.trim raw ≠ "" ∧ isComment (Text.trim raw) = false) ∧ key ≠ "" ∧
        ∃ before after, (Text.cut '=' (Text.trim raw)).orElse (fun _ => Text.cut ':' (Text.trim raw)) =
            some (before, after) ∧
          Text.trim before = key ∧ Text.trim after = value := by
  rw [readLine]
  generalize Text.trim raw = line
  split
  -- The line is skipped, so that it says no pair.
  · rename_i hskip
    simp only [Bool.or_eq_true, decide_eq_true_eq] at hskip
    grind
  · rename_i hskip
    simp only [Bool.or_eq_true, decide_eq_true_eq] at hskip
    split <;> grind

theorem Writable.readLine (h : Writable key value) :
    readLine (key ++ "=" ++ value) = .pair key value := by
  have hchars : (key ++ "=" ++ value).toList = key.toList ++ '=' :: value.toList := by simp
  have hkey : key.toList ≠ [] := fun hnil => h.key_ne_empty (String.toList_eq_nil_iff.1 hnil)
  -- The line starts as its key does, and it ends as its value does or else with the separator.
  have hhead : (key ++ "=" ++ value).toList.head? = key.toList.head? := by
    rw [hchars, List.head?_append_of_ne_nil _ hkey]
  have hlast : (key ++ "=" ++ value).toList.getLast? = some (value.toList.getLast?.getD '=') := by
    rw [hchars, List.getLast?_append, List.getLast?_cons, Option.some_or]
  have htrim : Text.trim (key ++ "=" ++ value) = key ++ "=" ++ value := by
    rw [Text.trim_eq_self_iff, hhead, hlast]
    refine ⟨(Text.trim_eq_self_iff.1 h.trim_key).1, ?_⟩
    have hvalue := (Text.trim_eq_self_iff.1 h.trim_value).2
    cases hend : value.toList.getLast? with
    | none => simp [Text.isBlank]
    | some c => simpa using hvalue c hend
  have hcomment : isComment (key ++ "=" ++ value) = false := by
    rw [isComment_eq_false_iff, hhead]
    exact h.key_head
  have hcut : Text.cut '=' (key ++ "=" ++ value) = some (key, value) :=
    Text.cut_eq_some_iff.2 ⟨h.equals_not_mem, String.toList_injective (by simp)⟩
  refine readLine_eq_pair_iff.2 ?_
  rw [htrim]
  refine ⟨⟨?_, hcomment⟩, h.key_ne_empty, key, value, ?_, h.trim_key, h.trim_value⟩
  · intro hempty
    rw [hempty] at hchars
    simp at hchars
  · rw [hcut]
    rfl

/-- A line without line ends says only what can be written. -/
theorem writable_of_readLine (hraw : '\n' ∉ raw.toList) (h : readLine raw = .pair key value) :
    Writable key value := by
  obtain ⟨⟨-, hcomment⟩, hkey, before, after, hdivided, rfl, rfl⟩ := readLine_eq_pair_iff.1 h
  -- Whichever separator divides the line, there is no `=` before it.
  obtain ⟨sep, hequals, hline⟩ : ∃ sep : Char, '=' ∉ before.toList ∧
      (Text.trim raw).toList = before.toList ++ sep :: after.toList := by
    rw [← Option.or_eq_orElse, Option.or_eq_some_iff] at hdivided
    rcases hdivided with hcut | ⟨hnone, hcut⟩
    · obtain ⟨hequals, hline⟩ := Text.cut_eq_some_iff.1 hcut
      exact ⟨'=', hequals, by rw [hline]; simp⟩
    · obtain ⟨-, hline⟩ := Text.cut_eq_some_iff.1 hcut
      have hequals := Text.cut_eq_none_iff.1 hnone
      rw [hline] at hequals
      exact ⟨':', fun hmem => hequals (by simp [hmem]), by rw [hline]; simp⟩
  have hnewline : ∀ c ∈ (Text.trim raw).toList, c ≠ '\n' := fun c hc hcn =>
    hraw (hcn ▸ Text.mem_of_mem_trim hc)
  rw [hline] at hnewline
  -- What stands before the separator starts the line, so it starts with no blank and with no mark of
  -- a comment.
  have hstart : ∀ c ∈ before.toList.head?, c ∈ (Text.trim raw).toList.head? := by
    intro c hc
    rw [hline, List.head?_append, Option.mem_def.1 hc, Option.some_or]
    rfl
  have hblank : ∀ c ∈ before.toList.head?, Text.isBlank c = false := fun c hc =>
    (Text.trim_eq_self_iff.1 (Text.trim_trim raw)).1 c (hstart c hc)
  have hprefix : (Text.trim before).toList <+: before.toList := by
    rw [Text.toList_trim]
    exact Text.trimChars_isPrefix hblank
  refine ⟨hkey, Text.trim_trim before, ?_, ?_, ?_, Text.trim_trim after, ?_⟩
  · intro c hc
    have hbefore : c ∈ before.toList.head? := by
      obtain ⟨rest, hrest⟩ := hprefix
      rw [← hrest, List.head?_append, Option.mem_def.1 hc, Option.some_or]
      rfl
    exact isComment_eq_false_iff.1 hcomment c (hstart c hbefore)
  · exact fun hmem => hequals (Text.mem_of_mem_trim hmem)
  · exact fun hmem => hnewline _ (List.mem_append_left _ (Text.mem_of_mem_trim hmem)) rfl
  · exact fun hmem =>
      hnewline _ (List.mem_append_right _ (List.mem_cons_of_mem _ (Text.mem_of_mem_trim hmem))) rfl

/-! ## All lines -/

/-- Reading lines keeps a configuration writable. -/
theorem writable_of_readLines {number : Nat} {lines : List String}
    (hlines : ∀ line ∈ lines, '\n' ∉ line.toList)
    (hstart : ∀ key value, start.get? key = some value → Writable key value)
    (h : readLines number start lines = .ok config) (hvalue : config.get? key = some value) :
    Writable key value := by
  induction lines generalizing number start with
  | nil =>
    cases h
    exact hstart key value hvalue
  | cons line lines ih =>
    have hrest : ∀ line ∈ lines, '\n' ∉ line.toList := fun _ hmem =>
      hlines _ (List.mem_cons_of_mem _ hmem)
    rw [readLines] at h
    split at h
    · exact ih hrest hstart h
    · rename_i k v hline
      -- A pair that is added is writable, since its line was read; the other pairs were there before.
      refine ih hrest ?_ h
      intro key value hget
      rw [SortedMap.get?_insert] at hget
      split at hget
      · rename_i hk
        obtain rfl := Option.some.inj hget
        exact hk ▸ writable_of_readLine (hlines line List.mem_cons_self) hline
      · exact hstart key value hget
    · cases h
    · cases h

theorem writable_of_ofProperties {text : String} (h : ofProperties text = .ok config)
    (hvalue : config.get? key = some value) : Writable key value := by
  refine writable_of_readLines (fun _ => Text.not_mem_of_mem_split) ?_ h hvalue
  intro key value hempty
  cases hempty

/-- Lines that are ended one by one are found again, with an empty one after the last end. -/
theorem split_join_lines {lines : List String} (h : ∀ line ∈ lines, '\n' ∉ line.toList) :
    Text.split '\n' (Text.join "" (lines.map (· ++ "\n"))) = lines ++ [""] := by
  induction lines with
  | nil => rfl
  | cons line lines ih =>
    have hend : line ++ "\n" = line ++ String.singleton '\n' := rfl
    rw [List.map_cons, Text.join_empty_cons, hend, Text.split_append,
      Text.split_of_not_mem (h line List.mem_cons_self),
      ih fun _ hmem => h _ (List.mem_cons_of_mem _ hmem)]
    rfl

theorem readLines_of_writable {number : Nat} {entries : List (String × String)}
    (h : ∀ entry ∈ entries, Writable entry.1 entry.2) :
    readLines number start (entries.map (fun (key, value) => key ++ "=" ++ value) ++ [""]) =
      .ok (start.insertAll entries) := by
  induction entries generalizing number start with
  | nil => rfl
  | cons entry entries ih =>
    rw [List.map_cons, List.cons_append, readLines, (h entry List.mem_cons_self).readLine]
    exact ih fun _ hmem => h _ (List.mem_cons_of_mem _ hmem)

theorem ofProperties_properties
    (h : ∀ key value, config.get? key = some value → Writable key value) :
    ofProperties config.properties = .ok config := by
  -- Each entry stands on a line of its own, which is read as the entry again.
  have hentries : ∀ entry ∈ config.entries, Writable entry.1 entry.2 := fun entry hmem =>
    h entry.1 entry.2 (SortedMap.get?_eq_some_iff_mem.2 hmem)
  have hlines : ∀ line ∈ config.propertyLines, '\n' ∉ line.toList := by
    intro line hline
    obtain ⟨entry, hmem, rfl⟩ := List.mem_map.1 hline
    have hentry := hentries entry hmem
    simp [hentry.newline_not_mem_key, hentry.newline_not_mem_value]
  have hconfig : SortedMap.empty.overlay config = config :=
    SortedMap.overlay_eq_top fun _ _ => rfl
  rw [ofProperties, properties, split_join_lines hlines, propertyLines, readLines_of_writable hentries]
  exact congrArg Except.ok hconfig

/-- A written configuration is read back as itself exactly if each of its entries can stand on a line,
which is so of every configuration that was read. -/
theorem ofProperties_properties_iff (config : Config) :
    (ofProperties config.properties = .ok config ↔
      ∀ key value, config.get? key = some value → Writable key value) ∧
    ∀ text, ofProperties text = .ok config → ofProperties config.properties = .ok config := by
  refine ⟨⟨?_, ofProperties_properties⟩, ?_⟩
  · intro h key value
    exact writable_of_ofProperties h
  · intro text h
    exact ofProperties_properties fun key value => writable_of_ofProperties h

/-- What a text with a comment, both separators and both kinds of line ends says. -/
def commented : Config := SortedMap.ofList [("name", "views"), ("url : a", "b")]

/-- A statement that does not fit on a line. -/
def multiline : Config := SortedMap.ofList [("stmt", "scan:\n t")]

theorem ofProperties_properties_iff_commented :
    ofProperties "# job\r\n name: views\r\nurl : a=b" = .ok commented ∧
      ofProperties commented.properties = .ok commented ∧
      ofProperties multiline.properties ≠ .ok multiline := by
  have hread : ofProperties "# job\r\n name: views\r\nurl : a=b" = .ok commented :=
    toOption_eq_some_iff.1 (by decide +kernel)
  refine ⟨hread, (ofProperties_properties_iff commented).2 _ hread, ?_⟩
  intro h
  have hwritable := (ofProperties_properties_iff multiline).1.1 h "stmt" "scan:\n t" (by decide +kernel)
  exact hwritable.newline_not_mem_value (by decide +kernel)

end StreamPlan.Config
