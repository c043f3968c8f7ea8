import StreamPlan.Json.Parser
import StreamPlan.Json.Printer
import StreamPlan.Proofs.Data.SortedMap
import StreamPlan.Proofs.Text.Parts
import Mathlib.Data.List.Forall2

/-!
# JSON read back

Compact texts are read back piece by piece. `ReadsAs` says that characters are read as a value whatever
follows them, and there is a rule for each kind of value: texts (`readsAs_string`), lists
(`readsAs_array`) and objects (`readsAs_object`), whose fields are put in key order. Numbers have no
such rule, since a digit that follows a number belongs to it.

From these follow `parse?_ofStrings`, that a list of texts is read back as it was written, and
`ofMap_compact_inj`, that different maps have different texts.
-/

namespace StreamPlan.Json

/-! ## Texts -/

theorem readText?_unit {a b c d char : Char} {rest : List Char}
    (h : (hexQuad? a b c d).bind unitChar? = some char) :
    readText? ('\\' :: 'u' :: a :: b :: c :: d :: rest) = consRead char (readText? rest) := by
  obtain ⟨code, hcode, hchar⟩ := Option.bind_eq_some_iff.1 h
  -- Two numbered escapes in a row are looked at together, in case they are a surrogate pair.
  by_cases hpair : ∃ e f g i rest', rest = '\\' :: 'u' :: e :: f :: g :: i :: rest'
  · obtain ⟨e, f, g, i, rest', rfl⟩ := hpair
    rw [readText?, hcode]
    simp only [hchar]
  · rw [readText?, h]
    intro e f g i rest' hrest
    exact hpair ⟨e, f, g, i, rest', hrest⟩

theorem readText?_escape {c char : Char} {rest : List Char} (hu : c ≠ 'u')
    (h : simpleEscape? c = some char) :
    readText? ('\\' :: c :: rest) = consRead char (readText? rest) := by
  rw [readText?, h]
  · intros
    contradiction
  · intros
    contradiction

theorem readText?_plain {c : Char} {rest : List Char} (hquote : c ≠ '"') (hbackslash : c ≠ '\\')
    (hcontrol : ¬c.toNat < 0x20) : readText? (c :: rest) = consRead c (readText? rest) := by
  rw [readText?]
  · rw [if_neg (by simp only [hbackslash, hcontrol]; decide)]
  · exact hquote
  all_goals
    intros
    contradiction

theorem hexQuad?_control {n : Nat} (h : n < 0x20) :
    hexQuad? '0' '0' (hexDigit (n / 16)) (hexDigit (n % 16)) = some n := by
  have hall : ∀ n : Fin 0x20,
      hexQuad? '0' '0' (hexDigit (n / 16)) (hexDigit (n % 16)) = some n.val := by decide
  exact hall ⟨n, h⟩

/-- A character is read back from the way in which it is written. -/
theorem readText?_escapeChar (c : Char) (rest : List Char) :
    readText? (escapeChar c ++ rest) = consRead c (readText? rest) := by
  rw [escapeChar]
  split_ifs with hquote hbackslash hb hf hn hr ht hcontrol
  -- The seven short escapes, in the order in which the writer tries them.
  · exact readText?_escape (by decide) (by rw [hquote]; rfl)
  · exact readText?_escape (by decide) (by rw [hbackslash]; rfl)
  · exact readText?_escape (by decide) (by rw [hb]; rfl)
  · exact readText?_escape (by decide) (by rw [hf]; rfl)
  · exact readText?_escape (by decide) (by rw [hn]; rfl)
  · exact readText?_escape (by decide) (by rw [hr]; rfl)
  · exact readText?_escape (by decide) (by rw [ht]; rfl)
  -- Other controls are written as four hexadecimal digits. They are below the surrogates.
  · refine readText?_unit ?_
    rw [hexQuad?_control hcontrol, Option.bind_some, unitChar?, if_neg (by omega), Char.ofNat_toNat]
  · exact readText?_plain hquote hbackslash hcontrol

theorem readText?_flatMap_escapeChar (s rest : List Char) :
    readText? (s.flatMap escapeChar ++ '"' :: rest) = some (s, rest) := by
  induction s with
  | nil => rw [List.flatMap_nil, List.nil_append, readText?]
  | cons c s ih =>
    rw [List.flatMap_cons, List.append_assoc, readText?_escapeChar, ih]
    rfl

/-! ## Values -/

/-- The characters are read as the value, whatever follows them. A step for each character is enough. -/
def ReadsAs (chars : List Char) (value : Json) : Prop :=
  ∀ fuel rest, chars.length ≤ fuel → readValue? fuel (chars ++ rest) = some (value, rest)

theorem skipGaps_cons {c : Char} {cs : List Char} (h : isGap c = false) :
    skipGaps (c :: cs) = c :: cs :=
  List.dropWhile_cons_of_neg (by simp [h])

theorem skipGaps_skipGaps (cs : List Char) : skipGaps (skipGaps cs) = skipGaps cs :=
  List.dropWhile_idempotent isGap cs

theorem readValue?_skipGaps (fuel : Nat) (cs : List Char) :
    readValue? fuel (skipGaps cs) = readValue? fuel cs := by
  cases fuel with
  | zero => rw [readValue?, readValue?]
  | succ fuel => rw [readValue?, readValue?, skipGaps_skipGaps]

theorem readValue?_bracket (fuel : Nat) (cs : List Char) : readValue? fuel (']' :: cs) = none := by
  cases fuel with
  | zero => rw [readValue?]
  | succ fuel =>
    rw [readValue?, skipGaps_cons (by decide)]
    rfl

theorem readsAs_string (s : String) : ReadsAs (Json.string s).compact.toList (.string s) := by
  intro fuel rest hfuel
  have hchars : (Json.string s).compact.toList = '"' :: (s.toList.flatMap escapeChar ++ ['"']) := by
    rw [compact, quoteText, String.toList_ofList, quotedChars]
    rfl
  rw [hchars] at hfuel ⊢
  -- One step of fuel goes to the quote; the text itself takes none.
  obtain _ | fuel := fuel
  · simp at hfuel
  · rw [List.cons_append, List.append_assoc, List.singleton_append, readValue?,
      skipGaps_cons (by decide)]
    simp only [readText?_flatMap_escapeChar, Option.map_some, String.ofList_toList]

theorem compactItems_eq_map (items : List Json) : compactItems items = items.map compact := by
  induction items with
  | nil => rw [compactItems, List.map_nil]
  | cons item items ih => rw [compactItems, ih, List.map_cons]

theorem compactFields_eq_map (fields : List (String × Json)) :
    compactFields fields = fields.map fun (name, value) => quoteText name ++ ":" ++ value.compact := by
  induction fields with
  | nil => rw [compactFields, List.map_nil]
  | cons field fields ih => rw [compactFields, ih, List.map_cons]

/-- The values of a list are read one after the other. -/
theorem readItems?_join {items results : List Json} (hne : items ≠ [])
    (h : List.Forall₂ (fun item result => ReadsAs item.compact.toList result) items results)
    (fuel : Nat) (rest : List Char)
    (hfuel : (Text.join "," (items.map compact)).toList.length < fuel) :
    readItems? fuel ((Text.join "," (items.map compact)).toList ++ ']' :: rest) =
      some (results, rest) := by
  induction h generalizing fuel with
  | nil => exact absurd rfl hne
  | @cons item result items results hitem hitems ih =>
    obtain _ | fuel := fuel
    · simp at hfuel
    -- One step is spent here, and the separator or bracket after the value pays for it.
    rw [readItems?]
    cases hitems with
    | nil =>
      simp only [List.map_cons, List.map_nil, Text.join, String.intercalate_singleton] at hfuel ⊢
      rw [hitem fuel _ (by omega)]
      simp (disch := decide) only [skipGaps_cons]
    | @cons second result' items results hsecond hrest =>
      have hjoin : (Text.join "," ((item :: second :: items).map compact)).toList =
          item.compact.toList ++ ',' :: (Text.join "," ((second :: items).map compact)).toList := by
        simp [Text.join, String.toList_intercalate]
      rw [hjoin] at hfuel ⊢
      simp only [List.length_append, List.length_cons] at hfuel
      rw [List.append_assoc, List.cons_append, hitem fuel _ (by omega)]
      simp (disch := decide) only [skipGaps_cons]
      rw [ih (by simp) fuel (by omega)]
      rfl

/-- The fields of an object are read one after the other. -/
theorem readFields?_join {fields results : List (String × Json)} (hne : fields ≠ [])
    (h : List.Forall₂ (fun field result => field.1 = result.1 ∧ ReadsAs field.2.compact.toList result.2)
      fields results)
    (fuel : Nat) (rest : List Char)
    (hfuel : (Text.join "," (compactFields fields)).toList.length < fuel) :
    readFields? fuel ((Text.join "," (compactFields fields)).toList ++ '\x7d' :: rest) =
      some (results, rest) := by
  induction h generalizing fuel with
  | nil => exact absurd rfl hne
  | @cons field result fields results hfield hfields ih =>
    obtain ⟨name, value⟩ := field
    obtain ⟨name', result⟩ := result
    obtain ⟨hname, hvalue⟩ := hfield
    simp only at hname hvalue
    subst hname
    obtain _ | fuel := fuel
    · simp at hfuel
    -- The name is quoted like a string, with a colon after it.
    have hfield : (quoteText name ++ ":" ++ value.compact).toList =
        '"' :: (name.toList.flatMap escapeChar ++ '"' :: ':' :: value.compact.toList) := by
      simp [quoteText, quotedChars]
    rw [readFields?]
    cases hfields with
    -- The last field: the brace ends the list.
    | nil =>
      simp only [compactFields, Text.join, String.intercalate_singleton, hfield, List.length_cons,
        List.length_append] at hfuel ⊢
      simp (disch := decide) only [List.cons_append, List.append_assoc, skipGaps_cons,
        readText?_flatMap_escapeChar, hvalue fuel _ (by omega), String.ofList_toList]
    | @cons second result' fields results hsecond hrest =>
      -- The comma leads to the fields after it, which have fuel enough since they are shorter.
      have hjoin : (Text.join "," (compactFields ((name, value) :: second :: fields))).toList =
          '"' :: (name.toList.flatMap escapeChar ++ '"' :: ':' :: (value.compact.toList ++
            ',' :: (Text.join "," (compactFields (second :: fields))).toList)) := by
        rw [compactFields, compactFields, Text.join, Text.join, String.intercalate_cons_cons,
          String.toList_append, String.toList_append, hfield]
        simp
      rw [hjoin] at hfuel ⊢
      simp only [List.length_append, List.length_cons] at hfuel
      simp (disch := decide) only [List.cons_append, List.append_assoc, skipGaps_cons,
        readText?_flatMap_escapeChar, hvalue fuel _ (by omega), String.ofList_toList]
      rw [ih (by simp) fuel (by omega)]
      rfl

/-- What is read as a value does not close a list. -/
theorem ReadsAs.skipGaps_ne {chars rest rest' : List Char} {value : Json} (h : ReadsAs chars value) :
    skipGaps (chars ++ rest) ≠ ']' :: rest' := by
  intro hclose
  have hread := h chars.length rest (Nat.le_refl _)
  rw [← readValue?_skipGaps, hclose, readValue?_bracket] at hread
  cases hread

theorem readItems?_skipGaps (fuel : Nat) (cs : List Char) :
    readItems? fuel (skipGaps cs) = readItems? fuel cs := by
  cases fuel with
  | zero => rw [readItems?, readItems?]
  | succ fuel => rw [readItems?, readItems?, readValue?_skipGaps]

theorem readsAs_array {items results : List Json}
    (h : List.Forall₂ (fun item result => ReadsAs item.compact.toList result) items results) :
    ReadsAs (Json.array items).compact.toList (.array results) := by
  intro fuel rest hfuel
  have hchars : (Json.array items).compact.toList =
      '[' :: ((Text.join "," (items.map compact)).toList ++ [']']) := by
    rw [compact, compactItems_eq_map]
    simp
  rw [hchars, List.length_cons, List.length_append, List.length_singleton] at hfuel
  obtain _ | fuel := fuel
  · simp at hfuel
  rw [hchars, List.cons_append, List.append_assoc, List.singleton_append, readValue?,
    skipGaps_cons (by decide)]
  cases items with
  | nil =>
    cases h
    rfl
  | cons item items =>
    have hread := readItems?_join (List.cons_ne_nil item items) h fuel rest (by omega)
    -- A list with values does not end where it starts, since its first value is not a bracket.
    obtain ⟨more, hmore⟩ : ∃ more, (Text.join "," ((item :: items).map compact)).toList =
        item.compact.toList ++ more := by
      cases items with
      | nil => exact ⟨[], by simp [Text.join]⟩
      | cons second items => exact ⟨_, by simp [Text.join, String.toList_intercalate]; rfl⟩
    rw [← readItems?_skipGaps] at hread
    cases h with
    | cons hitem hitems =>
      rw [hmore, List.append_assoc] at hread ⊢
      simp only
      split
      · rename_i hclose
        exact absurd hclose hitem.skipGaps_ne
      · rw [hread]
        rfl

theorem readsAs_object {fields results : List (String × Json)}
    (h : List.Forall₂ (fun field result => field.1 = result.1 ∧ ReadsAs field.2.compact.toList result.2)
      fields results) :
    ReadsAs (Json.object fields).compact.toList (ofFields results) := by
  intro fuel rest hfuel
  have hchars : (Json.object fields).compact.toList =
      '\x7b' :: ((Text.join "," (compactFields fields)).toList ++ ['\x7d']) := by
    rw [compact]
    simp
  rw [hchars, List.length_cons, List.length_append, List.length_singleton] at hfuel
  obtain _ | fuel := fuel
  · simp at hfuel
  rw [hchars, List.cons_append, List.append_assoc, List.singleton_append, readValue?,
    skipGaps_cons (by decide)]
  cases fields with
  | nil =>
    cases h
    rfl
  | cons field fields =>
    have hread := readFields?_join (List.cons_ne_nil field fields) h fuel rest (by omega)
    -- The first field starts with the quote of its name.
    obtain ⟨more, hmore⟩ : ∃ more, (Text.join "," (compactFields (field :: fields))).toList =
        '"' :: more := by
      rw [compactFields_eq_map]
      cases fields with
      | nil => exact ⟨_, by simp [Text.join, quoteText, quotedChars]; rfl⟩
      | cons second fields =>
        exact ⟨_, by simp [Text.join, quoteText, quotedChars, String.toList_intercalate]; rfl⟩
    rw [hmore, List.cons_append] at hread ⊢
    simp (disch := decide) only [skipGaps_cons]
    change (readFields? fuel ('"' :: (more ++ '\x7d' :: rest))).map _ = _
    rw [hread]
    rfl

theorem parse?_of_readsAs {text : String} {value : Json} (h : ReadsAs text.toList value) :
    parse? text = some value := by
  have hread := h (2 * text.toList.length + 2) [] (by omega)
  rw [List.append_nil] at hread
  rw [parse?]
  simp only [hread]
  rfl

/-! ## Lists and maps of texts -/

theorem readsAs_ofStrings (items : List String) :
    ReadsAs (ofStrings items).compact.toList (ofStrings items) := by
  refine readsAs_array ?_
  rw [List.forall₂_map_left_iff, List.forall₂_map_right_iff, List.forall₂_same]
  exact fun item _ => readsAs_string item

/-- A list of texts is read back as it was written. -/
theorem parse?_ofStrings (items : List String) :
    (parse? (ofStrings items).compact).bind strings? = some items := by
  rw [parse?_of_readsAs (readsAs_ofStrings items), Option.bind_some, ofStrings, strings?]
  induction items with
  | nil => rfl
  | cons item items ih =>
    rw [List.map_cons, List.mapM_cons, ih]
    rfl

theorem field?_ofFields (fields : List (String × Json)) (name : String) :
    (ofFields fields).field? name = Entries.get? name fields.reverse := by
  rw [ofFields, field?, ← SortedMap.entries_ofList]
  exact SortedMap.get?_ofList fields name

theorem readsAs_ofMap (map : SortedMap String) :
    ReadsAs (ofMap map).compact.toList
      (ofFields (map.entries.map fun (key, value) => (key, .string value))) := by
  refine readsAs_object ?_
  rw [List.forall₂_same]
  intro field hfield
  obtain ⟨entry, -, rfl⟩ := List.mem_map.1 hfield
  exact ⟨rfl, readsAs_string entry.2⟩

/-- Different maps have different texts. -/
theorem ofMap_compact_inj {a b : SortedMap String} (h : (ofMap a).compact = (ofMap b).compact) :
    a = b := by
  -- Of what is read back, each field is the value of a key, so lookups can be told from the text.
  have hread : ∀ map : SortedMap String, ∀ key,
      ((parse? (ofMap map).compact).bind (field? key)) = (map.get? key).map .string := by
    intro map key
    rw [parse?_of_readsAs (readsAs_ofMap map), Option.bind_some, field?_ofFields, ← List.map_reverse,
      Entries.get?_map, Entries.get?_reverse map.sorted.keys_ne]
    rfl
  refine SortedMap.ext_get? fun key => ?_
  have hkey := hread b key
  rw [← h, hread a key] at hkey
  exact Option.map_injective (fun _ _ => Json.string.inj) hkey

end StreamPlan.Json
