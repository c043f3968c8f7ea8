import StreamPlan.TableName
import StreamPlan.Proofs.Text.Parts

/-!
# Table names and their dotted texts

A name is written as its segments with dots between them. It is the dotted text that streams are looked
up by and that plans are stored with, so it matters which names can be told from it.

- `parse_eq_ok_iff`: the segments of a text are what stands between its dots, trimmed;
- `parse_dotted_eq`: a name that is written and read again has its segments cut at their own dots and
  trimmed;
- `parse_dotted_iff_normal`: the names that come back are those in normal form (`Normal`), and no other
  names are ever read.
-/

namespace StreamPlan.TableName

variable {segments : List String} {text : String} {name : TableName}

/-! ## Reading -/

/-- Segments form a name exactly if some name has them. -/
theorem ofSegments_eq_ok_iff : ofSegments segments = .ok name ↔ name.segments = segments := by
  rw [ofSegments]
  constructor
  · intro h
    split at h
    · cases h
    · split at h
      · cases h
      · rw [← Except.ok.inj h]
  · rintro rfl
    -- The two conditions that are checked are fields of every name.
    rw [dif_neg name.nonempty]
    have hvisible := List.findIdx?_eq_none_iff.2 name.visible
    split
    · rename_i hblank
      rw [hvisible] at hblank
      cases hblank
    · rfl

theorem parse_eq_ok_iff :
    parse text = .ok name ↔ name.segments = (Text.split '.' text).map Text.trim :=
  ofSegments_eq_ok_iff

theorem ne_empty_of_mem {segment : String} (h : segment ∈ name.segments) : segment ≠ "" := by
  rintro rfl
  have hvisible := name.visible "" h
  cases hvisible

section Parts

variable {system stream : String}

theorem split_append (system stream : String) :
    Text.split '.' (system ++ "." ++ stream) = Text.split '.' system ++ Text.split '.' stream :=
  Text.split_append '.' system stream

/-- If the stream of a name has no dots, neither part of the name has. -/
theorem not_mem_of_parse_append (h : parse (system ++ "." ++ stream) = .ok name)
    (htail : '.' ∉ name.tail.toList) : '.' ∉ system.toList ∧ '.' ∉ stream.toList := by
  have hjoin : name.tail = Text.join (String.singleton '.') name.segments.tail := rfl
  rw [hjoin] at htail
  have hlength : name.segments.tail.length ≤ 1 := Text.length_le_one_of_join htail
  rw [parse_eq_ok_iff.1 h, split_append] at hlength
  -- Each part has a segment at least, and together they have two.
  have hsystem := List.length_pos_iff.2 (Text.split_ne_nil '.' system)
  have hstream := List.length_pos_iff.2 (Text.split_ne_nil '.' stream)
  simp only [List.length_tail, List.length_map, List.length_append] at hlength
  exact ⟨Text.length_split_eq_one_iff.1 (by omega), Text.length_split_eq_one_iff.1 (by omega)⟩

end Parts

/-! ## Writing -/

theorem join_cons_cons (first second : String) (rest : List String) :
    Text.join "." (first :: second :: rest) = first ++ "." ++ Text.join "." (second :: rest) := by
  rw [Text.join, Text.join, String.intercalate_cons_cons]

/-- Only a name of one segment has nothing after the first. -/
theorem tail_eq_empty_iff (name : TableName) : name.tail = "" ↔ name.segments.length = 1 := by
  obtain ⟨first, rest, hsegments⟩ := List.exists_cons_of_ne_nil name.nonempty
  rw [tail, hsegments, List.tail_cons, List.length_cons]
  cases rest with
  | nil => simp [Text.join]
  | cons second rest =>
    -- The second segment is not blank, so that what is joined is not empty.
    have hmem : second ∈ name.segments := by simp [hsegments]
    simp [Text.join_ne_empty rest (ne_empty_of_mem hmem)]

/-- A name of several segments is written as the first of them and the rest. -/
theorem dotted_eq_head_append (h : 2 ≤ name.segments.length) :
    name.dotted = name.head ++ "." ++ name.tail := by
  obtain ⟨segments, hne, hvisible⟩ := name
  match segments with
  | [] => exact absurd rfl hne
  | [_] => simp at h
  | first :: second :: rest => exact join_cons_cons first second rest

/-! ## Reading what was written -/

/-- Joined parts are cut at the dots between them and at their own. -/
theorem split_join {parts : List String} (hne : parts ≠ []) :
    Text.split '.' (Text.join "." parts) = parts.flatMap (Text.split '.') := by
  induction parts with
  | nil => exact absurd rfl hne
  | cons part parts ih =>
    cases parts with
    | nil => simp [Text.join]
    | cons next parts =>
      rw [join_cons_cons, split_append, ih (List.cons_ne_nil next parts)]
      exact List.flatMap_cons.symm

/-- What becomes of a name that is written and read again. -/
theorem parse_dotted_eq (name : TableName) :
    parse name.dotted =
      ofSegments (name.segments.flatMap fun segment => (Text.split '.' segment).map Text.trim) := by
  rw [parse, dotted, split_join name.nonempty, List.map_flatMap]

/-- The segments can be told apart in the dotted text, and parsing leaves them as they are. -/
def Normal (name : TableName) : Prop :=
  ∀ segment ∈ name.segments, segment ≠ "" ∧ Text.trim segment = segment ∧ '.' ∉ segment.toList

theorem normal_iff :
    name.Normal ↔ ∀ segment ∈ name.segments, '.' ∉ segment.toList ∧ Text.trim segment = segment := by
  refine forall₂_congr fun segment hmem => ?_
  rw [and_iff_right (ne_empty_of_mem hmem), and_comm]

theorem normal_of_parse (h : parse text = .ok name) : name.Normal := by
  intro segment hmem
  have hne := ne_empty_of_mem hmem
  rw [parse_eq_ok_iff.1 h] at hmem
  obtain ⟨part, hpart, rfl⟩ := List.mem_map.1 hmem
  refine ⟨hne, Text.trim_trim part, fun hdot => ?_⟩
  exact Text.not_mem_of_mem_split hpart (Text.mem_of_mem_trim hdot)

theorem parse_dotted (h : name.Normal) : parse name.dotted = .ok name := by
  rw [parse_dotted_eq, ofSegments_eq_ok_iff]
  -- Each segment is one part, and is its own trimming.
  have hsegment : ∀ segment ∈ name.segments,
      (Text.split '.' segment).map Text.trim = [segment] := by
    intro segment hmem
    obtain ⟨-, htrim, hdot⟩ := h segment hmem
    rw [Text.split_of_not_mem hdot, List.map_singleton, htrim]
  rw [List.flatMap_congr hsegment, List.flatMap_singleton']

/-- Names and their dotted texts:

- a name comes back from its dotted text exactly if its segments have no dots and are trimmed;
- every name that is read is of this form, so that writing it and reading it again changes nothing;
- the dotted text of several segments is the first of them, a dot and the rest. -/
theorem parse_dotted_iff_normal :
    (∀ segments name, ofSegments segments = .ok name →
      (parse name.dotted = .ok name ↔
        ∀ segment ∈ segments, '.' ∉ segment.toList ∧ Text.trim segment = segment)) ∧
    (∀ text name, parse text = .ok name →
      (∀ segment ∈ name.segments, '.' ∉ segment.toList ∧ Text.trim segment = segment) ∧
        parse name.dotted = parse text) ∧
    ∀ name : TableName, 2 ≤ name.segments.length → name.dotted = name.head ++ "." ++ name.tail := by
  refine ⟨?_, ?_, fun name => dotted_eq_head_append⟩
  · intro segments name h
    rw [← ofSegments_eq_ok_iff.1 h, ← normal_iff]
    exact ⟨normal_of_parse, parse_dotted⟩
  · intro text name h
    have hnormal := normal_of_parse h
    exact ⟨normal_iff.1 hnormal, (parse_dotted hnormal).trans h.symm⟩

/-- A name with a dot in its second segment. -/
def yardGate : TableName := ⟨["yard", "north.gate"], by decide, by decide⟩

/-- The name that is read for it, of three segments. -/
def yardNorthGate : TableName := ⟨["yard", "north", "gate"], by decide, by decide⟩

/-- A dot within a segment does not come back, and blanks around segments do not count, wide ones
included. -/
theorem parse_dotted_iff_normal_yardGate :
    ofSegments ["yard", "north.gate"] = .ok yardGate ∧ parse yardGate.dotted ≠ .ok yardGate ∧
      parse " yard . north.gate\u3000" = .ok yardNorthGate ∧
      parse yardNorthGate.dotted = parse " yard . north.gate\u3000" ∧
      yardNorthGate.dotted = "yard" ++ "." ++ "north.gate" := by
  have hsegments : ofSegments ["yard", "north.gate"] = .ok yardGate := ofSegments_eq_ok_iff.2 rfl
  have hparse : parse " yard . north.gate\u3000" = .ok yardNorthGate :=
    parse_eq_ok_iff.2 (by decide +kernel)
  obtain ⟨hback, hread, hhead⟩ := parse_dotted_iff_normal
  refine ⟨hsegments, ?_, hparse, (hread _ _ hparse).2, hhead yardNorthGate (by decide)⟩
  intro h
  have hdot := ((hback _ _ hsegments).1 h "north.gate" (by simp)).1
  exact hdot (by decide)

end StreamPlan.TableName
