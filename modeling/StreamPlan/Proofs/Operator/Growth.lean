import StreamPlan.Operator.Lowering
import StreamPlan.Proofs.Data.Except
import StreamPlan.Proofs.Data.SortedMap
import Mathlib.Data.List.Nodup

/-!
# Graphs that grow

A graph keeps its operators in a list and the positions of their ids in an index, and an addition has
to write both. Lowering only ever adds stages at the end of a graph, each under an id made of its kind
and its position. This file says what one such addition does and what a graph keeps while it grows.

- `Indexed.concat`: an operator with a new id leaves the list and the index in step;
- `add_cases`: an addition passes all checks and is made, or fails one and changes nothing;
- `positionalId_inj`: ids made of kinds and positions are different at different positions;
- `Lowering.Sound.push_eq_ok`: a lowering refuses no stage that reads from its own operators. Its number
  for the next id is the size of the graph, and its cache knows the inputs of the graph;
- `Grows.numbered`, `Grows.operators_prefix`: what every number of additions keeps.
-/

namespace StreamPlan

/-- What stands after the last underscore of a text is determined by the text. -/
theorem eq_of_append_underscore_eq {a b x y : List Char} (h : a ++ '_' :: x = b ++ '_' :: y)
    (hx : '_' ∉ x) (hy : '_' ∉ y) : x = y := by
  -- One of the beginnings goes on from the other. If it went further, what is after the first
  -- underscore would hold the second one.
  rcases List.append_eq_append_iff.1 h with ⟨c, -, hc⟩ | ⟨c, -, hc⟩
  · cases c with
    | nil => exact (List.cons.inj hc).2
    | cons d c => exact absurd (by simp [(List.cons.inj hc).2]) hx
  · cases c with
    | nil => exact (List.cons.inj hc).2.symm
    | cons d c => exact absurd (by simp [(List.cons.inj hc).2]) hy

/-- An element after others is the only one past them. -/
theorem getElem?_concat_eq_some_iff {α : Type} {items : List α} {last item : α} {position : Nat} :
    (items ++ [last])[position]? = some item ↔
      items[position]? = some item ∨ position = items.length ∧ last = item := by
  rcases Nat.lt_trichotomy position items.length with hlt | rfl | hgt
  · have hne : position ≠ items.length := Nat.ne_of_lt hlt
    simp [List.getElem?_append_left hlt, hne]
  · simp
  · have hnone : items[position]? = none := List.getElem?_eq_none (Nat.le_of_lt hgt)
    have hnone' : (items ++ [last])[position]? = none := by
      rw [List.getElem?_eq_none_iff, List.length_append, List.length_singleton]
      omega
    simp [hnone, hnone', Nat.ne_of_gt hgt]

namespace OperatorGraph

/-- The id of an operator of a kind at a position. -/
def positionalId (code : OperatorCode) (position : Nat) : String :=
  code.name ++ "_" ++ Decimal.intText position

theorem toList_positionalId (code : OperatorCode) (position : Nat) :
    (positionalId code position).toList = code.name.toList ++ '_' :: Nat.toDigits 10 position := by
  have hdigits : (Decimal.intText position).toList = Nat.toDigits 10 position := by
    rw [show Decimal.intText position = String.ofList (Nat.toDigits 10 position) from rfl,
      String.toList_ofList]
  rw [positionalId, String.toList_append, String.toList_append, hdigits]
  simp

/-- The position can be read off: the digits hold no underscore. -/
theorem positionalId_inj {code code' : OperatorCode} {position position' : Nat}
    (h : positionalId code position = positionalId code' position') : position = position' := by
  have hlist := congrArg String.toList h
  rw [toList_positionalId, toList_positionalId] at hlist
  have hdigits := eq_of_append_underscore_eq hlist Nat.underscore_not_in_toDigits
    Nat.underscore_not_in_toDigits
  rw [← @Nat.ofDigitChars_ten_toDigits position, hdigits, Nat.ofDigitChars_ten_toDigits]

/-! ## The list and the index -/

/-- The ids of the operators, in order. -/
def ids (graph : OperatorGraph) : List String := graph.operators.map Operator.id

/-- The index has the positions at which the ids stand in the list, and nothing else. -/
def Indexed (graph : OperatorGraph) : Prop :=
  ∀ id position, graph.index.get? id = some position ↔ graph.ids[position]? = some id

variable {graph graph' : OperatorGraph} {operator : Operator} {id : String}

theorem ids_concat (graph : OperatorGraph) (operator : Operator) :
    (graph.concat operator).ids = graph.ids ++ [operator.id] := by
  simp [ids, concat]

theorem getElem?_ids {position : Nat} (h : graph.operators[position]? = some operator) :
    graph.ids[position]? = some operator.id := by
  rw [ids, List.getElem?_map, h, Option.map_some]

theorem indexed_empty : empty.Indexed := by
  intro id position
  simp [empty, ids, SortedMap.get?_empty]

namespace Indexed

theorem contains_iff (h : graph.Indexed) : graph.contains id = true ↔ id ∈ graph.ids := by
  rw [contains, SortedMap.contains_iff, List.mem_iff_getElem?]
  exact exists_congr fun position => h id position

/-- An id has one position. -/
theorem position_unique (h : graph.Indexed) {position position' : Nat}
    (hid : graph.ids[position]? = some id) (hid' : graph.ids[position']? = some id) :
    position = position' := by
  have hsame := ((h id position).2 hid).symm.trans ((h id position').2 hid')
  exact Option.some.inj hsame

theorem ids_nodup (h : graph.Indexed) : graph.ids.Nodup := by
  rw [List.nodup_iff_getElem?_ne_getElem?]
  intro i j hlt hj heq
  have hid := List.getElem?_eq_getElem hj
  exact absurd (h.position_unique (heq.trans hid) hid) (Nat.ne_of_lt hlt)

theorem get?_eq_some_iff (h : graph.Indexed) :
    graph.get? id = some operator ↔ operator ∈ graph.operators ∧ operator.id = id := by
  rw [get?, Option.bind_eq_some_iff]
  constructor
  · rintro ⟨position, hindex, hposition⟩
    -- The operator at the position has the id that the list has there.
    have hid := (h id position).1 hindex
    rw [getElem?_ids hposition] at hid
    exact ⟨List.mem_of_getElem? hposition, Option.some.inj hid⟩
  · rintro ⟨hmem, rfl⟩
    obtain ⟨position, hposition⟩ := List.mem_iff_getElem?.1 hmem
    exact ⟨position, (h _ position).2 (getElem?_ids hposition), hposition⟩

/-- An operator with a new id goes to the end of the list, and the index learns its position. -/
theorem concat (h : graph.Indexed) (hnew : graph.contains operator.id = false) :
    (graph.concat operator).Indexed := by
  intro id position
  have hlength : graph.operators.length = graph.ids.length := by simp [ids]
  rw [ids_concat, getElem?_concat_eq_some_iff, ← h id position, OperatorGraph.concat,
    SortedMap.get?_insert, hlength]
  by_cases hid : id = operator.id
  · -- The index did not have the id before, so the position is the one at the end.
    have hnone : graph.index.get? operator.id = none := by
      simpa [OperatorGraph.contains, SortedMap.contains] using hnew
    simp [hid, hnone, eq_comm]
  · simp [hid, Ne.symm hid]

end Indexed

/-! ## Additions -/

/-- An operator passes the checks of a graph. -/
structure Admits (graph : OperatorGraph) (operator : Operator) : Prop where
  /-- The id is new. -/
  id_new : graph.contains operator.id = false
  /-- The operator reads only from operators of the graph. -/
  sources_known : ∀ source ∈ operator.sources, graph.contains source = true
  /-- Only an input reads from none. -/
  input_of_sources_nil : operator.sources = [] → operator.code = .input

/-- An operator that passes the checks is added at the end. -/
theorem add_of_admits (h : graph.Admits operator) :
    graph.add operator = (.ok operator.id, graph.concat operator) := by
  have hknown : operator.sources.find? (fun source => !graph.contains source) = none := by
    rw [List.find?_eq_none]
    intro source hsource
    simp [h.sources_known source hsource]
  have hsome : ¬(operator.sources.isEmpty && decide (operator.code ≠ .input)) = true := by
    simpa using h.input_of_sources_nil
  rw [add, if_neg (by simp [h.id_new]), hknown]
  exact if_neg hsome

theorem exists_add_of_not_admits (h : ¬graph.Admits operator) :
    ∃ fault, graph.add operator = (.error fault, graph) := by
  rw [add]
  split
  · exact ⟨_, rfl⟩
  · rename_i hnew
    split
    · exact ⟨_, rfl⟩
    · rename_i hknown
      split
      · exact ⟨_, rfl⟩
      · rename_i hsome
        -- No check has failed, which is all that the operator needs.
        refine absurd ⟨by simpa using hnew, ?_, by simpa using hsome⟩ h
        simpa using List.find?_eq_none.1 hknown

/-- An operator that passes the checks is added, and one that fails a check leaves the graph as it is. -/
theorem add_cases (graph : OperatorGraph) (operator : Operator) :
    (graph.Admits operator ∧ graph.add operator = (.ok operator.id, graph.concat operator)) ∨
      (¬graph.Admits operator ∧ ∃ fault, graph.add operator = (.error fault, graph)) := by
  by_cases h : graph.Admits operator
  · exact .inl ⟨h, add_of_admits h⟩
  · exact .inr ⟨h, exists_add_of_not_admits h⟩

theorem add_eq_ok_iff :
    (graph.add operator).1 = .ok id ↔ graph.Admits operator ∧ operator.id = id := by
  obtain ⟨h, hadd⟩ | ⟨h, fault, hadd⟩ := add_cases graph operator <;> simp [hadd, h]

/-- A refusal leaves the graph as it is. -/
theorem add_snd_of_error {fault : GraphFault} (h : (graph.add operator).1 = .error fault) :
    (graph.add operator).2 = graph := by
  obtain ⟨-, hadd⟩ | ⟨-, fault', hadd⟩ := add_cases graph operator
  · rw [hadd] at h
    cases h
  · rw [hadd]

/-! ## Ids made of kinds and positions -/

/-- The id of the next operator of a kind: the kind and the position. -/
def nextId (graph : OperatorGraph) (code : OperatorCode) : String := positionalId code graph.size

/-- The graph with a stage at the end, under the next id. -/
def appended (graph : OperatorGraph) (stage : Stage String) : OperatorGraph :=
  graph.concat ⟨graph.nextId stage.code, stage⟩

/-- Every operator has the id of its kind and position, and the index knows it. -/
structure Numbered (graph : OperatorGraph) : Prop where
  /-- The ids are made of kinds and positions. -/
  id_eq : ∀ position operator, graph.operators[position]? = some operator →
    operator.id = positionalId operator.code position
  /-- The list and the index are in step. -/
  indexed : graph.Indexed

variable {stage : Stage String}

theorem mem_appended_iff :
    operator ∈ (graph.appended stage).operators ↔
      operator ∈ graph.operators ∨ operator = ⟨graph.nextId stage.code, stage⟩ := by
  simp [appended, concat]

@[simp]
theorem size_appended (graph : OperatorGraph) (stage : Stage String) :
    (graph.appended stage).size = graph.size + 1 := by
  simp [size, appended, concat]

theorem numbered_empty : empty.Numbered where
  id_eq := by simp [empty]
  indexed := indexed_empty

/-- In a numbered graph the next id of any kind is free. -/
theorem Numbered.contains_nextId (hnum : graph.Numbered) (code : OperatorCode) :
    graph.contains (graph.nextId code) = false := by
  rw [← Bool.not_eq_true, hnum.indexed.contains_iff, ids, List.mem_map]
  rintro ⟨operator, hmem, hid⟩
  obtain ⟨position, hposition⟩ := List.mem_iff_getElem?.1 hmem
  have hlt : position < graph.size := (List.getElem?_eq_some_iff.1 hposition).1
  rw [hnum.id_eq position operator hposition] at hid
  exact absurd (positionalId_inj hid) (Nat.ne_of_lt hlt)

theorem numbered_appended (hnum : graph.Numbered) (stage : Stage String) :
    (graph.appended stage).Numbered where
  id_eq := by
    intro position operator h
    rcases getElem?_concat_eq_some_iff.1 h with hold | ⟨rfl, rfl⟩
    · exact hnum.id_eq position operator hold
    · rfl
  indexed := hnum.indexed.concat (hnum.contains_nextId stage.code)

/-- In a numbered graph every operator is found under its id. -/
theorem Numbered.get?_of_mem (hnum : graph.Numbered) (hmem : operator ∈ graph.operators) :
    graph.get? operator.id = some operator :=
  hnum.indexed.get?_eq_some_iff.2 ⟨hmem, rfl⟩

theorem Numbered.contains_of_mem (hnum : graph.Numbered) (hmem : operator ∈ graph.operators) :
    graph.contains operator.id = true :=
  hnum.indexed.contains_iff.2 (List.mem_map_of_mem hmem)

/-- The stage that was added is found under its id. -/
theorem Numbered.get?_appended (hnum : graph.Numbered) (stage : Stage String) :
    (graph.appended stage).get? (graph.nextId stage.code) =
      some ⟨graph.nextId stage.code, stage⟩ :=
  (numbered_appended hnum stage).get?_of_mem (mem_appended_iff.2 (.inr rfl))

/-- What is found in a graph is found in every graph that goes on from it. -/
theorem Numbered.get?_of_prefix (hnum : graph.Numbered) (hnum' : graph'.Numbered)
    (h : graph.operators <+: graph'.operators) (hget : graph.get? id = some operator) :
    graph'.get? id = some operator := by
  obtain ⟨hmem, hid⟩ := hnum.indexed.get?_eq_some_iff.1 hget
  exact hnum'.indexed.get?_eq_some_iff.2 ⟨h.subset hmem, hid⟩

theorem Numbered.contains_of_prefix (hnum : graph.Numbered) (hnum' : graph'.Numbered)
    (h : graph.operators <+: graph'.operators) (hid : graph.contains id = true) :
    graph'.contains id = true := by
  rw [hnum.indexed.contains_iff] at hid
  exact hnum'.indexed.contains_iff.2 ((h.map Operator.id).subset hid)

/-- A graph grows into another by stages that are added at its end. -/
inductive Grows (graph : OperatorGraph) : OperatorGraph → Prop
  /-- Nothing is added. -/
  | refl : Grows graph graph
  /-- One more stage is added. -/
  | append {graph' : OperatorGraph} (h : Grows graph graph') (stage : Stage String) :
      Grows graph (graph'.appended stage)

namespace Grows

theorem trans {a b c : OperatorGraph} (hab : a.Grows b) (hbc : b.Grows c) : a.Grows c := by
  induction hbc with
  | refl => exact hab
  | append _ stage ih => exact ih.append stage

theorem numbered (h : graph.Grows graph') (hnum : graph.Numbered) : graph'.Numbered := by
  induction h with
  | refl => exact hnum
  | append _ stage ih => exact numbered_appended ih stage

theorem operators_prefix (h : graph.Grows graph') : graph.operators <+: graph'.operators := by
  induction h with
  | refl => exact List.prefix_refl _
  | append _ stage ih => exact ih.trans (List.prefix_append _ _)

end Grows

/-! ## Inputs -/

/-- The stream that an operator reads, if it is an input. -/
def inputStream? (operator : Operator) : Option String :=
  match operator.stage with
  | .input stream _ => some stream
  | _ => none

/-- The id of the first input of a stream, if there is one. -/
def inputOf? (graph : OperatorGraph) (stream : String) : Option String :=
  (graph.operators.find? fun operator => inputStream? operator = some stream).map Operator.id

theorem inputStream?_of_code_ne (h : operator.code ≠ .input) : inputStream? operator = none := by
  obtain ⟨id, stage⟩ := operator
  cases stage with
  | input => exact absurd rfl h
  | _ => rfl

/-- A new stage is the input of its stream, if that has none yet. -/
theorem inputOf?_appended (graph : OperatorGraph) (stage : Stage String) (stream : String) :
    (graph.appended stage).inputOf? stream =
      (graph.inputOf? stream).or
        (if inputStream? ⟨graph.nextId stage.code, stage⟩ = some stream then
          some (graph.nextId stage.code) else none) := by
  rw [inputOf?, inputOf?, appended, concat, List.find?_append]
  cases graph.operators.find? fun operator => inputStream? operator = some stream with
  | some found => rfl
  | none =>
    rw [List.find?_singleton]
    simp only [decide_eq_true_eq]
    split <;> rfl

end OperatorGraph

/-! ## Counter and cache -/

namespace Lowering

open OperatorGraph

variable {lowering lowering' : Lowering} {stage : Stage String} {id stream system : String}

/-- The number of the next id and the cache of inputs say what can be read off the graph. -/
structure Sound (lowering : Lowering) : Prop where
  /-- The ids of the graph are made of kinds and positions. -/
  numbered : lowering.graph.Numbered
  /-- The next number is the next position. -/
  next_eq : lowering.next = lowering.graph.size
  /-- The cache has the first input of every stream. -/
  inputs_eq : ∀ stream, lowering.inputs.get? stream = lowering.graph.inputOf? stream

/-- The lowering with a stage at the end of its graph. -/
def appended (lowering : Lowering) (stage : Stage String) : Lowering :=
  ⟨lowering.graph.appended stage, lowering.next + 1, lowering.inputs⟩

/-- The lowering with the input of a stream at the end of its graph, and in its cache. -/
def appendedInput (lowering : Lowering) (stream system : String) : Lowering :=
  ⟨lowering.graph.appended (.input stream system), lowering.next + 1,
    lowering.inputs.insert stream (lowering.graph.nextId .input)⟩

theorem sound_start : start.Sound where
  numbered := numbered_empty
  next_eq := rfl
  inputs_eq := fun _ => rfl

namespace Sound

theorem fresh_eq (h : lowering.Sound) (code : OperatorCode) :
    lowering.fresh code = (lowering.graph.nextId code, ⟨lowering.graph, lowering.next + 1,
      lowering.inputs⟩) := by
  rw [fresh, h.next_eq]
  rfl

theorem appended (h : lowering.Sound) (hcode : stage.code ≠ .input) :
    (lowering.appended stage).Sound where
  numbered := numbered_appended h.numbered stage
  next_eq := by rw [Lowering.appended, size_appended, h.next_eq]
  inputs_eq := by
    intro stream
    have hnone : inputStream? ⟨lowering.graph.nextId stage.code, stage⟩ = none :=
      inputStream?_of_code_ne hcode
    rw [Lowering.appended, inputOf?_appended, hnone, ← h.inputs_eq]
    simp

theorem appendedInput (h : lowering.Sound) (hnew : lowering.inputs.get? stream = none) :
    (lowering.appendedInput stream system).Sound where
  numbered := numbered_appended h.numbered _
  next_eq := by rw [Lowering.appendedInput, size_appended, h.next_eq]
  inputs_eq := by
    intro other
    rw [Lowering.appendedInput, inputOf?_appended, ← h.inputs_eq, SortedMap.get?_insert]
    by_cases hother : other = stream
    · simp [hother, hnew, inputStream?, Stage.code]
    · simp [hother, Ne.symm hother, inputStream?]

/-- An input that the cache knows is an operator of the graph. -/
theorem contains_of_inputs (h : lowering.Sound) (hid : lowering.inputs.get? stream = some id) :
    lowering.graph.contains id = true := by
  rw [h.inputs_eq] at hid
  obtain ⟨operator, hfind, rfl⟩ := Option.map_eq_some_iff.1 hid
  exact h.numbered.contains_of_mem (List.mem_of_find?_eq_some hfind)

/-- Where a stage is added it stands at the end, under the next id. -/
theorem eq_appended_of_push (h : lowering.Sound) (hpush : lowering.push stage = .ok (id, lowering')) :
    id = lowering.graph.nextId stage.code ∧ lowering' = lowering.appended stage := by
  rw [push, h.fresh_eq] at hpush
  obtain ⟨-, hadd⟩ | ⟨-, fault, hadd⟩ :=
    add_cases lowering.graph ⟨lowering.graph.nextId stage.code, stage⟩
  · simp only [hadd, Except.ok.injEq, Prod.mk.injEq] at hpush
    exact ⟨hpush.1.symm, hpush.2.symm⟩
  · simp only [hadd] at hpush
    cases hpush

theorem eq_appendedInput_of_pushInput (h : lowering.Sound)
    (hpush : lowering.pushInput stream system = .ok (id, lowering')) :
    id = lowering.graph.nextId .input ∧ lowering' = lowering.appendedInput stream system := by
  obtain ⟨⟨id', added⟩, hadd, hpush⟩ := bind_eq_ok_iff.1 hpush
  obtain ⟨rfl, rfl⟩ := h.eq_appended_of_push hadd
  obtain ⟨rfl, rfl⟩ := Prod.mk.inj (Except.ok.inj hpush)
  exact ⟨rfl, rfl⟩

/-- A stage is taken if it reads from operators of the graph, and from at least one of them unless it is
an input. -/
theorem push_eq_ok (h : lowering.Sound)
    (hsources : ∀ source ∈ stage.sources, lowering.graph.contains source = true)
    (hsome : stage.sources = [] → stage.code = .input) :
    lowering.push stage = .ok (lowering.graph.nextId stage.code, lowering.appended stage) := by
  have hadmits : lowering.graph.Admits ⟨lowering.graph.nextId stage.code, stage⟩ :=
    ⟨h.numbered.contains_nextId stage.code, hsources, hsome⟩
  simp only [push, h.fresh_eq, add_of_admits hadmits]
  rfl

end Sound

end Lowering

end StreamPlan
