import Mathlib.Logic.Relation
import StreamPlan.Proofs.Operator.Growth

/-!
# Graphs that were built by additions

A graph starts without operators and is offered one operator after another, under any ids and with any
sources. It takes those that pass its checks and refuses the others. Whatever was offered, the graph is
ordered: its index is in step with its list, so that ids are different; operators read only from operators
before them, and only inputs read from none (`ordered_offerAll`). Going from an operator to its sources
therefore goes back in the list, and no operator reads from itself, however many operators lie between.

`offerAll_ordered_acyclic` collects what holds after every history.
-/

namespace StreamPlan

namespace OperatorGraph

/-- An operator reads directly from another one. Both are given by their ids. -/
def ReadsFrom (graph : OperatorGraph) (reader source : String) : Prop :=
  ∃ operator ∈ graph.operators, operator.id = reader ∧ source ∈ operator.sources

/-- The operator of an id stands before that of another one. -/
def Before (graph : OperatorGraph) (id id' : String) : Prop :=
  ∃ earlier later : Nat, earlier < later ∧ graph.ids[earlier]? = some id ∧
    graph.ids[later]? = some id'

/-- The graph after an operator was offered to it, whether it has taken the operator or not. -/
def offer (graph : OperatorGraph) (operator : Operator) : OperatorGraph := (graph.add operator).2

/-- The graph after operators were offered to it in order. -/
def offerAll (graph : OperatorGraph) (offered : List Operator) : OperatorGraph :=
  offered.foldl offer graph

/-- What a graph keeps to, whatever it is offered. -/
structure Ordered (graph : OperatorGraph) : Prop where
  /-- The list and the index are in step. -/
  indexed : graph.Indexed
  /-- Operators read from operators at earlier positions. -/
  sources_earlier : ∀ (position : Nat) (operator : Operator),
    graph.operators[position]? = some operator →
    ∀ source ∈ operator.sources, ∃ earlier < position, graph.ids[earlier]? = some source
  /-- Only an input reads from no operator. -/
  input_of_sources_nil : ∀ operator ∈ graph.operators, operator.sources = [] →
    operator.code = .input

variable {graph : OperatorGraph} {operator : Operator} {id reader source : String}

/-! ## What one addition does -/

theorem ordered_empty : empty.Ordered where
  indexed := indexed_empty
  sources_earlier := by simp [empty]
  input_of_sources_nil := by simp [empty]

/-- The three checks of an addition are what keeps a graph ordered. -/
theorem Ordered.concat (h : graph.Ordered) (hadmits : graph.Admits operator) :
    (graph.concat operator).Ordered := by
  refine ⟨h.indexed.concat hadmits.id_new, ?_, ?_⟩
  · intro position found hfound source hsource
    -- Earlier positions hold the same ids as before.
    have hkeep : ∀ earlier : Nat, graph.ids[earlier]? = some source →
        (graph.concat operator).ids[earlier]? = some source := by
      intro earlier hearlier
      rw [ids_concat, List.getElem?_append_left (List.getElem?_eq_some_iff.1 hearlier).1]
      exact hearlier
    rcases getElem?_concat_eq_some_iff.1 hfound with hold | ⟨rfl, rfl⟩
    · obtain ⟨earlier, hbefore, hearlier⟩ := h.sources_earlier position found hold source hsource
      exact ⟨earlier, hbefore, hkeep earlier hearlier⟩
    · -- The operator at the end is the new one, and the graph has its sources.
      have hmem := h.indexed.contains_iff.1 (hadmits.sources_known source hsource)
      obtain ⟨earlier, hearlier⟩ := List.mem_iff_getElem?.1 hmem
      have hbefore : earlier < graph.operators.length := by
        simpa [ids] using (List.getElem?_eq_some_iff.1 hearlier).1
      exact ⟨earlier, hbefore, hkeep earlier hearlier⟩
  · intro found hfound
    rcases List.mem_append.1 hfound with hold | hlast
    · exact h.input_of_sources_nil found hold
    · rw [List.mem_singleton.1 hlast]
      exact hadmits.input_of_sources_nil

theorem Ordered.offer (h : graph.Ordered) (operator : Operator) : (graph.offer operator).Ordered := by
  rw [OperatorGraph.offer]
  obtain ⟨hadmits, hadd⟩ | ⟨-, fault, hadd⟩ := add_cases graph operator
  · rw [hadd]
    exact h.concat hadmits
  · rw [hadd]
    exact h

/-- An offered operator is in the graph afterwards if the graph has taken it. -/
theorem mem_offer_iff {offered : Operator} :
    operator ∈ (graph.offer offered).operators ↔
      operator ∈ graph.operators ∨
        operator = offered ∧ (graph.add offered).1 = .ok operator.id := by
  rw [offer, add_eq_ok_iff]
  obtain ⟨hadmits, hadd⟩ | ⟨hrefused, fault, hadd⟩ := add_cases graph offered
  · rw [hadd]
    simp only [concat, List.mem_append, List.mem_singleton]
    exact or_congr_right ⟨fun h => ⟨h, hadmits, by rw [h]⟩, And.left⟩
  · simp [hadd, hrefused]

/-! ## What a history does -/

theorem ordered_offerAll (h : graph.Ordered) (offered : List Operator) :
    (graph.offerAll offered).Ordered := by
  induction offered generalizing graph with
  | nil => exact h
  | cons first rest ih => exact ih (h.offer first)

/-- The operators of a graph are those that it had and those that it has taken since. -/
theorem mem_offerAll_iff {offered : List Operator} :
    operator ∈ (graph.offerAll offered).operators ↔
      operator ∈ graph.operators ∨
        ∃ before after, offered = before ++ operator :: after ∧
          ((graph.offerAll before).add operator).1 = .ok operator.id := by
  induction offered generalizing graph with
  | nil => simp [offerAll]
  | cons first rest ih =>
    have hstep : graph.offerAll (first :: rest) = (graph.offer first).offerAll rest := rfl
    rw [hstep, ih, mem_offer_iff, or_assoc]
    refine or_congr_right ⟨?_, ?_⟩
    · rintro (⟨rfl, hadd⟩ | ⟨before, after, rfl, hadd⟩)
      · exact ⟨[], rest, rfl, hadd⟩
      · exact ⟨first :: before, after, rfl, hadd⟩
    -- The operator was the first to be offered, or it was taken later.
    · rintro ⟨before, after, hsplit, hadd⟩
      cases before with
      | nil =>
        obtain ⟨rfl, rfl⟩ := List.cons.inj hsplit
        exact .inl ⟨rfl, hadd⟩
      | cons first' before =>
        obtain ⟨rfl, rfl⟩ := List.cons.inj hsplit
        exact .inr ⟨before, after, rfl, hadd⟩

/-- An operator that leaves the graph as it is might as well not have been offered. -/
theorem offerAll_of_offer_eq {before after : List Operator}
    (h : (graph.offerAll before).offer operator = graph.offerAll before) :
    graph.offerAll (before ++ operator :: after) = graph.offerAll (before ++ after) := by
  rw [offerAll, offerAll, List.foldl_append, List.foldl_append, List.foldl_cons]
  exact congrArg (fun reached => after.foldl OperatorGraph.offer reached) h

/-! ## What order brings -/

namespace Ordered

/-- Who reads from an operator stands after it. -/
theorem before_of_readsFrom (h : graph.Ordered) (hreads : graph.ReadsFrom reader source) :
    graph.Before source reader := by
  obtain ⟨operator, hmem, rfl, hsource⟩ := hreads
  obtain ⟨later, hlater⟩ := List.mem_iff_getElem?.1 hmem
  obtain ⟨earlier, hlt, hearlier⟩ := h.sources_earlier later operator hlater source hsource
  exact ⟨earlier, later, hlt, hearlier, getElem?_ids hlater⟩

theorem before_trans (h : graph.Ordered) {first second third : String}
    (h₁ : graph.Before first second) (h₂ : graph.Before second third) :
    graph.Before first third := by
  obtain ⟨earlier, between, hlt₁, hearlier, hbetween⟩ := h₁
  obtain ⟨between', later, hlt₂, hbetween', hlater⟩ := h₂
  -- The id in the middle has one position.
  have hsame := h.indexed.position_unique hbetween hbetween'
  exact ⟨earlier, later, by omega, hearlier, hlater⟩

/-- However many operators lie between, reading goes back in the list. -/
theorem before_of_transGen (h : graph.Ordered)
    (hreads : Relation.TransGen graph.ReadsFrom reader source) : graph.Before source reader := by
  induction hreads with
  | single hdirect => exact h.before_of_readsFrom hdirect
  | tail _ hdirect ih => exact h.before_trans (h.before_of_readsFrom hdirect) ih

theorem not_transGen_self (h : graph.Ordered) (id : String) :
    ¬Relation.TransGen graph.ReadsFrom id id := by
  intro hreads
  obtain ⟨earlier, later, hlt, hearlier, hlater⟩ := h.before_of_transGen hreads
  have hsame := h.indexed.position_unique hearlier hlater
  omega

end Ordered

theorem mem_readers_iff : reader ∈ graph.readers id ↔ graph.ReadsFrom reader id := by
  simp only [readers, ReadsFrom, List.mem_map, List.mem_filter, List.contains_iff_mem]
  constructor
  · rintro ⟨operator, ⟨hmem, hsource⟩, rfl⟩
    exact ⟨operator, hmem, rfl, hsource⟩
  · rintro ⟨operator, hmem, rfl, hsource⟩
    exact ⟨operator, ⟨hmem, hsource⟩, rfl⟩

theorem exists_stage_of_code_input (h : operator.code = .input) :
    ∃ stream system, operator.stage = .input stream system := by
  obtain ⟨id, stage⟩ := operator
  cases stage with
  | input stream system => exact ⟨stream, system, rfl⟩
  | _ => cases h

/-- What holds of a graph after any operators were offered to it:

- ids are different, and the index has exactly the positions of the ids;
- lookups by id find exactly the operators that were taken;
- operators read from earlier operators only, and those that read from none are inputs;
- no operator reads from itself through others, and the readers of an operator stand after it;
- a refusal gives back the graph as it was, with its operators and its index, so that a refused operator
  leaves no trace in what is offered later either. -/
theorem offerAll_ordered_acyclic (offered : List Operator) :
    let graph := empty.offerAll offered
    graph.ids.Nodup ∧
      (∀ id position, graph.index.get? id = some position ↔ graph.ids[position]? = some id) ∧
      (∀ id operator, graph.get? id = some operator ↔
        operator.id = id ∧ ∃ before after, offered = before ++ operator :: after ∧
          ((empty.offerAll before).add operator).1 = .ok operator.id) ∧
      (∀ (position : Nat) (operator : Operator), graph.operators[position]? = some operator →
        (∀ source ∈ operator.sources, ∃ earlier < position, graph.ids[earlier]? = some source) ∧
        (operator.sources = [] → ∃ stream system, operator.stage = .input stream system)) ∧
      (∀ id, ¬Relation.TransGen graph.ReadsFrom id id) ∧
      (∀ id, ∀ reader ∈ graph.readers id, ∃ position later, position < later ∧
        graph.index.get? id = some position ∧ graph.index.get? reader = some later) ∧
      (∀ before operator after fault, offered = before ++ operator :: after →
        ((empty.offerAll before).add operator).1 = .error fault →
          ((empty.offerAll before).add operator).2 = empty.offerAll before ∧
            graph = empty.offerAll (before ++ after)) := by
  intro graph
  have hordered : graph.Ordered := ordered_offerAll ordered_empty offered
  refine ⟨hordered.indexed.ids_nodup, hordered.indexed, ?_, ?_, hordered.not_transGen_self, ?_, ?_⟩
  · intro id operator
    have hmem : operator ∈ graph.operators ↔
        ∃ before after, offered = before ++ operator :: after ∧
          ((empty.offerAll before).add operator).1 = .ok operator.id := by
      rw [mem_offerAll_iff, or_iff_right]
      exact List.not_mem_nil
    rw [hordered.indexed.get?_eq_some_iff, hmem, and_comm]
  · intro position operator hoperator
    have hmem : operator ∈ graph.operators := List.mem_iff_getElem?.2 ⟨position, hoperator⟩
    refine ⟨hordered.sources_earlier position operator hoperator, fun hnone => ?_⟩
    exact exists_stage_of_code_input (hordered.input_of_sources_nil operator hmem hnone)
  · intro id reader hreader
    obtain ⟨position, later, hlt, hid, hlater⟩ :=
      hordered.before_of_readsFrom (mem_readers_iff.1 hreader)
    exact ⟨position, later, hlt, (hordered.indexed id position).2 hid,
      (hordered.indexed reader later).2 hlater⟩
  · rintro before operator after fault rfl hrefused
    have hsame := add_snd_of_error hrefused
    exact ⟨hsame, offerAll_of_offer_eq hsame⟩

/-- Three operators that can be taken, and between them one with an id that is taken already, one that
reads from itself and one that reads from none. -/
def offeredPages : List Operator :=
  [⟨"in", .input "views" "kafka"⟩, ⟨"in", .filter "page <> ''" "in"⟩, ⟨"loop", .merge ["in", "loop"]⟩,
    ⟨"pages", .map ["page"] "in"⟩, ⟨"lost", .merge []⟩, ⟨"out", .sink "pages" "kafka" "pages"⟩]

theorem offerAll_ordered_acyclic_pages :
    (empty.offerAll offeredPages).ids = ["in", "pages", "out"] ∧
      (empty.offerAll offeredPages).index.entries = [("in", 0), ("out", 2), ("pages", 1)] ∧
      ((empty.offerAll (offeredPages.take 2)).add ⟨"loop", .merge ["in", "loop"]⟩).1 =
        .error (.unknownSource "loop" "loop") ∧
      ((empty.offerAll (offeredPages.take 2)).add ⟨"loop", .merge ["in", "loop"]⟩).2 =
        empty.offerAll (offeredPages.take 2) ∧
      empty.offerAll offeredPages = empty.offerAll (offeredPages.eraseIdx 2) ∧
      ¬Relation.TransGen (empty.offerAll offeredPages).ReadsFrom "pages" "pages" ∧
      ∃ position later, position < later ∧
        (empty.offerAll offeredPages).index.get? "in" = some position ∧
        (empty.offerAll offeredPages).index.get? "pages" = some later := by
  have hrefused : ((empty.offerAll (offeredPages.take 2)).add ⟨"loop", .merge ["in", "loop"]⟩).1 =
      .error (.unknownSource "loop" "loop") := rfl
  obtain ⟨-, -, -, -, hacyclic, hreaders, hrefusal⟩ := offerAll_ordered_acyclic offeredPages
  obtain ⟨hsame, hlater⟩ :=
    hrefusal (offeredPages.take 2) _ (offeredPages.drop 3) _ rfl hrefused
  exact ⟨rfl, rfl, hrefused, hsame, hlater, hacyclic "pages", hreaders "in" "pages" (by decide)⟩

end OperatorGraph

end StreamPlan
