import Mathlib.Data.List.Forall2
import StreamPlan.Plan.Statements
import StreamPlan.Proofs.Yaml.Places
import StreamPlan.Proofs.Yaml.Stream

/-!
# Joined statements

Statements are joined into one text with a start marker on a line of its own between two of them. The line
break before the marker belongs to the text of the statement before it, and a block scalar at the end of
that text may keep it.

* `plansOfText_eq_ok_iff`: the plans of a text are those of the documents of its stream.
* `converts_joined_iff`: the plans of a joined text are those of its first statement with a line break
  after it, followed by those of the rest.
* `convert_joinStatements_iff`: joining keeps the plans exactly if every statement but the last is
  indifferent to a final line break.
-/

namespace StreamPlan

open Yaml

variable {position : Nat} {plans : List Plan}

/-! ## Plans of documents -/

section Documents

variable {document : Document} {documents others : List Document} {plan : Option Plan}

/-- A plan is what the value of a document says, and the position does not matter to it. -/
theorem planOfDocument_eq_ok_iff :
    planOfDocument position document = .ok plan ↔ ∃ value, document.value = .ok value ∧
      if value.isNull then plan = none
      else ∃ definition result, Written.top value = .ok definition ∧ definition.toPlan = .ok result ∧
        plan = some result := by
  unfold planOfDocument
  cases document.value with
  | error fault => exact ⟨nofun, nofun⟩
  | ok value =>
    simp only [Except.ok.injEq, exists_eq_left']
    -- A null value is a blank document, and has no plan rather than a faulty one.
    split_ifs
    · rw [Except.ok.injEq, eq_comm]
    · rw [map_eq_ok_iff, planOfValue]
      cases Written.top value with
      | error fault => exact ⟨nofun, nofun⟩
      | ok definition => simp [mapError_eq_ok_iff, @eq_comm _ plan]

theorem plansOfDocuments_eq_ok_iff :
    plansOfDocuments position documents = .ok plans ↔ plansOfDocuments 0 documents = .ok plans := by
  have hzero (position : Nat) (plans : List Plan) (h : plansOfDocuments position documents = .ok plans)
      (other : Nat) : plansOfDocuments other documents = .ok plans := by
    -- The position is told in faults only, so any other will do if there is none.
    induction documents generalizing position other plans with
    | nil => exact h
    | cons document documents ih =>
      obtain ⟨plan, hplan, h⟩ := bind_eq_ok_iff.1 h
      obtain ⟨rest, hrest, h⟩ := bind_eq_ok_iff.1 h
      rw [plansOfDocuments, planOfDocument_eq_ok_iff.2 (planOfDocument_eq_ok_iff.1 hplan), ok_bind,
        ih _ _ hrest]
      exact h
  exact ⟨fun h => hzero _ _ h _, fun h => hzero _ _ h _⟩

theorem plansOfDocuments_cons_iff :
    plansOfDocuments position (document :: documents) = .ok plans ↔
      ∃ plan rest, planOfDocument 0 document = .ok plan ∧ plansOfDocuments 0 documents = .ok rest ∧
        plans = plan.toList ++ rest := by
  rw [plansOfDocuments, bind_eq_ok_iff]
  constructor
  · rintro ⟨plan, hplan, h⟩
    obtain ⟨rest, hrest, h⟩ := bind_eq_ok_iff.1 h
    exact ⟨plan, rest, planOfDocument_eq_ok_iff.2 (planOfDocument_eq_ok_iff.1 hplan),
      plansOfDocuments_eq_ok_iff.1 hrest, (Except.ok.inj h).symm⟩
  · rintro ⟨plan, rest, hplan, hrest, rfl⟩
    refine ⟨plan, planOfDocument_eq_ok_iff.2 (planOfDocument_eq_ok_iff.1 hplan), ?_⟩
    rw [plansOfDocuments_eq_ok_iff.2 hrest]
    rfl

theorem plansOfDocuments_append_iff :
    plansOfDocuments 0 (documents ++ others) = .ok plans ↔
      ∃ first rest, plansOfDocuments 0 documents = .ok first ∧ plansOfDocuments 0 others = .ok rest ∧
        plans = first ++ rest := by
  induction documents generalizing plans with
  | nil =>
    constructor
    · exact fun h => ⟨[], plans, rfl, h, rfl⟩
    · rintro ⟨first, rest, hfirst, hrest, rfl⟩
      obtain rfl := Except.ok.inj hfirst
      exact hrest
  | cons document documents ih =>
    -- A document may have no plan, so the plans of the first part need not be one for each document.
    rw [List.cons_append, plansOfDocuments_cons_iff]
    constructor
    · rintro ⟨plan, later, hplan, hlater, rfl⟩
      obtain ⟨first, rest, hfirst, hrest, rfl⟩ := ih.1 hlater
      exact ⟨plan.toList ++ first, rest, plansOfDocuments_cons_iff.2 ⟨plan, first, hplan, hfirst, rfl⟩,
        hrest, (List.append_assoc ..).symm⟩
    · rintro ⟨first, rest, hfirst, hrest, rfl⟩
      obtain ⟨plan, middle, hplan, hmiddle, rfl⟩ := plansOfDocuments_cons_iff.1 hfirst
      exact ⟨plan, middle ++ rest, hplan, ih.2 ⟨middle, rest, hmiddle, hrest, rfl⟩,
        List.append_assoc ..⟩

theorem faulty_of_planOfDocument (h : planOfDocument 0 document = .ok plan) :
    document.faulty = false := by
  obtain ⟨value, hvalue, -⟩ := planOfDocument_eq_ok_iff.1 h
  obtain ⟨root, -, hvalue⟩ := bind_eq_ok_iff.1 hvalue
  split_ifs at hvalue with hfaulty
  exact Bool.eq_false_iff.2 hfaulty

/-- A fault anywhere ends the reading. -/
theorem faulty_of_plansOfDocuments (h : plansOfDocuments 0 documents = .ok plans) :
    ∀ document ∈ documents, document.faulty = false := by
  induction documents generalizing plans with
  | nil => exact nofun
  | cons document documents ih =>
    obtain ⟨plan, rest, hplan, hrest, -⟩ := plansOfDocuments_cons_iff.1 h
    exact List.forall_mem_cons.2 ⟨faulty_of_planOfDocument hplan, ih hrest⟩

/-- Places do not count. -/
theorem planOfDocument_bare_iff :
    planOfDocument 0 (document.bare true) = .ok plan ↔ planOfDocument 0 document = .ok plan := by
  simp only [planOfDocument_eq_ok_iff, Document.value_bare]

theorem plansOfDocuments_bare_iff :
    plansOfDocuments 0 (documents.map (Document.bare true)) = .ok plans ↔
      plansOfDocuments 0 documents = .ok plans := by
  induction documents generalizing plans with
  | nil => rfl
  | cons document documents ih =>
    rw [List.map_cons, plansOfDocuments_cons_iff, plansOfDocuments_cons_iff]
    simp only [planOfDocument_bare_iff, ih]

theorem length_of_planOfDocument (h : planOfDocument 0 document = .ok plan) :
    ∃ value, document.value = .ok value ∧ plan.toList.length = if value.isNull then 0 else 1 := by
  obtain ⟨value, hvalue, h⟩ := planOfDocument_eq_ok_iff.1 h
  refine ⟨value, hvalue, ?_⟩
  split_ifs at h ⊢
  · subst h
    rfl
  · obtain ⟨definition, result, -, -, rfl⟩ := h
    rfl

/-- The texts of scalars that are not plain do not decide how many plans there are. -/
theorem length_of_plansOfDocuments {rest : List Plan}
    (hbare : documents.map (Document.bare false) = others.map (Document.bare false))
    (h : plansOfDocuments 0 documents = .ok plans) (hother : plansOfDocuments 0 others = .ok rest) :
    plans.length = rest.length := by
  induction documents generalizing others plans rest with
  | nil =>
    obtain rfl : others = [] := List.map_eq_nil_iff.1 hbare.symm
    obtain rfl := Except.ok.inj (h.symm.trans hother)
    rfl
  | cons document documents ih =>
    rcases others with _ | ⟨other, others⟩
    · cases hbare
    · obtain ⟨hhead, htail⟩ := List.cons.inj hbare
      obtain ⟨plan, later, hplan, hlater, rfl⟩ := plansOfDocuments_cons_iff.1 h
      obtain ⟨otherPlan, otherLater, hotherPlan, hotherLater, rfl⟩ := plansOfDocuments_cons_iff.1 hother
      -- Each document has a plan or none by whether it is null, and that is seen without the texts.
      obtain ⟨value, hvalue, hlength⟩ := length_of_planOfDocument hplan
      obtain ⟨otherValue, hotherValue, hotherLength⟩ := length_of_planOfDocument hotherPlan
      rw [List.length_append, List.length_append, hlength, hotherLength, ih htail hlater hotherLater,
        Document.isNull_of_bare hhead hvalue hotherValue]

end Documents

/-! ## Plans of events -/

section Events

variable {events : List Event} {documents others : List (List Event)}

/-- The plans of the documents that events make up. -/
def Gives (events : List Event) (plans : List Plan) : Prop :=
  plansOfDocuments 0 (splitDocuments false none events) = .ok plans

/-- Of faulty events some document is faulty. -/
theorem exists_faulty (d? : Option Draft) (events : List Event) :
    ∃ document ∈ splitDocuments true d? events, document.faulty = true := by
  induction events generalizing d? with
  -- A document that is open at the end of the events is finished as faulty, and so is one that was not
  -- begun.
  | nil => cases d? <;> exact ⟨_, List.mem_singleton_self _, rfl⟩
  | cons event events ih =>
    cases d? with
    | none =>
      by_cases hstart : event = .documentStart
      · subst hstart
        exact ih (some .empty)
      · rw [splitDocuments_skip hstart]
        exact ih none
    | some d =>
      -- The document ends here, and the fault is in what follows.
      by_cases hend : event = .documentEnd
      · subst hend
        obtain ⟨document, hmem, hfaulty⟩ := ih none
        exact ⟨document, List.mem_cons_of_mem _ hmem, hfaulty⟩
      · rw [splitDocuments_add hend]
        -- What cannot be added to a document makes it faulty, and the rest is not looked at.
        cases d.add? event with
        | none => exact ⟨_, List.mem_singleton_self _, rfl⟩
        | some d => exact ih (some d)

/-- After the end of a document the rest is split on its own, unless there is a fault before. -/
theorem splitDocuments_append (d? : Option Draft) (body later : List Event) :
    splitDocuments false d? (body ++ .documentEnd :: later) =
        splitDocuments false d? (body ++ [.documentEnd]) ++ splitDocuments false none later ∨
      (∃ document ∈ splitDocuments false d? (body ++ .documentEnd :: later), document.faulty = true) ∧
        ∃ document ∈ splitDocuments false d? (body ++ [.documentEnd]), document.faulty = true := by
  induction body generalizing d? with
  | nil => cases d? <;> exact .inl rfl
  | cons event body ih =>
    rw [List.cons_append, List.cons_append]
    cases d? with
    | none =>
      -- Between documents everything but a start is passed over, on both sides.
      by_cases hstart : event = .documentStart
      · subst hstart
        exact ih (some .empty)
      · rw [splitDocuments_skip hstart, splitDocuments_skip hstart]
        exact ih none
    | some d =>
      -- The document ends before the one in question, so it is split off on both sides.
      by_cases hend : event = .documentEnd
      · subst hend
        obtain hsplit | ⟨⟨document, hmem, hfaulty⟩, other, hmem', hfaulty'⟩ := ih none
        · exact .inl (congrArg (d.finish false :: ·) hsplit)
        · exact .inr ⟨⟨document, List.mem_cons_of_mem _ hmem, hfaulty⟩, other,
            List.mem_cons_of_mem _ hmem', hfaulty'⟩
      · rw [splitDocuments_add hend, splitDocuments_add hend]
        -- At an event that cannot be added both sides stop, each with this document at fault.
        cases d.add? event with
        | none =>
          have hfault : ∃ document ∈ [d.finish true], document.faulty = true :=
            ⟨_, List.mem_singleton_self _, rfl⟩
          exact .inr ⟨hfault, hfault⟩
        | some d => exact ih (some d)

theorem gives_append_iff (body later : List Event) :
    Gives (body ++ .documentEnd :: later) plans ↔
      ∃ first rest, Gives (body ++ [.documentEnd]) first ∧ Gives later rest ∧
        plans = first ++ rest := by
  -- Events that give plans have no faulty documents.
  have hfault {events : List Event} {plans : List Plan} (h : Gives events plans)
      (hfaulty : ∃ document ∈ splitDocuments false none events, document.faulty = true) : False := by
    obtain ⟨document, hmem, hfaulty⟩ := hfaulty
    rw [faulty_of_plansOfDocuments h document hmem] at hfaulty
    cases hfaulty
  obtain hsplit | ⟨hwhole, hpart⟩ := splitDocuments_append none body later
  · rw [Gives, hsplit]
    exact plansOfDocuments_append_iff
  · -- With a fault before the end neither side has plans.
    constructor
    · exact fun h => (hfault h hwhole).elim
    · rintro ⟨first, rest, hfirst, -, -⟩
      exact (hfault hfirst hpart).elim

theorem gives_nil_iff : Gives [] plans ↔ plans = [] :=
  ⟨fun h => (Except.ok.inj h).symm, fun h => h ▸ rfl⟩

/-- The plans of documents are those of each of them. -/
theorem gives_joinEvents_append_iff (h : Ended documents) :
    Gives (joinEvents (documents ++ others)) plans ↔
      ∃ first rest, Gives (joinEvents documents) first ∧ Gives (joinEvents others) rest ∧
        plans = first ++ rest := by
  induction documents generalizing plans with
  | nil =>
    constructor
    · exact fun h => ⟨[], plans, rfl, h, rfl⟩
    · rintro ⟨first, rest, hfirst, hrest, rfl⟩
      obtain rfl := gives_nil_iff.1 hfirst
      exact hrest
  | cons document documents ih =>
    obtain ⟨⟨body, rfl⟩, hrest⟩ := List.forall_mem_cons.1 h
    -- A document with its end is followed by the rest, as `gives_append_iff` wants it.
    have hcons (documents : List (List Event)) : joinEvents ((body ++ [.documentEnd]) :: documents) =
        (.documentStart :: body) ++ .documentEnd :: joinEvents documents := by simp [joinEvents]
    rw [List.cons_append, hcons, hcons, gives_append_iff]
    simp only [gives_append_iff _ (joinEvents documents), ih hrest]
    constructor
    · rintro ⟨one, _, hone, ⟨first, rest, hfirst, hrest, rfl⟩, rfl⟩
      exact ⟨one ++ first, rest, ⟨one, first, hone, hfirst, rfl⟩, hrest, (List.append_assoc ..).symm⟩
    · rintro ⟨_, rest, ⟨one, first, hone, hfirst, rfl⟩, hrest, rfl⟩
      exact ⟨one, first ++ rest, hone, ⟨first, rest, hfirst, hrest, rfl⟩, List.append_assoc ..⟩

theorem joinEvents_bareDocuments {texts : Bool} :
    joinEvents (bareDocuments texts documents) = (joinEvents documents).map (Event.bare texts) := by
  simp [joinEvents, bareDocuments, List.map_flatMap, List.flatMap_map, Event.bare]

theorem splitDocuments_bareDocuments {texts : Bool} :
    splitDocuments false none (joinEvents (bareDocuments texts documents)) =
      (splitDocuments false none (joinEvents documents)).map (Document.bare texts) := by
  rw [joinEvents_bareDocuments]
  exact splitDocuments_bare none (joinEvents documents)

theorem gives_bareDocuments_iff :
    Gives (joinEvents (bareDocuments true documents)) plans ↔ Gives (joinEvents documents) plans := by
  rw [Gives, splitDocuments_bareDocuments]
  exact plansOfDocuments_bare_iff

/-- A blank document adds no plan. -/
theorem gives_blank_append_iff {blank : List (List Event)} (h : blank = [] ∨ blank = [blankDocument]) :
    Gives (joinEvents (blank ++ documents)) plans ↔ Gives (joinEvents documents) plans := by
  obtain rfl | rfl := h
  · rfl
  · have hended : Ended [blankDocument] := by
      rintro document hdocument
      exact ⟨[.empty], List.mem_singleton.1 hdocument⟩
    have hblank : plansOfDocuments 0 (splitDocuments false none (joinEvents [blankDocument])) =
        .ok [] := rfl
    rw [gives_joinEvents_append_iff hended]
    constructor
    · rintro ⟨first, rest, hfirst, hrest, rfl⟩
      obtain rfl := Except.ok.inj (hblank.symm.trans hfirst)
      exact hrest
    · exact fun h => ⟨[], plans, hblank, h, rfl⟩

end Events

/-! ## Plans of texts -/

section Texts

variable {text other : String} {documents others : List (List Event)}

/-- The plans of a text that is a stream of documents. There may be none. -/
def Converts (text : String) (plans : List Plan) : Prop :=
  ∃ documents, Streams true (tokens text) documents ∧ Gives (joinEvents documents) plans

theorem converts_iff (h : Streams true (tokens text) documents) :
    Converts text plans ↔ Gives (joinEvents documents) plans := by
  refine ⟨?_, fun hgives => ⟨documents, h, hgives⟩⟩
  rintro ⟨found, hfound, hgives⟩
  have hevents : Events.mk (joinEvents found) false = Events.mk (joinEvents documents) false :=
    (events_eq_iff.2 ⟨found, hfound, rfl⟩).symm.trans (events_eq_iff.2 ⟨documents, h, rfl⟩)
  rwa [(Events.mk.inj hevents).1] at hgives

theorem plansOfDocuments_documents_iff :
    plansOfDocuments 0 (Yaml.documents text) = .ok plans ↔ Converts text plans := by
  unfold Yaml.documents
  dsimp only
  rcases hevents : events text with ⟨list, faulty⟩
  cases faulty with
  | true =>
    -- A fault shows in some document, and there is no stream.
    obtain ⟨document, hmem, hfaulty⟩ := exists_faulty none list
    constructor
    · intro h
      split at h
      · rename_i hnil
        rw [hnil] at hmem
        cases hmem
      · rw [faulty_of_plansOfDocuments h document hmem] at hfaulty
        cases hfaulty
    · rintro ⟨documents, hdocuments, -⟩
      have hsound := hevents.symm.trans (events_eq_iff.2 ⟨documents, hdocuments, rfl⟩)
      cases (Events.mk.inj hsound).2
  | false =>
    obtain ⟨documents, hdocuments, rfl⟩ := events_eq_iff.1 hevents
    rw [converts_iff hdocuments, Gives]
    dsimp only
    split
    · rename_i hnil
      rw [hnil]
      rfl
    · rfl

theorem plansOfText_eq_ok_iff : plansOfText text = .ok plans ↔ plans ≠ [] ∧ Converts text plans := by
  rw [plansOfText, bind_eq_ok_iff]
  simp only [plansOfDocuments_documents_iff]
  constructor
  · rintro ⟨found, hfound, h⟩
    split_ifs at h with hempty
    obtain rfl := Except.ok.inj h
    exact ⟨by simpa using hempty, hfound⟩
  · rintro ⟨hplans, h⟩
    exact ⟨plans, h, if_neg (by simpa using hplans)⟩

/-- The plans of two texts with a start marker between them. -/
theorem converts_joined_iff (h : Streams true (tokens text) documents)
    (hother : Streams true (tokens other) others) :
    Converts (text ++ "\n---\n" ++ other) plans ↔
      ∃ first rest, Converts (text ++ "\n") first ∧ Converts other rest ∧ plans = first ++ rest := by
  obtain ⟨line, blank, joined, hline, -, hblank, hjoined, hsame⟩ := h.joined hother
  -- All three texts have their documents, so only the plans of documents are left to compare.
  simp only [converts_iff hjoined, converts_iff hline, converts_iff hother]
  rw [← gives_bareDocuments_iff, hsame, gives_joinEvents_append_iff (hline.ended.bare true)]
  simp only [gives_blank_append_iff hblank, gives_bareDocuments_iff]

/-- A line break at the end changes no number of plans. -/
theorem Converts.length_line {first : List Plan} (h : Converts text plans)
    (hline : Converts (text ++ "\n") first) : first.length = plans.length := by
  obtain ⟨documents, hdocuments, hgives⟩ := h
  obtain ⟨line, -, -, hlines, hsame, -⟩ := hdocuments.joined hdocuments
  refine length_of_plansOfDocuments ?_ ((converts_iff hlines).1 hline) hgives
  rw [← splitDocuments_bareDocuments, hsame, splitDocuments_bareDocuments]

end Texts

/-! ## Plans of joined statements -/

section Statements

variable {statements : List String} {roots : List Plan}

theorem converts_of_convert {statement : String} (h : Converter.yaml.convert statement = .ok plans) :
    Converts statement plans := (plansOfText_eq_ok_iff.1 h).2

theorem joinStatements_singleton {statement : String} :
    Converter.yaml.joinStatements [statement] = statement := by
  rw [Converter.joinStatements, Text.join, String.intercalate_singleton]

theorem joinStatements_cons_cons {first second : String} :
    Converter.yaml.joinStatements (first :: second :: statements) =
      first ++ "\n---\n" ++ Converter.yaml.joinStatements (second :: statements) :=
  String.intercalate_cons_cons

/-- Joined statements are a stream of documents, and its plans are those of the statements if no line
break is taken for a part of one. -/
theorem converts_joinStatements_iff (hne : statements ≠ [])
    (h : List.Forall₂ (fun statement root => Converter.yaml.convert statement = .ok [root])
      statements roots) :
    (∃ documents, Streams true (tokens (Converter.yaml.joinStatements statements)) documents) ∧
      (Converts (Converter.yaml.joinStatements statements) roots ↔
        ∀ statement ∈ statements.dropLast,
          Converter.yaml.convert (statement ++ "\n") = Converter.yaml.convert statement) := by
  induction h with
  | nil => exact absurd rfl hne
  | @cons statement root statements roots hhead hrest ih =>
    obtain ⟨documents, hdocuments, hgives⟩ := converts_of_convert hhead
    cases hrest with
    | nil =>
      rw [joinStatements_singleton]
      exact ⟨⟨documents, hdocuments⟩, fun _ => nofun, fun _ => ⟨documents, hdocuments, hgives⟩⟩
    | @cons second next statements roots hsecond hlater =>
      obtain ⟨⟨others, hothers⟩, ih⟩ := ih (List.cons_ne_nil _ _)
      obtain ⟨-, -, joined, -, -, -, hjoined, -⟩ := hdocuments.joined hothers
      rw [joinStatements_cons_cons, List.dropLast_cons_cons, List.forall_mem_cons]
      refine ⟨⟨joined, hjoined⟩, ?_⟩
      rw [converts_joined_iff hdocuments hothers]
      constructor
      · rintro ⟨first, rest, hfirst, hrest, hroots⟩
        -- One plan comes of the statement with its line break, as without.
        have hlength := Converts.length_line ⟨documents, hdocuments, hgives⟩ hfirst
        obtain ⟨plan, rfl⟩ := List.length_eq_one_iff.1 hlength
        obtain ⟨rfl, rfl⟩ := List.cons.inj hroots
        exact ⟨(plansOfText_eq_ok_iff.2 ⟨List.cons_ne_nil _ _, hfirst⟩).trans hhead.symm, ih.1 hrest⟩
      · rintro ⟨hline, hrest⟩
        exact ⟨[root], next :: roots, converts_of_convert (hline.trans hhead), ih.2 hrest, rfl⟩

/-- Statements that each give one plan give these plans together exactly if there is a statement at all
and every one but the last gives the same with a line break after it. -/
theorem convert_joinStatements_iff
    (h : List.Forall₂ (fun statement root => Converter.yaml.convert statement = .ok [root])
      statements roots) :
    Converter.yaml.convert (Converter.yaml.joinStatements statements) = .ok roots ↔
      statements ≠ [] ∧ ∀ statement ∈ statements.dropLast,
        Converter.yaml.convert (statement ++ "\n") = Converter.yaml.convert statement := by
  have hconvert : Converter.yaml.convert (Converter.yaml.joinStatements statements) = .ok roots ↔
      roots ≠ [] ∧ Converts (Converter.yaml.joinStatements statements) roots := plansOfText_eq_ok_iff
  rw [hconvert]
  cases h with
  | nil => exact ⟨fun h => absurd rfl h.1, fun h => absurd rfl h.1⟩
  | cons hhead hrest =>
    rw [(converts_joinStatements_iff (List.cons_ne_nil _ _) (.cons hhead hrest)).2]
    exact and_congr_left fun _ => ⟨fun _ => List.cons_ne_nil _ _, fun _ => List.cons_ne_nil _ _⟩

end Statements

/-- A block scalar that drops its final line breaks can stand at the end of a statement. -/
theorem convert_joinStatements_iff_stripped :
    List.Forall₂ (fun statement root => Converter.yaml.convert statement = .ok [root])
        ["op: filter\ninput: \x7bop: scan\x7d\ncondition: |-\n  text", "op: scan # all"]
        [.unary (.filter "text") none (.scan none), .scan none] ∧
      Converter.yaml.convert (Converter.yaml.joinStatements
          ["op: filter\ninput: \x7bop: scan\x7d\ncondition: |-\n  text", "op: scan # all"]) =
        .ok [.unary (.filter "text") none (.scan none), .scan none] := by
  have hfirst :
      Converter.yaml.convert "op: filter\ninput: \x7bop: scan\x7d\ncondition: |-\n  text" =
        .ok [.unary (.filter "text") none (.scan none)] := toOption_eq_some_iff.1 (by decide +kernel)
  have hline :
      Converter.yaml.convert ("op: filter\ninput: \x7bop: scan\x7d\ncondition: |-\n  text" ++ "\n") =
        .ok [.unary (.filter "text") none (.scan none)] := toOption_eq_some_iff.1 (by decide +kernel)
  have hsecond : Converter.yaml.convert "op: scan # all" = .ok [.scan none] :=
    toOption_eq_some_iff.1 (by decide +kernel)
  refine ⟨.cons hfirst (.cons hsecond .nil),
    (convert_joinStatements_iff (.cons hfirst (.cons hsecond .nil))).2 ?_⟩
  exact ⟨List.cons_ne_nil _ _, List.forall_mem_singleton.2 (hline.trans hfirst.symm)⟩

/-- A block scalar that keeps a final line break takes that of the marker: joining the statements
changes the first. -/
theorem convert_joinStatements_of_kept_break :
    Converter.yaml.convert "op: filter\ninput: \x7bop: scan\x7d\ncondition: |\n  text" =
        .ok [.unary (.filter "text") none (.scan none)] ∧
      Converter.yaml.convert "op: scan" = .ok [.scan none] ∧
      Converter.yaml.convert (Converter.yaml.joinStatements
          ["op: filter\ninput: \x7bop: scan\x7d\ncondition: |\n  text", "op: scan"]) =
        .ok [.unary (.filter "text\n") none (.scan none), .scan none] :=
  ⟨toOption_eq_some_iff.1 (by decide +kernel), toOption_eq_some_iff.1 (by decide +kernel),
    toOption_eq_some_iff.1 (by decide +kernel)⟩

end StreamPlan
