import StreamPlan.Proofs.Yaml.Grammar
import StreamPlan.Proofs.Yaml.Lexer.Joined

/-!
# Streams of documents

The documents of a text depend on what its tokens say only, and a text can be continued after its end.

* `Streams.told`, `Streams.of_told`: tokens told again are a stream of the documents without their places.
* `Streams.marked`: a start marker before a text adds a blank document at most.
* `Streams.joined`: two texts with a start marker between them are a stream of the documents of both,
  and perhaps a blank one between them. Only texts of scalars differ from those of the first text alone.
-/

namespace StreamPlan.Yaml

/-! ## Documents told again -/

namespace Retelling

variable {r : Retelling} {handles : Handles} {tokens rest : List Token}

theorem tokens_append (h : ∀ token ∈ tokens, token.kind ≠ .streamEnd) :
    r.tokens (tokens ++ rest) = tokens.map (Token.bare r.texts) ++ r.tokens rest := by
  induction tokens with
  | nil => rfl
  | cons token tokens ih =>
    rw [List.cons_append, tokens_cons (h token List.mem_cons_self),
      ih fun other hother => h other (List.mem_cons_of_mem _ hother)]
    rfl

theorem explicitDocument?_tokens {goals : List Goal}
    (h : explicitDocument? tokens = some (.begins goals handles rest)) :
    explicitDocument? (r.tokens tokens) = some (.begins goals handles (r.tokens rest)) := by
  obtain ⟨⟨handles, later⟩, hdirectives, h⟩ := Option.bind_eq_some_iff.1 h
  rw [explicitDocument?, directives?_tokens, hdirectives]
  dsimp only at h
  split at h
  · obtain ⟨rfl, rfl, rfl⟩ := DocumentMove.begins.inj (Option.some.inj h)
    rfl
  · cases h

/-- Without the start of another document no document is added. -/
theorem explicitDocument?_tokens_eq_none (hstarts : r.starts = false)
    (h : explicitDocument? tokens = none) :
    explicitDocument? (r.tokens tokens) = none := by
  obtain ⟨texts, starts, later⟩ := r
  obtain rfl : starts = false := hstarts
  rw [explicitDocument?] at h ⊢
  rw [directives?_tokens]
  cases hdirectives : directives? false [] tokens with
  | none => rfl
  | some result =>
    obtain ⟨handles, left⟩ := result
    rw [hdirectives] at h
    rcases left with _ | ⟨⟨kind, place⟩, left⟩
    · rfl
    · cases kind
      case documentStart => cases h
      all_goals rfl

theorem passed_tokens {first : Bool} :
    (if first then r.tokens tokens else skipEndMarkers (r.tokens tokens)) =
      r.tokens (if first then tokens else skipEndMarkers tokens) := by
  cases first with
  | true => rfl
  | false => exact skipEndMarkers_tokens

theorem documentMove?_tokens {first : Bool} {goals : List Goal}
    (h : documentMove? first tokens = some (.begins goals handles rest)) :
    documentMove? first (r.tokens tokens) = some (.begins goals handles (r.tokens rest)) := by
  unfold documentMove? at h ⊢
  rw [passed_tokens]
  generalize (if first then tokens else skipEndMarkers tokens) = left at h ⊢
  rcases left with _ | ⟨⟨kind, place⟩, left⟩
  · cases h
  · cases kind
    case streamEnd => cases h
    case version | tagLine | documentStart => exact explicitDocument?_tokens h
    all_goals
      cases first
      · cases h
      · obtain ⟨rfl, rfl, rfl⟩ := DocumentMove.begins.inj (Option.some.inj h)
        rfl

/-- Where the text ends, what takes the place of the end decides. -/
theorem documentMove?_tokens_of_finished {first : Bool}
    (h : documentMove? first tokens = some .finished) :
    documentMove? first (r.tokens tokens) = documentMove? false r.ending := by
  unfold documentMove? at h ⊢
  rw [passed_tokens]
  generalize (if first then tokens else skipEndMarkers tokens) = left at h ⊢
  rcases left with _ | ⟨⟨kind, place⟩, left⟩
  · cases h
  · have hexplicit : ∀ tokens, explicitDocument? tokens ≠ some .finished :=
        fun _ => explicitDocument?_ne_finished
    cases kind
    case streamEnd => obtain ⟨texts, _ | _, later⟩ := r <;> rfl
    case version | tagLine | documentStart => exact absurd h (hexplicit _)
    all_goals cases first <;> cases h

theorem documentMove?_tokens_eq_none {first : Bool} (hstarts : r.starts = false)
    (h : documentMove? first tokens = none) : documentMove? first (r.tokens tokens) = none := by
  unfold documentMove? at h ⊢
  rw [passed_tokens]
  generalize (if first then tokens else skipEndMarkers tokens) = left at h ⊢
  rcases left with _ | ⟨⟨kind, place⟩, left⟩
  · rfl
  · cases kind
    case streamEnd => cases h
    case version | tagLine | documentStart => exact explicitDocument?_tokens_eq_none hstarts h
    all_goals
      cases first
      · rfl
      · cases h

end Retelling

section

variable {r : Retelling} {handles : Handles} {tokens after : List Token} {goals : List Goal}
  {events : List Event}

theorem Yields.told (h : Yields handles goals tokens events after) (r : Retelling) :
    Yields handles goals (r.tokens tokens) (events.map (Event.bare r.texts)) (r.tokens after) := by
  induction h with
  | done => exact .done
  | @move goal goals tokens after events move hmove h ih =>
    have hmove : goal.move? handles (r.tokens tokens) = some (r.move move) := by
      rw [r.move?_tokens, hmove]
      rfl
    exact .move hmove ih

theorem Yields.of_told (h : Yields handles goals (r.tokens tokens) events after) :
    ∃ events' after', Yields handles goals tokens events' after' ∧
      events = events'.map (Event.bare r.texts) ∧
      after = r.tokens after' := by
  generalize htokens : r.tokens tokens = told at h
  induction h generalizing tokens with
  | done => exact ⟨[], tokens, .done, rfl, htokens.symm⟩
  | @move goal goals told after events move hmove h ih =>
    subst htokens
    rw [r.move?_tokens] at hmove
    obtain ⟨move, hmove', rfl⟩ := Option.map_eq_some_iff.1 hmove
    obtain ⟨events, after, hyields, rfl, rfl⟩ := ih rfl
    exact ⟨move.event :: events, after, .move hmove' hyields, rfl, rfl⟩

/-- Documents without their places. -/
def bareDocuments (texts : Bool) (documents : List (List Event)) : List (List Event) :=
  documents.map (List.map (Event.bare texts))

variable {first : Bool} {documents later : List (List Event)}

/-- What takes the place of the end adds its documents. -/
theorem Streams.told (h : Streams first tokens documents) (hlater : Streams false r.ending later) :
    Streams first (r.tokens tokens) (bareDocuments r.texts documents ++ later) := by
  induction h with
  | @finished first tokens hmove =>
    -- The stream goes on with what takes the place of the end.
    have hending := Retelling.documentMove?_tokens_of_finished (r := r) hmove
    cases hlater with
    | finished hlast => exact .finished (hending.trans hlast)
    | begins hnext hyields h => exact .begins (hending.trans hnext) hyields h
  | begins hmove hyields h ih =>
    exact .begins (Retelling.documentMove?_tokens hmove) (hyields.told r) ih

/-- Documents that are told again were told before. -/
theorem Streams.of_told (h : Streams first (r.tokens tokens) documents) (hstarts : r.starts = false) :
    ∃ documents', Streams first tokens documents' ∧ documents = bareDocuments r.texts documents' := by
  have hending : documentMove? false r.ending = some .finished := by
    obtain ⟨texts, starts, later⟩ := r
    obtain rfl : starts = false := hstarts
    rfl
  -- Whatever the tokens were before, telling them again does not turn one outcome into another.
  generalize htokens : r.tokens tokens = told at h
  induction h generalizing tokens with
  | @finished first told hmove =>
    subst htokens
    refine ⟨[], ?_, rfl⟩
    cases hbefore : documentMove? first tokens with
    | none =>
      rw [Retelling.documentMove?_tokens_eq_none hstarts hbefore] at hmove
      cases hmove
    | some move =>
      cases move with
      | finished => exact .finished hbefore
      | begins goals handles rest =>
        rw [Retelling.documentMove?_tokens hbefore] at hmove
        cases hmove
  | @begins first told rest later goals handles events documents hmove hyields h ih =>
    subst htokens
    cases hbefore : documentMove? first tokens with
    | none =>
      rw [Retelling.documentMove?_tokens_eq_none hstarts hbefore] at hmove
      cases hmove
    | some move =>
      cases move with
      | finished =>
        rw [Retelling.documentMove?_tokens_of_finished hbefore, hending] at hmove
        cases hmove
      | begins goals handles rest =>
        rw [Retelling.documentMove?_tokens hbefore] at hmove
        obtain ⟨rfl, rfl, rfl⟩ := DocumentMove.begins.inj (Option.some.inj hmove)
        obtain ⟨events, after, hevents, rfl, rfl⟩ := hyields.of_told
        obtain ⟨documents, hdocuments, rfl⟩ := ih rfl
        exact ⟨events :: documents, .begins hbefore hevents hdocuments, rfl⟩

/-! ## Where documents end -/

/-- The last event of each document is its end. -/
def Ended (documents : List (List Event)) : Prop :=
  ∀ document ∈ documents, ∃ body, document = body ++ [.documentEnd]

theorem documentEnd_move? {move : Move} (h : Goal.documentEnd.move? handles tokens = some move) :
    move.event = .documentEnd ∧ move.goals = [] := by
  rcases tokens with _ | ⟨token, rest⟩
  · cases h
  · rw [Goal.move?] at h
    split_ifs at h <;> obtain rfl := Option.some.inj h <;> exact ⟨rfl, rfl⟩

theorem Yields.ends (h : Yields handles (goals ++ [.documentEnd]) tokens events after) :
    ∃ body, events = body ++ [.documentEnd] := by
  generalize hagenda : goals ++ [.documentEnd] = agenda at h
  induction h generalizing goals with
  | done => simp at hagenda
  | @move goal later tokens after events move hmove h ih =>
    rcases goals with _ | ⟨first, goals⟩
    · obtain ⟨rfl, rfl⟩ := List.cons.inj hagenda
      obtain ⟨hevent, hgoals⟩ := documentEnd_move? hmove
      rw [hgoals] at h
      cases h
      exact ⟨[], by rw [hevent]; rfl⟩
    · obtain ⟨rfl, rfl⟩ := List.cons.inj hagenda
      obtain ⟨body, rfl⟩ := ih (List.append_assoc ..)
      exact ⟨move.event :: body, rfl⟩

theorem Streams.ended (h : Streams first tokens documents) : Ended documents := by
  induction h with
  | finished hmove => exact nofun
  | begins hmove hyields h ih =>
    obtain ⟨⟨goal, rfl, -⟩, -⟩ := documentMove?_begins hmove
    have hyields : Yields _ ([goal] ++ [.documentEnd]) _ _ _ := hyields
    exact List.forall_mem_cons.2 ⟨hyields.ends, ih⟩

theorem Ended.bare (h : Ended documents) (texts : Bool) : Ended (bareDocuments texts documents) := by
  intro document hdocument
  obtain ⟨document, hmem, rfl⟩ := List.mem_map.1 hdocument
  obtain ⟨body, rfl⟩ := h document hmem
  exact ⟨body.map (Event.bare texts), List.map_append ..⟩

/-! ## A start marker before a text -/

theorem documentMove?_marked {mark : Mark} :
    documentMove? false (⟨.documentStart, mark⟩ :: tokens) =
      some (.begins [.content, .documentEnd] Handles.standard tokens) := rfl

/-- The events of a blank document. -/
def blankDocument : List Event := [.empty, .documentEnd]

/-- Before a document with a marker of its own the content is left out. -/
theorem Streams.marked_blank {kind : Token.Kind} {place : Mark} {rest : List Token} {mark : Mark}
    (hcontent : Goal.content.move? Handles.standard (⟨kind, place⟩ :: rest) =
      some ⟨.empty, [], ⟨kind, place⟩ :: rest⟩) (hkind : kind ≠ .documentEnd)
    (h : Streams false (⟨kind, place⟩ :: rest) documents) :
    Streams false (⟨.documentStart, mark⟩ :: ⟨kind, place⟩ :: rest) (blankDocument :: documents) := by
  have hend : Goal.documentEnd.move? Handles.standard (⟨kind, place⟩ :: rest) =
      some ⟨.documentEnd, [], ⟨kind, place⟩ :: rest⟩ := if_neg hkind
  exact .begins documentMove?_marked (.move hcontent (.move hend .done)) h

/-- A start marker before a text adds a blank document at most. -/
theorem Streams.marked (h : Streams true tokens documents) (mark : Mark) :
    ∃ blank, (blank = [] ∨ blank = [blankDocument]) ∧
      Streams false (⟨.documentStart, mark⟩ :: tokens) (blank ++ documents) := by
  cases h with
  | finished hmove =>
    rcases tokens with _ | ⟨⟨kind, place⟩, rest⟩
    · cases hmove
    · cases kind
      case streamEnd =>
        have hlast : Streams false (⟨.streamEnd, place⟩ :: rest) [] := .finished rfl
        exact ⟨[blankDocument], .inr rfl, hlast.marked_blank rfl nofun⟩
      case version | tagLine =>
        exact absurd hmove explicitDocument?_ne_finished
      all_goals cases hmove
  | @begins _ _ rest later goals handles events documents hmove hyields h =>
    have hhere (hsame : documentMove? false tokens = documentMove? true tokens) :
        Streams false tokens (events :: documents) := .begins (hsame.trans hmove) hyields h
    rcases tokens with _ | ⟨⟨kind, place⟩, rest⟩
    · cases hmove
    · cases kind
      case streamEnd => cases hmove
      case version | tagLine | documentStart =>
        exact ⟨[blankDocument], .inr rfl, (hhere rfl).marked_blank rfl nofun⟩
      case documentEnd =>
        obtain ⟨rfl, rfl, rfl⟩ := DocumentMove.begins.inj (Option.some.inj hmove)
        cases hyields with
        | move hnode hyields => cases hnode
      all_goals
        -- The document starts at the marker instead, with the same node.
        obtain ⟨rfl, rfl, rfl⟩ := DocumentMove.begins.inj (Option.some.inj hmove)
        cases hyields with
        | move hnode hyields =>
          refine ⟨[], .inl rfl, .begins documentMove?_marked (.move ?_ hyields) h⟩
          exact hnode

end

/-! ## Joined texts -/

section Joined

variable {text other : String} {documents others : List (List Event)}

theorem Streams.complete (h : Streams true (tokens text) documents) : Complete text := by
  obtain ⟨used, mark, later, htokens, -⟩ := h.brackets
  exact ⟨⟨.streamEnd, mark⟩, by rw [htokens]; simp, rfl⟩

theorem openBrackets_reverse {tokens : List Token} :
    openBrackets tokens.reverse = bracketsAfter 0 tokens :=
  List.foldr_reverse

theorem Streams.openBrackets_eq (h : Streams true (tokens text) documents) :
    openBrackets (tokens text).reverse = 0 := by
  obtain ⟨used, mark, later, htokens, hused⟩ := h.brackets
  obtain ⟨first, mark', hfirst, hends⟩ := h.complete.ends
  -- Only the last token is the end of the text.
  obtain rfl : later = [] := by
    obtain hnil | ⟨between, last, rfl⟩ := List.eq_nil_or_concat later
    · exact hnil
    · rw [hfirst, List.concat_eq_append, ← List.cons_append, ← List.append_assoc] at htokens
      obtain ⟨rfl, -⟩ := List.append_inj' htokens rfl
      exact absurd rfl (hends ⟨.streamEnd, mark⟩ (by simp))
  rw [openBrackets_reverse, htokens, bracketsAfter_append, hused]
  rfl

theorem Retelling.tokens_map_within {r : Retelling} {frame : Frame} {tokens : List Token} :
    r.tokens (tokens.map (Token.within frame)) = r.tokens tokens := by
  induction tokens with
  | nil => rfl
  | cons token tokens ih =>
    rw [List.map_cons, Retelling.tokens, Retelling.tokens, ih]
    rfl

/-- The tokens of a text that is read to its end, told again with that end. -/
theorem Complete.tokens_told (h : Complete text) {texts : Bool} :
    Retelling.tokens ⟨texts, false, []⟩ (tokens text) = (tokens text).map (Token.bare texts) := by
  obtain ⟨first, mark, htokens, hfirst⟩ := h.ends
  rw [htokens, Retelling.tokens_append hfirst, List.map_append]
  rfl

theorem Streams.told_end {tokens : List Token} (h : Streams true tokens documents) (texts : Bool) :
    Streams true (Retelling.tokens ⟨texts, false, []⟩ tokens) (bareDocuments texts documents) := by
  have hlast : Streams false (Retelling.ending ⟨texts, false, []⟩) [] := .finished rfl
  have htold := h.told hlast
  rwa [List.append_nil] at htold

/-- The documents of a text after a line break is put to its end, and after another text is put behind a
start marker there. -/
theorem Streams.joined (h : Streams true (tokens text) documents)
    (hother : Streams true (tokens other) others) :
    ∃ line blank joined, Streams true (tokens (text ++ "\n")) line ∧
      bareDocuments false line = bareDocuments false documents ∧
      (blank = [] ∨ blank = [blankDocument]) ∧
      Streams true (tokens (text ++ "\n---\n" ++ other)) joined ∧
      bareDocuments true joined = bareDocuments true line ++ (blank ++ bareDocuments true others) := by
  obtain ⟨first, mark, halike, hline, hjoined⟩ := h.complete.joined h.openBrackets_eq
  have hcomplete : Complete (text ++ "\n") := ⟨⟨.streamEnd, mark⟩, by rw [hline]; simp, rfl⟩
  have hfirst : ∀ token ∈ first, token.kind ≠ .streamEnd := by
    obtain ⟨_, _, htokens, hends⟩ := hcomplete.ends
    rw [hline] at htokens
    obtain ⟨rfl, -⟩ := List.append_inj' htokens rfl
    exact hends
  -- The line break alone: the tokens differ in texts at most.
  have halike : Retelling.tokens ⟨false, false, []⟩ (tokens text) =
      Retelling.tokens ⟨false, false, []⟩ (tokens (text ++ "\n")) := by
    rw [h.complete.tokens_told, hcomplete.tokens_told, halike, hline, List.map_append]
    rfl
  have htold := h.told_end false
  rw [halike] at htold
  obtain ⟨line, hlines, hsame⟩ := htold.of_told rfl
  -- The other text comes after the start marker.
  obtain ⟨blank, hblank, hmarked⟩ := (hother.told_end true).marked .start
  have htold :=
    hlines.told (r := ⟨true, true, Retelling.tokens ⟨true, false, []⟩ (tokens other)⟩) hmarked
  have hsplit : Retelling.tokens ⟨true, true, Retelling.tokens ⟨true, false, []⟩ (tokens other)⟩
      (tokens (text ++ "\n")) =
      Retelling.tokens ⟨true, false, []⟩ (tokens (text ++ "\n---\n" ++ other)) := by
    rw [hline, hjoined other hother.complete, Retelling.tokens_append hfirst,
      Retelling.tokens_append hfirst,
      Retelling.tokens_streamEnd, Retelling.tokens_cons (by simp), Retelling.tokens_map_within]
    rfl
  rw [hsplit] at htold
  obtain ⟨joined, hstreams, hdocuments⟩ := htold.of_told rfl
  exact ⟨line, blank, joined, hlines, hsame.symm, hblank, hstreams, hdocuments.symm⟩

end Joined

end StreamPlan.Yaml
