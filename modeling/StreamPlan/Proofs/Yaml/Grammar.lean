import StreamPlan.Proofs.Yaml.Bare
import StreamPlan.Proofs.Yaml.Lexer.Invariant

/-!
# Runs of the grammar

The grammar works through an agenda of goals with a bound on the number of moves. Here its runs are
relations: `Yields` for the goals inside a document and `Streams` for the documents of a text, without a
bound.

* `Goal.move?_leaves`: one move costs what it takes, and closes the brackets that it has to.
* `Streams.brackets`: at the end of a text of documents no bracket is open.
* `events_eq_iff`: the bound is large enough, so that the events without fault are those of the documents.
-/

namespace StreamPlan.Yaml

/-! ## What a goal costs -/

/-- What the moves of a goal cost at most, apart from the tokens that they take. -/
def Goal.weight : Goal → Nat
  | .document true => 5
  | .node .. | .blockValue | .pairValue | .flowValue | .flowNoValue => 2
  | _ => 1

/-- The number of brackets that a goal closes. -/
def Goal.brackets : Goal → Nat
  | .flowEntries _ | .flowKey _ | .flowValue | .flowNoValue => 1
  | _ => 0

/-- A goal inside a document. -/
def Goal.Inner : Goal → Prop
  | .document _ | .documentEnd => False
  | _ => True

/-- What the goals of an agenda cost. -/
def agendaWeight : List Goal → Nat
  | [] => 0
  | goal :: goals => goal.weight + agendaWeight goals

/-- The number of brackets that an agenda closes. -/
def agendaBrackets : List Goal → Nat
  | [] => 0
  | goal :: goals => goal.brackets + agendaBrackets goals

/-- The number of open brackets after tokens, from that before them. -/
def bracketsAfter (opened : Nat) (tokens : List Token) : Nat :=
  tokens.foldl (fun opened token => token.kind.brackets opened) opened

@[simp]
theorem agendaWeight_nil : agendaWeight [] = 0 := rfl

@[simp]
theorem agendaWeight_cons {goal : Goal} {goals : List Goal} :
    agendaWeight (goal :: goals) = goal.weight + agendaWeight goals := rfl

@[simp]
theorem agendaWeight_append {goals later : List Goal} :
    agendaWeight (goals ++ later) = agendaWeight goals + agendaWeight later := by
  induction goals with
  | nil => simp
  | cons goal goals ih => simp [ih, Nat.add_assoc]

@[simp]
theorem agendaBrackets_nil : agendaBrackets [] = 0 := rfl

@[simp]
theorem agendaBrackets_cons {goal : Goal} {goals : List Goal} :
    agendaBrackets (goal :: goals) = goal.brackets + agendaBrackets goals := rfl

@[simp]
theorem agendaBrackets_append {goals later : List Goal} :
    agendaBrackets (goals ++ later) = agendaBrackets goals + agendaBrackets later := by
  induction goals with
  | nil => simp
  | cons goal goals ih => simp [ih, Nat.add_assoc]

theorem bracketsAfter_append {opened : Nat} {tokens later : List Token} :
    bracketsAfter opened (tokens ++ later) = bracketsAfter (bracketsAfter opened tokens) later :=
  List.foldl_append

/-- What an outcome leaves of tokens: goals inside the document that cost less than before by `spare`,
and that close the brackets that are open. -/
structure Move.Leaves (spare weight brackets : Nat) (tokens : List Token) (move : Move) : Prop where
  /-- Some tokens are taken, and what is open then can be closed. -/
  takes : ∃ used, tokens = used ++ move.rest ∧ ∀ opened others, opened ≤ brackets + others →
    bracketsAfter opened used ≤ agendaBrackets move.goals + others
  /-- The cost goes down. -/
  cost : spare + agendaWeight move.goals + 4 * move.rest.length ≤ weight + 4 * tokens.length
  /-- The goals are inside the document. -/
  inner : ∀ goal ∈ move.goals, goal.Inner

section Leaves

variable {handles : Handles} {block entries : Bool} {tokens rest : List Token} {move : Move}
  {spare weight brackets : Nat}

namespace Move.Leaves

theorem of_used (used : List Token) {event : Event} {goals : List Goal}
    (hbrackets : ∀ opened others, opened ≤ brackets + others →
      bracketsAfter opened used ≤ agendaBrackets goals + others)
    (hcost : spare + agendaWeight goals ≤ weight + 4 * used.length)
    (hinner : ∀ goal ∈ goals, goal.Inner) :
    Leaves spare weight brackets (used ++ rest) ⟨event, goals, rest⟩ where
  takes := ⟨used, rfl, hbrackets⟩
  cost := by
    simp only [List.length_append]
    omega
  inner := hinner

/-- Tokens may be taken before. -/
theorem prepend (used : List Token) {spare' weight' brackets' : Nat}
    (h : Leaves spare weight brackets tokens move)
    (hused : ∀ opened others, opened ≤ brackets' + others →
      bracketsAfter opened used ≤ brackets + others)
    (hcost : spare' + weight ≤ spare + weight' + 4 * used.length) :
    Leaves spare' weight' brackets' (used ++ tokens) move where
  takes := by
    obtain ⟨later, rfl, hlater⟩ := h.takes
    refine ⟨used ++ later, by simp, fun opened others hopened => ?_⟩
    rw [bracketsAfter_append]
    exact hlater _ _ (hused opened others hopened)
  cost := by
    have := h.cost
    simp only [List.length_append]
    omega
  inner := h.inner

/-- No token is taken. -/
theorem stay {event : Event} {goals : List Goal} (hbrackets : brackets ≤ agendaBrackets goals)
    (hcost : spare + agendaWeight goals ≤ weight) (hinner : ∀ goal ∈ goals, goal.Inner) :
    Leaves spare weight brackets rest ⟨event, goals, rest⟩ :=
  of_used [] (fun _ others h => Nat.le_trans h (Nat.add_le_add_right hbrackets others))
    (by simpa using hcost) hinner

/-- A token that is no bracket may be taken before. -/
theorem skip {token : Token} {weight' brackets' : Nat} (h : Leaves spare weight brackets tokens move)
    (htoken : ∀ opened, token.kind.brackets opened = opened) (hbrackets : brackets' ≤ brackets)
    (hcost : weight ≤ weight' + 4) : Leaves spare weight' brackets' (token :: tokens) move := by
  refine h.prepend [token] (fun opened others hopened => ?_) ?_
  · show token.kind.brackets opened ≤ brackets + others
    rw [htoken]
    exact Nat.le_trans hopened (Nat.add_le_add_right hbrackets others)
  · rw [List.length_singleton]
    omega

theorem andThen {goal : Goal} (h : Leaves spare weight brackets tokens move) (hgoal : goal.Inner) :
    Leaves spare (weight + goal.weight) (brackets + goal.brackets) tokens (move.andThen goal) where
  takes := by
    obtain ⟨used, hused, hbrackets⟩ := h.takes
    refine ⟨used, hused, fun opened others hopened => ?_⟩
    have := hbrackets opened (goal.brackets + others) (by omega)
    simp only [Move.andThen, agendaBrackets_append, agendaBrackets_cons, agendaBrackets_nil]
    omega
  cost := by
    have := h.cost
    simp only [Move.andThen, agendaWeight_append, agendaWeight_cons, agendaWeight_nil]
    omega
  inner := by
    intro other hother
    obtain hother | hother := List.mem_append.1 hother
    · exact h.inner other hother
    · rw [List.mem_singleton.1 hother]
      exact hgoal

end Move.Leaves

theorem properties?_takes {properties : Properties}
    (h : properties? handles tokens = some (properties, rest)) :
    ∃ used, tokens = used ++ rest ∧ (∀ opened, bracketsAfter opened used = opened) ∧
      (properties = .none ∨ 1 ≤ used.length) := by
  unfold properties? at h
  split at h
  · rename_i name mark handle suffix mark' later
    obtain ⟨tag, -, h⟩ := Option.map_eq_some_iff.1 h
    obtain ⟨-, rfl⟩ := Prod.mk.inj h
    exact ⟨[⟨.anchor name, mark⟩, ⟨.tag handle suffix, mark'⟩], rfl, fun _ => rfl, .inr (by simp)⟩
  · rename_i name mark later _
    obtain ⟨-, rfl⟩ := Prod.mk.inj (Option.some.inj h)
    exact ⟨[⟨.anchor name, mark⟩], rfl, fun _ => rfl, .inr (by simp)⟩
  · rename_i handle suffix mark name mark' later
    obtain ⟨tag, -, h⟩ := Option.map_eq_some_iff.1 h
    obtain ⟨-, rfl⟩ := Prod.mk.inj h
    exact ⟨[⟨.tag handle suffix, mark⟩, ⟨.anchor name, mark'⟩], rfl, fun _ => rfl, .inr (by simp)⟩
  · rename_i handle suffix mark later _
    obtain ⟨tag, -, h⟩ := Option.map_eq_some_iff.1 h
    obtain ⟨-, rfl⟩ := Prod.mk.inj h
    exact ⟨[⟨.tag handle suffix, mark⟩], rfl, fun _ => rfl, .inr (by simp)⟩
  · obtain ⟨rfl, rfl⟩ := Prod.mk.inj (Option.some.inj h)
    exact ⟨[], rfl, fun _ => rfl, .inl rfl⟩

theorem contentMove?_leaves {properties : Properties} {mark : Mark}
    (h : contentMove? properties mark block entries tokens = some move) :
    move.Leaves 3 (if entries = false ∧ properties = .none then 0 else 4) 0 tokens := by
  rcases tokens with _ | ⟨token, rest⟩
  · cases h
  · unfold contentMove? at h
    dsimp only at h
    split at h
    · rename_i text plain hkind
      obtain rfl := Option.some.inj h
      exact .of_used [token] (by simp [bracketsAfter, hkind, Token.Kind.brackets]) (by simp) (by simp)
    · rename_i hkind
      obtain rfl := Option.some.inj h
      exact .of_used [token]
        (by simp [bracketsAfter, hkind, Token.Kind.brackets, Goal.brackets]; omega)
        (by simp [Goal.weight]) (by simp [Goal.Inner])
    · rename_i hkind
      obtain rfl := Option.some.inj h
      exact .of_used [token]
        (by simp [bracketsAfter, hkind, Token.Kind.brackets, Goal.brackets]; omega)
        (by simp [Goal.weight]) (by simp [Goal.Inner])
    · split_ifs at h with hloose hsequence hmapping hproperties
      · -- No token is taken, which costs more.
        obtain rfl := Option.some.inj h
        have hentries : entries = true := (Bool.and_eq_true_iff.1 hloose).1
        exact .stay (by simp [Goal.brackets]) (by simp [Goal.weight, hentries])
          (by simp [Goal.Inner])
      · obtain rfl := Option.some.inj h
        have hkind : token.kind = .blockSequence := by simpa using (Bool.and_eq_true_iff.1 hsequence).2
        exact .of_used [token] (by simp [bracketsAfter, hkind, Token.Kind.brackets, Goal.brackets])
          (by simp [Goal.weight]) (by simp [Goal.Inner])
      · obtain rfl := Option.some.inj h
        have hkind : token.kind = .blockMapping := by simpa using (Bool.and_eq_true_iff.1 hmapping).2
        exact .of_used [token] (by simp [bracketsAfter, hkind, Token.Kind.brackets, Goal.brackets])
          (by simp [Goal.weight]) (by simp [Goal.Inner])
      · obtain rfl := Option.some.inj h
        have hsome : properties ≠ .none := by simpa using hproperties
        exact .stay (by simp) (by simp [hsome]) (by simp)

theorem nodeMove?_leaves (h : nodeMove? handles block entries tokens = some move) :
    move.Leaves 3 (if entries then 4 else 0) 0 tokens := by
  unfold nodeMove? at h
  split at h
  · cases h
  · rename_i name mark rest
    obtain rfl := Option.some.inj h
    exact .of_used [⟨.alias name, mark⟩] (by simp [bracketsAfter, Token.Kind.brackets]) (by simp)
      (by simp)
  · obtain ⟨⟨properties, later⟩, hproperties, h⟩ := Option.bind_eq_some_iff.1 h
    obtain ⟨used, hused, hbrackets, hlength⟩ := properties?_takes hproperties
    rw [hused]
    refine (contentMove?_leaves h).prepend used (fun opened others hopened => ?_) ?_
    · rw [hbrackets]
      exact hopened
    · obtain rfl | hlength := hlength
      · cases entries <;> simp
      · split_ifs <;> omega

theorem optionalNode?_leaves {enders : List Token.Kind} {next : Goal} (hnext : next.Inner)
    (h : optionalNode? handles block entries enders next tokens = some move) :
    move.Leaves 1 (2 + next.weight) next.brackets tokens := by
  unfold optionalNode? at h
  split at h
  · cases h
  · split_ifs at h with hender
    · obtain rfl := Option.some.inj h
      exact .stay (by simp [Goal.brackets]) (by simp) (by simp [hnext])
    · obtain ⟨node, hnode, rfl⟩ := Option.map_eq_some_iff.1 h
      refine ((nodeMove?_leaves hnode).andThen hnext).prepend [] (by simp [bracketsAfter]) ?_
      cases entries <;> simp <;> omega

theorem flowEntryMove?_leaves (h : flowEntryMove? handles tokens = some move) :
    move.Leaves 1 1 1 tokens := by
  unfold flowEntryMove? at h
  split at h
  · cases h
  · rename_i token rest
    split at h
    · rename_i hkind
      obtain rfl := Option.some.inj h
      exact .of_used [token] (by simp [bracketsAfter, hkind, Token.Kind.brackets, Goal.brackets])
        (by simp [Goal.weight]) (by simp [Goal.Inner])
    · rename_i hkind
      obtain rfl := Option.some.inj h
      exact .of_used [token] (by simp [bracketsAfter, hkind, Token.Kind.brackets]; omega)
        (by simp) (by simp)
    · obtain ⟨node, hnode, rfl⟩ := Option.map_eq_some_iff.1 h
      exact ((nodeMove?_leaves hnode).andThen (by trivial)).prepend []
        (by simp [bracketsAfter, Goal.brackets])
        (by simp [Goal.weight])

theorem flowKeyMove?_leaves (h : flowKeyMove? handles tokens = some move) :
    move.Leaves 1 1 1 tokens := by
  unfold flowKeyMove? at h
  split at h
  · cases h
  · rename_i token rest
    split at h
    · rename_i hkind
      exact (optionalNode?_leaves (by trivial) h).skip (by simp [hkind, Token.Kind.brackets])
          (by simp [Goal.brackets]) (by simp [Goal.weight])
    · rename_i hkind
      obtain rfl := Option.some.inj h
      exact .of_used [token] (by simp [bracketsAfter, hkind, Token.Kind.brackets]; omega)
        (by simp) (by simp)
    · obtain ⟨node, hnode, rfl⟩ := Option.map_eq_some_iff.1 h
      exact ((nodeMove?_leaves hnode).andThen (by trivial)).prepend []
        (by simp [bracketsAfter, Goal.brackets])
        (by simp [Goal.weight])

/-- The content of a document is a node, or nothing if a directive, a marker or the end of the text
follows. -/
theorem Goal.content_move?_cases {token : Token}
    (h : Goal.content.move? handles (token :: rest) = some move) :
    nodeMove? handles true false (token :: rest) = some move ∨ ⟨.empty, [], token :: rest⟩ = move := by
  rw [Goal.move?] at h
  split at h
  all_goals first
    | exact .inl h
    | exact .inr (Option.some.inj h)

/-- The key of a pair is a node, or is left out and takes the token after it, which opens no bracket. -/
theorem Goal.pairKey_move?_cases {token : Token}
    (h : Goal.pairKey.move? handles (token :: rest) = some move) :
    (∃ node, nodeMove? handles false false (token :: rest) = some node ∧
      node.andThen .pairValue = move) ∨
    (∀ opened, token.kind.brackets opened ≤ opened) ∧ ⟨.empty, [.pairValue], rest⟩ = move := by
  rw [Goal.move?] at h
  split at h
  · rename_i hkind
    exact .inr ⟨by simp [hkind, Token.Kind.brackets], Option.some.inj h⟩
  · rename_i hkind
    exact .inr ⟨by simp [hkind, Token.Kind.brackets], Option.some.inj h⟩
  · rename_i hkind
    exact .inr ⟨by simp [hkind, Token.Kind.brackets], Option.some.inj h⟩
  · exact .inl (Option.map_eq_some_iff.1 h)

/-- Every goal costs at least its move. -/
theorem Goal.move?_leaves {goal : Goal} (h : goal.move? handles tokens = some move) :
    move.Leaves 1 goal.weight goal.brackets tokens := by
  rcases tokens with _ | ⟨token, rest⟩
  · cases goal <;> cases h
  · cases goal
    case document => cases h
    case content =>
      rcases Goal.content_move?_cases h with hnode | rfl
      · exact (nodeMove?_leaves hnode).prepend [] (by simp [bracketsAfter, Goal.brackets])
          (by simp [Goal.weight])
      · exact .stay (by simp [Goal.brackets]) (by simp [Goal.weight]) (by simp)
    case documentEnd =>
      rw [Goal.move?] at h
      split_ifs at h with hkind
      · obtain rfl := Option.some.inj h
        exact .of_used [token] (by simp [bracketsAfter, hkind, Token.Kind.brackets, Goal.brackets])
          (by simp) (by simp)
      · obtain rfl := Option.some.inj h
        exact .stay (by simp [Goal.brackets]) (by simp [Goal.weight]) (by simp)
    case node block entries =>
      have h : nodeMove? handles block entries (token :: rest) = some move := h
      refine (nodeMove?_leaves h).prepend [] (by simp [bracketsAfter, Goal.brackets]) ?_
      cases entries <;> simp [Goal.weight]
    -- A mark with a node after it, or the end of the collection: either way a token is taken.
    case blockEntries | blockKey =>
      rw [Goal.move?] at h
      split at h
      · rename_i hkind
        exact (optionalNode?_leaves (by trivial) h).skip (by simp [hkind, Token.Kind.brackets])
          (by simp [Goal.brackets]) (by simp [Goal.weight])
      · rename_i hkind
        obtain rfl := Option.some.inj h
        exact .of_used [token] (by simp [bracketsAfter, hkind, Token.Kind.brackets, Goal.brackets])
          (by simp) (by simp)
      · cases h
    -- Without the mark no token is taken. The goal weighs more than what it leaves, which pays for the
    -- move.
    case looseEntries | blockValue | pairValue | flowValue =>
      rw [Goal.move?] at h
      split at h
      · rename_i hkind
        exact (optionalNode?_leaves (by trivial) h).skip (by simp [hkind, Token.Kind.brackets])
          (by simp [Goal.brackets]) (by simp [Goal.weight])
      · obtain rfl := Option.some.inj h
        exact .stay (by simp [Goal.brackets]) (by simp [Goal.weight]) (by simp [Goal.Inner])
    case pairEnd | flowNoValue =>
      obtain rfl := Option.some.inj h
      exact .stay (by simp [Goal.brackets]) (by simp [Goal.weight]) (by simp [Goal.Inner])
    -- The bracket is closed, or stays open for one more entry.
    case flowEntries first =>
      rw [Goal.move?] at h
      split_ifs at h with hkind hfirst hkind
      · obtain rfl := Option.some.inj h
        exact .of_used [token]
          (by simp [bracketsAfter, hkind, Token.Kind.brackets, Goal.brackets]; omega)
          (by simp) (by simp)
      · exact flowEntryMove?_leaves h
      · exact (flowEntryMove?_leaves h).skip (by simp [hkind, Token.Kind.brackets])
          (by simp [Goal.brackets]) (by simp [Goal.weight])
    case flowKey first =>
      rw [Goal.move?] at h
      split_ifs at h with hkind hfirst hkind
      · obtain rfl := Option.some.inj h
        exact .of_used [token]
          (by simp [bracketsAfter, hkind, Token.Kind.brackets, Goal.brackets]; omega)
          (by simp) (by simp)
      · exact flowKeyMove?_leaves h
      · exact (flowKeyMove?_leaves h).skip (by simp [hkind, Token.Kind.brackets])
          (by simp [Goal.brackets]) (by simp [Goal.weight])
    case pairKey =>
      rcases Goal.pairKey_move?_cases h with ⟨node, hnode, rfl⟩ | ⟨hbrackets, rfl⟩
      · exact ((nodeMove?_leaves hnode).andThen (by trivial)).prepend []
          (by simp [bracketsAfter, Goal.brackets])
          (by simp [Goal.weight])
      · -- The token after a key that is left out is taken, even if it closes a bracket.
        refine .of_used [token] (fun opened others hopened => ?_) (by simp [Goal.weight])
          (by simp [Goal.Inner])
        have hclosed : bracketsAfter opened [token] ≤ opened := hbrackets opened
        simp only [Goal.brackets, agendaBrackets_cons, agendaBrackets_nil] at hopened ⊢
        omega

end Leaves

section Runs

variable {handles : Handles} {tokens rest : List Token}

/-! ## Runs -/

/-- An agenda of goals inside a document leads from tokens to events and to the tokens after them. -/
inductive Yields (handles : Handles) : List Goal → List Token → List Event → List Token → Prop where
  /-- Nothing is left to do. -/
  | done {tokens : List Token} : Yields handles [] tokens [] tokens
  /-- The first goal moves. -/
  | move {goal : Goal} {goals : List Goal} {tokens after : List Token} {events : List Event}
    {move : Move}
    (hmove : goal.move? handles tokens = some move)
    (h : Yields handles (move.goals ++ goals) move.rest events after) :
    Yields handles (goal :: goals) tokens (move.event :: events) after

/-- The tokens of a text have the events of some documents, each from its start up to its end. -/
inductive Streams : (first : Bool) → List Token → List (List Event) → Prop where
  /-- The text ends. -/
  | finished {first : Bool} {tokens : List Token}
    (hmove : documentMove? first tokens = some .finished) :
    Streams first tokens []
  /-- There is one more document. -/
  | begins {first : Bool} {tokens rest later : List Token} {goals : List Goal} {handles : Handles}
    {events : List Event} {documents : List (List Event)}
    (hmove : documentMove? first tokens = some (.begins goals handles rest))
    (hyields : Yields handles goals rest events later) (h : Streams false later documents) :
    Streams first tokens (events :: documents)

/-- The events of documents in one list. -/
def joinEvents (documents : List (List Event)) : List Event := documents.flatMap (.documentStart :: ·)

theorem directives?_takes {version : Bool} {before : Handles}
    (h : directives? version before tokens = some (handles, rest)) :
    ∃ used, tokens = used ++ rest ∧ ∀ opened, bracketsAfter opened used = opened := by
  induction tokens generalizing version before with
  | nil => cases h
  | cons token tokens ih =>
    rw [directives?] at h
    split at h
    · rename_i major minor hkind
      split_ifs at h
      obtain ⟨used, rfl, hused⟩ := ih h
      refine ⟨token :: used, rfl, fun opened => ?_⟩
      simpa [bracketsAfter, hkind, Token.Kind.brackets] using hused opened
    · rename_i handle lead hkind
      split_ifs at h
      obtain ⟨used, rfl, hused⟩ := ih h
      refine ⟨token :: used, rfl, fun opened => ?_⟩
      simpa [bracketsAfter, hkind, Token.Kind.brackets] using hused opened
    · obtain ⟨-, rfl⟩ := Prod.mk.inj (Option.some.inj h)
      exact ⟨[], rfl, fun _ => rfl⟩

theorem skipEndMarkers_takes (tokens : List Token) :
    ∃ used, tokens = used ++ skipEndMarkers tokens ∧ ∀ opened, bracketsAfter opened used = opened := by
  refine ⟨tokens.takeWhile fun token => token.kind = .documentEnd, ?_, fun opened => ?_⟩
  · exact List.takeWhile_append_dropWhile.symm
  · induction tokens generalizing opened with
    | nil => rfl
    | cons token tokens ih =>
      rw [List.takeWhile_cons]
      split
      · rename_i hkind
        have hkind : token.kind = .documentEnd := by simpa using hkind
        simpa [bracketsAfter, hkind, Token.Kind.brackets] using ih opened
      · rfl

theorem explicitDocument?_begins {goals : List Goal}
    (h : explicitDocument? tokens = some (.begins goals handles rest)) :
    goals = [.content, .documentEnd] ∧ ∃ used, tokens = used ++ rest ∧ 1 ≤ used.length ∧
      ∀ opened, bracketsAfter opened used = opened := by
  obtain ⟨⟨handles, later⟩, hdirectives, hbegins⟩ := Option.bind_eq_some_iff.1 h
  obtain ⟨used, rfl, hused⟩ := directives?_takes hdirectives
  dsimp only at hbegins
  split at hbegins
  · rename_i mark later
    obtain ⟨rfl, rfl, rfl⟩ := DocumentMove.begins.inj (Option.some.inj hbegins)
    refine ⟨rfl, used ++ [⟨.documentStart, mark⟩], by simp, by simp, fun opened => ?_⟩
    rw [bracketsAfter_append]
    exact hused opened
  · cases hbegins

theorem explicitDocument?_ne_finished : explicitDocument? tokens ≠ some .finished := by
  intro h
  obtain ⟨⟨handles, later⟩, -, h⟩ := Option.bind_eq_some_iff.1 h
  dsimp only at h
  split at h <;> cases h

/-- Markers may be passed before a document. -/
theorem passed_takes (first : Bool) (tokens : List Token) :
    ∃ used, tokens = used ++ (if first then tokens else skipEndMarkers tokens) ∧
      ∀ opened, bracketsAfter opened used = opened := by
  cases first with
  | true => exact ⟨[], rfl, fun _ => rfl⟩
  | false => exact skipEndMarkers_takes tokens

/-- What a document that begins leaves to do. -/
theorem documentMove?_begins {first : Bool} {goals : List Goal}
    (h : documentMove? first tokens = some (.begins goals handles rest)) :
    (∃ goal, goals = [goal, .documentEnd] ∧ goal.Inner) ∧
      (∃ used, tokens = used ++ rest ∧ ∀ opened, bracketsAfter opened used = opened) ∧
      agendaWeight goals + 2 + 4 * rest.length ≤ (Goal.document first).weight + 4 * tokens.length := by
  obtain ⟨before, hbefore, hlevel⟩ := passed_takes first tokens
  unfold documentMove? at h
  generalize (if first then tokens else skipEndMarkers tokens) = left at h hbefore
  subst hbefore
  have hexplicit (h : explicitDocument? left = some (.begins goals handles rest)) :
      (∃ goal, goals = [goal, .documentEnd] ∧ goal.Inner) ∧
        (∃ used, before ++ left = used ++ rest ∧ ∀ opened, bracketsAfter opened used = opened) ∧
        agendaWeight goals + 2 + 4 * rest.length ≤
          (Goal.document first).weight + 4 * (before ++ left).length := by
    obtain ⟨rfl, used, rfl, hlength, hused⟩ := explicitDocument?_begins h
    refine ⟨⟨.content, rfl, trivial⟩, ⟨before ++ used, by simp, fun opened => ?_⟩, ?_⟩
    · rw [bracketsAfter_append]
      exact (hused _).trans (hlevel opened)
    · cases first <;> simp [Goal.weight] <;> omega
  rcases left with _ | ⟨token, left⟩
  · cases h
  · rw [documentHere?] at h
    split at h
    · cases h
    · exact hexplicit h
    · exact hexplicit h
    · exact hexplicit h
    · split_ifs at h with hfirst
      obtain ⟨rfl, rfl, rfl⟩ := DocumentMove.begins.inj (Option.some.inj h)
      refine ⟨⟨.node true false, rfl, trivial⟩, ⟨before, rfl, hlevel⟩, ?_⟩
      subst hfirst
      simp only [agendaWeight_cons, agendaWeight_nil, Goal.weight, List.length_append]
      omega

/-- After the last document the text ends. -/
theorem documentMove?_finished {first : Bool} (h : documentMove? first tokens = some .finished) :
    ∃ used mark later, tokens = used ++ ⟨.streamEnd, mark⟩ :: later ∧
      ∀ opened, bracketsAfter opened used = opened := by
  obtain ⟨before, hbefore, hlevel⟩ := passed_takes first tokens
  unfold documentMove? at h
  generalize (if first then tokens else skipEndMarkers tokens) = left at h hbefore
  subst hbefore
  rcases left with _ | ⟨⟨kind, mark⟩, left⟩
  · cases h
  · rw [documentHere?] at h
    split at h
    · rename_i hkind
      obtain rfl : kind = .streamEnd := hkind
      exact ⟨before, mark, left, rfl, hlevel⟩
    · exact absurd h explicitDocument?_ne_finished
    · exact absurd h explicitDocument?_ne_finished
    · exact absurd h explicitDocument?_ne_finished
    · split_ifs at h
      cases h

/-! ## Brackets are closed -/

theorem Yields.brackets {goals : List Goal} {events : List Event} {after : List Token}
    (h : Yields handles goals tokens events after) :
    ∃ used, tokens = used ++ after ∧ ∀ opened others, opened ≤ agendaBrackets goals + others →
      bracketsAfter opened used ≤ others := by
  induction h with
  | done => exact ⟨[], rfl, fun opened others h => by simpa [bracketsAfter] using h⟩
  | @move goal goals tokens after events move hmove h ih =>
    -- The goals of the move close what it opens, and the agenda closes the rest.
    obtain ⟨taken, htaken, hopen⟩ := (Goal.move?_leaves hmove).takes
    obtain ⟨used, hused, hclosed⟩ := ih
    refine ⟨taken ++ used, by rw [htaken, hused, List.append_assoc], fun opened others hopened => ?_⟩
    rw [bracketsAfter_append]
    refine hclosed _ others ?_
    have := hopen opened (agendaBrackets goals + others) (by simpa [Nat.add_assoc] using hopened)
    simpa [Nat.add_assoc] using this

/-- At the end of a text of documents no bracket is open. -/
theorem Streams.brackets {first : Bool} {documents : List (List Event)}
    (h : Streams first tokens documents) :
    ∃ used mark later, tokens = used ++ ⟨.streamEnd, mark⟩ :: later ∧ bracketsAfter 0 used = 0 := by
  induction h with
  | finished hmove =>
    obtain ⟨used, mark, later, htokens, hlevel⟩ := documentMove?_finished hmove
    exact ⟨used, mark, later, htokens, hlevel 0⟩
  | begins hmove hyields h ih =>
    obtain ⟨⟨goal, rfl, hgoal⟩, ⟨before, rfl, hbefore⟩, -⟩ := documentMove?_begins hmove
    obtain ⟨inside, rfl, hinside⟩ := hyields.brackets
    obtain ⟨used, mark, later, rfl, hused⟩ := ih
    refine ⟨before ++ (inside ++ used), mark, later, by simp, ?_⟩
    have hclosed : bracketsAfter 0 inside = 0 := Nat.le_zero.1 (hinside 0 0 (Nat.zero_le _))
    rw [bracketsAfter_append, bracketsAfter_append, hbefore, hclosed, hused]

/-! ## Fuel -/

theorem runGoals_cons {fuel : Nat} {goal : Goal} {goals : List Goal}
    (h : ∀ first, goal ≠ .document first) :
    runGoals (fuel + 1) handles (goal :: goals) tokens =
      match goal.move? handles tokens with
      | none => ⟨[], true⟩
      | some move => (runGoals fuel handles (move.goals ++ goals) move.rest).cons move.event := by
  cases goal with
  | document first => exact absurd rfl (h first)
  | _ => rfl

theorem Goal.Inner.ne_document {goal : Goal} (h : goal.Inner) (first : Bool) :
    goal ≠ .document first := by
  rintro rfl
  exact h

theorem ne_document_of_begins {first : Bool} {goals : List Goal}
    (h : documentMove? first tokens = some (.begins goals handles rest)) :
    ∀ goal ∈ goals, ∀ first, goal ≠ .document first := by
  obtain ⟨⟨goal, rfl, hinner⟩, -⟩ := documentMove?_begins h
  intro other hother
  obtain rfl | hother := List.mem_cons.1 hother
  · exact hinner.ne_document
  · rw [List.mem_singleton.1 hother]
    exact fun first => nofun

/-- With enough fuel an agenda gives its events, and enough is left for what comes after. -/
theorem Yields.runGoals_eq {goals later : List Goal} {events : List Event} {after : List Token}
    {fuel : Nat} (h : Yields handles goals tokens events after)
    (hgoals : ∀ goal ∈ goals, ∀ first, goal ≠ .document first)
    (hfuel : agendaWeight goals + 4 * tokens.length ≤ fuel) :
    ∃ left, fuel + 4 * after.length ≤ left + agendaWeight goals + 4 * tokens.length ∧
      runGoals fuel handles (goals ++ later) tokens =
        events.foldr Events.cons (runGoals left handles later after) := by
  induction h generalizing fuel with
  | done => exact ⟨fuel, by simp, rfl⟩
  | @move goal goals tokens after events move hmove h ih =>
    -- The move costs one unit of fuel, and no more is needed for what it leaves than before.
    have hleaves := Goal.move?_leaves hmove
    have hcost := hleaves.cost
    rw [agendaWeight_cons] at hfuel
    obtain ⟨fuel, rfl⟩ : ∃ n, fuel = n + 1 := ⟨fuel - 1, by omega⟩
    have hinner : ∀ other ∈ move.goals ++ goals, ∀ first, other ≠ .document first := by
      intro other hother
      obtain hother | hother := List.mem_append.1 hother
      · exact (hleaves.inner other hother).ne_document
      · exact hgoals other (List.mem_cons_of_mem _ hother)
    have hless : agendaWeight (move.goals ++ goals) + 4 * move.rest.length ≤ fuel := by
      rw [agendaWeight_append]
      omega
    obtain ⟨left, hleft, hrun⟩ := ih hinner hless
    refine ⟨left, ?_, ?_⟩
    · rw [agendaWeight_append] at hleft
      rw [agendaWeight_cons]
      omega
    · rw [List.cons_append, runGoals_cons (hgoals goal List.mem_cons_self), hmove]
      show (runGoals fuel handles (move.goals ++ (goals ++ later)) move.rest).cons move.event = _
      rw [← List.append_assoc, hrun]
      rfl

theorem foldr_cons {list : List Event} {events : Events} :
    list.foldr Events.cons events = ⟨list ++ events.list, events.faulty⟩ := by
  induction list with
  | nil => rfl
  | cons event list ih => rw [List.foldr_cons, ih, Events.cons, List.cons_append]

/-- With enough fuel the events of documents are found. -/
theorem Streams.runGoals_eq {first : Bool} {documents : List (List Event)} {fuel : Nat}
    (h : Streams first tokens documents)
    (hfuel : (Goal.document first).weight + 4 * tokens.length ≤ fuel) (before : Handles) :
    runGoals fuel before [.document first] tokens = ⟨joinEvents documents, false⟩ := by
  induction h generalizing fuel before with
  | @finished first tokens hmove =>
    have hpos : 1 ≤ (Goal.document first).weight := by cases first <;> simp [Goal.weight]
    obtain ⟨fuel, rfl⟩ : ∃ n, fuel = n + 1 := ⟨fuel - 1, by omega⟩
    rw [runGoals, hmove]
    rfl
  | @begins first tokens rest later goals handles events documents hmove hyields h ih =>
    obtain ⟨-, -, hcost⟩ := documentMove?_begins hmove
    obtain ⟨fuel, rfl⟩ : ∃ n, fuel = n + 1 := ⟨fuel - 1, by omega⟩
    obtain ⟨left, hleft, hrun⟩ := hyields.runGoals_eq (ne_document_of_begins hmove)
      (show _ ≤ fuel by omega)
    rw [runGoals, hmove]
    show (runGoals fuel handles (goals ++ [.document false]) rest).cons .documentStart = _
    have hless : (Goal.document false).weight + 4 * later.length ≤ left := by
      simp only [Goal.weight]
      omega
    rw [hrun, ih hless, foldr_cons]
    rfl

theorem exists_yields {goals later : List Goal} {fuel : Nat}
    (hgoals : ∀ goal ∈ goals, ∀ first, goal ≠ .document first)
    (h : (runGoals fuel handles (goals ++ later) tokens).faulty = false) :
    ∃ events after left, left ≤ fuel ∧ Yields handles goals tokens events after ∧
      (runGoals left handles later after).faulty = false := by
  induction fuel generalizing goals tokens with
  | zero => cases h
  | succ fuel ih =>
    cases goals with
    | nil => exact ⟨[], tokens, fuel + 1, Nat.le_refl _, .done, h⟩
    | cons goal goals =>
      rw [List.cons_append, runGoals_cons (hgoals goal List.mem_cons_self)] at h
      cases hmove : goal.move? handles tokens with
      | none =>
        rw [hmove] at h
        cases h
      | some move =>
        rw [hmove] at h
        have hinner : ∀ other ∈ move.goals ++ goals, ∀ first, other ≠ .document first := by
          intro other hother
          obtain hother | hother := List.mem_append.1 hother
          · exact ((Goal.move?_leaves hmove).inner other hother).ne_document
          · exact hgoals other (List.mem_cons_of_mem _ hother)
        have h : (runGoals fuel handles (move.goals ++ goals ++ later) move.rest).faulty = false := by
          rw [List.append_assoc]
          exact h
        obtain ⟨events, after, left, hleft, hyields, hlater⟩ := ih hinner h
        exact ⟨move.event :: events, after, left, Nat.le_succ_of_le hleft, .move hmove hyields, hlater⟩

/-- Where no fault is found there are documents. -/
theorem exists_streams {first : Bool} {fuel : Nat} {before : Handles}
    (h : (runGoals fuel before [.document first] tokens).faulty = false) :
    ∃ documents, Streams first tokens documents := by
  induction fuel using Nat.strongRecOn generalizing first before tokens with
  | _ fuel ih =>
    cases fuel with
    | zero => cases h
    | succ fuel =>
      rw [runGoals] at h
      cases hmove : documentMove? first tokens with
      | none =>
        rw [hmove] at h
        cases h
      | some move =>
        rw [hmove] at h
        cases move with
        | finished => exact ⟨[], .finished hmove⟩
        | begins goals handles rest =>
          have h : (runGoals fuel handles (goals ++ [.document false]) rest).faulty = false := h
          obtain ⟨events, after, left, hleft, hyields, hlater⟩ :=
            exists_yields (ne_document_of_begins hmove) h
          obtain ⟨documents, hdocuments⟩ := ih left (Nat.lt_succ_of_le hleft) hlater
          exact ⟨events :: documents, .begins hmove hyields hdocuments⟩

end Runs

/-- A text without fault is a stream of documents. -/
theorem events_eq_iff {text : String} {list : List Event} :
    events text = ⟨list, false⟩ ↔
      ∃ documents, Streams true (tokens text) documents ∧ list = joinEvents documents := by
  constructor
  · intro h
    have hfaulty : (events text).faulty = false := by rw [h]
    obtain ⟨documents, hdocuments⟩ := exists_streams hfaulty
    refine ⟨documents, hdocuments, ?_⟩
    have hevents : events text = ⟨joinEvents documents, false⟩ :=
      hdocuments.runGoals_eq (by simp only [Goal.weight]; omega) []
    exact congrArg Events.list (h.symm.trans hevents)
  · rintro ⟨documents, hdocuments, rfl⟩
    exact hdocuments.runGoals_eq (by simp only [Goal.weight]; omega) []

end StreamPlan.Yaml
