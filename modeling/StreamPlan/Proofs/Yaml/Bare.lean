import StreamPlan.Yaml.Event

/-!
# Tokens told again

The grammar looks at what tokens say and not at where they stand. Inside a document it does not look at
the texts of scalars either, and the end of the text is the same to it as the start of another document.
So tokens can be told again without places, without texts, or with other tokens in the place of the end
(`Retelling`), and the grammar moves in the same way.

* `Retelling.move?_tokens`: every goal has the outcome on the tokens told again that it had before, told
  again.
* `Retelling.directives?_tokens`, `Retelling.skipEndMarkers_tokens`: so have the steps between documents.
-/

namespace StreamPlan.Yaml

/-- What a token says. Unless `texts` holds, the text of a scalar that is not plain does not count. -/
def Token.Kind.bare (texts : Bool) : Token.Kind → Token.Kind
  | .scalar text plain => .scalar (if texts || plain then text else "") plain
  | kind => kind

/-- A token without its place. -/
def Token.bare (texts : Bool) (token : Token) : Token := ⟨token.kind.bare texts, .start⟩

/-- An event without its place. -/
def Event.bare (texts : Bool) : Event → Event
  | .scalar properties _ text plain =>
    .scalar properties .start (if texts || plain then text else "") plain
  | .mappingStart properties _ => .mappingStart properties .start
  | event => event

/-! ## Another end -/

/-- A way to tell tokens again: without their places, perhaps without texts, and with what follows in
the place of the end of the text. -/
structure Retelling where
  /-- Whether texts count. -/
  texts : Bool
  /-- Whether the start of a document takes the place of the end of the text. -/
  starts : Bool
  /-- The tokens after that. -/
  later : List Token

namespace Retelling

variable (r : Retelling)

/-- What takes the place of the end of the text. -/
def ending : List Token := ⟨if r.starts then .documentStart else .streamEnd, .start⟩ :: r.later

/-- The tokens told again. -/
def tokens : List Token → List Token
  | [] => []
  | token :: rest => if token.kind = .streamEnd then r.ending else token.bare r.texts :: tokens rest

/-- The outcome of a goal told again. -/
def move (move : Move) : Move := ⟨move.event.bare r.texts, move.goals, r.tokens move.rest⟩

variable {r} {handles : Handles} {block entries : Bool} {mark : Mark}

theorem tokens_streamEnd {rest : List Token} : r.tokens (⟨.streamEnd, mark⟩ :: rest) = r.ending := by
  simp [Retelling.tokens]

theorem tokens_cons {token : Token} {rest : List Token} (h : token.kind ≠ .streamEnd) :
    r.tokens (token :: rest) = token.bare r.texts :: r.tokens rest := by
  simp [Retelling.tokens, h]

theorem properties?_tokens {tokens : List Token} :
    properties? handles (r.tokens tokens) =
      (properties? handles tokens).map fun (properties, rest) => (properties, r.tokens rest) := by
  rcases tokens with _ | ⟨⟨kind, place⟩, rest⟩
  · rfl
  · cases kind with
    | anchor name =>
      rcases rest with _ | ⟨⟨kind, place⟩, rest⟩
      · rfl
      · cases kind
        case streamEnd =>
          cases hstarts : r.starts <;>
            simp [properties?, Retelling.tokens, Token.bare, Token.Kind.bare, ending, hstarts]
        all_goals simp [properties?, Retelling.tokens, Token.bare, Token.Kind.bare, Function.comp_def]
    | tag handle suffix =>
      rcases rest with _ | ⟨⟨kind, place⟩, rest⟩
      · simp [properties?, Retelling.tokens, Token.bare, Token.Kind.bare, Function.comp_def]
      · cases kind
        case streamEnd =>
          cases hstarts : r.starts <;>
            simp [properties?, Retelling.tokens, Token.bare, Token.Kind.bare, ending, hstarts,
              Function.comp_def]
        all_goals simp [properties?, Retelling.tokens, Token.bare, Token.Kind.bare, Function.comp_def]
    | streamEnd =>
      cases hstarts : r.starts <;> simp [properties?, Retelling.tokens, ending, hstarts]
    | _ => simp [properties?, Retelling.tokens, Token.bare, Token.Kind.bare]

theorem contentMove?_tokens {properties : Properties} {tokens : List Token} :
    contentMove? properties .start block entries (r.tokens tokens) =
      (contentMove? properties mark block entries tokens).map r.move := by
  rcases tokens with _ | ⟨⟨kind, place⟩, rest⟩
  · rfl
  · cases kind
    case streamEnd =>
      cases hstarts : r.starts <;>
        simp [contentMove?, Retelling.tokens, ending, hstarts, apply_ite (Option.map r.move),
          Retelling.move, Event.bare]
    all_goals
      simp [contentMove?, Retelling.tokens, Token.bare, Token.Kind.bare, apply_ite (Option.map r.move),
        Retelling.move, Event.bare]

theorem nodeMove?_tokens {tokens : List Token} :
    nodeMove? handles block entries (r.tokens tokens) =
      (nodeMove? handles block entries tokens).map r.move := by
  rcases tokens with _ | ⟨⟨kind, place⟩, rest⟩
  · rfl
  · have hbind :
        ((properties? handles (r.tokens (⟨kind, place⟩ :: rest))).bind fun (properties, tokens) =>
        contentMove? properties .start block entries tokens) =
        ((properties? handles (⟨kind, place⟩ :: rest)).bind fun (properties, tokens) =>
          contentMove? properties place block entries tokens).map r.move := by
      rw [properties?_tokens]
      cases properties? handles (⟨kind, place⟩ :: rest) with
      | none => rfl
      | some result => exact contentMove?_tokens
    cases kind
    case «alias» name => simp [nodeMove?, Retelling.tokens, Token.bare, Token.Kind.bare,
      Retelling.move, Event.bare]
    case streamEnd =>
      rw [tokens_streamEnd, ending] at hbind ⊢
      cases hstarts : r.starts <;> rw [hstarts] at hbind <;> exact hbind
    all_goals
      rw [tokens_cons (by simp)] at hbind ⊢
      exact hbind

theorem move_empty {goals : List Goal} {rest : List Token} :
    r.move ⟨.empty, goals, rest⟩ = ⟨.empty, goals, r.tokens rest⟩ := by
  simp [Retelling.move, Event.empty, Event.bare]

theorem map_nodeMove?_tokens {tokens : List Token} {goal : Goal} :
    (nodeMove? handles block entries (r.tokens tokens)).map (·.andThen goal) =
      ((nodeMove? handles block entries tokens).map (·.andThen goal)).map r.move := by
  rw [nodeMove?_tokens]
  cases nodeMove? handles block entries tokens <;> rfl

/-- A kind that can tell that a node is left out: neither a scalar nor the end of a text. -/
def Ender (kind : Token.Kind) : Prop :=
  kind ≠ .streamEnd ∧ kind ≠ .documentStart ∧ ∀ text plain, kind ≠ .scalar text plain

theorem contains_bare {enders : List Token.Kind} {kind : Token.Kind} {texts : Bool}
    (h : ∀ kind ∈ enders, Ender kind) : enders.contains (kind.bare texts) = enders.contains kind := by
  have hscalar (text : String) (plain : Bool) : enders.contains (.scalar text plain) = false := by
    rw [Bool.eq_false_iff, ne_eq, List.contains_iff_mem]
    exact fun hmem => (h _ hmem).2.2 text plain rfl
  cases kind with
  | scalar text plain => rw [Token.Kind.bare, hscalar, hscalar]
  | _ => rfl

theorem optionalNode?_tokens {enders : List Token.Kind} {next : Goal} {tokens : List Token}
    (henders : ∀ kind ∈ enders, Ender kind) :
    optionalNode? handles block entries enders next (r.tokens tokens) =
      (optionalNode? handles block entries enders next tokens).map r.move := by
  rcases tokens with _ | ⟨token, rest⟩
  · rfl
  · have hnode : ((nodeMove? handles block entries (r.tokens (token :: rest))).map (·.andThen next)) =
        ((nodeMove? handles block entries (token :: rest)).map (·.andThen next)).map r.move :=
      map_nodeMove?_tokens
    by_cases hkind : token.kind = .streamEnd
    · -- Neither the end nor what takes its place tells that the node is left out.
      have hend : enders.contains token.kind = false := by
        rw [Bool.eq_false_iff, ne_eq, List.contains_iff_mem]
        exact fun hmem => (henders _ hmem).1 hkind
      have hending : enders.contains (if r.starts then .documentStart else .streamEnd) = false := by
        rw [Bool.eq_false_iff, ne_eq, List.contains_iff_mem]
        intro hmem
        cases hstarts : r.starts <;> rw [hstarts] at hmem
        · exact (henders _ hmem).1 rfl
        · exact (henders _ hmem).2.1 rfl
      rw [Retelling.tokens, if_pos hkind, ending] at hnode ⊢
      rw [optionalNode?, optionalNode?, hend, hending]
      exact hnode
    · rw [tokens_cons hkind] at hnode ⊢
      rw [optionalNode?, optionalNode?, Token.bare, contains_bare henders]
      split
      · rw [Option.map_some, move_empty, tokens_cons hkind]
        rfl
      · exact hnode

theorem flowEntryMove?_tokens {tokens : List Token} :
    flowEntryMove? handles (r.tokens tokens) = (flowEntryMove? handles tokens).map r.move := by
  rcases tokens with _ | ⟨⟨kind, place⟩, rest⟩
  · rfl
  · have hnode : ((nodeMove? handles false false (r.tokens (⟨kind, place⟩ :: rest))).map
        (·.andThen (.flowEntries false))) =
        ((nodeMove? handles false false (⟨kind, place⟩ :: rest)).map
          (·.andThen (.flowEntries false))).map
          r.move :=
      map_nodeMove?_tokens
    cases kind
    case streamEnd =>
      rw [tokens_streamEnd, ending] at hnode ⊢
      cases hstarts : r.starts <;> rw [hstarts] at hnode <;> exact hnode
    case key => rfl
    case flowSequenceEnd => rfl
    all_goals
      rw [tokens_cons (by simp)] at hnode ⊢
      exact hnode

theorem flowKeyMove?_tokens {tokens : List Token} :
    flowKeyMove? handles (r.tokens tokens) = (flowKeyMove? handles tokens).map r.move := by
  rcases tokens with _ | ⟨⟨kind, place⟩, rest⟩
  · rfl
  · have hnode : ((nodeMove? handles false false (r.tokens (⟨kind, place⟩ :: rest))).map
        (·.andThen .flowNoValue)) =
        ((nodeMove? handles false false (⟨kind, place⟩ :: rest)).map (·.andThen .flowNoValue)).map
          r.move :=
      map_nodeMove?_tokens
    cases kind
    case streamEnd =>
      rw [tokens_streamEnd, ending] at hnode ⊢
      cases hstarts : r.starts <;> rw [hstarts] at hnode <;> exact hnode
    case key => exact optionalNode?_tokens (by simp [Ender])
    case flowMappingEnd => rfl
    all_goals
      rw [tokens_cons (by simp)] at hnode ⊢
      exact hnode

/-- Every goal moves in the same way. -/
theorem move?_tokens {goal : Goal} {tokens : List Token} :
    goal.move? handles (r.tokens tokens) = (goal.move? handles tokens).map r.move := by
  rcases tokens with _ | ⟨⟨kind, place⟩, rest⟩
  · cases goal <;> rfl
  · have hempty (goals : List Goal) : some ⟨.empty, goals, r.tokens (⟨kind, place⟩ :: rest)⟩ =
        some (r.move ⟨.empty, goals, ⟨kind, place⟩ :: rest⟩) := congrArg some move_empty.symm
    -- In each case the end of the text comes first: the goal must not tell it from the start of a
    -- document.
    cases goal
    case document | documentEnd | pairEnd =>
      cases kind
      case streamEnd => obtain ⟨texts, _ | _, later⟩ := r <;> rfl
      all_goals rfl
    case content =>
      have hnode : nodeMove? handles true false (r.tokens (⟨kind, place⟩ :: rest)) =
          (nodeMove? handles true false (⟨kind, place⟩ :: rest)).map r.move := nodeMove?_tokens
      cases kind
      case streamEnd =>
        obtain ⟨texts, _ | _, later⟩ := r <;> exact hempty _
      case version | tagLine | documentStart | documentEnd => exact hempty _
      all_goals exact hnode
    case node block entries =>
      have hnode : nodeMove? handles block entries (r.tokens (⟨kind, place⟩ :: rest)) =
          (nodeMove? handles block entries (⟨kind, place⟩ :: rest)).map r.move := nodeMove?_tokens
      cases kind
      case streamEnd => obtain ⟨texts, _ | _, later⟩ := r <;> exact hnode
      all_goals exact hnode
    case blockEntries | looseEntries =>
      cases kind
      case streamEnd => obtain ⟨texts, _ | _, later⟩ := r <;> rfl
      case blockEntry => exact optionalNode?_tokens (by simp [Ender])
      all_goals rfl
    case blockKey =>
      cases kind
      case streamEnd => obtain ⟨texts, _ | _, later⟩ := r <;> rfl
      case key => exact optionalNode?_tokens (by simp [Ender])
      all_goals rfl
    -- A value that is left out is an empty scalar, before all tokens but a colon.
    case blockValue | pairValue | flowValue =>
      cases kind
      case streamEnd => obtain ⟨texts, _ | _, later⟩ := r <;> exact hempty _
      case value => exact optionalNode?_tokens (by simp [Ender])
      all_goals exact hempty _
    case flowNoValue =>
      cases kind
      case streamEnd => obtain ⟨texts, _ | _, later⟩ := r <;> exact hempty _
      all_goals exact hempty _
    case flowEntries first =>
      cases first with
      | true =>
        have hentry : flowEntryMove? handles (r.tokens (⟨kind, place⟩ :: rest)) =
          (flowEntryMove? handles (⟨kind, place⟩ :: rest)).map r.move := flowEntryMove?_tokens
        cases kind
        case streamEnd => obtain ⟨texts, _ | _, later⟩ := r <;> exact hentry
        case flowSequenceEnd => rfl
        all_goals exact hentry
      | false =>
        cases kind
        case streamEnd => obtain ⟨texts, _ | _, later⟩ := r <;> rfl
        case flowEntry => exact flowEntryMove?_tokens
        all_goals rfl
    case flowKey first =>
      cases first with
      | true =>
        have hkey : flowKeyMove? handles (r.tokens (⟨kind, place⟩ :: rest)) =
          (flowKeyMove? handles (⟨kind, place⟩ :: rest)).map r.move := flowKeyMove?_tokens
        cases kind
        case streamEnd => obtain ⟨texts, _ | _, later⟩ := r <;> exact hkey
        case flowMappingEnd => rfl
        all_goals exact hkey
      | false =>
        cases kind
        case streamEnd => obtain ⟨texts, _ | _, later⟩ := r <;> rfl
        case flowEntry => exact flowKeyMove?_tokens
        all_goals rfl
    case pairKey =>
      have hnode : (nodeMove? handles false false (r.tokens (⟨kind, place⟩ :: rest))).map
          (·.andThen .pairValue) =
        ((nodeMove? handles false false (⟨kind, place⟩ :: rest)).map
          (·.andThen .pairValue)).map r.move :=
        map_nodeMove?_tokens
      -- Here the token goes with the key that is left out, so only what follows it is told again.
      have htaken : some ⟨.empty, [.pairValue], r.tokens rest⟩ =
          some (r.move ⟨.empty, [.pairValue], rest⟩) :=
        congrArg some move_empty.symm
      cases kind
      case streamEnd => obtain ⟨texts, _ | _, later⟩ := r <;> exact hnode
      case value | flowEntry | flowSequenceEnd => exact htaken
      all_goals exact hnode

/-! ## Documents -/

theorem directives?_tokens {version : Bool} {before : Handles} {tokens : List Token} :
    directives? version before (r.tokens tokens) =
      (directives? version before tokens).map fun (handles, rest) => (handles, r.tokens rest) := by
  induction tokens generalizing version before with
  | nil => rfl
  | cons token rest ih =>
    obtain ⟨kind, place⟩ := token
    cases kind
    case version major minor =>
      show (if _ then _ else directives? true before (r.tokens rest)) =
        Option.map _ (if _ then _ else _)
      rw [ih, apply_ite (Option.map _)]
      rfl
    case tagLine handle lead =>
      show (if _ then _ else directives? version (before ++ [(handle, lead)]) (r.tokens rest)) =
        Option.map _ (if _ then _ else _)
      rw [ih, apply_ite (Option.map _)]
      rfl
    case streamEnd => obtain ⟨texts, _ | _, later⟩ := r <;> rfl
    all_goals rfl

theorem skipEndMarkers_tokens {tokens : List Token} :
    skipEndMarkers (r.tokens tokens) = r.tokens (skipEndMarkers tokens) := by
  induction tokens with
  | nil => rfl
  | cons token rest ih =>
    obtain ⟨kind, place⟩ := token
    cases kind
    case documentEnd => exact ih
    case streamEnd => obtain ⟨texts, _ | _, later⟩ := r <;> rfl
    all_goals rfl

end Retelling

end StreamPlan.Yaml
