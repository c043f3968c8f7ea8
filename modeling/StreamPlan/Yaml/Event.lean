import StreamPlan.Yaml.Token.Lexer

/-!
# YAML events

The events of a text list its nodes in document order: scalars, references, and the start and end of
each collection. The grammar is an agenda of goals. A goal looks at the tokens, may take some of
them, gives an event, and puts the goals that remain on the agenda.
-/

namespace StreamPlan.Yaml

/-- What a node carries besides its content. -/
structure Properties where
  /-- The name by which the node can be referred to. -/
  anchor : Option String
  /-- The tag of the node, its handle resolved. -/
  tag : Option TagText
  deriving DecidableEq

/-- No anchor and no tag. -/
def Properties.none : Properties := ⟨.none, .none⟩

/-- One step through the nodes of a text. -/
inductive Event where
  /-- A document begins. -/
  | documentStart
  /-- A document ends. -/
  | documentEnd
  /-- A reference to an anchored node. -/
  | alias (name : String)
  /-- A scalar, plain or not; the mark is where its node starts. -/
  | scalar (properties : Properties) (mark : Mark) (text : String) (plain : Bool)
  /-- A sequence begins. -/
  | sequenceStart (properties : Properties)
  /-- A sequence ends. -/
  | sequenceEnd
  /-- A mapping begins; the mark is where its node starts. -/
  | mappingStart (properties : Properties) (mark : Mark)
  /-- A mapping ends. -/
  | mappingEnd

/-- The scalar that stands where a node is left out. It is never at fault, so its place does not
matter. -/
def Event.empty : Event := .scalar .none .start "" true

/-- What the grammar expects next. -/
inductive Goal where
  /-- A document or the end of the text. Only the first document may start without a marker. -/
  | document (first : Bool)
  /-- The content of a document after its marker. -/
  | content
  /-- The end of a document. -/
  | documentEnd
  /-- A node. Block collections are only read in block context; `entries` says whether a sequence may
  start at the indentation of the mapping around it. -/
  | node (block entries : Bool)
  /-- The entries of a block sequence. -/
  | blockEntries
  /-- The entries of a sequence at the indentation of the mapping around it. -/
  | looseEntries
  /-- The keys of a block mapping. -/
  | blockKey
  /-- The value of a block mapping's key. -/
  | blockValue
  /-- The entries of a bracketed sequence. -/
  | flowEntries (first : Bool)
  /-- The key of a single pair in a bracketed sequence. -/
  | pairKey
  /-- The value of such a pair. -/
  | pairValue
  /-- The end of such a pair. -/
  | pairEnd
  /-- The keys of a braced mapping. -/
  | flowKey (first : Bool)
  /-- The value of a braced mapping's key. -/
  | flowValue
  /-- The missing value of a key without a colon. -/
  | flowNoValue

/-- The tag handles that are in force and what they abbreviate. -/
abbrev Handles := List (String × TagText)

/-- The outcome of one goal. -/
structure Move where
  /-- The event it gives. -/
  event : Event
  /-- The goals it leaves. -/
  goals : List Goal
  /-- The tokens it leaves. -/
  rest : List Token

/-- The outcome with one more goal. -/
def Move.andThen (move : Move) (goal : Goal) : Move := { move with goals := move.goals ++ [goal] }

/-- The handles of a document without directives. -/
def Handles.standard : Handles :=
  [("!", .ofString "!"), ("!!", .ofString "tag:yaml.org,2002:")]

/-- Reads directives: at most one version, which must be 1.1 or 1.2, and each handle at most once. -/
def directives? : (version : Bool) → Handles → List Token → Option (Handles × List Token)
  | _, _, [] => none
  | version, handles, token :: rest =>
    match token.kind with
    | .version major minor =>
      if version || major != 1 || (minor != 1 && minor != 2) then none
      else directives? true handles rest
    | .tagLine handle lead =>
      if handles.any (·.1 = handle) then none
      else directives? version (handles ++ [(handle, lead)]) rest
    | _ => some (handles ++ Handles.standard, token :: rest)

/-- The full tag for a handle and a suffix, if the handle is known. -/
def Handles.resolve? (handles : Handles) (handle : String) (suffix : TagText) : Option TagText :=
  if handle = "" then some suffix
  else (handles.find? (·.1 = handle)).map fun (_, lead) => lead ++ suffix

/-- Reads the anchor and the tag of a node, in either order. -/
def properties? (handles : Handles) (tokens : List Token) : Option (Properties × List Token) :=
  match tokens with
  | ⟨.anchor name, _⟩ :: ⟨.tag handle suffix, _⟩ :: rest =>
    (handles.resolve? handle suffix).map fun tag => (⟨some name, some tag⟩, rest)
  | ⟨.anchor name, _⟩ :: rest => some (⟨some name, none⟩, rest)
  | ⟨.tag handle suffix, _⟩ :: ⟨.anchor name, _⟩ :: rest =>
    (handles.resolve? handle suffix).map fun tag => (⟨some name, some tag⟩, rest)
  | ⟨.tag handle suffix, _⟩ :: rest =>
    (handles.resolve? handle suffix).map fun tag => (⟨none, some tag⟩, rest)
  | _ => some (.none, tokens)

/-- The outcome of a goal for a node after its properties; the mark is where the node starts. A node that
has properties only is an empty scalar. -/
def contentMove? (properties : Properties) (mark : Mark) (block entries : Bool) :
    List Token → Option Move
  | [] => none
  | token :: rest =>
    match token.kind with
    | .scalar text plain => some ⟨.scalar properties mark text plain, [], rest⟩
    | .flowSequence => some ⟨.sequenceStart properties, [.flowEntries true], rest⟩
    | .flowMapping => some ⟨.mappingStart properties mark, [.flowKey true], rest⟩
    | kind =>
      -- The entry mark stays: the entries of a loose sequence begin with it.
      if entries && kind = .blockEntry then
        some ⟨.sequenceStart properties, [.looseEntries], token :: rest⟩
      else if block && kind = .blockSequence then
        some ⟨.sequenceStart properties, [.blockEntries], rest⟩
      else if block && kind = .blockMapping then
        some ⟨.mappingStart properties mark, [.blockKey], rest⟩
      else if properties != .none then some ⟨.scalar properties mark "" true, [], token :: rest⟩
      else none

/-- The outcome of a goal for a node. -/
def nodeMove? (handles : Handles) (block entries : Bool) (tokens : List Token) : Option Move :=
  match tokens with
  | [] => none
  | ⟨.alias name, _⟩ :: rest => some ⟨.alias name, [], rest⟩
  | first :: _ =>
    (properties? handles tokens).bind fun (properties, tokens) =>
      contentMove? properties first.mark block entries tokens

/-- The outcome of a goal for a node that may be left out: it is, if the next token is among
`enders`. -/
def optionalNode? (handles : Handles) (block entries : Bool) (enders : List Token.Kind) (next : Goal)
    (tokens : List Token) : Option Move :=
  match tokens with
  | [] => none
  | token :: _ =>
    if enders.contains token.kind then some ⟨.empty, [next], tokens⟩
    else (nodeMove? handles block entries tokens).map (·.andThen next)

/-- The outcome of a goal for an entry of a bracketed sequence, after the comma before it. -/
def flowEntryMove? (handles : Handles) : List Token → Option Move
  | [] => none
  | token :: rest =>
    match token.kind with
    | .key => some ⟨.mappingStart .none token.mark, [.pairKey, .flowEntries false], rest⟩
    -- A comma may stand before the closing bracket.
    | .flowSequenceEnd => some ⟨.sequenceEnd, [], rest⟩
    | _ => (nodeMove? handles false false (token :: rest)).map (·.andThen (.flowEntries false))

/-- The outcome of a goal for a key of a braced mapping, after the comma before it. -/
def flowKeyMove? (handles : Handles) : List Token → Option Move
  | [] => none
  | token :: rest =>
    match token.kind with
    | .key => optionalNode? handles false false [.value, .flowEntry, .flowMappingEnd] .flowValue rest
    | .flowMappingEnd => some ⟨.mappingEnd, [], rest⟩
    | _ => (nodeMove? handles false false (token :: rest)).map (·.andThen .flowNoValue)

/-- The outcome of a goal other than one for a document. -/
def Goal.move? (handles : Handles) (goal : Goal) (tokens : List Token) : Option Move :=
  match goal, tokens with
  | _, [] => none
  | .document _, _ => none
  | .content, token :: rest =>
    match token.kind with
    | .version .. | .tagLine .. | .documentStart | .documentEnd | .streamEnd =>
      some ⟨.empty, [], token :: rest⟩
    | _ => nodeMove? handles true false (token :: rest)
  | .documentEnd, token :: rest =>
    if token.kind = .documentEnd then some ⟨.documentEnd, [], rest⟩
    else some ⟨.documentEnd, [], token :: rest⟩
  | .node block entries, tokens => nodeMove? handles block entries tokens
  | .blockEntries, token :: rest =>
    match token.kind with
    | .blockEntry =>
      optionalNode? handles true false [.blockEntry, .blockEnd] .blockEntries rest
    | .blockEnd => some ⟨.sequenceEnd, [], rest⟩
    | _ => none
  | .looseEntries, token :: rest =>
    match token.kind with
    | .blockEntry =>
      optionalNode? handles true false [.blockEntry, .key, .value, .blockEnd] .looseEntries rest
    | _ => some ⟨.sequenceEnd, [], token :: rest⟩
  | .blockKey, token :: rest =>
    match token.kind with
    | .key => optionalNode? handles true true [.key, .value, .blockEnd] .blockValue rest
    | .blockEnd => some ⟨.mappingEnd, [], rest⟩
    | _ => none
  | .blockValue, token :: rest =>
    match token.kind with
    | .value => optionalNode? handles true true [.key, .value, .blockEnd] .blockKey rest
    | _ => some ⟨.empty, [.blockKey], token :: rest⟩
  | .flowEntries first, token :: rest =>
    if token.kind = .flowSequenceEnd then some ⟨.sequenceEnd, [], rest⟩
    else if first then flowEntryMove? handles (token :: rest)
    else if token.kind = .flowEntry then flowEntryMove? handles rest
    else none
  | .pairKey, token :: rest =>
    match token.kind with
    -- The token after a key that is left out is taken with it.
    | .value | .flowEntry | .flowSequenceEnd => some ⟨.empty, [.pairValue], rest⟩
    | _ => (nodeMove? handles false false (token :: rest)).map (·.andThen .pairValue)
  | .pairValue, token :: rest =>
    match token.kind with
    | .value => optionalNode? handles false false [.flowEntry, .flowSequenceEnd] .pairEnd rest
    | _ => some ⟨.empty, [.pairEnd], token :: rest⟩
  | .pairEnd, tokens => some ⟨.mappingEnd, [], tokens⟩
  | .flowKey first, token :: rest =>
    if token.kind = .flowMappingEnd then some ⟨.mappingEnd, [], rest⟩
    else if first then flowKeyMove? handles (token :: rest)
    else if token.kind = .flowEntry then flowKeyMove? handles rest
    else none
  | .flowValue, token :: rest =>
    match token.kind with
    | .value => optionalNode? handles false false [.flowEntry, .flowMappingEnd] (.flowKey false) rest
    | _ => some ⟨.empty, [.flowKey false], token :: rest⟩
  | .flowNoValue, tokens => some ⟨.empty, [.flowKey false], tokens⟩

/-- The tokens after the document end markers that may stand before a document. -/
def skipEndMarkers (tokens : List Token) : List Token :=
  tokens.dropWhile fun token => token.kind = .documentEnd

/-- What comes of a goal for a document: the end of the text, or the goals, handles and tokens of one
more document. -/
inductive DocumentMove where
  /-- There is no further document. -/
  | finished
  /-- A document begins. -/
  | begins (goals : List Goal) (handles : Handles) (rest : List Token)

/-- A document that starts with its marker, after its directives. -/
def explicitDocument? (tokens : List Token) : Option DocumentMove :=
  (directives? false [] tokens).bind fun (handles, tokens) =>
    match tokens with
    | ⟨.documentStart, _⟩ :: rest => some (.begins [.content, .documentEnd] handles rest)
    | _ => none

/-- The outcome of a goal for a document, after the end markers before it. -/
def documentHere? (first : Bool) : List Token → Option DocumentMove
  | [] => none
  | token :: rest =>
    match token.kind with
    -- No further document, not even a blank one.
    | .streamEnd => some .finished
    | .version .. | .tagLine .. | .documentStart => explicitDocument? (token :: rest)
    | _ =>
      if first then
        some (.begins [.node true false, .documentEnd] Handles.standard (token :: rest))
      else none

/-- The outcome of a goal for a document. Before the first no end marker may stand. -/
def documentMove? (first : Bool) (tokens : List Token) : Option DocumentMove :=
  documentHere? first (if first then tokens else skipEndMarkers tokens)

/-- The events of a text, in order. -/
structure Events where
  /-- The events up to the end of the text or the first fault. -/
  list : List Event
  /-- Whether the text is at fault after them. -/
  faulty : Bool

/-- Puts an event in front. -/
def Events.cons (event : Event) (events : Events) : Events :=
  { events with list := event :: events.list }

/-- Works through an agenda of goals. -/
def runGoals : Nat → Handles → List Goal → List Token → Events
  | 0, _, _, _ => ⟨[], true⟩
  | _ + 1, _, [], _ => ⟨[], false⟩
  | fuel + 1, handles, goal :: goals, tokens =>
    match goal with
    | .document first =>
      match documentMove? first tokens with
      | none => ⟨[], true⟩
      | some .finished => ⟨[], false⟩
      | some (.begins begun handles rest) =>
        (runGoals fuel handles (begun ++ .document false :: goals) rest).cons .documentStart
    | goal =>
      match goal.move? handles tokens with
      | none => ⟨[], true⟩
      | some move => (runGoals fuel handles (move.goals ++ goals) move.rest).cons move.event

/-- The events of a text. No token takes part in more than a few moves. -/
def events (text : String) : Events :=
  let tokens := tokens text
  runGoals (4 * tokens.length + 8) [] [.document true] tokens

end StreamPlan.Yaml
