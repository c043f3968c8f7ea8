import StreamPlan.Yaml.Token

/-!
# From text to tokens

The lexer turns a YAML text into its tokens. Indentation opens and closes block collections, and a
node becomes a mapping key only when a colon follows it, so the lexer remembers for every level of
brackets the token that may still turn out to be a key: it must stand on the line of its colon and
at most 1024 bytes before it. Reading stops at the first fault; the tokens up to the first
undecided key are then all there are.
-/

namespace StreamPlan.Yaml

/-- A token that becomes a mapping key if a colon follows. -/
structure PossibleKey where
  /-- Whether nothing but a key can stand here. -/
  required : Bool
  /-- The number of tokens before it. -/
  position : Nat
  /-- Where it starts. -/
  mark : Mark

/-- The state of the lexer between two tokens. -/
structure Lexer where
  /-- What is left of the text. -/
  source : Source
  /-- The tokens so far, last first. -/
  tokens : List Token
  /-- The number of tokens so far. -/
  count : Nat
  /-- The column of the innermost block collection, or -1 outside of any. -/
  indent : Int
  /-- The columns of the block collections around it, innermost first. -/
  outer : List Int
  /-- Whether a key may start here. -/
  keyAllowed : Bool
  /-- The possible key of the current level of brackets. -/
  current : Option PossibleKey
  /-- The possible keys of the levels around it, innermost first. -/
  enclosing : List (Option PossibleKey)
  /-- Whether the end of the text was passed. -/
  ended : Bool

namespace Lexer

/-- The lexer before the first token. -/
def start (source : Source) : Lexer := ⟨source, [], 0, -1, [], true, none, [], false⟩

/-- Whether the lexer is inside brackets. -/
def flow (l : Lexer) : Bool := !l.enclosing.isEmpty

/-- The current column. -/
def column (l : Lexer) : Nat := l.source.mark.column

/-- Adds a token that starts at a place. -/
def push (l : Lexer) (kind : Token.Kind) (mark : Mark) : Lexer :=
  { l with tokens := ⟨kind, mark⟩ :: l.tokens, count := l.count + 1 }

/-- Adds the token of `width` characters that stands here. -/
def take (l : Lexer) (kind : Token.Kind) (width : Nat) : Lexer :=
  { l.push kind l.source.mark with source := l.source.forward width }

/-- Adds a token in front of the token at a position. -/
def pushAt (l : Lexer) (position : Nat) (kind : Token.Kind) (mark : Mark) : Lexer :=
  let later := l.count - position
  { l with tokens := l.tokens.take later ++ ⟨kind, mark⟩ :: l.tokens.drop later,
           count := l.count + 1 }

/-- Whether a possible key is too far back to be one. -/
def isStale (mark : Mark) (key : PossibleKey) : Bool :=
  key.mark.line < mark.line || key.mark.offset + 1024 < mark.offset

/-- Forgets a possible key that is too far back. If nothing but a key could stand there, the text is
at fault. -/
def refresh? (mark : Mark) : Option PossibleKey → Option (Option PossibleKey)
  | none => some none
  | some key => if isStale mark key then (if key.required then none else some none) else some (some key)

/-- Forgets every possible key that is too far back. -/
def refreshKeys? (l : Lexer) : Option Lexer := do
  let current ← refresh? l.source.mark l.current
  let enclosing ← l.enclosing.mapM (refresh? l.source.mark)
  some { l with current, enclosing }

/-- Gives up the possible key of the current level. -/
def dropKey? (l : Lexer) : Option Lexer :=
  match l.current with
  | some key => if key.required then none else some { l with current := none }
  | none => some l

/-- Notes that the next token may be a key. -/
def noteKey? (l : Lexer) : Option Lexer :=
  if l.keyAllowed then
    (l.dropKey?).map fun l =>
      { l with current := some ⟨!l.flow && l.indent = (l.column : Int), l.count, l.source.mark⟩ }
  else some l

/-- Opens a block collection at a column, unless one is open there or the lexer is inside brackets.
Its token goes in front of the token at `position`. -/
def openBlock (l : Lexer) (column : Nat) (position : Nat) (kind : Token.Kind) (mark : Mark) : Lexer :=
  if !l.flow && l.indent < (column : Int) then
    { l with indent := column, outer := l.indent :: l.outer }.pushAt position kind mark
  else l

/-- Closes the block collections that are deeper than a column. -/
def closeBlocks (column : Int) : List Int → Lexer → Lexer
  | [], l => l
  | next :: outer, l =>
    if column < l.indent then
      closeBlocks column outer ({ l with indent := next, outer }.push .blockEnd l.source.mark)
    else l

/-- Closes the block collections that are deeper than a column, unless the lexer is inside
brackets. -/
def closeTo (l : Lexer) (column : Int) : Lexer := if l.flow then l else closeBlocks column l.outer l

/-- Passes gaps, comments and line breaks. A tab counts as a gap where no key may start. In block
context a line break allows a key. -/
def passGaps (flow : Bool) : (comment keyAllowed : Bool) → Mark → List Char → Bool × Source
  | _, keyAllowed, mark, [] => (keyAllowed, ⟨[], mark⟩)
  | _, keyAllowed, mark, '\r' :: '\n' :: rest =>
    passGaps flow false (keyAllowed || !flow) (mark.newline 2) rest
  | comment, keyAllowed, mark, c :: rest =>
    if isBreak c then passGaps flow false (keyAllowed || !flow) (mark.newline c.utf8Size) rest
    -- A comment runs to the end of the line.
    else if comment then passGaps flow true keyAllowed (mark.step c) rest
    else if c = '#' then passGaps flow true keyAllowed (mark.step c) rest
    else if c = ' ' || (c = '\t' && (flow || !keyAllowed)) ||
        -- A byte order mark may open a line.
        (c.toNat = 0xfeff && mark.column = 0) then
      passGaps flow false keyAllowed (mark.step c) rest
    else (keyAllowed, ⟨c :: rest, mark⟩)

/-- Passes what stands before the next token. -/
def advance (l : Lexer) : Lexer :=
  let (keyAllowed, source) := passGaps l.flow false l.keyAllowed l.source.mark l.source.rest
  { l with keyAllowed, source }

/-- Ends the text: every block collection is closed. -/
def finish? (l : Lexer) : Option Lexer :=
  ((l.closeTo (-1)).dropKey?).map fun l =>
    { l.push .streamEnd l.source.mark with keyAllowed := false, ended := true }

/-- Reads a directive. -/
def fetchDirective? (l : Lexer) : Option Lexer := do
  let l ← (l.closeTo (-1)).dropKey?
  let (kind, source) ← directive? (l.source.forward 1)
  some { l.push kind l.source.mark with source, keyAllowed := false }

/-- Reads a document marker. -/
def fetchMarker? (l : Lexer) (kind : Token.Kind) : Option Lexer :=
  ((l.closeTo (-1)).dropKey?).map fun l =>
    { l.take kind 3 with keyAllowed := false }

/-- Reads an opening bracket or brace. -/
def fetchOpening? (l : Lexer) (kind : Token.Kind) : Option Lexer :=
  l.noteKey?.map fun l =>
    { l.take kind 1 with keyAllowed := true, current := none, enclosing := l.current :: l.enclosing }

/-- Reads a closing bracket or brace. -/
def fetchClosing? (l : Lexer) (kind : Token.Kind) : Option Lexer :=
  l.dropKey?.map fun l =>
    let l := { l.take kind 1 with keyAllowed := false }
    match l.enclosing with
    | [] => l
    | key :: enclosing => { l with current := key, enclosing }

/-- Reads a comma. -/
def fetchComma? (l : Lexer) : Option Lexer :=
  l.dropKey?.map fun l =>
    { l.take .flowEntry 1 with keyAllowed := true }

/-- Reads the mark of a block entry. -/
def fetchDash? (l : Lexer) : Option Lexer :=
  if !l.flow && !l.keyAllowed then none
  else
    (l.openBlock l.column l.count .blockSequence l.source.mark).dropKey?.map fun l =>
      { l.take .blockEntry 1 with keyAllowed := true }

/-- Reads the mark of an explicit key. -/
def fetchKey? (l : Lexer) : Option Lexer :=
  if !l.flow && !l.keyAllowed then none
  else
    (l.openBlock l.column l.count .blockMapping l.source.mark).dropKey?.map fun l =>
      { l.take .key 1 with keyAllowed := !l.flow }

/-- Reads a colon. A possible key of the current level becomes a key. -/
def fetchValue? (l : Lexer) : Option Lexer :=
  match l.current with
  | some key =>
    -- The key token goes in front of the node, and a mapping that opens here in front of that.
    let l := (l.pushAt key.position .key key.mark).openBlock key.mark.column key.position
      .blockMapping key.mark
    some { l.take .value 1 with current := none, keyAllowed := false }
  | none =>
    if !l.flow && !l.keyAllowed then none
    else
      let l := l.openBlock l.column l.count .blockMapping l.source.mark
      some { l.take .value 1 with keyAllowed := !l.flow }

/-- Reads a token that may be a key, with a reader for it. -/
def fetchNode? (l : Lexer) (read : Source → Option (Token.Kind × Source)) : Option Lexer := do
  let l ← l.noteKey?
  let (kind, source) ← read l.source
  some { l.push kind l.source.mark with source, keyAllowed := false }

/-- Reads an anchor or a reference. -/
def fetchName? (l : Lexer) (kind : String → Token.Kind) : Option Lexer :=
  l.fetchNode? fun source => (anchorName? (source.forward 1)).map fun (name, after) => (kind name, after)

/-- Reads a quoted scalar. -/
def fetchQuoted? (l : Lexer) (read : Folding → Mark → List Char → Option (Folding × Source)) :
    Option Lexer :=
  l.fetchNode? fun source =>
    let inside := source.forward 1
    (read .empty inside.mark inside.rest).map fun (f, after) => (.scalar f.result false, after)

/-- Reads a plain scalar. If it ends on a later line than it starts, a key may follow. -/
def fetchPlain? (l : Lexer) : Option Lexer := do
  let l ← l.noteKey?
  let (f, source) ← plainText? l.flow (l.indent + 1) .empty l.source.mark l.source.rest
  some { l.push (.scalar f.result true) l.source.mark with source, keyAllowed := f.broken }

/-- Reads a block scalar. -/
def fetchBlock? (l : Lexer) (literal : Bool) : Option Lexer := do
  let l ← l.dropKey?
  let (text, source) ← blockText? literal l.indent (l.source.forward 1)
  some { l.push (.scalar text false) l.source.mark with source, keyAllowed := true }

/-- Whether a plain scalar may start here. -/
def startsPlain (flow : Bool) : List Char → Bool
  | [] => false
  | c :: rest =>
    let ordinary := !(isGap c || isBreak c || "-?:,[]\x7b\x7d#&*!|>'\"%@`".toList.contains c)
    ordinary || (c = '-' && !atGap rest) || (!flow && (c = '?' || c = ':') && !atWordEnd rest)

/-- What a token can be, by the characters it starts with. -/
inductive Lead where
  /-- A directive. -/
  | directive
  /-- A document marker, of a start or an end. -/
  | marker (start : Bool)
  /-- An opening bracket or brace. -/
  | opening (brace : Bool)
  /-- A closing bracket or brace. -/
  | closing (brace : Bool)
  /-- A comma. -/
  | comma
  /-- The mark of a block entry. -/
  | entry
  /-- The mark of an explicit key. -/
  | key
  /-- A colon. -/
  | value
  /-- An anchor or a reference. -/
  | name (anchor : Bool)
  /-- A tag. -/
  | tag
  /-- A block scalar. -/
  | block (literal : Bool)
  /-- A scalar in single or double quotes. -/
  | quoted (double : Bool)
  /-- A plain scalar. -/
  | plain

/-- What starts here. Directives and markers count only at the start of a line. -/
def lead? (flow lineStart : Bool) : List Char → Option Lead
  | [] => none
  | c :: rest =>
    if lineStart && c = '%' then some .directive
    else if lineStart && atDocumentMarker (c :: rest) then some (.marker (c = '-'))
    else if c = '[' then some (.opening false)
    else if c = '\x7b' then some (.opening true)
    else if c = ']' then some (.closing false)
    else if c = '\x7d' then some (.closing true)
    else if c = ',' then some .comma
    else if c = '-' && atWordEnd rest then some .entry
    -- Inside brackets `?` and `:` need no gap after them.
    else if c = '?' && (flow || atWordEnd rest) then some .key
    else if c = ':' && (flow || atWordEnd rest) then some .value
    else if c = '*' then some (.name false)
    else if c = '&' then some (.name true)
    else if c = '!' then some .tag
    else if c = '|' && !flow then some (.block true)
    else if c = '>' && !flow then some (.block false)
    else if c = '\'' then some (.quoted false)
    else if c = '"' then some (.quoted true)
    else if startsPlain flow (c :: rest) then some .plain
    else none

/-- Reads a token of a certain sort. -/
def fetchLead? (l : Lexer) : Lead → Option Lexer
  | .directive => l.fetchDirective?
  | .marker start => l.fetchMarker? (if start then .documentStart else .documentEnd)
  | .opening brace => l.fetchOpening? (if brace then .flowMapping else .flowSequence)
  | .closing brace => l.fetchClosing? (if brace then .flowMappingEnd else .flowSequenceEnd)
  | .comma => l.fetchComma?
  | .entry => l.fetchDash?
  | .key => l.fetchKey?
  | .value => l.fetchValue?
  | .name anchor => l.fetchName? (if anchor then .anchor else .alias)
  | .tag => l.fetchNode? (tagToken? l.flow)
  | .block literal => l.fetchBlock? literal
  | .quoted double => l.fetchQuoted? (if double then doubleQuoted? else singleQuoted?)
  | .plain => l.fetchPlain?

/-- Reads one token, after the gaps before it are passed. -/
def fetchHere? (l : Lexer) : Option Lexer :=
  if l.source.rest.isEmpty then l.finish?
  else (lead? l.flow (l.column = 0) l.source.rest).bind l.fetchLead?

/-- Moves to the next token. Possible keys that are too far back by now are forgotten, and the block
collections that are deeper than the token are closed. -/
def ready? (l : Lexer) : Option Lexer := l.advance.refreshKeys?.map fun l => l.closeTo l.column

/-- Reads the next token. -/
def fetch? (l : Lexer) : Option Lexer := l.ready?.bind fetchHere?

/-- The position of the first token that is not known to be a key or not. -/
def undecided? (l : Lexer) : Option Nat :=
  let open? (key : Option PossibleKey) : Option Nat :=
    key.bind fun key =>
      if isStale l.source.mark key && !key.required then none else some key.position
  ((l.current :: l.enclosing).filterMap open?).min?

/-- The tokens that are settled, in order. -/
def settled (l : Lexer) : List Token :=
  match l.undecided? with
  | some position => l.tokens.reverse.take position
  | none => l.tokens.reverse

/-- Reads tokens up to the end or to the first fault. -/
def run : Nat → Lexer → List Token
  | 0, l => l.settled
  | fuel + 1, l =>
    match l.fetch? with
    | none => l.settled
    | some next => if next.ended then next.tokens.reverse else run fuel next

end Lexer

/-- The tokens of a text. They end with the end of the text, unless the text is at fault: then they
end before the fault. A text with a character that may not occur has no tokens. -/
def tokens (text : String) : List Token :=
  let source := Source.ofString text
  if source.rest.all isAllowed then (Lexer.start source).run (source.rest.length + 2) else []

end StreamPlan.Yaml
