import StreamPlan.Yaml.Source

/-!
# Block scalars

A block scalar is a run of lines that are indented deeper than what surrounds them. The header says
whether lines are kept (`|`) or folded (`>`), how the final line breaks are treated, and optionally
how deep the lines are indented; otherwise the first line with text decides.
-/

namespace StreamPlan.Yaml

/-- What becomes of the line breaks at the end of a block scalar. -/
inductive Chomping where
  /-- All are dropped. -/
  | strip
  /-- The first is kept. -/
  | clip
  /-- All are kept. -/
  | keep
  deriving DecidableEq

/-- The first line of a block scalar. -/
structure BlockHeader where
  /-- The treatment of final line breaks. -/
  chomping : Chomping
  /-- The indentation beyond the surrounding one, or zero if the lines decide. -/
  increment : Nat

/-- The chomping that a mark asks for. -/
def Chomping.ofMark? (c : Char) : Option Chomping :=
  if c = '+' then some .keep else if c = '-' then some .strip else none

/-- The indentation that a digit asks for. Zero is refused. -/
def incrementOf? (c : Char) : Option Nat :=
  if c = '0' then none else some (c.toNat - '0'.toNat)

/-- Reads the marks of a header: a chomping mark and a digit, either of them optional, in either
order. -/
def blockMarks? (source : Source) : Option (BlockHeader × Source) :=
  match source.rest with
  | [] => some (⟨.clip, 0⟩, source)
  | c :: rest =>
    match Chomping.ofMark? c with
    | some chomping =>
      match rest.head?.filter Char.isDigit with
      | some d => (incrementOf? d).map fun increment => (⟨chomping, increment⟩, source.forward 2)
      | none => some (⟨chomping, 0⟩, source.forward 1)
    | none =>
      if c.isDigit then
        (incrementOf? c).map fun increment =>
          match rest.head?.bind Chomping.ofMark? with
          | some chomping => (⟨chomping, increment⟩, source.forward 2)
          | none => (⟨.clip, increment⟩, source.forward 1)
      else some (⟨.clip, 0⟩, source)

/-- The source after the gaps and the comment that may end a line. -/
def Source.skipComment (source : Source) : Source :=
  let source := source.skipWhile isGap
  if source.rest.head? = some '#' then source.skipWhile fun c => !isBreak c else source

/-- The source from the next line on, if nothing but gaps and a comment is left on this line. -/
def Source.nextLine? (source : Source) : Option Source :=
  let source := source.skipComment
  if atLineEnd source.rest then some source.skipBreak else none

/-- Reads a header up to the line that follows it. -/
def blockHeader? (source : Source) : Option (BlockHeader × Source) :=
  (blockMarks? source).bind fun (header, source) => source.nextLine?.map fun source => (header, source)

/-- The indentation and the empty lines before a line with text. -/
structure BlockGap where
  /-- The line breaks passed, in reverse. -/
  breaks : List Char
  /-- The deepest indentation passed. -/
  deepest : Nat
  /-- What follows. -/
  source : Source

/-- Passes indentation and empty lines. With `indent` zero all spaces are indentation, otherwise only
those before that column. A tab in the indentation is refused. -/
def blockGap? (indent : Nat) : (breaks : List Char) → (deepest : Nat) → Mark → List Char →
    Option BlockGap
  | breaks, deepest, mark, [] => some ⟨breaks, max deepest mark.column, ⟨[], mark⟩⟩
  | breaks, deepest, mark, '\r' :: '\n' :: rest =>
    blockGap? indent ('\n' :: breaks) (max deepest mark.column) (mark.newline 2) rest
  | breaks, deepest, mark, c :: rest =>
    -- While the indentation is still to be found, every space belongs to it.
    let inside := indent = 0 || mark.column < indent
    if inside && c = ' ' then blockGap? indent breaks deepest (mark.forward 1) rest
    else if inside && c = '\t' then none
    else if isBreak c then
      blockGap? indent (breakChar c :: breaks) (max deepest mark.column) (mark.newline c.utf8Size)
        rest
    else some ⟨breaks, max deepest mark.column, ⟨c :: rest, mark⟩⟩

/-- The text of a block scalar up to a line break, with the breaks since then. Lists of characters are
in reverse. -/
structure BlockLines where
  /-- The text up to the end of the last line. -/
  text : List Char
  /-- The break that ended that line. -/
  lineBreak : List Char
  /-- Whether that line starts with a gap. -/
  startsWithGap : Bool
  /-- The breaks of the empty lines after it. -/
  emptyLines : List Char

/-- The text with its undecided breaks, before a line that starts with a gap or not. Between two
folded lines that start with text a single line feed is a space. -/
def BlockLines.joined (lines : BlockLines) (literal nextStartsWithGap : Bool) : List Char :=
  let folds := !literal && lines.lineBreak = ['\n'] && !lines.startsWithGap && !nextStartsWithGap
  if folds then
    lines.emptyLines ++ (if lines.emptyLines.isEmpty then ' ' :: lines.text else lines.text)
  else lines.emptyLines ++ (lines.lineBreak ++ lines.text)

/-- Reads a line and the empty lines after it. -/
def blockLine? (literal : Bool) (indent : Nat) (lines : BlockLines) (source : Source) :
    Option (BlockLines × Source) :=
  let startsWithGap := atGap source.rest
  let line := source.rest.takeWhile fun c => !isBreak c
  let text := line.reverse ++ lines.joined literal startsWithGap
  let atBreak := source.forward line.length
  -- The last line of a text may have no break.
  let lineBreak := (atBreak.rest.head?.map breakChar).toList
  let next := atBreak.skipBreak
  (blockGap? indent [] 0 next.mark next.rest).map fun gap =>
    (⟨text, lineBreak, startsWithGap, gap.breaks⟩, gap.source)

/-- Reads lines for as long as they are indented to `indent`. -/
def blockLines? (literal : Bool) (indent : Nat) : Nat → BlockLines → Source →
    Option (BlockLines × Source)
  | 0, lines, source => some (lines, source)
  | fuel + 1, lines, source =>
    if source.mark.column = indent && !source.rest.isEmpty then
      (blockLine? literal indent lines source).bind fun (lines, source) =>
        blockLines? literal indent fuel lines source
    else some (lines, source)

/-- The text of a block scalar after its final breaks are treated. -/
def BlockLines.chomp (lines : BlockLines) (chomping : Chomping) : String :=
  String.ofList <| List.reverse <|
    match chomping with
    | .strip => lines.text
    | .clip => lines.lineBreak ++ lines.text
    | .keep => lines.emptyLines ++ (lines.lineBreak ++ lines.text)

/-- Reads a block scalar after its first character. `outer` is the indentation of what surrounds it. -/
def blockText? (literal : Bool) (outer : Int) (source : Source) : Option (String × Source) :=
  (blockHeader? source).bind fun (header, source) =>
    let given := if header.increment = 0 then 0 else (max outer 0).toNat + header.increment
    (blockGap? given [] 0 source.mark source.rest).bind fun gap =>
      let indent := if given = 0 then max gap.deepest (max (outer + 1).toNat 1) else given
      (blockLines? literal indent (gap.source.rest.length + 1) ⟨[], [], false, gap.breaks⟩
          gap.source).map fun (lines, source) =>
        (lines.chomp header.chomping, source)

end StreamPlan.Yaml
