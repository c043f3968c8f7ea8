/-!
# YAML source text

The characters of a YAML text that are still to be read, together with the place they start at, and
the classes of characters that the syntax distinguishes.
-/

namespace StreamPlan.Yaml

/-- A place in a text. -/
structure Mark where
  /-- The number of bytes before the place. -/
  offset : Nat
  /-- The number of line breaks before the place. -/
  line : Nat
  /-- The number of characters between the last line break and the place. -/
  column : Nat
  deriving DecidableEq, Inhabited

/-- The place at the start of a text. -/
def Mark.start : Mark := ⟨0, 0, 0⟩

/-- The place after a character of the same line. -/
def Mark.step (mark : Mark) (c : Char) : Mark :=
  { mark with offset := mark.offset + c.utf8Size, column := mark.column + 1 }

/-- The place after `count` characters of the same line that are one byte each. -/
def Mark.forward (mark : Mark) (count : Nat) : Mark :=
  { mark with offset := mark.offset + count, column := mark.column + count }

/-- The place after a line break of `width` bytes. -/
def Mark.newline (mark : Mark) (width : Nat) : Mark :=
  { offset := mark.offset + width, line := mark.line + 1, column := 0 }

/-- Whether a place is the start of a text. -/
def Mark.isStart (mark : Mark) : Bool := mark.line = 0 && mark.column = 0

/-- What is left of a text, from a place on. -/
structure Source where
  /-- The characters that are left. -/
  rest : List Char
  /-- The place of the first of them. -/
  mark : Mark

/-- The whole of a text. -/
def Source.ofString (s : String) : Source := ⟨s.toList, .start⟩

/-- The source after `count` characters of the same line. -/
def Source.forward (source : Source) (count : Nat) : Source :=
  ⟨source.rest.drop count, (source.rest.take count).foldl Mark.step source.mark⟩

/-- The source after the leading characters of one line that satisfy `p`. -/
def Source.skipWhile (source : Source) (p : Char → Bool) : Source :=
  source.forward (source.rest.takeWhile p).length

/-- A space or a tab. -/
def isGap (c : Char) : Bool := c = ' ' || c = '\t'

/-- A character that ends a line: line feed, carriage return, next line, line or paragraph
separator. -/
def isBreak (c : Char) : Bool :=
  c = '\n' || c = '\r' || c.toNat = 0x85 || c.toNat = 0x2028 || c.toNat = 0x2029

/-- Whether the text continues with a gap. -/
def atGap : List Char → Bool
  | [] => false
  | c :: _ => isGap c

/-- Whether the text ends or continues with a gap or a line break. -/
def atWordEnd : List Char → Bool
  | [] => true
  | c :: _ => isGap c || isBreak c

/-- Whether the text ends or continues with a line break. -/
def atLineEnd : List Char → Bool
  | [] => true
  | c :: _ => isBreak c

/-- What a line break contributes to a scalar: separators stand for themselves, every other break
for a line feed. -/
def breakChar (c : Char) : Char := if c.toNat = 0x2028 || c.toNat = 0x2029 then c else '\n'

/-- The source after the line break it starts with, if it starts with one. A carriage return and a
line feed are one break. -/
def Source.skipBreak (source : Source) : Source :=
  match source.rest with
  | '\r' :: '\n' :: rest => ⟨rest, source.mark.newline 2⟩
  | c :: rest => if isBreak c then ⟨rest, source.mark.newline c.utf8Size⟩ else source
  | [] => source

/-- A letter, digit, hyphen or underscore: what anchors and tag handles are made of. -/
def isWordChar (c : Char) : Bool := c.isAlphanum || c = '_' || c = '-'

/-- Whether a line that starts here is a document marker: `---` or `...` as a word of its own. -/
def atDocumentMarker : List Char → Bool
  | '-' :: '-' :: '-' :: rest => atWordEnd rest
  | '.' :: '.' :: '.' :: rest => atWordEnd rest
  | _ => false

/-- Whether a character may occur in a text at all. -/
def isAllowed (c : Char) : Bool :=
  let n := c.toNat
  n == 0x9 || n == 0xa || n == 0xd || (0x20 ≤ n && n ≤ 0x7e) || n == 0x85 ||
    (0xa0 ≤ n && n ≤ 0xd7ff) || (0xe000 ≤ n && n ≤ 0xfffd) || 0x10000 ≤ n

/-- The value of a hexadecimal digit. -/
def hexValue? (c : Char) : Option Nat :=
  if '0' ≤ c ∧ c ≤ '9' then some (c.toNat - '0'.toNat)
  else if 'a' ≤ c ∧ c ≤ 'f' then some (c.toNat - 'a'.toNat + 10)
  else if 'A' ≤ c ∧ c ≤ 'F' then some (c.toNat - 'A'.toNat + 10)
  else none

/-- The value of a list of hexadecimal digits. -/
def hexNumber? (cs : List Char) : Option Nat :=
  cs.foldlM (fun acc c => (hexValue? c).map (acc * 16 + ·)) 0

end StreamPlan.Yaml
