import StreamPlan.Yaml.Source

/-!
# Folded scalars

Plain and quoted scalars may run over several lines. Gaps within a line are kept, gaps around a line
break are dropped, one line break becomes a space and further line breaks are kept. `Folding`
collects the characters of such a scalar one by one.
-/

namespace StreamPlan.Yaml

/-- The part of a folded scalar that was read, with the gaps and breaks since its last character
still undecided. Lists of characters are in reverse. -/
structure Folding where
  /-- The text up to the last character. -/
  text : List Char
  /-- The gaps after it on the same line. -/
  gaps : List Char
  /-- Whether a line break was passed since. -/
  broken : Bool
  /-- The first such break, unless it was escaped. -/
  firstBreak : Option Char
  /-- The breaks after the first. -/
  moreBreaks : List Char

namespace Folding

/-- The scalar of which nothing was read. -/
def empty : Folding := ⟨[], [], false, none, []⟩

/-- Whether gaps or breaks are undecided. -/
def pending (f : Folding) : Bool := f.broken || !f.gaps.isEmpty

/-- The scalar after a gap. Past a line break gaps do not count. -/
def gap (f : Folding) (c : Char) : Folding :=
  if f.broken then f else { f with gaps := c :: f.gaps }

/-- The scalar after a line break. -/
def lineBreak (f : Folding) (c : Char) : Folding :=
  if f.broken then { f with moreBreaks := breakChar c :: f.moreBreaks }
  else { f with gaps := [], broken := true, firstBreak := some (breakChar c) }

/-- The scalar after a line break that does not count. -/
def escapedBreak (f : Folding) : Folding := { f with gaps := [], broken := true, firstBreak := none }

/-- The scalar with its gaps and breaks decided: a lone line feed is a space, and one that is followed
by more breaks is dropped. -/
def settle (f : Folding) : Folding :=
  let text :=
    if f.broken then
      match f.firstBreak with
      | none => f.moreBreaks ++ f.text
      | some c =>
        if c = '\n' then
          if f.moreBreaks.isEmpty then ' ' :: f.text else f.moreBreaks ++ f.text
        else f.moreBreaks ++ c :: f.text
    else f.gaps ++ f.text
  ⟨text, [], false, none, []⟩

/-- The scalar after a character that is neither gap nor break. -/
def char (f : Folding) (c : Char) : Folding :=
  let settled := f.settle
  { settled with text := c :: settled.text }

/-- The text up to the last character. -/
def result (f : Folding) : String := String.ofList f.text.reverse

end Folding

/-- Whether a character separates values inside brackets. -/
def isFlowMark (c : Char) : Bool := c = ',' || c = '[' || c = ']' || c = '\x7b' || c = '\x7d'

/-- Whether the text continues with a mark that may follow a value inside brackets. -/
def atValueEnd : List Char → Bool
  | [] => false
  | c :: _ => isFlowMark c || c = '?'

/-- Reads a plain scalar. It ends before a colon that ends a word, before a comment, before a document
marker, before a line that is not indented to `indent`, and inside brackets before a mark that
separates values. Inside brackets a colon before such a mark makes the text unreadable, and so does a
tab in the indentation. -/
def plainText? (flow : Bool) (indent : Int) : Folding → Mark → List Char → Option (Folding × Source)
  | f, mark, [] => some (f, ⟨[], mark⟩)
  | f, mark, '\r' :: '\n' :: rest =>
    plainText? flow indent (f.lineBreak '\n') (mark.newline 2) rest
  | f, mark, c :: rest =>
    if isBreak c then plainText? flow indent (f.lineBreak c) (mark.newline c.utf8Size) rest
    else if isGap c then
      if f.broken && (mark.column : Int) < indent && c = '\t' then none
      else plainText? flow indent (f.gap c) (mark.step c) rest
    else if f.pending && ((!flow && (mark.column : Int) < indent) || c = '#' ||
        (mark.column = 0 && atDocumentMarker (c :: rest))) then
      some (f, ⟨c :: rest, mark⟩)
    else if flow && c = ':' && atValueEnd rest then none
    else if (c = ':' && atWordEnd rest) || (flow && isFlowMark c) then
      some (f, ⟨c :: rest, mark⟩)
    else plainText? flow indent (f.char c) (mark.step c) rest

/-- Reads a single-quoted scalar after its opening quote. A quote inside is written twice. -/
def singleQuoted? : Folding → Mark → List Char → Option (Folding × Source)
  | _, _, [] => none
  | f, mark, '\'' :: '\'' :: rest => singleQuoted? (f.char '\'') (mark.forward 2) rest
  | f, mark, '\'' :: rest => some (f.settle, ⟨rest, mark.forward 1⟩)
  | f, mark, '\r' :: '\n' :: rest => singleQuoted? (f.lineBreak '\n') (mark.newline 2) rest
  | f, mark, c :: rest =>
    if isBreak c then singleQuoted? (f.lineBreak c) (mark.newline c.utf8Size) rest
    else if isGap c then singleQuoted? (f.gap c) (mark.step c) rest
    else if mark.column = 0 && atDocumentMarker (c :: rest) then none
    else singleQuoted? (f.char c) (mark.step c) rest

/-- The character that a one-letter escape stands for. -/
def escapedChar? (c : Char) : Option Char :=
  match c with
  | '0' => some (Char.ofNat 0)
  | 'a' => some '\x07'
  | 'b' => some '\x08'
  | 't' => some '\t'
  | '\t' => some '\t'
  | 'n' => some '\n'
  | 'v' => some '\x0b'
  | 'f' => some '\x0c'
  | 'r' => some '\r'
  | 'e' => some '\x1b'
  | ' ' => some ' '
  | '"' => some '"'
  | '/' => some '/'
  | '\\' => some '\\'
  | 'N' => some (Char.ofNat 0x85)
  | '_' => some (Char.ofNat 0xa0)
  | 'L' => some (Char.ofNat 0x2028)
  | 'P' => some (Char.ofNat 0x2029)
  | _ => none

/-- The character of a code point written in hexadecimal digits. -/
def codePoint? (digits : List Char) : Option Char :=
  (hexNumber? digits).bind fun n =>
    if (0xd800 ≤ n ∧ n ≤ 0xdfff) ∨ 0x10ffff < n then none else some (Char.ofNat n)

/-- Reads a double-quoted scalar after its opening quote. -/
def doubleQuoted? : Folding → Mark → List Char → Option (Folding × Source)
  | _, _, [] => none
  | f, mark, '"' :: rest => some (f.settle, ⟨rest, mark.forward 1⟩)
  | f, mark, '\\' :: 'x' :: a :: b :: rest =>
    match codePoint? [a, b] with
    | some c => doubleQuoted? (f.char c) (mark.forward 4) rest
    | none => none
  | f, mark, '\\' :: 'u' :: a :: b :: c :: d :: rest =>
    match codePoint? [a, b, c, d] with
    | some c => doubleQuoted? (f.char c) (mark.forward 6) rest
    | none => none
  | f, mark, '\\' :: 'U' :: a :: b :: c :: d :: e :: g :: h :: i :: rest =>
    match codePoint? [a, b, c, d, e, g, h, i] with
    | some c => doubleQuoted? (f.char c) (mark.forward 10) rest
    | none => none
  | f, mark, '\\' :: '\r' :: '\n' :: rest =>
    doubleQuoted? f.settle.escapedBreak (mark.newline 3) rest
  | f, mark, '\\' :: c :: rest =>
    if isBreak c then doubleQuoted? f.settle.escapedBreak (mark.newline (1 + c.utf8Size)) rest
    else
      match escapedChar? c with
      | some c => doubleQuoted? (f.char c) (mark.forward 2) rest
      | none => none
  | f, mark, '\r' :: '\n' :: rest => doubleQuoted? (f.lineBreak '\n') (mark.newline 2) rest
  | f, mark, c :: rest =>
    if isBreak c then doubleQuoted? (f.lineBreak c) (mark.newline c.utf8Size) rest
    else if isGap c then doubleQuoted? (f.gap c) (mark.step c) rest
    else if (mark.column = 0 && atDocumentMarker (c :: rest)) || c = '\\' then none
    else doubleQuoted? (f.char c) (mark.step c) rest

end StreamPlan.Yaml
