import StreamPlan.Yaml.Source

/-!
# Tags

The text of a tag. Escapes `%XX` in it stand for the bytes of a character. They may spell bytes that
no character has, so the text of a tag is a list of places of which some hold no character; and a
zero character ends it.
-/

namespace StreamPlan.Yaml

/-- The text of a tag; `none` stands for bytes that are no character. -/
abbrev TagText := List (Option Char)

/-- The text of a tag that is written without escapes. -/
def TagText.ofString (s : String) : TagText := s.toList.map some

/-- The text before the first zero character. -/
def TagText.upToZero (text : TagText) : TagText := text.takeWhile (· ≠ some '\x00')

/-- The tag that a text spells. With bytes that are no character it is no tag at all if it starts as a
local one, and else one without a name. -/
def TagText.tag? (text : TagText) : Option String :=
  if text.all Option.isSome then some (String.ofList (text.filterMap id))
  else if text.head? = some (some '!') then none
  else some ""

/-- The name of a local tag: what stands after its one or two marks, or the last mark if that is
all. -/
def localTag? (tag : String) : Option String :=
  match tag.toList with
  | ['!'] => some "!"
  | ['!', '!'] => some "!"
  | '!' :: '!' :: name => some (String.ofList name)
  | '!' :: name => some (String.ofList name)
  | _ => none

/-- Whether a character may stand in a tag. Inside angle brackets and in directives a comma and square
brackets may, too. -/
def isTagChar (verbatim : Bool) (c : Char) : Bool :=
  isWordChar c || ";/?:@&=+$.%!~*'()".toList.contains c || (verbatim && ",[]".toList.contains c)

/-- The number of bytes of a character, told by its first byte. -/
def byteCount? (first : Nat) : Option Nat :=
  if first < 0x80 then some 1
  else if first / 0x20 = 6 then some 2
  else if first / 0x10 = 14 then some 3
  else if first / 8 = 30 then some 4
  else none

/-- The bytes of the leading escapes `%XX` of a text. -/
def escapedBytes : List Char → List Nat
  | '%' :: a :: b :: rest =>
    match hexNumber? [a, b] with
    | some byte => byte :: escapedBytes rest
    | none => []
  | _ => []

/-- The character of a code point, if it has one and `count` bytes are just enough for it. -/
def charOf? (point count : Nat) : Option Char :=
  let c := Char.ofNat point
  if c.toNat = point && c.utf8Size = count then some c else none

/-- What the leading escapes of a text encode, with the number of escapes it takes. The first byte
must tell a number of bytes, and that many must be there. -/
def escapedTagChar? (cs : List Char) : Option (Option Char × Nat) :=
  match escapedBytes cs with
  | [] => none
  | first :: more =>
    (byteCount? first).bind fun count =>
      let trailing := more.take (count - 1)
      if trailing.length = count - 1 && trailing.all (fun byte => byte / 0x40 = 2) then
        let lead := if count = 1 then first else first % Nat.pow 2 (7 - count)
        some (charOf? (trailing.foldl (fun acc byte => acc * 0x40 + byte % 0x40) lead) count, count)
      else none

/-- Reads the characters of a tag, with escapes resolved. -/
def tagChars? (verbatim : Bool) : Nat → Source → Option (TagText × Source)
  | 0, source => some ([], source)
  | fuel + 1, source =>
    match source.rest with
    | [] => some ([], source)
    | c :: _ =>
      if c = '%' then
        (escapedTagChar? source.rest).bind fun (decoded, count) =>
          (tagChars? verbatim fuel (source.forward (3 * count))).map fun (text, after) =>
            (decoded :: text, after)
      else if isTagChar verbatim c then
        (tagChars? verbatim fuel (source.forward 1)).map fun (text, after) => (some c :: text, after)
      else some ([], source)

/-- Reads the suffix of a tag or what a handle abbreviates; there must be something. -/
def tagSuffix? (verbatim : Bool) (source : Source) : Option (TagText × Source) :=
  (tagChars? verbatim source.rest.length source).bind fun (text, after) =>
    if text.isEmpty then none else some (text.upToZero, after)

end StreamPlan.Yaml
