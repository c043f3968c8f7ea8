import StreamPlan.Yaml.BlockText
import StreamPlan.Yaml.Folding
import StreamPlan.Yaml.Tag

/-!
# YAML tokens

The tokens of a YAML text and the readers of those that are not scalars: anchors, tags and
directives.
-/

namespace StreamPlan.Yaml

/-- What a token says. -/
inductive Token.Kind where
  /-- A `%YAML` line with a version. -/
  | version (major minor : Nat)
  /-- A `%TAG` line: a handle and what it abbreviates. -/
  | tagLine (handle : String) (lead : TagText)
  /-- The marker `---`. -/
  | documentStart
  /-- The marker `...`. -/
  | documentEnd
  /-- The indentation of a block sequence begins. -/
  | blockSequence
  /-- The indentation of a block mapping begins. -/
  | blockMapping
  /-- The indentation of a block collection ends. -/
  | blockEnd
  /-- An opening bracket. -/
  | flowSequence
  /-- A closing bracket. -/
  | flowSequenceEnd
  /-- An opening brace. -/
  | flowMapping
  /-- A closing brace. -/
  | flowMappingEnd
  /-- The mark `-` of an entry. -/
  | blockEntry
  /-- A comma. -/
  | flowEntry
  /-- A mapping key follows. -/
  | key
  /-- A mapping value follows. -/
  | value
  /-- A reference to an anchored node. -/
  | alias (name : String)
  /-- An anchor for the node that follows. -/
  | anchor (name : String)
  /-- A tag for the node that follows: a handle, which may be empty, and a suffix. -/
  | tag (handle : String) (suffix : TagText)
  /-- A scalar, plain or not. -/
  | scalar (text : String) (plain : Bool)
  /-- The end of the text. -/
  | streamEnd
  deriving DecidableEq

/-- A token and the place where it starts. -/
structure Token where
  /-- What the token says. -/
  kind : Token.Kind
  /-- Where it starts. -/
  mark : Mark

/-- Whether the name of an anchor may end here. -/
def atAnchorEnd : List Char → Bool
  | [] => true
  | c :: _ => isGap c || isBreak c || "?:,]\x7d%@`".toList.contains c

/-- Reads the name of an anchor or of a reference after its mark. -/
def anchorName? (source : Source) : Option (String × Source) :=
  let name := source.rest.takeWhile isWordChar
  let after := source.forward name.length
  if name.isEmpty || !atAnchorEnd after.rest then none else some (String.ofList name, after)

/-- Reads a tag handle: `!`, optionally with word characters, optionally with a second `!`. -/
def tagHandle? (source : Source) : Option (List Char × Source) :=
  match source.rest with
  | '!' :: rest =>
    let name := rest.takeWhile isWordChar
    let after := source.forward (name.length + 1)
    if after.rest.head? = some '!' then some ('!' :: name ++ ['!'], after.forward 1)
    else some ('!' :: name, after)
  | _ => none

/-- Reads a tag of the form `!<suffix>`. -/
def verbatimTag? (source : Source) : Option (Token.Kind × Source) :=
  (tagSuffix? true (source.forward 2)).bind fun (suffix, after) =>
    if after.rest.head? = some '>' then some (.tag "" suffix, after.forward 1) else none

/-- Reads a tag of the form `!handle!suffix`, `!suffix` or `!`. -/
def shortTag? (source : Source) : Option (Token.Kind × Source) :=
  (tagHandle? source).bind fun (handle, after) =>
    if 1 < handle.length && handle.getLast? = some '!' then
      (tagSuffix? false after).map fun (suffix, after) => (.tag (String.ofList handle) suffix, after)
    else
      (tagChars? false after.rest.length after).map fun (text, after) =>
        match TagText.upToZero (handle.tail.map some ++ text) with
        | [] => (.tag "" [some '!'], after)
        | suffix => (.tag "!" suffix, after)

/-- Whether a tag may end here. Inside brackets a comma may follow it. -/
def atTagEnd (flow : Bool) : List Char → Bool
  | [] => true
  | c :: _ => (flow && c = ',') || isGap c || isBreak c

/-- Reads a tag. -/
def tagToken? (flow : Bool) (source : Source) : Option (Token.Kind × Source) :=
  (if "!<".toList.isPrefixOf source.rest then verbatimTag? source else shortTag? source).bind
    fun (kind, after) => if atTagEnd flow after.rest then some (kind, after) else none

/-- Reads a version number of at most nine digits. -/
def versionNumber? (source : Source) : Option (Nat × Source) :=
  let digits := source.rest.takeWhile Char.isDigit
  if digits.isEmpty || 9 < digits.length then none
  else
    some (digits.foldl (fun acc c => acc * 10 + (c.toNat - '0'.toNat)) 0,
      source.forward digits.length)

/-- Reads the version of a `%YAML` line. -/
def versionLine? (source : Source) : Option (Token.Kind × Source) :=
  (versionNumber? (source.skipWhile isGap)).bind fun (major, source) =>
    if source.rest.head? = some '.' then
      (versionNumber? (source.forward 1)).map fun (minor, source) => (.version major minor, source)
    else none

/-- Reads the handle of a `%TAG` line and what it abbreviates. -/
def tagLine? (source : Source) : Option (Token.Kind × Source) :=
  (tagHandle? (source.skipWhile isGap)).bind fun (handle, source) =>
    if !atGap source.rest || (1 < handle.length && handle.getLast? != some '!') then none
    else
      (tagSuffix? true (source.skipWhile isGap)).bind fun (lead, source) =>
        if atWordEnd source.rest then some (.tagLine (String.ofList handle) lead, source) else none

/-- Reads what a directive says after its name. -/
def directiveText? (name : List Char) (source : Source) : Option (Token.Kind × Source) :=
  if name = "YAML".toList then versionLine? source
  else if name = "TAG".toList then tagLine? source
  else none

/-- Reads a directive after its percent sign, up to the next line. -/
def directive? (source : Source) : Option (Token.Kind × Source) :=
  let name := source.rest.takeWhile isWordChar
  let after := source.forward name.length
  if !atWordEnd after.rest then none
  else
    (directiveText? name after).bind fun (kind, source) =>
      source.nextLine?.map fun source => (kind, source)

end StreamPlan.Yaml
