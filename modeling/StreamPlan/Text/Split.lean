/-!
# Splitting and joining

Text is cut at a single separating character and put together again with a separating text. Both
directions keep empty parts.
-/

namespace StreamPlan.Text

/-- The parts between separators. There is always at least one part. -/
def splitChars (sep : Char) : List Char → List (List Char)
  | [] => [[]]
  | c :: cs =>
    if c = sep then [] :: splitChars sep cs
    else
      match splitChars sep cs with
      | [] => [[c]]
      | part :: parts => (c :: part) :: parts

/-- The parts of a text between separators. -/
def split (sep : Char) (s : String) : List String :=
  (splitChars sep s.toList).map String.ofList

/-- What stands before and after the first separator, if there is one. -/
def cutChars (sep : Char) : List Char → Option (List Char × List Char)
  | [] => none
  | c :: cs =>
    if c = sep then some ([], cs)
    else (cutChars sep cs).map fun (before, after) => (c :: before, after)

/-- What stands before and after the first separator of a text, if there is one. -/
def cut (sep : Char) (s : String) : Option (String × String) :=
  (cutChars sep s.toList).map fun (before, after) => (String.ofList before, String.ofList after)

/-- The parts with a separating text between them. -/
def join (sep : String) (parts : List String) : String := sep.intercalate parts

/-- The text after a leading `lead`, if the text starts with it. -/
def stripLead? (lead s : String) : Option String :=
  if lead.toList.isPrefixOf s.toList then some (String.ofList (s.toList.drop lead.length)) else none

/-- Whether a text starts with `lead`. -/
def hasLead (lead s : String) : Bool := lead.toList.isPrefixOf s.toList

/-- The text with the letters `A` to `Z` in lower case and all else as it stands. -/
def lowerAscii (s : String) : String := String.ofList (s.toList.map Char.toLower)

/-- The text with one character put for another. -/
def substitute (old new : Char) (s : String) : String :=
  String.ofList (s.toList.map fun c => if c = old then new else c)

theorem splitChars_ne_nil (sep : Char) (cs : List Char) : splitChars sep cs ≠ [] := by
  cases cs with
  | nil => simp [splitChars]
  | cons c cs =>
    rw [splitChars]
    split
    · simp
    · split <;> simp

end StreamPlan.Text
