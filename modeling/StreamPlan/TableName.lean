import StreamPlan.Decimal.Style
import StreamPlan.Text.Blank
import StreamPlan.Text.Quoted

/-!
# Table names

Plans refer to streams and tables by dotted names such as `kafka.views`. By convention the first
segment is the system that owns the name.
-/

namespace StreamPlan

/-- Why segments form no name. -/
inductive NameFault where
  /-- There are no segments. -/
  | noSegments
  /-- The segment at a position is blank. -/
  | blankSegment (position : Nat) (segments : List String)
  deriving DecidableEq

/-- The text of a fault. -/
def NameFault.message : NameFault → String
  | .noSegments => "qualified name has no segments"
  | .blankSegment position segments =>
    "qualified name segment " ++ Decimal.intText position ++ " is empty in " ++
      Text.quotedList segments

/-- A name of one or more segments, none of them blank. -/
structure TableName where
  /-- The segments, outermost first. -/
  segments : List String
  /-- There is a first segment. -/
  nonempty : segments ≠ []
  /-- No segment is blank. -/
  visible : ∀ segment ∈ segments, Text.isBlankText segment = false
  deriving DecidableEq

namespace TableName

/-- The name with the given segments. Of several blank segments the first is reported. -/
def ofSegments (segments : List String) : Except NameFault TableName :=
  if nonempty : segments = [] then .error .noSegments
  else
    match blank : segments.findIdx? Text.isBlankText with
    | some position => .error (.blankSegment position segments)
    | none => .ok ⟨segments, nonempty, List.findIdx?_eq_none_iff.1 blank⟩

/-- Reads a dotted name. Blanks around a segment do not count. -/
def parse (dotted : String) : Except NameFault TableName :=
  ofSegments ((Text.split '.' dotted).map Text.trim)

/-- The first segment. -/
def head (name : TableName) : String := name.segments.head name.nonempty

/-- All segments but the first, with dots between them. -/
def tail (name : TableName) : String := Text.join "." name.segments.tail

/-- All segments, with dots between them. -/
def dotted (name : TableName) : String := Text.join "." name.segments

end TableName

end StreamPlan
