import StreamPlan.Yaml.Event

/-!
# YAML documents

A text is a stream of documents. Within a document every anchor gets a number, and every reference
carries the number that its name stood for when it was read.
-/

namespace StreamPlan.Yaml

/-- One step through the nodes of a document. -/
inductive Item where
  /-- A reference to an anchored node. -/
  | alias (number : Nat)
  /-- A scalar, plain or not; the mark is where its node starts. -/
  | scalar (tag : Option String) (mark : Mark) (text : String) (plain : Bool)
  /-- A sequence begins. -/
  | sequenceStart (tag : Option String)
  /-- A sequence ends. -/
  | sequenceEnd
  /-- A mapping begins; the mark is where its node starts. -/
  | mappingStart (tag : Option String) (mark : Mark)
  /-- A mapping ends. -/
  | mappingEnd

/-- One document of a text. -/
structure Document where
  /-- The nodes of the document. -/
  items : List Item
  /-- The position of the item that a number stands for; of several the first entry counts. -/
  anchored : List (Nat × Nat)
  /-- Whether the text is at fault after the items. -/
  faulty : Bool

/-- A document while it is collected. -/
structure Draft where
  /-- The items so far, last first. -/
  items : List Item
  /-- The number that each name of an anchor stands for. -/
  names : List (String × Nat)
  /-- The positions of the anchored items, latest first. -/
  anchored : List (Nat × Nat)

namespace Draft

/-- A document before its first item. -/
def empty : Draft := ⟨[], [], []⟩

/-- The document that was collected. -/
def finish (d : Draft) (faulty : Bool) : Document := ⟨d.items.reverse, d.anchored, faulty⟩

/-- Adds an item. -/
def push (d : Draft) (item : Item) : Draft := { d with items := item :: d.items }

/-- Numbers an anchor of the next item. The number is that of the different names before it, so a
name that is used again takes the number that the next new name takes, too. -/
def number (d : Draft) (anchor : Option String) : Draft :=
  match anchor with
  | none => d
  | some name =>
    let next := d.names.length
    { d with names := (name, next) :: d.names.filter (·.1 != name),
             anchored := (next, d.items.length) :: d.anchored }

/-- The tag of a node. -/
def tagOf (p : Properties) : Option String := p.tag.bind TagText.tag?

/-- Adds an event within a document. A reference to an unknown anchor cannot be added. -/
def add? (d : Draft) : Event → Option Draft
  | .alias name => (d.names.find? (·.1 = name)).map fun (_, number) => d.push (.alias number)
  | .scalar p mark text plain => some ((d.number p.anchor).push (.scalar (tagOf p) mark text plain))
  | .sequenceStart p => some ((d.number p.anchor).push (.sequenceStart (tagOf p)))
  | .mappingStart p mark => some ((d.number p.anchor).push (.mappingStart (tagOf p) mark))
  | .sequenceEnd => some (d.push .sequenceEnd)
  | .mappingEnd => some (d.push .mappingEnd)
  | .documentStart => some d
  | .documentEnd => some d

end Draft

/-- Splits events into documents. Nothing is read after a fault. -/
def splitDocuments (faulty : Bool) : Option Draft → List Event → List Document
  | none, [] => if faulty then [Draft.empty.finish true] else []
  | some d, [] => [d.finish faulty]
  | none, .documentStart :: events => splitDocuments faulty (some .empty) events
  | none, _ :: events => splitDocuments faulty none events
  | some d, .documentEnd :: events => d.finish false :: splitDocuments faulty none events
  | some d, event :: events =>
    match d.add? event with
    | some d => splitDocuments faulty (some d) events
    | none => [d.finish true]

/-- The documents of a text. A text without any has one that is blank. -/
def documents (text : String) : List Document :=
  let events := events text
  match splitDocuments events.faulty none events.list with
  | [] => [Draft.empty.finish false]
  | documents => documents

end StreamPlan.Yaml
