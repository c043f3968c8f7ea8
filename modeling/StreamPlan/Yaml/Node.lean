import StreamPlan.Yaml.Document

/-!
# YAML nodes

The tree of a document, with every reference replaced by the node it refers to. Two bounds hold:
collections nest at most 128 deep, and a document follows at most a hundred references for each of
its items. Where a text is at fault the tree ends with a `broken` node, so that what stands before
the fault can still be looked at in order.
-/

namespace StreamPlan.Yaml

/-- A node of a document. -/
inductive Node where
  /-- A scalar, plain or not; the mark is where the node starts. -/
  | scalar (tag : Option String) (mark : Mark) (text : String) (plain : Bool)
  /-- A sequence of nodes. -/
  | sequence (tag : Option String) (nodes : List Node)
  /-- Pairs of key and value in the order of the text; the mark is where the node starts. -/
  | mapping (tag : Option String) (mark : Mark) (pairs : List (Node × Node))
  /-- The text is at fault here. -/
  | broken
  deriving Inhabited

/-- Something read from items, with the items after it and the number of references followed. Nothing
comes after a fault. -/
structure Reading (α : Type) where
  /-- What was read. -/
  value : α
  /-- The items that follow and the number of references followed. -/
  after : Option (List Item × Nat)

/-- A reader of nodes: from the items that are left and the number of references followed. -/
abbrev NodeReader := List Item → Nat → Reading Node

/-- The node at a fault. -/
def NodeReader.broken : NodeReader := fun _ _ => ⟨.broken, none⟩

/-- Reads nodes up to the end of a sequence. -/
def readNodes (read : NodeReader) : Nat → List Item → Nat → Reading (List Node)
  | _, [], _ => ⟨[.broken], none⟩
  | _, .sequenceEnd :: rest, followed => ⟨[], some (rest, followed)⟩
  | 0, _, _ => ⟨[.broken], none⟩
  | fuel + 1, items, followed =>
    let node := read items followed
    match node.after with
    | none => ⟨[node.value], none⟩
    | some (rest, followed) =>
      let nodes := readNodes read fuel rest followed
      ⟨node.value :: nodes.value, nodes.after⟩

/-- Reads pairs of nodes up to the end of a mapping. -/
def readPairs (read : NodeReader) : Nat → List Item → Nat → Reading (List (Node × Node))
  | _, [], _ => ⟨[(.broken, .broken)], none⟩
  | _, .mappingEnd :: rest, followed => ⟨[], some (rest, followed)⟩
  | 0, _, _ => ⟨[(.broken, .broken)], none⟩
  | fuel + 1, items, followed =>
    let key := read items followed
    match key.after with
    | none => ⟨[(key.value, .broken)], none⟩
    | some (rest, followed) =>
      let value := read rest followed
      match value.after with
      | none => ⟨[(key.value, value.value)], none⟩
      | some (rest, followed) =>
        let pairs := readPairs read fuel rest followed
        ⟨(key.value, value.value) :: pairs.value, pairs.after⟩

/-- Reads a node that is no reference. `inner` reads the nodes within it, if it may have any. -/
def readContent (inner : Option NodeReader) : NodeReader
  | .scalar tag mark text plain :: rest, followed =>
    ⟨.scalar tag mark text plain, some (rest, followed)⟩
  | .sequenceStart tag :: rest, followed =>
    match inner with
    | none => ⟨.broken, none⟩
    | some read =>
      let nodes := readNodes read rest.length rest followed
      ⟨.sequence tag nodes.value, nodes.after⟩
  | .mappingStart tag mark :: rest, followed =>
    match inner with
    | none => ⟨.broken, none⟩
    | some read =>
      let pairs := readPairs read rest.length rest followed
      ⟨.mapping tag mark pairs.value, pairs.after⟩
  | _, _ => ⟨.broken, none⟩

/-- Reads a node. A reference stands for the node that it refers to. -/
def Document.reader (document : Document) (inner : Option NodeReader) : NodeReader
  | .alias number :: rest, followed =>
    if 100 * document.items.length < followed + 1 then ⟨.broken, none⟩
    else
      match document.anchored.find? (·.1 = number) with
      | none => ⟨.broken, none⟩
      | some (_, position) =>
        let node := readContent inner (document.items.drop position) (followed + 1)
        ⟨node.value, node.after.map fun (_, followed) => (rest, followed)⟩
  | items, followed => readContent inner items followed

/-- Reads a node in which collections nest at most `depth` deep. -/
def Document.readerOfDepth (document : Document) : (depth : Nat) → NodeReader
  | 0 => document.reader none
  | depth + 1 => document.reader (some (document.readerOfDepth depth))

/-- The root of a document; an empty one counts as a scalar that is left out. -/
def Document.root (document : Document) : Node :=
  if document.items.isEmpty then
    if document.faulty then .broken else .scalar none .start "" true
  else (document.readerOfDepth 128 document.items 0).value

end StreamPlan.Yaml
