import Mathlib.Tactic.SplitIfs
import StreamPlan.Proofs.Data.Except
import StreamPlan.Proofs.Yaml.Bare
import StreamPlan.Yaml.Value

/-!
# Values without places

What a document denotes does not depend on where its nodes stand.

* `splitDocuments_bare`: events without places give the documents without places.
* `Document.root_bare`: a document without places has the root without places.
* `Document.value_bare`: it has the same value.
* `Document.isNull_of_bare`: the texts of scalars that are not plain do not decide whether a document is
  blank.
-/

namespace StreamPlan.Yaml

variable {texts : Bool}

/-! ## Documents -/

/-- An item without its place. -/
def Item.bare (texts : Bool) : Item → Item
  | .scalar tag _ text plain => .scalar tag .start (if texts || plain then text else "") plain
  | .mappingStart tag _ => .mappingStart tag .start
  | item => item

/-- A document without places. -/
def Document.bare (texts : Bool) (document : Document) : Document :=
  { document with items := document.items.map (Item.bare texts) }

/-- A document without places while it is collected. -/
def Draft.bare (texts : Bool) (d : Draft) : Draft := { d with items := d.items.map (Item.bare texts) }

namespace Draft

variable {d : Draft}

theorem bare_finish {faulty : Bool} : (d.bare texts).finish faulty = (d.finish faulty).bare texts := by
  simp [finish, Draft.bare, Document.bare]

theorem bare_number {anchor : Option String} :
    (d.bare texts).number anchor = (d.number anchor).bare texts := by
  cases anchor with
  | none => rfl
  | some name => simp [number, Draft.bare]

theorem bare_add? {event : Event} :
    (d.bare texts).add? (event.bare texts) = (d.add? event).map (Draft.bare texts) := by
  cases event with
  | «alias» name =>
    show Option.map _ (d.names.find? _) = Option.map _ (Option.map _ (d.names.find? _))
    rw [Option.map_map]
    rfl
  | scalar _ _ _ _ | sequenceStart _ | mappingStart _ _ =>
    -- A node is numbered before it is put down, and numbers do not depend on texts.
    show some (push ((d.bare texts).number _) _) = _
    rw [bare_number]
    rfl
  | sequenceEnd | mappingEnd | documentStart | documentEnd => rfl

end Draft

theorem splitDocuments_add {faulty : Bool} {d : Draft} {event : Event} {events : List Event}
    (h : event ≠ .documentEnd) :
    splitDocuments faulty (some d) (event :: events) =
      match d.add? event with
      | some d => splitDocuments faulty (some d) events
      | none => [d.finish true] := by
  cases event with
  | documentEnd => exact absurd rfl h
  | _ => rfl

theorem splitDocuments_skip {faulty : Bool} {event : Event} {events : List Event}
    (h : event ≠ .documentStart) :
    splitDocuments faulty none (event :: events) = splitDocuments faulty none events := by
  cases event with
  | documentStart => exact absurd rfl h
  | _ => rfl

theorem Event.bare_eq_documentEnd {event : Event} :
    event.bare texts = .documentEnd ↔ event = .documentEnd := by
  cases event <;> simp [Event.bare]

theorem Event.bare_eq_documentStart {event : Event} :
    event.bare texts = .documentStart ↔ event = .documentStart := by
  cases event <;> simp [Event.bare]

theorem splitDocuments_bare {faulty : Bool} (d? : Option Draft) (events : List Event) :
    splitDocuments faulty (d?.map (Draft.bare texts)) (events.map (Event.bare texts)) =
      (splitDocuments faulty d? events).map (Document.bare texts) := by
  induction events generalizing d? with
  | nil =>
    cases d? with
    | none => cases faulty <;> rfl
    | some d => exact congrArg (fun document => [document]) Draft.bare_finish
  | cons event events ih =>
    cases d? with
    | none =>
      by_cases hstart : event = .documentStart
      · subst hstart
        exact ih (some .empty)
      · rw [List.map_cons, Option.map_none,
          splitDocuments_skip (mt Event.bare_eq_documentStart.1 hstart), splitDocuments_skip hstart]
        exact ih none
    | some d =>
      -- Inside a document only its end is told apart from what is added to it.
      by_cases hend : event = .documentEnd
      · subst hend
        show (d.bare texts).finish false :: splitDocuments faulty none _ = _ :: _
        rw [Draft.bare_finish]
        exact congrArg _ (ih none)
      · rw [List.map_cons, Option.map_some, splitDocuments_add (mt Event.bare_eq_documentEnd.1 hend),
          splitDocuments_add hend, Draft.bare_add?]
        cases d.add? event with
        | none => exact congrArg (fun document => [document]) Draft.bare_finish
        | some d => exact ih (some d)

/-! ## Nodes -/

mutual

/-- A node without its place. -/
def Node.bare (texts : Bool) : Node → Node
  | .scalar tag _ text plain => .scalar tag .start (if texts || plain then text else "") plain
  | .sequence tag nodes => .sequence tag (bareNodes texts nodes)
  | .mapping tag _ pairs => .mapping tag .start (barePairs texts pairs)
  | .broken => .broken

/-- Nodes without their places. -/
def bareNodes (texts : Bool) : List Node → List Node
  | [] => []
  | node :: nodes => node.bare texts :: bareNodes texts nodes

/-- Pairs of nodes without their places. -/
def barePairs (texts : Bool) : List (Node × Node) → List (Node × Node)
  | [] => []
  | (key, value) :: pairs => (key.bare texts, value.bare texts) :: barePairs texts pairs

end

/-- What is read without places, from items without places. -/
def Reading.bare {α : Type} (texts : Bool) (bare : α → α) (reading : Reading α) : Reading α where
  value := bare reading.value
  after := reading.after.map fun (items, followed) => (items.map (Item.bare texts), followed)

/-- A reader reads the same as another without places. -/
def ReadsBare (texts : Bool) (read bare : NodeReader) : Prop :=
  ∀ items followed, bare (items.map (Item.bare texts)) followed =
    (read items followed).bare texts (Node.bare texts)

section Readers

variable {read bare : NodeReader} {item : Item} {items rest : List Item} {followed fuel : Nat}

theorem Item.bare_eq_sequenceEnd : item.bare texts = .sequenceEnd ↔ item = .sequenceEnd := by
  cases item <;> simp [Item.bare]

theorem Item.bare_eq_mappingEnd : item.bare texts = .mappingEnd ↔ item = .mappingEnd := by
  cases item <;> simp [Item.bare]

theorem readNodes_cons (h : item ≠ .sequenceEnd) :
    readNodes read (fuel + 1) (item :: rest) followed =
      let node := read (item :: rest) followed
      match node.after with
      | none => ⟨[node.value], none⟩
      | some (rest, followed) =>
        let nodes := readNodes read fuel rest followed
        ⟨node.value :: nodes.value, nodes.after⟩ := by
  cases item with
  | sequenceEnd => exact absurd rfl h
  | _ => rfl

theorem readPairs_cons (h : item ≠ .mappingEnd) :
    readPairs read (fuel + 1) (item :: rest) followed =
      let key := read (item :: rest) followed
      match key.after with
      | none => ⟨[(key.value, .broken)], none⟩
      | some (rest, followed) =>
        let value := read rest followed
        match value.after with
        | none => ⟨[(key.value, value.value)], none⟩
        | some (rest, followed) =>
          let pairs := readPairs read fuel rest followed
          ⟨(key.value, value.value) :: pairs.value, pairs.after⟩ := by
  cases item with
  | mappingEnd => exact absurd rfl h
  | _ => rfl

theorem readNodes_bare (h : ReadsBare texts read bare) :
    readNodes bare fuel (items.map (Item.bare texts)) followed =
      (readNodes read fuel items followed).bare texts (bareNodes texts) := by
  induction fuel generalizing items followed with
  | zero => rcases items with _ | ⟨_ | _ | _ | _ | _ | _, rest⟩ <;> rfl
  | succ fuel ih =>
    rcases items with _ | ⟨item, rest⟩
    · rfl
    · by_cases hend : item = .sequenceEnd
      · subst hend
        rfl
      · rw [List.map_cons, readNodes_cons (mt Item.bare_eq_sequenceEnd.1 hend), readNodes_cons hend,
          ← List.map_cons, h (item :: rest)]
        obtain ⟨node, _ | ⟨rest, followed⟩⟩ := read (item :: rest) followed
        · rfl
        · show (⟨_ :: (readNodes bare fuel (rest.map (Item.bare texts)) followed).value,
            (readNodes bare fuel (rest.map (Item.bare texts)) followed).after⟩ :
              Reading (List Node)) = _
          rw [ih]
          rfl

theorem readPairs_bare (h : ReadsBare texts read bare) :
    readPairs bare fuel (items.map (Item.bare texts)) followed =
      (readPairs read fuel items followed).bare texts (barePairs texts) := by
  induction fuel generalizing items followed with
  | zero => rcases items with _ | ⟨_ | _ | _ | _ | _ | _, rest⟩ <;> rfl
  | succ fuel ih =>
    rcases items with _ | ⟨item, rest⟩
    · rfl
    · by_cases hend : item = .mappingEnd
      · subst hend
        rfl
      · rw [List.map_cons, readPairs_cons (mt Item.bare_eq_mappingEnd.1 hend), readPairs_cons hend,
          ← List.map_cons, h (item :: rest)]
        obtain ⟨key, _ | ⟨rest, followed⟩⟩ := read (item :: rest) followed
        · rfl
        · -- The value is read from where the key left off.
          have hvalue := h rest followed
          dsimp only [Reading.bare, Option.map_some] at hvalue ⊢
          rw [hvalue]
          obtain ⟨value, _ | ⟨rest, followed⟩⟩ := read rest followed
          · rfl
          · show (⟨_ :: (readPairs bare fuel (rest.map (Item.bare texts)) followed).value,
              (readPairs bare fuel (rest.map (Item.bare texts)) followed).after⟩ :
                Reading (List (Node × Node))) = _
            rw [ih]
            rfl

variable {inner bareInner : Option NodeReader}

theorem readContent_bare (h : Option.Rel (ReadsBare texts) inner bareInner) :
    ReadsBare texts (readContent inner) (readContent bareInner) := by
  intro items followed
  rcases items with _ | ⟨item, rest⟩
  · rfl
  · cases item with
    | sequenceStart tag =>
      cases h with
      | none => rfl
      | @some read bare h =>
        show (⟨.sequence tag (readNodes bare (rest.map (Item.bare texts)).length
          (rest.map _) followed).value,
          (readNodes bare (rest.map (Item.bare texts)).length (rest.map _) followed).after⟩ :
            Reading Node) = _
        rw [List.length_map, readNodes_bare h]
        rfl
    | mappingStart tag mark =>
      cases h with
      | none => rfl
      | @some read bare h =>
        show (⟨.mapping tag .start
            (readPairs bare (rest.map (Item.bare texts)).length (rest.map _) followed).value,
          (readPairs bare (rest.map (Item.bare texts)).length (rest.map _) followed).after⟩ :
            Reading Node) = _
        rw [List.length_map, readPairs_bare h]
        rfl
    | _ => rfl

end Readers

namespace Document

variable {document : Document} {inner bareInner : Option NodeReader}

theorem reader_bare (h : Option.Rel (ReadsBare texts) inner bareInner) :
    ReadsBare texts (document.reader inner) ((document.bare texts).reader bareInner) := by
  have hcontent := readContent_bare h
  intro items followed
  rcases items with _ | ⟨item, rest⟩
  · exact hcontent [] followed
  · cases item with
    | «alias» number =>
      rw [List.map_cons]
      show ite (100 * (document.items.map (Item.bare texts)).length < followed + 1) _ _ =
        Reading.bare _ _ (ite _ _ _)
      rw [List.length_map, apply_ite (Reading.bare texts (Node.bare texts))]
      congr 1
      -- A reference is read from the position of its anchor, which is not a place in the text.
      have hanchored : (document.bare texts).anchored = document.anchored := rfl
      rw [hanchored]
      cases document.anchored.find? (·.1 = number) with
      | none => rfl
      | some entry =>
        obtain ⟨_, position⟩ := entry
        have hnode : readContent bareInner ((document.bare texts).items.drop position) (followed + 1) =
            (readContent inner (document.items.drop position) (followed + 1)).bare texts
              (Node.bare texts) := by
          rw [← hcontent, List.map_drop]
          rfl
        dsimp only
        rw [hnode]
        obtain ⟨node, _ | ⟨_, followed⟩⟩ :=
          readContent inner (document.items.drop position) (followed + 1) <;> rfl
    | scalar tag mark text plain => exact hcontent (.scalar tag mark text plain :: rest) followed
    | sequenceStart tag => exact hcontent (.sequenceStart tag :: rest) followed
    | sequenceEnd => exact hcontent (.sequenceEnd :: rest) followed
    | mappingStart tag mark => exact hcontent (.mappingStart tag mark :: rest) followed
    | mappingEnd => exact hcontent (.mappingEnd :: rest) followed

theorem readerOfDepth_bare {depth : Nat} :
    ReadsBare texts (document.readerOfDepth depth) ((document.bare texts).readerOfDepth depth) := by
  induction depth with
  | zero => exact reader_bare .none
  | succ depth ih => exact reader_bare (.some ih)

theorem root_bare : (document.bare texts).root = document.root.bare texts := by
  have hitems : (document.bare texts).items = document.items.map (Item.bare texts) := rfl
  have hread : (document.bare texts).readerOfDepth 128 (document.items.map (Item.bare texts)) 0 = _ :=
    readerOfDepth_bare document.items 0
  rw [root, root, hitems, hread, List.isEmpty_map, apply_ite (Node.bare texts),
    apply_ite (Node.bare texts)]
  congr 2
  simp [Node.bare]

end Document

/-! ## Values -/

/-- A fault without its place. -/
def Fault.bare : Fault → Fault
  | .malformed => .malformed
  | .node fault _ => .node fault .start

mutual

theorem Node.value_bare {unique : Bool} :
    (node : Node) → (node.bare true).value unique = (node.value unique).mapError Fault.bare
  | .scalar tag mark text plain => by
    show (scalarValue tag text plain).mapError _ = ((scalarValue tag text plain).mapError _).mapError _
    cases scalarValue tag text plain <;> rfl
  | .sequence tag nodes => by
    rw [Node.bare, Node.value, Node.value, nodeValues_bare nodes]
    cases nodeValues unique nodes <;> rfl
  | .mapping tag mark pairs => by
    rw [Node.bare, Node.value, Node.value, pairValues_bare mark [] pairs]
    cases pairValues unique mark [] pairs <;> rfl
  | .broken => rfl

theorem nodeValues_bare {unique : Bool} : (nodes : List Node) →
    nodeValues unique (bareNodes true nodes) = (nodeValues unique nodes).mapError Fault.bare
  | [] => rfl
  | node :: nodes => by
    rw [bareNodes, nodeValues, nodeValues, node.value_bare, nodeValues_bare nodes]
    cases node.value unique with
    | error fault => rfl
    | ok item => cases nodeValues unique nodes <;> rfl

theorem pairValues_bare {unique : Bool} (mark : Mark) :
    (keys : List Value) → (pairs : List (Node × Node)) →
    pairValues unique .start keys (barePairs true pairs) =
      (pairValues unique mark keys pairs).mapError Fault.bare
  | _, [] => rfl
  | keys, (keyNode, valueNode) :: pairs => by
    rw [barePairs, pairValues, pairValues, keyNode.value_bare, valueNode.value_bare]
    cases keyNode.value unique with
    | error fault => rfl
    | ok key =>
      dsimp only [Except.mapError]
      -- Keys are compared by their values, so the same key is found to be repeated.
      cases (if unique then keys.find? key.same else none) with
      | some earlier => rfl
      | none =>
        dsimp only
        rw [pairValues_bare mark (key :: keys) pairs]
        cases valueNode.value unique with
        | error fault => rfl
        | ok value => cases pairValues unique mark (key :: keys) pairs <;> rfl

end

namespace Document

variable {document other : Document} {value : Value}

/-- A document without places has the same value. -/
theorem value_bare : (document.bare true).value = .ok value ↔ document.value = .ok value := by
  have hfaulty : (document.bare true).faulty = document.faulty := rfl
  rw [Document.value, Document.value, root_bare, Node.value_bare, hfaulty]
  cases document.root.value true with
  | error fault => exact ⟨nofun, nofun⟩
  | ok value => rfl

end Document

/-! ## Blank documents -/

/-- Only the tag for nothing makes a scalar with a form nothing. -/
theorem FormTag.isNull_of_atom? {form : FormTag} {text : String} {atom : Atom} {value : Value}
    (hatom : form.atom? text = some atom) (hvalue : atom.value = .ok value) :
    value.isNull = decide (form = .null) := by
  cases form with
  | bool =>
    obtain ⟨b, -, rfl⟩ := Option.map_eq_some_iff.1 hatom
    obtain rfl := Except.ok.inj hvalue
    rfl
  -- A number out of range is read as a fault, and so has no value.
  | int =>
    obtain ⟨n, -, hn⟩ := Option.bind_eq_some_iff.1 hatom
    split_ifs at hn
    · obtain rfl := Option.some.inj hn
      obtain rfl := Except.ok.inj hvalue
      rfl
    · obtain rfl := Option.some.inj hn
      cases hvalue
  | float =>
    obtain ⟨x, -, rfl⟩ := Option.map_eq_some_iff.1 hatom
    obtain rfl := Except.ok.inj hvalue
    rfl
  | null =>
    obtain ⟨-, hatom⟩ := Option.ite_none_right_eq_some.1 hatom
    obtain rfl := Option.some.inj hatom
    obtain rfl := Except.ok.inj hvalue
    rfl

/-- Whether a scalar that is not plain is nothing is up to its tag. -/
theorem isNull_of_scalarValue {tag : Option String} {text : String} {value : Value}
    (h : scalarValue tag text false = .ok value) :
    value.isNull = decide (∃ name ∈ tag, localTag? name = none ∧ FormTag.ofTag? name = some .null) := by
  cases tag with
  | none =>
    obtain rfl := Except.ok.inj h
    rfl
  | some name =>
    have htag : decide (∃ name' ∈ some name, localTag? name' = none ∧
        FormTag.ofTag? name' = some .null) =
        decide (localTag? name = none ∧ FormTag.ofTag? name = some .null) := by simp
    rw [htag]
    unfold scalarValue at h
    dsimp only at h
    -- A local tag makes a tagged value, and a tag without a form a text; neither is nothing.
    cases hlocal : localTag? name with
    | some label =>
      rw [hlocal] at h
      obtain rfl := Except.ok.inj h
      rfl
    | none =>
      rw [hlocal] at h
      cases hform : FormTag.ofTag? name with
      | none =>
        rw [hform] at h
        obtain rfl := Except.ok.inj h
        rfl
      | some form =>
        rw [hform] at h
        dsimp only at h
        split at h
        · rename_i atom hatom
          simpa using FormTag.isNull_of_atom? hatom h
        · cases h

theorem isNull_withTag {tag : Option String} {value : Value} :
    (withTag tag value).isNull = value.isNull := by
  unfold withTag
  split <;> rfl

theorem Node.isNull_sequence {unique : Bool} {tag : Option String} {nodes : List Node} {value : Value}
    (h : (Node.sequence tag nodes).value unique = .ok value) : value.isNull = false := by
  rw [Node.value] at h
  split at h
  · obtain rfl := Except.ok.inj h
    exact isNull_withTag
  · cases h

theorem Node.isNull_mapping {unique : Bool} {tag : Option String} {mark : Mark}
    {pairs : List (Node × Node)} {value : Value}
    (h : (Node.mapping tag mark pairs).value unique = .ok value) : value.isNull = false := by
  rw [Node.value] at h
  split at h
  · obtain rfl := Except.ok.inj h
    exact isNull_withTag
  · cases h

/-- The texts of scalars that are not plain do not decide whether a node is blank. -/
theorem Node.isNull_of_bare {unique : Bool} {node node' : Node} {value value' : Value}
    (hbare : node.bare false = node'.bare false) (h : node.value unique = .ok value)
    (h' : node'.value unique = .ok value') : value.isNull = value'.isNull := by
  cases node with
  | scalar tag mark text plain =>
    cases node' with
    | scalar tag' mark' text' plain' =>
      obtain ⟨rfl, -, htext, rfl⟩ := Node.scalar.inj hbare
      have h := mapError_eq_ok_iff.1 h
      have h' := mapError_eq_ok_iff.1 h'
      cases plain with
      | true =>
        -- The text of a plain scalar counts.
        obtain rfl : text = text' := htext
        exact congrArg Value.isNull (Except.ok.inj (h.symm.trans h'))
      | false => rw [isNull_of_scalarValue h, isNull_of_scalarValue h']
    | _ => cases hbare
  | sequence tag nodes =>
    cases node' with
    | sequence tag' nodes' => rw [Node.isNull_sequence h, Node.isNull_sequence h']
    | _ => cases hbare
  | mapping tag mark pairs =>
    cases node' with
    | mapping tag' mark' pairs' => rw [Node.isNull_mapping h, Node.isNull_mapping h']
    | _ => cases hbare
  | broken => cases h

theorem Document.isNull_of_bare {document other : Document} {value value' : Value}
    (hbare : document.bare false = other.bare false) (h : document.value = .ok value)
    (h' : other.value = .ok value') : value.isNull = value'.isNull := by
  have hroot : document.root.bare false = other.root.bare false := by rw [← root_bare, hbare, root_bare]
  obtain ⟨root, hvalue, h⟩ := bind_eq_ok_iff.1 h
  obtain ⟨root', hvalue', h'⟩ := bind_eq_ok_iff.1 h'
  split_ifs at h h'
  obtain rfl := Except.ok.inj h
  obtain rfl := Except.ok.inj h'
  exact Node.isNull_of_bare hroot hvalue hvalue'

end StreamPlan.Yaml
