import StreamPlan.Text.Quoted
import StreamPlan.Yaml.Node
import StreamPlan.Yaml.Schema

/-!
# YAML values

What a YAML document denotes. A mapping keeps the order of the text and has every key once; a local
tag stays with the value it is written on.
-/

namespace StreamPlan.Yaml

/-- What a node denotes. -/
inductive Value where
  /-- Nothing. -/
  | null
  /-- A truth value. -/
  | bool (b : Bool)
  /-- A number. -/
  | number (n : Number)
  /-- A text. -/
  | string (s : String)
  /-- A list of values. -/
  | sequence (items : List Value)
  /-- Pairs of key and value, in the order of the text. -/
  | mapping (pairs : List (Value × Value))
  /-- A value with a local tag. -/
  | tagged (tag : String) (value : Value)
  deriving Inhabited

namespace Value

mutual

/-- Whether two values are the same key. The order of a mapping's pairs does not count. -/
def same : Value → Value → Bool
  | .null, .null => true
  | .bool a, .bool b => a == b
  | .number a, .number b => a.same b
  | .string a, .string b => a == b
  | .sequence a, .sequence b => sameItems a b
  | .mapping a, .mapping b => a.length == b.length && samePairs a b
  | .tagged s a, .tagged t b => s == t && same a b
  | _, _ => false

/-- Whether two lists of values are the same, item by item. -/
def sameItems : List Value → List Value → Bool
  | [], [] => true
  | a :: as, b :: bs => same a b && sameItems as bs
  | _, _ => false

/-- Whether every pair of a list occurs in another. -/
def samePairs : List (Value × Value) → List (Value × Value) → Bool
  | [], _ => true
  | (key, value) :: pairs, others =>
    (others.any fun other => same key other.1 && same value other.2) && samePairs pairs others

end

/-- Numbers are written out in full when the first digit stands for a power of ten from -5 to 15;
otherwise with an exponent that has no plus sign. -/
def decimalStyle : Decimal.Style where
  positional e := -5 ≤ e && e ≤ 15
  plus := ""
  infinity := ".inf"
  nan := ".nan"

/-- The text of a truth value. -/
def boolText (b : Bool) : String := if b then "true" else "false"

/-- The text of a value that is neither a collection nor tagged. -/
def scalarText? : Value → Option String
  | .null => some ""
  | .bool b => some (boolText b)
  | .number n => some (n.text decimalStyle)
  | .string s => some s
  | _ => none

mutual

/-- How a message shows a value. -/
def shown : Value → String
  | .null => "Null"
  | .bool b => "Bool(" ++ boolText b ++ ")"
  | .number n => "Number(" ++ n.text decimalStyle ++ ")"
  | .string s => "String(" ++ Text.quoted s ++ ")"
  | .sequence items => "Sequence [" ++ Text.join ", " (shownItems items) ++ "]"
  | .mapping pairs => "Mapping \x7b" ++ Text.join ", " (shownPairs pairs) ++ "\x7d"
  | .tagged tag value =>
    "TaggedValue \x7b tag: !" ++ tag ++ ", value: " ++ shown value ++ " \x7d"

/-- How a message shows the values of a list. -/
def shownItems : List Value → List String
  | [] => []
  | item :: items => shown item :: shownItems items

/-- How a message shows the pairs of a mapping. Texts, truth values and numbers are shown bare as
keys. -/
def shownPairs : List (Value × Value) → List String
  | [] => []
  | (key, value) :: pairs =>
    let shownKey := match key with
      | .string s => Text.quoted s
      | .bool b => boolText b
      | .number n => n.text decimalStyle
      | key => shown key
    (shownKey ++ ": " ++ shown value) :: shownPairs pairs

end

end Value

/-- Whether a value is nothing, with or without a tag. -/
def Value.isNull : Value → Bool
  | .null => true
  | .tagged _ value => value.isNull
  | _ => false

/-- Why a node denotes no value. -/
inductive NodeFault where
  /-- A mapping repeats a key, which is given as it was first written. -/
  | repeatedKey (key : Value)
  /-- A scalar has not the form that its tag asks for. -/
  | wrongForm (text : String) (form : FormTag)
  /-- A whole number is out of range. -/
  | outOfRange (n : Int)

/-- The text of a fault. -/
def NodeFault.message : NodeFault → String
  | .repeatedKey .null => "duplicate entry with null key"
  | .repeatedKey (.bool b) => "duplicate entry with key `" ++ Value.boolText b ++ "`"
  | .repeatedKey (.number n) => "duplicate entry with key " ++ n.text Value.decimalStyle
  | .repeatedKey (.string s) => "duplicate entry with key " ++ Text.quoted s
  | .repeatedKey _ => "duplicate entry in YAML map"
  | .wrongForm text form => "invalid value: string " ++ Text.quoted text ++ ", expected " ++ form.noun
  | .outOfRange n =>
    "invalid type: integer `" ++ Decimal.intText n ++ "` as " ++ (if n < 0 then "i128" else "u128") ++
      ", expected any YAML value"

/-- Why a document denotes no value. -/
inductive Fault where
  /-- The text is not well formed or nests too deeply. -/
  | malformed
  /-- A node denotes no value; the mark is where it starts. -/
  | node (fault : NodeFault) (mark : Mark)

/-- The text of a fault. The fault of a node is told where the node opens the text; every other fault is
only marked as one. -/
def Fault.message : Fault → String
  | .malformed => "<yaml>"
  | .node fault mark => if mark.isStart then fault.message else "<yaml>"

/-- What a scalar denotes as a value. -/
def Atom.value : Atom → Except NodeFault Value
  | .null => .ok .null
  | .bool b => .ok (.bool b)
  | .number n => .ok (.number n)
  | .string s => .ok (.string s)
  | .outOfRange n => .error (.outOfRange n)

/-- What a scalar denotes. A local tag stays on the value, and a tag that is neither local nor asks for
a form makes the scalar a text. -/
def scalarValue (tag : Option String) (text : String) (plain : Bool) : Except NodeFault Value :=
  let untagged : Except NodeFault Value :=
    if plain then (plainAtom text).value else .ok (.string text)
  match tag with
  | none => untagged
  | some tag =>
    match localTag? tag, FormTag.ofTag? tag with
    | some name, _ => untagged.map (.tagged name)
    | none, none => .ok (.string text)
    | none, some form =>
      match form.atom? text with
      | some atom => atom.value
      | none => .error (.wrongForm text form)

/-- The value of a collection with its tag, if the tag is local. -/
def withTag (tag : Option String) (value : Value) : Value :=
  match tag.bind localTag? with
  | some name => .tagged name value
  | none => value

mutual

/-- What a node denotes. With `unique` a mapping must not repeat a key. -/
def Node.value (unique : Bool) : Node → Except Fault Value
  | .scalar tag mark text plain => (scalarValue tag text plain).mapError (.node · mark)
  | .sequence tag nodes =>
    match nodeValues unique nodes with
    | .ok items => .ok (withTag tag (.sequence items))
    | .error fault => .error fault
  | .mapping tag mark pairs =>
    match pairValues unique mark [] pairs with
    | .ok pairs => .ok (withTag tag (.mapping pairs))
    | .error fault => .error fault
  | .broken => .error .malformed

/-- What the nodes of a sequence denote. -/
def nodeValues (unique : Bool) : List Node → Except Fault (List Value)
  | [] => .ok []
  | node :: nodes =>
    match node.value unique with
    | .error fault => .error fault
    | .ok item =>
      match nodeValues unique nodes with
      | .error fault => .error fault
      | .ok items => .ok (item :: items)

/-- What the pairs of a mapping denote, after the given keys. A repeated key is found before its value
is looked at, and is reported as it was first written. -/
def pairValues (unique : Bool) (mark : Mark) : (keys : List Value) → List (Node × Node) →
    Except Fault (List (Value × Value))
  | _, [] => .ok []
  | keys, (keyNode, valueNode) :: pairs =>
    match keyNode.value unique with
    | .error fault => .error fault
    | .ok key =>
      match if unique then keys.find? key.same else none with
      | some earlier => .error (.node (.repeatedKey earlier) mark)
      | none =>
        match valueNode.value unique with
        | .error fault => .error fault
        | .ok value =>
          match pairValues unique mark (key :: keys) pairs with
          | .error fault => .error fault
          | .ok pairs => .ok ((key, value) :: pairs)

end

/-- What a document denotes. -/
def Document.value (document : Document) : Except Fault Value := do
  let value ← document.root.value true
  if document.faulty then .error .malformed else .ok value

/-- What a text with a single document denotes. -/
def parse (text : String) : Except Fault Value :=
  match documents text with
  | [document] => document.value
  | _ => .error .malformed

end StreamPlan.Yaml
