import StreamPlan.Config.Flatten
import StreamPlan.Proofs.Data.Except
import StreamPlan.Proofs.Data.SortedMap
import StreamPlan.Proofs.Text.Parts

/-!
# What flattening a YAML mapping gives

Flattening walks over a value with the dotted path of the keys above it, and writes what it finds under
that path over whatever stands there. Different keys may be written to one place: a key may hold dots
itself, empty keys at the start of a path leave no trace in it, and `1` and `'1'` have the same text.
What remains is said here without the walk.

- `Yaml.Value.leaves`: the texts that a value holds, in the order of the document, with the keys that lead
  to them;
- `Config.flattenValue_eq_ok`: a value of the right shape is flattened by binding its leaves in order;
- `Config.exists_error_of_holds`: a part of the wrong shape is found wherever it is;
- `Config.ofYamlValue_mapping`: both together, with the last leaf of a key as its value.
-/

namespace StreamPlan

namespace Yaml.Value

/-! ## Shapes -/

/-- Neither a collection nor tagged. -/
def IsScalar : Value → Prop
  | .null | .bool _ | .number _ | .string _ => True
  | .sequence _ | .mapping _ | .tagged _ _ => False

/-- The text of a scalar. -/
def scalarText (value : Value) : String := value.scalarText?.getD ""

variable {value part : Value}

theorem scalarText?_of_isScalar (h : value.IsScalar) :
    value.scalarText? = some value.scalarText := by
  cases value with
  | null | bool _ | number _ | string _ => rfl
  | sequence _ | mapping _ | tagged _ _ => cases h

theorem scalarText?_of_not_isScalar (h : ¬value.IsScalar) : value.scalarText? = none := by
  cases value with
  | null | bool _ | number _ | string _ => exact absurd trivial h
  | sequence _ | mapping _ | tagged _ _ => rfl

/-- A value holds the parts that are reached from it through tags and the values of mappings. Keys and the
items of sequences are no parts. -/
inductive Holds : Value → Value → Prop
  /-- The value itself. -/
  | self (value : Value) : Holds value value
  /-- A part of what is tagged. -/
  | tagged {tag : String} {value part : Value} :
      Holds value part → Holds (.tagged tag value) part
  /-- A part of a value of a mapping. -/
  | pair {pairs : List (Value × Value)} {key value part : Value} :
      (key, value) ∈ pairs → Holds value part → Holds (.mapping pairs) part

/-- A mapping with a key that is no scalar, or a sequence with an item that is none. -/
inductive Misshapen : Value → Prop
  /-- The key of some pair is no scalar. -/
  | key {pairs : List (Value × Value)} {key value : Value} :
      (key, value) ∈ pairs → ¬key.IsScalar → Misshapen (.mapping pairs)
  /-- Some item is no scalar. -/
  | item {items : List Value} {item : Value} :
      item ∈ items → ¬item.IsScalar → Misshapen (.sequence items)

/-- No part of the value is misshapen. -/
def Sound (value : Value) : Prop := ∀ part, value.Holds part → ¬part.Misshapen

theorem Sound.untagged {tag : String} (h : (Value.tagged tag value).Sound) : value.Sound :=
  fun part hpart => h part (.tagged hpart)

theorem Sound.items {items : List Value} (h : (Value.sequence items).Sound) :
    ∀ item ∈ items, item.IsScalar :=
  fun _ hmem => Classical.byContradiction fun hitem => h _ (.self _) (.item hmem hitem)

theorem Sound.pairs {pairs : List (Value × Value)} (h : (Value.mapping pairs).Sound) :
    ∀ pair ∈ pairs, pair.1.IsScalar ∧ pair.2.Sound := by
  rintro ⟨key, value⟩ hmem
  refine ⟨Classical.byContradiction fun hkey => h _ (.self _) (.key hmem hkey), ?_⟩
  exact fun part hpart => h part (.pair hmem hpart)

/-! ## Leaves -/

/-- A text of a value. -/
structure Leaf where
  /-- The texts of the keys that lead to it, outermost first. -/
  path : List String
  /-- What stands there. -/
  text : String

/-- The leaf below one more key. -/
def Leaf.under (key : String) (leaf : Leaf) : Leaf := ⟨key :: leaf.path, leaf.text⟩

mutual

/-- The leaves of a value, in the order of the document. Tags do not count, and an empty mapping has no
leaves. -/
def leaves : Value → List Leaf
  | .mapping pairs => pairLeaves pairs
  | .tagged _ value => value.leaves
  | .sequence items => [⟨[], Text.join "," (items.map scalarText)⟩]
  -- What is left has neither keys nor items.
  | scalar => [⟨[], scalar.scalarText⟩]

/-- The leaves of the pairs of a mapping. -/
def pairLeaves : List (Value × Value) → List Leaf
  | [] => []
  | (key, value) :: pairs => value.leaves.map (Leaf.under key.scalarText) ++ pairLeaves pairs

end

theorem leaves_of_isScalar (h : value.IsScalar) : value.leaves = [⟨[], value.scalarText⟩] := by
  cases value with
  | null | bool _ | number _ | string _ => rfl
  | sequence _ | mapping _ | tagged _ _ => cases h

end Yaml.Value

namespace Config

open Yaml (Value)
open Yaml.Value (Leaf)

variable {key value part : Value} {pairs : List (Value × Value)} {items : List Value}

/-- The key of a path: its texts with dots between them, without the empty ones that it starts with. -/
def pathKey (path : List String) : String := Text.join "." (path.dropWhile (· = ""))

/-- The key that a leaf is written to. -/
def leafKey (leaf : Leaf) : String := pathKey leaf.path

/-- The last leaf of a value that is written to a key. -/
def lastLeaf? (value : Value) (key : String) : Option Leaf :=
  value.leaves.reverse.find? fun leaf => leafKey leaf = key

/-! ## Paths -/

theorem pathKey_eq_empty_iff {path : List String} :
    pathKey path = "" ↔ path.dropWhile (· = "") = [] := by
  constructor
  · intro h
    cases hdrop : path.dropWhile (· = "") with
    | nil => rfl
    | cons first rest =>
      -- What is left starts with a text, and a join that starts with a text is not empty.
      have hfirst : first ≠ "" := by
        have hnot := List.head?_dropWhile_not (fun key : String => decide (key = "")) path
        simpa [hdrop] using hnot
      rw [pathKey, hdrop] at h
      exact absurd h (Text.join_ne_empty rest hfirst)
  · intro h
    rw [pathKey, h]
    rfl

/-- The path of a key below a path, as the walk builds it, is the path with one more key. -/
theorem childPath_pathKey (path : List String) (key : String) :
    childPath (pathKey path) key = pathKey (path ++ [key]) := by
  rw [childPath]
  split
  · -- Nothing of the path is left, so that the key may be the first that counts, or be dropped too.
    rename_i hempty
    rw [pathKey, List.dropWhile_append, pathKey_eq_empty_iff.1 hempty]
    by_cases hkey : key = ""
    · simp [hkey, Text.join]
    · simp [hkey, Text.join]
  · rename_i hpath
    -- Something of the path is left, and the key comes after it, empty or not.
    have hne : path.dropWhile (· = "") ≠ [] := fun h => hpath (pathKey_eq_empty_iff.2 h)
    rw [pathKey, pathKey, List.dropWhile_append, if_neg (by simpa using hne), Text.join, Text.join,
      String.intercalate_append_of_ne_nil hne (List.cons_ne_nil key []), String.intercalate_singleton]

/-! ## Values of the right shape -/

/-- What a leaf binds below a path. -/
def leafBinding (path : List String) (leaf : Leaf) : String × String :=
  (pathKey (path ++ leaf.path), leaf.text)

theorem leafBinding_under (path : List String) (key : String) (leaf : Leaf) :
    leafBinding path (leaf.under key) = leafBinding (path ++ [key]) leaf := by
  rw [leafBinding, leafBinding, Leaf.under, List.append_assoc, List.singleton_append]

theorem insertAll_leafBinding_nil (config : Config) (path : List String) (text : String) :
    config.insertAll ([⟨[], text⟩].map (leafBinding path)) = config.insert (pathKey path) text := by
  rw [List.map_singleton, leafBinding, List.append_nil]
  rfl

theorem itemTexts_eq_ok (path : String) (h : ∀ item ∈ items, item.IsScalar) :
    itemTexts path items = .ok (items.map Value.scalarText) := by
  induction items with
  | nil => rfl
  | cons item items ih =>
    rw [itemTexts, Value.scalarText?_of_isScalar (h item List.mem_cons_self)]
    dsimp only
    rw [ih fun later hlater => h later (List.mem_cons_of_mem _ hlater)]
    rfl

theorem flattenValue_of_isScalar (path : String) (config : Config) (h : value.IsScalar) :
    flattenValue path value config = .ok (config.insert path value.scalarText) := by
  cases value with
  | null | bool _ | number _ | string _ => rfl
  | sequence _ | mapping _ | tagged _ _ => cases h

/-- A pair is flattened by flattening its value one key further down, and then the other pairs. -/
theorem flattenPairs_cons (path : String) (config : Config) (h : key.IsScalar) :
    flattenPairs path ((key, value) :: pairs) config =
      flattenValue (childPath path key.scalarText) value config >>= flattenPairs path pairs := by
  rw [flattenPairs, Value.scalarText?_of_isScalar h]
  dsimp only
  cases flattenValue (childPath path key.scalarText) value config <;> rfl

theorem flattenScalar_eq_ok (path : List String) (config : Config) (h : value.IsScalar) :
    flattenValue (pathKey path) value config =
      .ok (config.insertAll (value.leaves.map (leafBinding path))) := by
  rw [flattenValue_of_isScalar _ _ h, Value.leaves_of_isScalar h, insertAll_leafBinding_nil]

mutual

/-- A sound value is flattened by binding its leaves in the order of the document. -/
theorem flattenValue_eq_ok (path : List String) (config : Config) : (value : Value) → value.Sound →
    flattenValue (pathKey path) value config =
      .ok (config.insertAll (value.leaves.map (leafBinding path)))
  -- Along the value, and for a mapping along its pairs. A tag leaves the path as it is.
  | .mapping pairs, h => flattenPairs_eq_ok path config pairs h.pairs
  | .tagged _ value, h => flattenValue_eq_ok path config value h.untagged
  | .sequence items, h => by
    rw [flattenValue, itemTexts_eq_ok _ h.items, Value.leaves, insertAll_leafBinding_nil]
    rfl
  | .null, _ => flattenScalar_eq_ok path config trivial
  | .bool _, _ => flattenScalar_eq_ok path config trivial
  | .number _, _ => flattenScalar_eq_ok path config trivial
  | .string _, _ => flattenScalar_eq_ok path config trivial

theorem flattenPairs_eq_ok (path : List String) (config : Config) :
    (pairs : List (Value × Value)) → (∀ pair ∈ pairs, pair.1.IsScalar ∧ pair.2.Sound) →
    flattenPairs (pathKey path) pairs config =
      .ok (config.insertAll ((Value.pairLeaves pairs).map (leafBinding path)))
  | [], _ => rfl
  | (key, value) :: pairs, h => by
    obtain ⟨hkey, hvalue⟩ := h (key, value) List.mem_cons_self
    have hrest : ∀ pair ∈ pairs, pair.1.IsScalar ∧ pair.2.Sound :=
      fun pair hmem => h pair (List.mem_cons_of_mem _ hmem)
    -- The walk goes one key down for the value and comes back for the other pairs.
    have hunder : (value.leaves.map (Leaf.under key.scalarText)).map (leafBinding path) =
        value.leaves.map (leafBinding (path ++ [key.scalarText])) := by
      rw [List.map_map]
      exact List.map_congr_left fun leaf _ => leafBinding_under path key.scalarText leaf
    rw [flattenPairs_cons _ _ hkey, childPath_pathKey, flattenValue_eq_ok _ config value hvalue,
      ok_bind, flattenPairs_eq_ok path _ pairs hrest, Value.pairLeaves, List.map_append, hunder,
      SortedMap.insertAll_append]

end

/-! ## Values of the wrong shape -/

theorem itemTexts_eq_error (path : String) {item : Value} (hmem : item ∈ items)
    (hitem : ¬item.IsScalar) : itemTexts path items = .error (.nonScalarItem path) := by
  induction items with
  | nil => cases hmem
  | cons first items ih =>
    rw [itemTexts]
    by_cases hfirst : first.IsScalar
    -- The items before the one in question are read, and then the walk reaches it.
    · obtain rfl | hmem := List.mem_cons.1 hmem
      · exact absurd hfirst hitem
      · rw [Value.scalarText?_of_isScalar hfirst, ih hmem]
        rfl
    · rw [Value.scalarText?_of_not_isScalar hfirst]

/-- A pair whose key is no scalar, or whose value cannot be flattened anywhere, spoils its mapping. -/
theorem exists_error_of_pair (hmem : (key, value) ∈ pairs)
    (hpair : key.IsScalar → ∀ path config, ∃ fault, flattenValue path value config = .error fault)
    (path : String) (config : Config) : ∃ fault, flattenPairs path pairs config = .error fault := by
  induction pairs generalizing config with
  | nil => cases hmem
  | cons first pairs ih =>
    obtain ⟨firstKey, firstValue⟩ := first
    -- The pairs before the one in question may be at fault themselves, which is as good.
    by_cases hscalar : firstKey.IsScalar
    · rw [flattenPairs_cons _ _ hscalar]
      cases hfirst : flattenValue (childPath path firstKey.scalarText) firstValue config with
      | error fault => exact ⟨fault, rfl⟩
      | ok next =>
        rw [ok_bind]
        obtain heq | hmem := List.mem_cons.1 hmem
        · -- The first pair is the one in question, so its value cannot have been flattened.
          obtain ⟨rfl, rfl⟩ := Prod.mk.inj heq
          obtain ⟨fault, hfault⟩ := hpair hscalar (childPath path key.scalarText) config
          cases hfault.symm.trans hfirst
        · exact ih hmem next
    · refine ⟨.nonScalarKey path, ?_⟩
      rw [flattenPairs, Value.scalarText?_of_not_isScalar hscalar]

/-- A value that holds a misshapen part cannot be flattened, wherever the part is. -/
theorem exists_error_of_holds (h : value.Holds part) (hpart : part.Misshapen) (path : String)
    (config : Config) : ∃ fault, flattenValue path value config = .error fault := by
  -- The induction is on the way to the part. At its end the part itself is refused, and every tag and
  -- every mapping on the way passes the refusal on.
  induction h generalizing path config with
  | self value =>
    cases hpart with
    | key hmem hkey => exact exists_error_of_pair hmem (fun hscalar => absurd hscalar hkey) path config
    | item hmem hitem =>
      refine ⟨.nonScalarItem path, ?_⟩
      rw [flattenValue, itemTexts_eq_error path hmem hitem]
      rfl
  | tagged _ ih => exact ih hpart path config
  | pair hmem _ ih => exact exists_error_of_pair hmem (fun _ => ih hpart) path config

/-! ## Mappings -/

theorem get?_insertAll_leaves (leaves : List Leaf) (key : String) :
    (SortedMap.empty.insertAll (leaves.map (leafBinding []))).get? key =
      (leaves.reverse.find? fun leaf => leafKey leaf = key).map Leaf.text := by
  -- The last binding of a key stands, which is the first one from the end.
  rw [SortedMap.get?_insertAll, SortedMap.get?_empty, Option.or_none, Entries.get?_eq_find?,
    ← List.map_reverse, List.find?_map, Option.map_map]
  rfl

/-- What flattening a mapping gives:

- it fails exactly if the mapping holds a mapping with a key that is no untagged scalar, or a sequence
  with an item that is none;
- otherwise each key has the text of the last leaf, in the order of the document, whose path is written to
  that key, and no value if there is no such leaf. -/
theorem ofYamlValue_mapping (pairs : List (Value × Value)) :
    ((∃ fault, ofYamlValue (.mapping pairs) = .error fault) ↔
      ∃ part, (Value.mapping pairs).Holds part ∧ part.Misshapen) ∧
    ∀ config, ofYamlValue (.mapping pairs) = .ok config →
      ∀ key, config.get? key = (lastLeaf? (.mapping pairs) key).map Leaf.text := by
  have hok (hsound : (Value.mapping pairs).Sound) : ofYamlValue (.mapping pairs) =
      .ok (SortedMap.empty.insertAll ((Value.mapping pairs).leaves.map (leafBinding []))) :=
    flattenValue_eq_ok [] SortedMap.empty (.mapping pairs) hsound
  have herror {part : Value} (hholds : (Value.mapping pairs).Holds part) (hpart : part.Misshapen) :
      ∃ fault, ofYamlValue (.mapping pairs) = .error fault :=
    exists_error_of_holds hholds hpart "" SortedMap.empty
  -- The mapping is sound or holds a misshapen part, and either way it is known how flattening ends.
  refine ⟨⟨?_, fun ⟨part, hholds, hpart⟩ => herror hholds hpart⟩, ?_⟩
  · rintro ⟨fault, hfault⟩
    by_contra hnone
    have hsound : (Value.mapping pairs).Sound := fun part hholds hpart => hnone ⟨part, hholds, hpart⟩
    cases hfault.symm.trans (hok hsound)
  · intro config hconfig key
    have hsound : (Value.mapping pairs).Sound := by
      intro part hholds hpart
      obtain ⟨fault, hfault⟩ := herror hholds hpart
      cases hfault.symm.trans hconfig
    obtain rfl := Except.ok.inj (hconfig.symm.trans (hok hsound))
    exact get?_insertAll_leaves _ key

/-- Pairs whose leaves meet: below an empty key, across a tag, by a dot within a key, and as a number and
its text. -/
def meetingPairs : List (Value × Value) := [
  (.string "", .mapping [(.string "a", .sequence [.number (.int 1), .null])]),
  (.string "a", .tagged "t" (.mapping [(.string "b", .bool true)])),
  (.string "a.b", .string "x"),
  (.number (.int 7), .string "seven"),
  (.string "7", .null),
  (.string "nothing", .mapping [])]

/-- The last of the leaves that meet decides, and a tag is no fault on a value but one on an item. -/
theorem ofYamlValue_mapping_meetingPairs :
    (∃ config, ofYamlValue (.mapping meetingPairs) = .ok config ∧ config.get? "a" = some "1," ∧
      config.get? "a.b" = some "x" ∧ config.get? "7" = some "" ∧ config.get? "nothing" = none) ∧
    ∃ fault, ofYamlValue (.mapping [(.string "a", .sequence [.tagged "t" .null])]) = .error fault := by
  constructor
  · have hsome : (ofYamlValue (.mapping meetingPairs)).toOption.isSome = true := by decide +kernel
    obtain ⟨config, hconfig⟩ := Option.isSome_iff_exists.1 hsome
    rw [toOption_eq_some_iff] at hconfig
    have hget := (ofYamlValue_mapping meetingPairs).2 config hconfig
    refine ⟨config, hconfig, (hget "a").trans ?_, (hget "a.b").trans ?_, (hget "7").trans ?_,
      (hget "nothing").trans ?_⟩
    · decide +kernel
    · decide +kernel
    · decide +kernel
    · decide +kernel
  · refine (ofYamlValue_mapping _).1.2 ⟨.sequence [.tagged "t" .null], ?_, ?_⟩
    · exact .pair List.mem_cons_self (.self _)
    · exact .item List.mem_cons_self id

end Config

end StreamPlan
