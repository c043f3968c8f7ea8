/-!
# Maps in key order

A map from texts to values, held as its entries in ascending key order. Keys are compared by code
point. The order is part of the type, so two maps with the same entries are equal and every
listing of a map is reproducible.
-/

namespace StreamPlan

universe u v

namespace Entries

variable {α : Type u} {β : Type v}

/-- Entries in strictly ascending key order. -/
def Sorted (entries : List (String × α)) : Prop := entries.Pairwise fun a b => a.1 < b.1

/-- The entries with `key` bound to `value`, in the place where the order wants it. -/
def insert (key : String) (value : α) : List (String × α) → List (String × α)
  | [] => [(key, value)]
  | entry :: rest =>
    if key < entry.1 then (key, value) :: entry :: rest
    else if key = entry.1 then (key, value) :: rest
    else entry :: insert key value rest

/-- The entries of a list's bindings, in order; of several for one key the last stands. -/
def ofList (bindings : List (String × α)) : List (String × α) :=
  bindings.foldl (fun acc binding => insert binding.1 binding.2 acc) []

/-- The value bound to `key`. -/
def get? (key : String) : List (String × α) → Option α
  | [] => none
  | entry :: rest => if entry.1 = key then some entry.2 else get? key rest

theorem mem_insert {key : String} {value : α} {entry : String × α} :
    ∀ {entries : List (String × α)}, entry ∈ insert key value entries →
      entry = (key, value) ∨ entry ∈ entries
  | [], h => by simpa [insert] using h
  | first :: rest, h => by
    rw [insert] at h
    split at h
    · simpa using h
    · split at h
      · rcases List.mem_cons.1 h with h | h
        · exact .inl h
        · exact .inr (List.mem_cons_of_mem _ h)
      · rcases List.mem_cons.1 h with h | h
        · exact .inr (h ▸ List.mem_cons_self)
        · exact (mem_insert h).imp id (List.mem_cons_of_mem _)

theorem sorted_insert (key : String) (value : α) :
    ∀ {entries : List (String × α)}, Sorted entries → Sorted (insert key value entries)
  | [], _ => by simp [insert, Sorted]
  | first :: rest, h => by
    obtain ⟨hfirst, hrest⟩ := List.pairwise_cons.1 h
    rw [insert]
    split
    · rename_i hlt
      refine List.pairwise_cons.2 ⟨fun entry hmem => ?_, h⟩
      rcases List.mem_cons.1 hmem with rfl | hmem
      · exact hlt
      · exact String.lt_trans hlt (hfirst entry hmem)
    · split
      · rename_i heq
        exact List.pairwise_cons.2 ⟨fun entry hmem => heq ▸ hfirst entry hmem, hrest⟩
      · rename_i hlt hne
        refine List.pairwise_cons.2 ⟨fun entry hmem => ?_, sorted_insert key value hrest⟩
        rcases mem_insert hmem with rfl | hmem
        · exact Std.lt_of_le_of_ne (Std.not_lt.1 hlt) (Ne.symm hne)
        · exact hfirst entry hmem

end Entries

/-- A map from texts to values, with its entries in ascending key order. -/
structure SortedMap (α : Type u) where
  /-- The entries, least key first. -/
  entries : List (String × α)
  /-- Keys ascend strictly, so each occurs once. -/
  sorted : Entries.Sorted entries
  deriving DecidableEq

namespace SortedMap

variable {α : Type u}

/-- The map without entries. -/
def empty : SortedMap α := ⟨[], List.Pairwise.nil⟩

instance : Inhabited (SortedMap α) := ⟨empty⟩

/-- The value bound to a key. -/
def get? (map : SortedMap α) (key : String) : Option α := Entries.get? key map.entries

/-- Whether a key is bound. -/
def contains (map : SortedMap α) (key : String) : Bool := (map.get? key).isSome

/-- The map with a key bound to a value; an earlier value of the key is replaced. -/
def insert (map : SortedMap α) (key : String) (value : α) : SortedMap α :=
  ⟨Entries.insert key value map.entries, Entries.sorted_insert key value map.sorted⟩

/-- The map without the entries of which `keep` is false. -/
def filter (map : SortedMap α) (keep : String → α → Bool) : SortedMap α :=
  ⟨map.entries.filter fun entry => keep entry.1 entry.2, map.sorted.filter _⟩

/-- The map without a key. -/
def erase (map : SortedMap α) (key : String) : SortedMap α := map.filter fun k _ => k != key

/-- The map with all of a list's bindings made in order, so that the last of a key stands. -/
def insertAll (map : SortedMap α) (bindings : List (String × α)) : SortedMap α :=
  bindings.foldl (fun acc binding => acc.insert binding.1 binding.2) map

/-- The map of a list's bindings; of several for one key the last stands. -/
def ofList (bindings : List (String × α)) : SortedMap α := empty.insertAll bindings

/-- The map laid under `top`: where both bind a key, `top` decides. -/
def overlay (base top : SortedMap α) : SortedMap α := base.insertAll top.entries

/-- The keys, least first. -/
def keys (map : SortedMap α) : List String := map.entries.map Prod.fst

/-- The values, in the order of their keys. -/
def values (map : SortedMap α) : List α := map.entries.map Prod.snd

/-- The number of entries. -/
def size (map : SortedMap α) : Nat := map.entries.length

/-- Whether there are no entries. -/
def isEmpty (map : SortedMap α) : Bool := map.entries.isEmpty

end SortedMap

end StreamPlan
