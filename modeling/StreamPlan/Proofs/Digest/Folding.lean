import StreamPlan.Digest.Fingerprint
import Mathlib.Algebra.BigOperators.Group.Finset.Basic

/-!
# Folding fingerprints

Under exclusive or fingerprints are a commutative monoid in which each one cancels itself
(`combine_self`), and folding parts is summing them up (`ofParts_eq_sum`). A sum depends only on how
often each term occurs in it, and here only on whether that is an odd number of times
(`ofParts_eq_of_count_mod_two`). The main result, `ofParts_perm_oddParts_append`, says what this means for
a single part, for the order of parts, for parts that are repeated and for parts that are folded in two
groups.
-/

namespace StreamPlan.Fingerprint

/-! ## Exclusive or -/

section Combine

variable (a b c : Fingerprint)

@[ext]
theorem ext_bytes {a b : Fingerprint} (h : ∀ i (hi : i < 32), a.bytes[i] = b.bytes[i]) : a = b := by
  cases a
  cases b
  exact congrArg mk (Vector.ext h)

theorem getElem_bytes_combine {i : Nat} (hi : i < 32) :
    (a.combine b).bytes[i] = a.bytes[i] ^^^ b.bytes[i] :=
  Vector.getElem_zipWith ..

theorem getElem_bytes_zero {i : Nat} (hi : i < 32) : zero.bytes[i] = 0 :=
  Vector.getElem_replicate ..

theorem combine_assoc : (a.combine b).combine c = a.combine (b.combine c) := by
  ext i hi : 1
  simp only [getElem_bytes_combine, UInt8.xor_assoc]

theorem combine_comm : a.combine b = b.combine a := by
  ext i hi : 1
  rw [getElem_bytes_combine, getElem_bytes_combine, UInt8.xor_comm]

theorem zero_combine : zero.combine a = a := by
  ext i hi : 1
  rw [getElem_bytes_combine, getElem_bytes_zero, UInt8.zero_xor]

theorem combine_self : a.combine a = zero := by
  ext i hi : 1
  rw [getElem_bytes_combine, getElem_bytes_zero, UInt8.xor_self]

instance : Zero Fingerprint := ⟨zero⟩

instance : Add Fingerprint := ⟨combine⟩

/-- With `combine` for addition, what is known of finite sums holds of folded parts. -/
instance : AddCommMonoid Fingerprint where
  add_assoc := combine_assoc
  add_comm := combine_comm
  zero_add := zero_combine
  add_zero a := (combine_comm a zero).trans (zero_combine a)
  nsmul := nsmulRec

end Combine

/-! ## Parts -/

variable {parts others : List Fingerprint}

theorem ofParts_eq_sum (parts : List Fingerprint) : ofParts parts = parts.sum :=
  List.sum_eq_foldl.symm

theorem ofParts_singleton (part : Fingerprint) : ofParts [part] = part := zero_combine part

theorem ofParts_append (parts more : List Fingerprint) :
    ofParts (parts ++ more) = (ofParts parts).combine (ofParts more) := by
  rw [ofParts_eq_sum, ofParts_eq_sum, ofParts_eq_sum, List.sum_append]
  rfl

/-- Of the occurrences of a part any two cancel, so that only one can be left. -/
theorem count_nsmul_eq (part : Fingerprint) (count : Nat) : count • part = (count % 2) • part :=
  nsmul_eq_mod_nsmul count ((two_nsmul part).trans (combine_self part))

/-- Parts fold to the same if each occurs in both lists an odd or in both lists an even number of
times. -/
theorem ofParts_eq_of_count_mod_two
    (h : ∀ part, parts.count part % 2 = others.count part % 2) : ofParts parts = ofParts others := by
  -- Both are sums over whatever occurs in either list.
  have hparts : parts.toFinset ⊆ (parts ++ others).toFinset := by
    rw [List.toFinset_append]
    exact Finset.subset_union_left
  have hothers : others.toFinset ⊆ (parts ++ others).toFinset := by
    rw [List.toFinset_append]
    exact Finset.subset_union_right
  rw [ofParts_eq_sum, ofParts_eq_sum, Finset.sum_list_count_of_subset parts _ hparts,
    Finset.sum_list_count_of_subset others _ hothers]
  refine Finset.sum_congr rfl fun part _ => ?_
  rw [count_nsmul_eq part (parts.count part), h, ← count_nsmul_eq]

/-- One copy of each part that occurs an odd number of times. -/
def oddParts (parts : List Fingerprint) : List Fingerprint :=
  parts.dedup.filter fun part => parts.count part % 2 = 1

theorem count_oddParts (parts : List Fingerprint) (part : Fingerprint) :
    (oddParts parts).count part = parts.count part % 2 := by
  have hnodup : (oddParts parts).Nodup := parts.nodup_dedup.filter _
  have hmem : part ∈ oddParts parts ↔ parts.count part % 2 = 1 := by
    simp only [oddParts, List.mem_filter, List.mem_dedup, decide_eq_true_eq, and_iff_right_iff_imp]
    -- What does not occur at all occurs an even number of times.
    intro hodd
    exact List.count_pos_iff.1 (by omega)
  rw [hnodup.count]
  split
  · rename_i hpart
    exact (hmem.1 hpart).symm
  · rename_i hpart
    have hne := mt hmem.2 hpart
    omega

/-- A part alone folds to itself, and parts may be folded in any order and in two groups. Of each part
that occurs an odd number of times one copy counts, and the other parts do not count at all. -/
theorem ofParts_perm_oddParts_append (parts : List Fingerprint) :
    (∀ part, ofParts [part] = part) ∧
    (∀ others, parts.Perm others → ofParts others = ofParts parts) ∧
    (∀ part, (oddParts parts).count part = parts.count part % 2) ∧
    ofParts (oddParts parts) = ofParts parts ∧
    ∀ more, ofParts (parts ++ more) = (ofParts parts).combine (ofParts more) := by
  refine ⟨ofParts_singleton, ?_, count_oddParts parts, ?_, ofParts_append parts⟩
  · intro others hperm
    refine ofParts_eq_of_count_mod_two fun part => ?_
    rw [hperm.count_eq]
  · refine ofParts_eq_of_count_mod_two fun part => ?_
    rw [count_oddParts, Nat.mod_mod]

/-- A fingerprint of one byte again and again. -/
def filled (byte : UInt8) : Fingerprint := ⟨Vector.replicate 32 byte⟩

theorem ofParts_perm_oddParts_append_filled :
    [filled 5, filled 3, filled 5].Perm [filled 5, filled 5, filled 3] ∧
      ofParts [filled 5, filled 5, filled 3] = ofParts [filled 5, filled 3, filled 5] ∧
      oddParts [filled 5, filled 3, filled 5] = [filled 3] ∧
      ofParts [filled 5, filled 3, filled 5] = filled 3 := by
  have hperm : [filled 5, filled 3, filled 5].Perm [filled 5, filled 5, filled 3] :=
    .cons _ (.swap _ _ _)
  have hodd : oddParts [filled 5, filled 3, filled 5] = [filled 3] := by decide +kernel
  obtain ⟨halone, horder, -, hrepeated, -⟩ :=
    ofParts_perm_oddParts_append [filled 5, filled 3, filled 5]
  rw [hodd, halone] at hrepeated
  exact ⟨hperm, horder _ hperm, hodd, hrepeated.symm⟩

end StreamPlan.Fingerprint
