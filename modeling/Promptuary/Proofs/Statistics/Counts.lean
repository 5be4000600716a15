import Mathlib.Algebra.Order.BigOperators.Group.List
import Mathlib.Algebra.Order.Group.Nat
import Mathlib.Algebra.Order.Ring.Int
import Promptuary.Proofs.Outcome
import Promptuary.Statistics.Sample

/-!
Counts as weights. Counts are added up exactly; all that a mean with counts as weights needs is that
each of them and their sum are in the range of scalars, and the sum is bounded by their sizes.
-/

namespace Promptuary

variable {α : Type} [Scalar α] {bound : Nat}

/-! ### Sums -/

theorem Exact.tally_eq (counts : List Int) : Scalar.tally counts = counts.sum := by
  have folded : ∀ start : Int, counts.foldl (· + ·) start = start + counts.sum := by
    induction counts with
    | nil => exact fun start => (add_zero start).symm
    | cons n counts ih =>
      intro start
      rw [List.foldl_cons, ih, List.sum_cons, add_assoc]
  exact (folded 0).trans (zero_add _)

namespace Sample

/-- Counts are added up without being turned into scalars. -/
theorem foldlM_counts (counts : List Int) (start : Int) :
    (counts.map Amount.count).foldlM Amount.add (.count start : Amount α) =
      .ok (.count (counts.foldl (· + ·) start)) := by
  induction counts generalizing start with
  | nil => rfl
  | cons n counts ih => exact ih (start + n)

theorem total_map_count (counts : List Int) :
    total (counts.map Amount.count) = (Scalar.ofInt (Scalar.tally counts) : Except _ α) := by
  unfold total
  rw [foldlM_counts]
  rfl

theorem toScalar_scalars (xs : List α) :
    (xs.map Amount.scalar).mapM Amount.toScalar = .ok xs := by
  induction xs with
  | nil => rfl
  | cons x xs ih =>
    rw [List.map_cons, List.mapM_cons, ih]
    rfl

end Sample

/-! ### Sizes of counts -/

namespace Counts

/-- The sizes of counts, added up. -/
def size (counts : List Int) : Nat := (counts.map Int.natAbs).sum

@[simp] theorem size_cons (n : Int) (counts : List Int) :
    size (n :: counts) = n.natAbs + size counts := rfl

theorem size_append (counts counts' : List Int) :
    size (counts ++ counts') = size counts + size counts' := by
  rw [size, List.map_append, List.sum_append]
  rfl

theorem natAbs_tally_le (counts : List Int) : (Scalar.tally counts).natAbs ≤ size counts := by
  rw [Exact.tally_eq]
  induction counts with
  | nil => exact Nat.le_refl 0
  | cons n counts ih =>
    rw [List.sum_cons, size_cons]
    exact (Int.natAbs_add_le ..).trans (Nat.add_le_add_left ih _)

theorem size_le_of_sublist {counts counts' : List Int} (part : counts.Sublist counts') :
    size counts ≤ size counts' := (part.map _).sum_le_sum fun _ _ => Nat.zero_le _

theorem natAbs_le_size {counts : List Int} {n : Int} (mem : n ∈ counts) :
    n.natAbs ≤ size counts := by
  have le := size_le_of_sublist (List.singleton_sublist.2 mem)
  rwa [size_cons] at le

/-- Counts up to a bound are in the range of scalars. -/
def Representable (α : Type) [Scalar α] (bound : Nat) : Prop :=
  ∀ n : Int, n.natAbs ≤ bound → (Scalar.ofInt? n : Option α).isSome

end Counts

open Counts

theorem Counts.Representable.ofInt_ok (representable : Representable α bound) {n : Int}
    (small : n.natAbs ≤ bound) : ∃ x : α, Scalar.ofInt n = .ok x := by
  obtain ⟨x, some⟩ := Option.isSome_iff_exists.1 (representable n small)
  refine ⟨x, ?_⟩
  rw [Scalar.ofInt, some]

/-! ### Means with counts as weights -/

namespace Sample

theorem countedMean_ok (representable : Representable α bound) {values : List α}
    {counts : List Int} (same : values.length = counts.length) (small : size counts ≤ bound) :
    ∃ x, countedMean values counts = .ok x := by
  obtain ⟨weights, weighted⟩ : ∃ weights : List α,
      (counts.map Amount.count).mapM Amount.toScalar = .ok weights := by
    refine Outcome.mapM_ok fun amount mem => ?_
    obtain ⟨n, among, rfl⟩ := List.mem_map.1 mem
    exact representable.ofInt_ok ((natAbs_le_size among).trans small)
  have length := Outcome.length_of_mapM weighted
  rw [List.length_map] at length
  obtain ⟨sum, added⟩ := representable.ofInt_ok ((natAbs_tally_le counts).trans small)
  unfold countedMean weightedMean
  rw [total_map_count, added, Outcome.ok_bind]
  split
  · exact ⟨_, rfl⟩
  · rw [toScalar_scalars, Outcome.ok_bind, weighted, Outcome.ok_bind, if_neg]
    · exact ⟨_, rfl⟩
    · rw [length, same]
      exact fun ne => ne rfl

end Sample

end Promptuary
