import Promptuary.Proofs.Statistics.Percentile

/-!
Percentiles in order. A greater percentage gives no smaller value: between two neighbours values are
read off a line that does not fall, and from one pair of neighbours to a later one they only rise.
Means of percentiles with counts as weights keep their order.
-/

namespace Promptuary

/-- Percentiles that do not fall as the percentage grows. -/
structure Sample.Spread.Ordered {α : Type} [LE α] (spread : Sample.Spread α) : Prop where
  middle : spread.p50 ≤ spread.p95
  upper : spread.p95 ≤ spread.p99

namespace Exact

variable {α : Type} [Field α]

/-! ### Values in order -/

/-- The value at a position of a list; zero beyond its end. -/
def valueAt (ordered : List α) (i : Nat) : α := (ordered[i]?).getD 0

/-- The value at a place on the straight line from one value to the next. -/
def onLine (ordered : List α) (place : α) (before : Nat) : α :=
  valueAt ordered before +
    (place - before) * (valueAt ordered (before + 1) - valueAt ordered before)

section

variable {ordered : List α} {place place' : α} {i j : Nat}

theorem valueAt_eq (inside : i < ordered.length) : valueAt ordered i = ordered[i] := by
  rw [valueAt, List.getElem?_eq_getElem inside]
  rfl

theorem onLine_self (ordered : List α) (i : Nat) : onLine ordered i i = valueAt ordered i := by
  rw [onLine, sub_self, zero_mul, add_zero]

theorem onLine_succ (ordered : List α) (i : Nat) :
    onLine ordered ((i + 1 : Nat) : α) i = valueAt ordered (i + 1) := by
  rw [onLine, Nat.cast_succ, add_sub_cancel_left, one_mul, add_sub_cancel]

variable [LinearOrder α]

theorem valueAt_le (sorted : ordered.Pairwise (· ≤ ·)) (le : i ≤ j) (inside : j < ordered.length) :
    valueAt ordered i ≤ valueAt ordered j := by
  rw [valueAt_eq (Nat.lt_of_le_of_lt le inside), valueAt_eq inside]
  rcases Nat.lt_or_eq_of_le le with lt | rfl
  · exact List.pairwise_iff_getElem.1 sorted i j _ inside lt
  · exact le_refl _

variable [IsStrictOrderedRing α]

/-- On the line from one value to the next, a later place has no smaller value. -/
theorem onLine_le_onLine (sorted : ordered.Pairwise (· ≤ ·)) (inside : i + 1 < ordered.length)
    (le : place ≤ place') : onLine ordered place i ≤ onLine ordered place' i := by
  have rises : 0 ≤ valueAt ordered (i + 1) - valueAt ordered i :=
    sub_nonneg.2 (valueAt_le sorted (Nat.le_succ i) inside)
  have further := mul_le_mul_of_nonneg_right (sub_le_sub_right le (i : α)) rises
  exact add_le_add_right further _

end

/-! ### Places -/

variable [LinearOrder α] [FloorRing α]

theorem before_le {place : α} (least : 0 ≤ place) : ((⌊place⌋.toNat : Nat) : α) ≤ place := by
  rw [← Int.cast_natCast, Int.toNat_of_nonneg (Int.floor_nonneg.2 least)]
  exact Int.floor_le place

theorem le_after {place : α} (least : 0 ≤ place) : place ≤ ((⌊place⌋.toNat + 1 : Nat) : α) := by
  rw [Nat.cast_succ, ← Int.cast_natCast, Int.toNat_of_nonneg (Int.floor_nonneg.2 least)]
  exact (Int.lt_floor_add_one place).le

variable [IsStrictOrderedRing α]

/-- From an earlier to a later place the values do not fall. -/
theorem onLine_floor_mono {ordered : List α} {place place' : α}
    (sorted : ordered.Pairwise (· ≤ ·)) (least : 0 ≤ place) (le : place ≤ place')
    (most : place' ≤ ((ordered.length - 1 : Nat) : α)) (filled : ordered ≠ []) :
    onLine ordered place ⌊place⌋.toNat ≤ onLine ordered place' ⌊place'⌋.toNat := by
  have positive : 0 < ordered.length := List.length_pos_iff.2 filled
  have least' := least.trans le
  have within : ⌊place'⌋.toNat ≤ ordered.length - 1 := by
    have bounded := (before_le least').trans most
    exact_mod_cast bounded
  have floors : ⌊place⌋.toNat ≤ ⌊place'⌋.toNat := Int.toNat_le_toNat (Int.floor_le_floor le)
  rcases Nat.lt_or_eq_of_le floors with earlier | same
  · -- The lines differ: the end of the first is not behind the start of the second.
    have first : onLine ordered place ⌊place⌋.toNat ≤ valueAt ordered (⌊place⌋.toNat + 1) := by
      rw [← onLine_succ]
      exact onLine_le_onLine sorted (by omega) (le_after least)
    have second : valueAt ordered ⌊place'⌋.toNat ≤ onLine ordered place' ⌊place'⌋.toNat := by
      rcases Nat.lt_or_eq_of_le within with inside | last
      · rw [← onLine_self]
        exact onLine_le_onLine sorted (by omega) (before_le least')
      · have ends : place' = ((⌊place'⌋.toNat : Nat) : α) :=
          le_antisymm (last ▸ most) (before_le least')
        have onEnd := onLine_self ordered ⌊place'⌋.toNat
        rw [← ends] at onEnd
        exact onEnd.ge
    exact first.trans ((valueAt_le sorted earlier (by omega)).trans second)
  · rw [← same]
    rcases Nat.lt_or_eq_of_le (same ▸ within) with inside | last
    · exact onLine_le_onLine sorted (by omega) le
    · have ends : place' ≤ place := (last ▸ most).trans (before_le least)
      rw [le_antisymm le ends]

variable [Numerals α]

/-- A greater share of the way gives no smaller value. -/
theorem interpolated_mono (xs : List α) {share share' : α} (least : 0 ≤ share)
    (le : share ≤ share') (most : share' ≤ 1) : interpolated share xs ≤ interpolated share' xs := by
  by_cases empty : xs = []
  · subst empty
    rw [interpolated_nil, interpolated_nil]
  · have total : ∀ x y : α, (decide (x ≤ y) || decide (y ≤ x)) = true := by
      intro x y
      simpa using le_total x y
    have chains : ∀ x y z : α, decide (x ≤ y) = true → decide (y ≤ z) = true →
        decide (x ≤ z) = true := by
      intro x y z first second
      exact decide_eq_true ((of_decide_eq_true first).trans (of_decide_eq_true second))
    have sorted : (xs.mergeSort fun x y => decide (x ≤ y)).Pairwise (· ≤ ·) :=
      (List.pairwise_mergeSort chains total xs).imp of_decide_eq_true
    have length : (xs.mergeSort fun x y => decide (x ≤ y)).length = xs.length :=
      List.length_mergeSort xs
    have wide : (0 : α) ≤ ((xs.length - 1 : Nat) : α) := Nat.cast_nonneg _
    change onLine _ (share * _) ⌊share * _⌋.toNat ≤ onLine _ (share' * _) ⌊share' * _⌋.toNat
    refine onLine_floor_mono sorted (mul_nonneg least wide)
      (mul_le_mul_of_nonneg_right le wide) ?_ ?_
    · rw [length]
      exact mul_le_of_le_one_left wide most
    · rw [← List.length_pos_iff, length]
      exact List.length_pos_iff.2 empty

/-- The percentiles of values are in order. -/
theorem spread_ordered (xs : List α) : (Sample.spread xs).Ordered := by
  rw [spread_eq]
  exact ⟨interpolated_mono xs (by norm_num) (by norm_num) (by norm_num),
    interpolated_mono xs (by norm_num) (by norm_num) (by norm_num)⟩

/-! ### Means of percentiles -/

/-- Means with the same counts as weights are in the order of the values. -/
theorem countedMean_le {β : Type} {f g : β → α} {count : β → Int} {xs : List β}
    {x y : α} (counts : ∀ b ∈ xs, 0 ≤ count b) (le : ∀ b ∈ xs, f b ≤ g b)
    (first : Sample.countedMean (xs.map f) (xs.map count) = .ok x)
    (second : Sample.countedMean (xs.map g) (xs.map count) = .ok y) : x ≤ y := by
  rw [countedMean_map] at first second
  cases first
  cases second
  have weight : (0 : α) ≤ ((xs.map count).sum : Int) := by
    have sum : 0 ≤ (xs.map count).sum := List.sum_nonneg (by simpa using counts)
    exact_mod_cast sum
  refine div_le_div_of_nonneg_right (List.sum_le_sum fun b mem => ?_) weight
  have count : (0 : α) ≤ (count b : α) := by exact_mod_cast counts b mem
  exact mul_le_mul_of_nonneg_right (le b mem) count

end Exact

end Promptuary
