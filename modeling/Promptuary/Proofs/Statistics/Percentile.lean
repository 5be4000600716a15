import Mathlib.Tactic.NormNum.Ineq
import Promptuary.Proofs.Statistics.Exact

/-!
Percentiles in exact arithmetic. The percentiles of values are their linear interpolations: values
in order are spread evenly over the way from zero to one, and what lies between two neighbours is
read off the straight line through them.
-/

namespace Promptuary.Exact

open Scalar (ofNat)

variable {α : Type} [Field α] [LinearOrder α] [FloorRing α] [Numerals α]

/-- The value at a share of the way from the first to the last of values in order, on the straight
line between the two neighbours of the place. -/
def interpolated (share : α) (xs : List α) : α :=
  let ordered := xs.mergeSort fun x y => decide (x ≤ y)
  let place := share * ((xs.length - 1 : Nat) : α)
  let before := ⌊place⌋.toNat
  let low := (ordered[before]?).getD 0
  let high := (ordered[before + 1]?).getD 0
  low + (place - before) * (high - low)

/-- The three percentiles that are kept, interpolated. -/
def interpolatedSpread (xs : List α) : Sample.Spread α :=
  ⟨interpolated (50 / 100) xs, interpolated (95 / 100) xs, interpolated (99 / 100) xs⟩

theorem between_eq (low high share : α) :
    Sample.between low high share = low + (high - low) * share := by
  unfold Sample.between
  split
  · rfl
  · have rest : (Scalar.one : α) - share = 1 - share := by rw [one_eq]
    rw [rest]
    ring

theorem sorted_eq (xs : List α) :
    Sample.sorted xs = xs.mergeSort fun x y => decide (x ≤ y) := by
  have proper : ∀ x ∈ xs, Scalar.same x x = true := fun x _ => decide_eq_true rfl
  have none : xs.filter (fun x => !Scalar.same x x) = [] :=
    List.filter_eq_nil_iff.2 fun x mem => by simp [proper x mem]
  have order : (fun x y : α => !Scalar.lt y x) = fun x y => decide (x ≤ y) := by
    funext x y
    change (!decide (y < x)) = decide (x ≤ y)
    rw [← decide_not]
    exact decide_eq_decide.2 not_lt
  unfold Sample.sorted
  rw [List.partition_eq_filter_filter]
  change ((xs.filter fun x => Scalar.same x x).mergeSort fun x y => !Scalar.lt y x) ++
    xs.filter (fun x => !Scalar.same x x) = _
  rw [List.filter_eq_self.2 proper, none, List.append_nil, order]

/-- Between values of which there is none, nothing is interpolated. -/
theorem interpolated_nil (share : α) : interpolated share [] = 0 := by
  unfold interpolated
  simp

theorem isShare_of {share : α} (least : 0 ≤ share) (most : share ≤ 1) :
    Sample.isShare share = true := by
  have le : ∀ {x y : α}, x ≤ y → Scalar.le x y = true := by
    intro x y le
    change (decide (x < y) || decide (x = y)) = true
    rw [← Bool.decide_or]
    exact decide_eq_true (lt_or_eq_of_le le)
  rw [Sample.isShare, zero_eq, one_eq, le least, le most]
  rfl

variable [IsStrictOrderedRing α]

/-- The value at a share is the interpolated one. -/
theorem atShare_eq (xs : List α) {share : α} (least : 0 ≤ share) (most : share ≤ 1) :
    Sample.atShare (Sample.sorted xs) share = interpolated share xs := by
  have length : (Sample.sorted xs).length = xs.length := by rw [sorted_eq, List.length_mergeSort]
  unfold Sample.atShare interpolated
  rw [length, sorted_eq]
  dsimp only
  rw [mul_comm share, ofNat_eq, zero_eq]
  generalize same : ((xs.length - 1 : Nat) : α) * share = place
  have positive : 0 ≤ place := same ▸ mul_nonneg (Nat.cast_nonneg _) least
  have bounded : place ≤ ((xs.length - 1 : Nat) : α) :=
    same ▸ mul_le_of_le_one_right (Nat.cast_nonneg _) most
  have floors : ((⌊place⌋.toNat : Nat) : α) = ((⌊place⌋ : Int) : α) := by
    have whole : ((⌊place⌋.toNat : Nat) : Int) = ⌊place⌋ :=
      Int.toNat_of_nonneg (Int.floor_nonneg.2 positive)
    exact_mod_cast congrArg (Int.cast : Int → α) whole
  change (if xs.length - 1 ≤ ⌊place⌋.toNat then _ else _) = _
  split
  · next last =>
    -- The place is that of the last value, which is then the base of the line.
    have within : ⌊place⌋.toNat ≤ xs.length - 1 := by
      have le : ((⌊place⌋.toNat : Nat) : α) ≤ ((xs.length - 1 : Nat) : α) := by
        rw [floors]
        exact (Int.floor_le place).trans bounded
      exact_mod_cast le
    have here : ⌊place⌋.toNat = xs.length - 1 := Nat.le_antisymm within last
    have exactly : place = ((⌊place⌋.toNat : Nat) : α) := by
      refine le_antisymm ?_ ?_
      · rw [here]
        exact bounded
      · rw [floors]
        exact Int.floor_le place
    rw [between_eq, ← here]
    have zero : place - ((⌊place⌋.toNat : Nat) : α) = 0 := sub_eq_zero.2 exactly
    simp only [zero]
    ring
  · rw [between_eq, ofNat_eq, mul_comm]
    rfl

/-- The percentiles that are kept are the interpolated ones. -/
theorem spread_eq (xs : List α) : Sample.spread xs = interpolatedSpread xs := by
  by_cases empty : xs = []
  · subst empty
    rw [interpolatedSpread, interpolated_nil, interpolated_nil, interpolated_nil, ← zero_eq]
    rfl
  · have at₁ : Sample.atShare (Sample.sorted xs) (50 / 100) = interpolated (50 / 100) xs :=
      atShare_eq xs (by norm_num) (by norm_num)
    have at₂ : Sample.atShare (Sample.sorted xs) (95 / 100) = interpolated (95 / 100) xs :=
      atShare_eq xs (by norm_num) (by norm_num)
    have at₃ : Sample.atShare (Sample.sorted xs) (99 / 100) = interpolated (99 / 100) xs :=
      atShare_eq xs (by norm_num) (by norm_num)
    have points : [ofNat 50, ofNat 95, ofNat 99].map (· / (ofNat 100 : α)) =
        [50 / 100, 95 / 100, 99 / 100] := by
      simp only [List.map_cons, List.map_nil, ofNat_eq, Nat.cast_ofNat]
    have inRange : [(50 / 100 : α), 95 / 100, 99 / 100].all Sample.isShare = true := by
      refine List.all_eq_true.2 fun share mem => isShare_of ?_ ?_
      all_goals
        simp only [List.mem_cons, List.not_mem_nil, or_false] at mem
        rcases mem with rfl | rfl | rfl <;> norm_num
    have proper : (xs.find? fun x => !Scalar.same x x) = none := by
      refine List.find?_eq_none.2 fun x _ => ?_
      have same : Scalar.same x x = true := decide_eq_true rfl
      simp [same]
    have filled : xs.isEmpty = false := by
      rw [← Bool.not_eq_true, List.isEmpty_iff]
      exact empty
    unfold Sample.spread Sample.percentiles
    dsimp only
    rw [points, filled, inRange, proper, if_neg (by decide), if_pos rfl]
    simp only [List.map_cons, List.map_nil]
    rw [at₁, at₂, at₃]
    rfl

end Promptuary.Exact
