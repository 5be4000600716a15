import Promptuary.Datum.Basic

/-!
How many containers of a datum lie in one another. Copying a datum takes at least one call for each
of them, so data that can be copied are not nested deeper than calls may be.
-/

namespace Promptuary.Datum

mutual

/-- How many lists, tuples and objects of a datum lie in one another. -/
def nesting : Datum → Nat
  | .list xs => nestingOfItems xs + 1
  | .tuple xs => nestingOfItems xs + 1
  | .object fs => nestingOfFields fs + 1
  | _ => 0

/-- The nesting of the item that is nested deepest. -/
def nestingOfItems : List Datum → Nat
  | [] => 0
  | x :: xs => max x.nesting (nestingOfItems xs)

/-- The nesting of the field that is nested deepest. -/
def nestingOfFields : List (String × Datum) → Nat
  | [] => 0
  | (_, value) :: fs => max value.nesting (nestingOfFields fs)

end

theorem nesting_le_of_mem {x : Datum} {items : List Datum} (mem : x ∈ items) :
    x.nesting ≤ nestingOfItems items := by
  induction items with
  | nil => exact absurd mem List.not_mem_nil
  | cons y items ih =>
    rw [nestingOfItems]
    rcases List.mem_cons.1 mem with rfl | mem
    · exact Nat.le_max_left _ _
    · exact Nat.le_trans (ih mem) (Nat.le_max_right _ _)

theorem nesting_le_of_mem_fields {field : String × Datum} {fields : Fields}
    (mem : field ∈ fields) : field.2.nesting ≤ nestingOfFields fields := by
  induction fields with
  | nil => exact absurd mem List.not_mem_nil
  | cons other fields ih =>
    rw [nestingOfFields]
    rcases List.mem_cons.1 mem with rfl | mem
    · exact Nat.le_max_left _ _
    · exact Nat.le_trans (ih mem) (Nat.le_max_right _ _)

mutual

/-- Copying takes a call at least for each container in which another lies. -/
theorem nesting_le_copyCalls : (d : Datum) → d.nesting ≤ d.copyCalls
  | .list xs => by
    have inner := nestingOfItems_le_copyCalls xs
    rw [nesting, copyCalls]
    omega
  | .tuple xs => by
    have inner := nestingOfItems_le_copyCalls xs
    rw [nesting, copyCalls]
    omega
  | .object fs => by
    have inner := nestingOfFields_le_copyCalls fs
    rw [nesting, copyCalls]
    omega
  | .null | .bool _ | .int _ | .float _ | .nan | .text _ | .moment _ | .usage _ => Nat.zero_le _

theorem nestingOfItems_le_copyCalls :
    (xs : List Datum) → nestingOfItems xs ≤ copyCallsOfItems xs
  | [] => Nat.le_refl _
  | x :: xs => by
    have first := nesting_le_copyCalls x
    have others := nestingOfItems_le_copyCalls xs
    rw [nestingOfItems, copyCallsOfItems]
    omega

theorem nestingOfFields_le_copyCalls :
    (fs : List (String × Datum)) → nestingOfFields fs ≤ copyCallsOfFields fs
  | [] => Nat.le_refl _
  | (_, value) :: fs => by
    have first := nesting_le_copyCalls value
    have others := nestingOfFields_le_copyCalls fs
    rw [nestingOfFields, copyCallsOfFields]
    omega

end

theorem copyCallsOfItems_le {n : Nat} {items : List Datum} (few : ∀ x ∈ items, x.copyCalls ≤ n) :
    copyCallsOfItems items ≤ n := by
  induction items with
  | nil => exact Nat.zero_le n
  | cons x items ih =>
    obtain ⟨first, others⟩ := List.forall_mem_cons.1 few
    exact Nat.max_le.2 ⟨first, ih others⟩

/-! ### Lists in one another -/

/-- Lists in one another, each the only item of the next one; the innermost is empty. -/
def nestedLists : (inside : Nat) → Datum
  | 0 => .list []
  | n + 1 => .list [nestedLists n]

theorem nesting_nestedLists (n : Nat) : (nestedLists n).nesting = n + 1 := by
  induction n with
  | zero => rfl
  | succ n ih => simp [nestedLists, nesting, nestingOfItems, ih]

theorem copyCalls_nestedLists (n : Nat) : (nestedLists n).copyCalls = 2 * (n + 1) := by
  induction n with
  | zero => rfl
  | succ n ih =>
    simp only [nestedLists, copyCalls, copyCallsOfItems, ih]
    omega

end Promptuary.Datum
