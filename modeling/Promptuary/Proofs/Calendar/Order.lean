import Mathlib.Algebra.Order.Group.Int
import Mathlib.Order.Compare
import Promptuary.Calendar.Order

/-!
The order of moments. Two moments that both have an offset, or both have none, are in the order of
their places on the time line, and all questions about that order have an answer.
-/

namespace Promptuary.Calendar.Moment

variable {s t u start stop : Moment} {b : Bool}

/-- Whether two moments can be compared. -/
def Comparable (s t : Moment) : Prop := s.offset.isSome = t.offset.isSome

instance (s t : Moment) : Decidable (s.Comparable t) :=
  inferInstanceAs (Decidable (s.offset.isSome = t.offset.isSome))

theorem compare?_eq (s t : Moment) : s.compare? t =
    if s.Comparable t then .ok (compare s.instant t.instant) else .error .mixedZones := by
  obtain ⟨wall, offset⟩ := s
  obtain ⟨wall', offset'⟩ := t
  cases offset <;> cases offset' <;>
    simp [compare?, Comparable, instant, Int.compare_eq_ite_lt, Nat.compare_eq_ite_lt]

theorem same_iff : s.same t = true ↔ s.Comparable t ∧ s.instant = t.instant := by
  unfold same
  rw [compare?_eq]
  by_cases comparable : s.Comparable t
  · simp only [comparable, if_true, true_and]
    rw [← compare_eq_iff_eq (a := s.instant)]
    cases compare s.instant t.instant <;> simp
  · simp [comparable]

/-! ### Being the same -/

theorem same_refl (t : Moment) : t.same t = true := same_iff.2 ⟨rfl, rfl⟩

theorem same_symm (same : s.same t = true) : t.same s = true := by
  obtain ⟨comparable, instant⟩ := same_iff.1 same
  exact same_iff.2 ⟨comparable.symm, instant.symm⟩

theorem same_trans (first : s.same t = true) (second : t.same u = true) : s.same u = true := by
  obtain ⟨comparable, instant⟩ := same_iff.1 first
  obtain ⟨comparable', instant'⟩ := same_iff.1 second
  exact same_iff.2 ⟨comparable.trans comparable', instant.trans instant'⟩

/-! ### Coming before and after -/

theorem lt?_eq (comparable : s.Comparable t) : s.lt? t = .ok (decide (s.instant < t.instant)) := by
  unfold lt?
  rw [compare?_eq, if_pos comparable]
  refine congrArg Except.ok ?_
  rw [Bool.eq_iff_iff, beq_iff_eq, decide_eq_true_iff]
  exact compare_lt_iff_lt

theorem le?_eq (comparable : s.Comparable t) : s.le? t = .ok (decide (s.instant ≤ t.instant)) := by
  unfold le?
  rw [compare?_eq, if_pos comparable]
  refine congrArg Except.ok ?_
  rw [Bool.eq_iff_iff, bne_iff_ne, decide_eq_true_iff]
  exact compare_le_iff_le

/-- The question whether a moment lies in a span has an answer if and only if it can be compared
with the bounds of the span. -/
theorem isIn?_eq (bounds : start.Comparable stop) (t : Moment) : start.isIn? stop t =
    if start.Comparable t then .ok (decide (start.instant ≤ t.instant ∧ t.instant < stop.instant))
    else .error .mixedZones := by
  unfold isIn?
  by_cases comparable : start.Comparable t
  · have after : t.Comparable stop := comparable.symm.trans bounds
    rw [le?_eq comparable, if_pos comparable, lt?_eq after]
    by_cases begun : start.instant ≤ t.instant
    · simp only [begun, decide_true, true_and]
      rfl
    · simp only [begun, decide_false, false_and]
      rfl
  · unfold le?
    rw [compare?_eq, if_neg comparable, if_neg comparable]
    rfl

/-! ### Moments without an offset -/

/-- A moment that has no offset. -/
def Naive (t : Moment) : Prop := t.offset = none

theorem naive_mk (wall : Nat) : Naive ⟨wall, none⟩ := rfl

theorem Naive.comparable (left : s.Naive) (right : t.Naive) : s.Comparable t := by
  rw [Comparable, left, right]

theorem Naive.instant (naive : t.Naive) : t.instant = t.wall := by
  rw [Moment.instant, naive, Option.getD_none, Int.sub_zero]

theorem Naive.eq (naive : t.Naive) : t = ⟨t.wall, none⟩ := by
  rw [← naive]

theorem Naive.same_iff (left : s.Naive) (right : t.Naive) : s.same t = true ↔ s = t := by
  rw [Moment.same_iff, left.instant, right.instant]
  constructor
  · rintro ⟨-, instant⟩
    rw [left.eq, right.eq, Int.ofNat.inj instant]
  · rintro rfl
    exact ⟨rfl, rfl⟩

theorem Naive.lt? (left : s.Naive) (right : t.Naive) :
    s.lt? t = .ok (decide (s.wall < t.wall)) := by
  rw [lt?_eq (left.comparable right), left.instant, right.instant]
  simp only [Int.ofNat_lt]

theorem Naive.le? (left : s.Naive) (right : t.Naive) :
    s.le? t = .ok (decide (s.wall ≤ t.wall)) := by
  rw [le?_eq (left.comparable right), left.instant, right.instant]
  simp only [Int.ofNat_le]

theorem Naive.lt?_iff (left : s.Naive) (right : t.Naive) :
    s.lt? t = .ok true ↔ s.wall < t.wall := by
  rw [left.lt? right, Except.ok.injEq, decide_eq_true_iff]

theorem Naive.le?_iff (left : s.Naive) (right : t.Naive) :
    s.le? t = .ok true ↔ s.wall ≤ t.wall := by
  rw [left.le? right, Except.ok.injEq, decide_eq_true_iff]

theorem Naive.isIn? (first : start.Naive) (last : stop.Naive) (naive : t.Naive) :
    start.isIn? stop t = .ok (decide (start.wall ≤ t.wall ∧ t.wall < stop.wall)) := by
  rw [isIn?_eq (first.comparable last), if_pos (first.comparable naive), first.instant,
    last.instant, naive.instant]
  simp only [Int.ofNat_le, Int.ofNat_lt]

/-- A span in which a moment without an offset can be looked for starts without one. -/
theorem Naive.of_isIn? {b : Bool} (naive : t.Naive) (answer : start.isIn? stop t = .ok b) :
    start.Naive := by
  by_contra aware
  have apart : ¬ start.Comparable t := by
    rw [Comparable, naive]
    cases offset : start.offset with
    | none => exact absurd offset aware
    | some => simp
  rw [Moment.isIn?, Moment.le?, compare?_eq, if_neg apart] at answer
  cases answer

/-! ### Lists of moments -/

/-- Moments have a latest one just if they can all be compared. -/
theorem exists_latest? {ts : List Moment} : (∃ t, latest? ts = .ok t) ↔ agree ts = true := by
  cases ts with
  | nil => simp [latest?, agree]
  | cons t ts =>
    simp only [latest?]
    split
    · next agreed => exact iff_of_true ⟨_, rfl⟩ agreed
    · next apart =>
      refine iff_of_false ?_ apart
      rintro ⟨last, ok⟩
      cases ok

/-- Putting items in order keeps all of them. -/
theorem perm_of_sortOn? {β : Type} {key : β → Moment} {xs ys : List β}
    (sorted : sortOn? key xs = .ok ys) : ys.Perm xs := by
  unfold sortOn? at sorted
  split at sorted
  · cases sorted
    exact List.mergeSort_perm xs _
  · cases sorted

theorem agree_of_naive {β : Type} {key : β → Moment} {xs : List β}
    (naive : ∀ x ∈ xs, (key x).Naive) : agree (xs.map key) = true := by
  cases xs with
  | nil => rfl
  | cons x xs =>
    refine List.all_eq_true.2 fun t mem => ?_
    obtain ⟨y, later, rfl⟩ := List.mem_map.1 mem
    rw [naive x List.mem_cons_self, naive y (List.mem_cons_of_mem _ later)]
    rfl

/-- Items whose moments have no offset can be put in order. -/
theorem sortOn?_naive {β : Type} (key : β → Moment) {xs : List β}
    (naive : ∀ x ∈ xs, (key x).Naive) : ∃ ys, sortOn? key xs = .ok ys ∧ ys.Perm xs := by
  refine ⟨_, ?_, List.mergeSort_perm xs fun a b => !(key b).isBefore (key a)⟩
  rw [sortOn?, if_pos (agree_of_naive naive)]

end Promptuary.Calendar.Moment
