/-!
Sets of code points, written as inclusive ranges in increasing order and searched by halving.
-/

namespace Promptuary.Text

/-- Inclusive ranges of code points, in increasing order. -/
abbrev CodeRanges := Array (Nat × Nat)

namespace CodeRanges

/-- Searches the ranges with positions from `lo` up to `hi`, at most `fuel` halvings deep. -/
def search (ranges : CodeRanges) (n : Nat) : (fuel lo hi : Nat) → Option (Nat × Nat)
  | 0, _, _ => none
  | fuel + 1, lo, hi =>
    if lo < hi then
      let mid := (lo + hi) / 2
      match ranges[mid]? with
      | none => none
      | some range =>
        if n < range.1 then search ranges n fuel lo mid
        else if range.2 < n then search ranges n fuel (mid + 1) hi
        else some range
    else none

/-- The range that holds a character. -/
def find? (ranges : CodeRanges) (c : Char) : Option (Nat × Nat) :=
  search ranges c.toNat (ranges.size + 1) 0 ranges.size

/-- Whether a range holds a character. -/
def contains (ranges : CodeRanges) (c : Char) : Bool := (find? ranges c).isSome

/-- A range that the search finds holds the code point. -/
theorem of_search {ranges : CodeRanges} {n fuel lo hi : Nat} {range : Nat × Nat}
    (h : search ranges n fuel lo hi = some range) : range.1 ≤ n ∧ n ≤ range.2 := by
  induction fuel generalizing lo hi with
  | zero => simp [search] at h
  | succ fuel ih =>
    rw [search] at h
    split at h
    · dsimp only at h
      split at h
      · simp at h
      · next found _ =>
        split at h
        · exact ih h
        · split at h
          · exact ih h
          · simp only [Option.some.injEq] at h
            subst h
            omega
    · simp at h

theorem of_find? {ranges : CodeRanges} {c : Char} {range : Nat × Nat}
    (h : find? ranges c = some range) : range.1 ≤ c.toNat ∧ c.toNat ≤ range.2 :=
  of_search h

end CodeRanges

end Promptuary.Text
