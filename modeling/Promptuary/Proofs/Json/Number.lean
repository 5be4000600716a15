import Promptuary.Json.Reader
import Promptuary.Json.Writer
import Promptuary.Proofs.Number.Digits

/-!
Integers that are written as JSON and read again. Main statement: an integer within the limit is
read up to its last digit, if what follows does not go on with a number (`readAtom_intDigits`).
-/

namespace Promptuary.Json

open Number

variable {cs tail start : List Char} {c : Char} {n : Nat}

/-- Whether a text does not go on with a number: it begins with nothing that can stand in one. -/
def EndsNumber (tail : List Char) : Prop :=
  ∀ c, tail.head? = some c → c.isDigit = false ∧ c ≠ '.' ∧ c ≠ 'e' ∧ c ≠ 'E'

/-! ### Digits -/

theorem takeDigits_append (digits : ∀ c ∈ cs, c.isDigit = true) (ends : EndsNumber tail) :
    takeDigits (cs ++ tail) = (cs, tail) := by
  unfold takeDigits
  rw [List.takeWhile_append_of_pos digits, List.dropWhile_append_of_pos digits]
  cases tail with
  | nil => simp
  | cons c tail =>
    obtain ⟨other, -⟩ := ends c rfl
    simp [other]

theorem readWhole?_natDigits (ends : EndsNumber tail) :
    readWhole? (natDigits n ++ tail) = some (natDigits n, tail) := by
  cases Nat.eq_zero_or_pos n with
  | inl zero =>
    subst zero
    rfl
  | inr positive =>
    have first := head?_natDigits positive
    have taken : takeDigits (natDigits n ++ tail) = (natDigits n, tail) :=
      takeDigits_append (fun _ => isDigit_of_mem_natDigits) ends
    obtain ⟨c, cs, digits⟩ := List.exists_cons_of_ne_nil (natDigits_ne_nil n)
    rw [digits] at first taken ⊢
    have ne : c ≠ '0' := by simpa using first
    rw [readWhole?.eq_def]
    split
    · next same => exact absurd (List.cons.inj same).1 ne
    · dsimp only
      rw [taken]
      simp

theorem readFraction_of_ends (ends : EndsNumber tail) : readFraction tail = (none, tail) := by
  unfold readFraction
  split
  · obtain ⟨-, point, -⟩ := ends '.' rfl
    exact absurd rfl point
  · rfl

theorem takeExponent?_of_ends (ends : EndsNumber tail) : takeExponent? tail = none := by
  cases tail with
  | nil => rfl
  | cons c tail =>
    obtain ⟨-, -, small, large⟩ := ends c rfl
    simp [takeExponent?, small, large]

/-- The digits of a number within the limit are read as that number, with its sign. -/
theorem readNumber_natDigits {negative : Bool} (within : digitCount n ≤ digitLimit)
    (ends : EndsNumber tail) :
    readNumber negative start (natDigits n ++ tail) =
      .ok (.int (if negative then -(n : Int) else n), tail) := by
  unfold readNumber
  rw [readWhole?_natDigits ends]
  simp only [readFraction_of_ends ends, takeExponent?_of_ends ends, readDigits_natDigits within]

/-! ### Words -/

/-- A digit is no other character. -/
theorem ne_of_isDigit {w : Char} (digit : c.isDigit = true) (other : w.isDigit = false) :
    w ≠ c := by
  rintro rfl
  rw [digit] at other
  cases other

/-- What begins with a digit is read as a number. -/
theorem readAtom_digit (digit : c.isDigit = true) :
    readAtom (c :: cs) = readNumber false (c :: cs) (c :: cs) := by
  have null : 'n' ≠ c := ne_of_isDigit digit rfl
  have yes : 't' ≠ c := ne_of_isDigit digit rfl
  have no : 'f' ≠ c := ne_of_isDigit digit rfl
  have undefined : 'N' ≠ c := ne_of_isDigit digit rfl
  have infinite : 'I' ≠ c := ne_of_isDigit digit rfl
  have minus : '-' ≠ c := ne_of_isDigit digit rfl
  simp [readAtom, word?, null, yes, no, undefined, infinite, minus, minus.symm]

/-- What begins with a minus and a digit is read as a number. -/
theorem readAtom_minus (digit : c.isDigit = true) :
    readAtom ('-' :: c :: cs) = readNumber true ('-' :: c :: cs) (c :: cs) := by
  have infinite : 'I' ≠ c := ne_of_isDigit digit rfl
  simp [readAtom, word?, infinite]

theorem intDigits_ne_nil (i : Int) : intDigits i ≠ [] := by
  unfold intDigits
  split
  · exact List.cons_ne_nil _ _
  · exact natDigits_ne_nil _

/-- A written integer holds nothing but a sign and digits. -/
theorem ne_of_mem_intDigits {i : Int} {w : Char} (mem : c ∈ intDigits i) (minus : w ≠ '-')
    (other : w.isDigit = false) : c ≠ w := by
  unfold intDigits at mem
  split at mem
  · rcases List.mem_cons.1 mem with rfl | mem
    · exact minus.symm
    · exact (ne_of_isDigit (isDigit_of_mem_natDigits mem) other).symm
  · exact (ne_of_isDigit (isDigit_of_mem_natDigits mem) other).symm

/-- A written integer is read up to its last digit. -/
theorem readAtom_intDigits {i : Int} (within : digitCount i.natAbs ≤ digitLimit)
    (ends : EndsNumber tail) : readAtom (intDigits i ++ tail) = .ok (.int i, tail) := by
  obtain ⟨c, cs, first⟩ := List.exists_cons_of_ne_nil (natDigits_ne_nil i.natAbs)
  have digit : c.isDigit = true := isDigit_of_mem_natDigits (first ▸ List.mem_cons_self)
  unfold intDigits
  split
  · next negative =>
    have value : -(i.natAbs : Int) = i := by omega
    rw [first, List.cons_append, List.cons_append, readAtom_minus digit, ← List.cons_append,
      ← first, readNumber_natDigits within ends, if_pos rfl, value]
  · next nonneg =>
    have value : (i.natAbs : Int) = i := by omega
    rw [first, List.cons_append, readAtom_digit digit, ← List.cons_append, ← first,
      readNumber_natDigits within ends, if_neg (by decide), value]

end Promptuary.Json
