import Promptuary.Number.Reading

/-!
Digits that were written are read back: with zeros in front or without, they denote the number that
they were written for.
-/

namespace Promptuary

namespace Text

theorem digitValue?_of_isDigit {c : Char} (digit : c.isDigit = true) :
    digitValue? c = some (c.toNat - 48) := by
  have small : c.toNat < 128 := by
    simp only [Char.isDigit, Bool.and_eq_true, decide_eq_true_eq] at digit
    have le : c.toNat ≤ 57 := digit.2
    omega
  rw [digitValue?, if_pos small, if_pos digit]

theorem isDecimal_of_isDigit {c : Char} (digit : c.isDigit = true) : isDecimal c = true := by
  rw [isDecimal, digitValue?_of_isDigit digit]
  rfl

end Text

namespace Number

variable {cs : List Char} {n m : Nat}

/-- ASCII digits denote what they denote in base ten. -/
theorem ofDigits_of_isDigit (digits : ∀ c ∈ cs, c.isDigit = true) :
    ofDigits cs = some (Nat.ofDigitChars 10 cs 0) := by
  unfold ofDigits Nat.ofDigitChars
  generalize (0 : Nat) = start
  induction cs generalizing start with
  | nil => rfl
  | cons c cs ih =>
    have value := Text.digitValue?_of_isDigit (digits c List.mem_cons_self)
    rw [List.foldl_cons, List.foldl_cons]
    have first : (do return 10 * (← some start) + (← Text.digitValue? c) : Option Nat) =
        some (10 * start + (c.toNat - 48)) := by
      rw [value]
      rfl
    rw [first]
    exact ih (fun c' mem => digits c' (List.mem_cons_of_mem _ mem)) _

theorem isDigit_of_mem_natDigits {c : Char} (mem : c ∈ natDigits n) : c.isDigit = true :=
  Nat.isDigit_of_mem_toDigits (by decide) (by decide) mem

theorem natDigits_ne_nil (n : Nat) : natDigits n ≠ [] := Nat.toDigits_ne_nil

theorem ofDigits_natDigits (n : Nat) : ofDigits (natDigits n) = some n := by
  rw [ofDigits_of_isDigit fun _ => isDigit_of_mem_natDigits]
  exact congrArg some Nat.ofDigitChars_ten_toDigits

theorem natDigits_injective (same : natDigits n = natDigits m) : n = m := by
  have read := congrArg ofDigits same
  rw [ofDigits_natDigits, ofDigits_natDigits] at read
  exact Option.some.inj read

/-- The digits of a positive number do not begin with a zero. -/
theorem head?_natDigits (positive : 0 < n) : (natDigits n).head? ≠ some '0' := by
  induction n using Nat.strongRecOn with
  | ind n ih =>
    by_cases small : n < 10
    · have digit : ∀ n < 10, 0 < n → n.digitChar ≠ '0' := by decide
      rw [natDigits, Nat.toDigits_of_lt_base small]
      simpa using digit n small positive
    · have earlier := ih (n / 10) (by omega) (by omega)
      have split : natDigits n = natDigits (n / 10) ++ [(n % 10).digitChar] :=
        Nat.toDigits_of_base_le (by decide) (Nat.le_of_not_lt small)
      obtain ⟨c, cs, digits⟩ := List.exists_cons_of_ne_nil (natDigits_ne_nil (n / 10))
      rw [digits] at earlier split
      rw [split]
      exact earlier

theorem isDigit_of_mem_paddedDigits {width : Nat} {c : Char} (mem : c ∈ paddedDigits width n) :
    c.isDigit = true := by
  rcases List.mem_append.1 mem with zero | digit
  · rw [List.eq_of_mem_replicate zero]
    rfl
  · exact isDigit_of_mem_natDigits digit

theorem ofDigits_paddedDigits (width n : Nat) : ofDigits (paddedDigits width n) = some n := by
  rw [ofDigits_of_isDigit fun _ => isDigit_of_mem_paddedDigits, paddedDigits,
    Nat.ofDigitChars_append, Nat.ofDigitChars_replicate_zero, Nat.mul_zero]
  exact congrArg some Nat.ofDigitChars_ten_toDigits

theorem length_paddedDigits (width n : Nat) (positive : 0 < width) (small : n < tenTo width) :
    (paddedDigits width n).length = width := by
  have short : (natDigits n).length ≤ width :=
    (Nat.length_toDigits_le_iff (by decide) positive).2 small
  simp only [paddedDigits, List.length_append, List.length_replicate]
  omega

/-- A number within the limit is written as its digits. -/
theorem writeInt_of_le (within : digitCount n ≤ digitLimit) :
    writeInt n = .ok (String.ofList (natDigits n)) := by
  have nonneg : ¬((n : Int) < 0) := by omega
  rw [writeInt, if_neg (by simpa using within), intDigits, if_neg nonneg]
  rfl

theorem writeInt_eq_ok {s : String} (ok : writeInt n = .ok s) :
    digitCount n ≤ digitLimit ∧ s = String.ofList (natDigits n) := by
  by_cases beyond : digitLimit < digitCount (n : Int).natAbs
  · rw [writeInt, if_pos beyond] at ok
    cases ok
  · have within : digitCount n ≤ digitLimit := by simpa using beyond
    rw [writeInt_of_le within] at ok
    exact ⟨within, (Except.ok.inj ok).symm⟩

/-- Decimal digits are a stretch of decimal digits. -/
theorem takeWhile_decimal (decimal : ∀ c ∈ cs, Text.isDecimal c = true) :
    cs.takeWhile Text.isDecimal = cs := by
  have stretch : (cs ++ []).takeWhile Text.isDecimal = cs ++ [] :=
    List.takeWhile_append_of_pos decimal
  simpa using stretch

/-- The digits of a number within the limit are read as that number. -/
theorem readDigits_natDigits (within : digitCount n ≤ digitLimit) :
    readDigits (String.ofList (natDigits n)) = .ok n := by
  have all : (natDigits n).takeWhile Text.isDecimal = natDigits n :=
    takeWhile_decimal fun _ mem => Text.isDecimal_of_isDigit (isDigit_of_mem_natDigits mem)
  have short : ¬ digitLimit < (natDigits n).length := Nat.not_lt_of_le within
  simp only [readDigits, String.toList_ofList, all]
  rw [if_neg short, ofDigits_natDigits]

/-! ### Texts that are read -/

theorem foldl_digits_none (cs : List Char) :
    cs.foldl (fun n? c => do return 10 * (← n?) + (← Text.digitValue? c)) (none : Option Nat) =
      none := by
  induction cs with
  | nil => rfl
  | cons c cs ih => exact ih

/-- Characters denote a number if all of them are decimal digits. -/
theorem isSome_ofDigits : (ofDigits cs).isSome = true ↔ ∀ c ∈ cs, Text.isDecimal c = true := by
  unfold ofDigits
  generalize (0 : Nat) = start
  induction cs generalizing start with
  | nil => simp
  | cons c cs ih =>
    rw [List.foldl_cons, List.forall_mem_cons, Text.isDecimal]
    cases Text.digitValue? c with
    | none =>
      have stuck : (do return 10 * (← some start) + (← none) : Option Nat) = none := rfl
      rw [stuck, foldl_digits_none]
      exact ⟨nofun, fun all => nomatch all.1⟩
    | some digit =>
      have step : (do return 10 * (← some start) + (← some digit) : Option Nat) =
          some (10 * start + digit) := rfl
      rw [step, ih]
      exact ⟨fun rest => ⟨rfl, rest⟩, And.right⟩

/-- A text is read if it consists of decimal digits, and of no more than the limit. -/
theorem exists_readDigits {text : String} :
    (∃ n, readDigits text = .ok n) ↔
      text.toList.length ≤ digitLimit ∧ ∀ c ∈ text.toList, Text.isDecimal c = true := by
  unfold readDigits
  by_cases decimal : ∀ c ∈ text.toList, Text.isDecimal c = true
  · have all : text.toList.takeWhile Text.isDecimal = text.toList := takeWhile_decimal decimal
    obtain ⟨n, denotes⟩ := Option.isSome_iff_exists.1 (isSome_ofDigits.2 decimal)
    simp only [all, denotes]
    by_cases within : text.toList.length ≤ digitLimit
    · rw [if_neg (Nat.not_lt_of_le within)]
      exact ⟨fun _ => ⟨within, decimal⟩, fun _ => ⟨n, rfl⟩⟩
    · rw [if_pos (Nat.lt_of_not_le within)]
      constructor
      · rintro ⟨n, read⟩
        cases read
      · exact fun fits => absurd fits.1 within
  · have denotes : ofDigits text.toList = none := by
      rw [← Option.not_isSome_iff_eq_none, isSome_ofDigits]
      exact decimal
    simp only [denotes]
    constructor
    · rintro ⟨n, read⟩
      split at read <;> cases read
    · exact fun fits => absurd fits.2 decimal

end Number

end Promptuary
