import Promptuary.Json.Reader
import Promptuary.Json.Writer

/-!
Texts that are written as JSON and read again. Every character is read back from what is written for
it, whether it stands for itself or is escaped, by a letter or by the numbers of one unit or two.
Main statement: a text is read up to the quote that closes it, whatever follows
(`readText_written`).
-/

namespace Promptuary.Json

variable {ascii : Bool} {c : Char} {n : Nat} {escape rest start read : List Char}

/-! ### Escapes by number -/

theorem hexValue?_hexDigit (small : n < 16) : hexValue? (Text.hexDigit n) = some n := by
  have all : ∀ n < 16, hexValue? (Text.hexDigit n) = some n := by decide
  exact all n small

theorem unit?_hexDigits (small : n < 0x10000) (rest : List Char) :
    unit? (Text.hexDigits n 4 ++ rest) = some (n, rest) := by
  have digit : ∀ m, hexValue? (Text.hexDigit (m % 16)) = some (m % 16) :=
    fun m => hexValue?_hexDigit (Nat.mod_lt m (by decide))
  have value : ((n / 16 / 16 / 16 % 16 * 16 + n / 16 / 16 % 16) * 16 + n / 16 % 16) * 16 +
      n % 16 = n := by
    omega
  simp [Text.hexDigits, unit?, digit, value]

/-- The number of a character is not that of a surrogate. -/
theorem toNat_valid (c : Char) : c.toNat < 0xD800 ∨ 0xDFFF < c.toNat ∧ c.toNat < 0x110000 := c.valid

theorem unitChar_toNat (c : Char) : unitChar c.toNat = c := by
  have valid : c.toNat.isValidChar := c.valid
  rw [unitChar, if_pos valid, Char.ofNat_toNat]

/-- What is written for a character of one unit is read as that character. -/
theorem readUnit_single (small : c.toNat < 0x10000) (more : rest ≠ []) :
    readUnit escape (Text.hexDigits c.toNat 4 ++ rest) = .ok (c, rest) := by
  obtain ⟨next, after, rfl⟩ := List.exists_cons_of_ne_nil more
  have single : ¬(0xD800 ≤ c.toNat ∧ c.toNat < 0xDC00) := by
    have valid := toNat_valid c
    omega
  rw [readUnit, unit?_hexDigits small]
  simp [single, unitChar_toNat]

/-- What is written for a character of two units is read as that character. -/
theorem readUnit_pair (large : 0x10000 ≤ c.toNat) (more : rest ≠ []) :
    readUnit escape (Text.hexDigits (0xD800 + (c.toNat - 0x10000) / 0x400) 4 ++
      unitEscape (0xDC00 + (c.toNat - 0x10000) % 0x400) ++ rest) = .ok (c, rest) := by
  obtain ⟨next, after, rfl⟩ := List.exists_cons_of_ne_nil more
  have valid := toNat_valid c
  generalize high : 0xD800 + (c.toNat - 0x10000) / 0x400 = h
  generalize low : 0xDC00 + (c.toNat - 0x10000) % 0x400 = l
  have first : 0xD800 ≤ h ∧ h < 0xDC00 := by omega
  have second : 0xDC00 ≤ l ∧ l < 0xE000 := by omega
  have whole : 0x10000 + (h - 0xD800) * 0x400 + (l - 0xDC00) = c.toNat := by omega
  have small : h < 0x10000 := by omega
  have small' : l < 0x10000 := by omega
  rw [List.append_assoc, readUnit, unit?_hexDigits small]
  simp only [unitEscape, List.cons_append, first, decide_true, Bool.and_self, if_true]
  rw [unit?_hexDigits small']
  simp [second, whole]

/-! ### Characters -/

/-- A backslash and a letter are read as one character. -/
theorem readText_letter {fuel : Nat} {e : Char} (letter : letterEscape? e = some c)
    (other : e ≠ 'u') :
    readText start (fuel + 1) read ('\\' :: e :: rest) = readText start fuel (c :: read) rest := by
  rw [readText, if_neg (by decide), if_pos rfl, letter]
  exact other

/-- A backslash and numbers are read as the character that has them. -/
theorem readText_number {fuel : Nat} {more : List Char}
    (unit : readUnit ('u' :: more) more = .ok (c, rest)) :
    readText start (fuel + 1) read ('\\' :: 'u' :: more) =
      readText start fuel (c :: read) rest := by
  rw [readText, if_neg (by decide), if_pos rfl, unit]
  rfl

/-- Any other character is read as itself. -/
theorem readText_plain {fuel : Nat} (quote : c ≠ '"') (backslash : c ≠ '\\')
    (control : ¬ c.toNat < 32) :
    readText start (fuel + 1) read (c :: rest) = readText start fuel (c :: read) rest := by
  rw [readText.eq_def]
  simp only [if_neg quote, if_neg backslash, if_neg control]

theorem readText_charEscape {fuel : Nat} (more : rest ≠ []) :
    readText start (fuel + 1) read (charEscape c ++ rest) =
      readText start fuel (c :: read) rest := by
  unfold charEscape
  by_cases small : c.toNat < 0x10000
  · simp only [small, if_true]
    exact readText_number (readUnit_single small more)
  · simp only [small, if_false]
    exact readText_number (readUnit_pair (Nat.le_of_not_lt small) more)

/-- A character is written as a backslash and a letter, by its numbers, or as itself. -/
theorem writeChar_cases (ascii : Bool) (c : Char) :
    (∃ e, writeChar ascii c = ['\\', e] ∧ letterEscape? e = some c ∧ e ≠ 'u') ∨
      writeChar ascii c = charEscape c ∨
      writeChar ascii c = [c] ∧ c ≠ '"' ∧ c ≠ '\\' ∧ ¬ c.toNat < 32 := by
  unfold writeChar
  iterate 7
    split
    · next same =>
      subst same
      exact .inl ⟨_, rfl, rfl, by decide⟩
  split
  · exact .inr (.inl rfl)
  · next quote backslash _ _ _ _ _ plain =>
    refine .inr (.inr ⟨rfl, quote, backslash, ?_⟩)
    intro low
    simp [low] at plain

/-- What is written for a character is read as that character. -/
theorem readText_writeChar {fuel : Nat} (more : rest ≠ []) :
    readText start (fuel + 1) read (writeChar ascii c ++ rest) =
      readText start fuel (c :: read) rest := by
  rcases writeChar_cases ascii c with
    ⟨e, letter, means, other⟩ | numbers | ⟨itself, quote, backslash, control⟩
  · rw [letter]
    exact readText_letter means other
  · rw [numbers]
    exact readText_charEscape more
  · rw [itself]
    exact readText_plain quote backslash control

theorem mem_hexDigits {width : Nat} (mem : c ∈ Text.hexDigits n width) :
    ∃ d < 16, c = Text.hexDigit d := by
  induction width generalizing n with
  | zero => exact absurd mem List.not_mem_nil
  | succ width ih =>
    rcases List.mem_append.1 mem with mem | mem
    · exact ih mem
    · exact ⟨n % 16, Nat.mod_lt n (by decide), List.mem_singleton.1 mem⟩

/-- An escape by number holds nothing but a backslash, its letter and digits. -/
theorem not_mem_unitEscape (n : Nat) : '\r' ∉ unitEscape n := by
  have digits : ∀ d < 16, Text.hexDigit d ≠ '\r' := by decide
  intro mem
  simp only [unitEscape, List.mem_cons] at mem
  rcases mem with backslash | letter | mem
  · cases backslash
  · cases letter
  · obtain ⟨d, small, same⟩ := mem_hexDigits mem
    exact digits d small same.symm

/-- Carriage returns are escaped. -/
theorem not_mem_writeChar : '\r' ∉ writeChar ascii c := by
  intro mem
  rcases writeChar_cases ascii c with ⟨e, letter, means, -⟩ | numbers | ⟨itself, -, -, control⟩
  · rw [letter] at mem
    simp only [List.mem_cons, List.not_mem_nil, or_false] at mem
    rcases mem with backslash | rfl
    · cases backslash
    · cases means
  · rw [numbers] at mem
    unfold charEscape at mem
    dsimp only at mem
    split at mem
    · exact not_mem_unitEscape _ mem
    · rcases List.mem_append.1 mem with mem | mem
      · exact not_mem_unitEscape _ mem
      · exact not_mem_unitEscape _ mem
  · rw [itself] at mem
    cases List.mem_singleton.1 mem
    exact control (by decide)

theorem writeChar_ne_nil (ascii : Bool) (c : Char) : writeChar ascii c ≠ [] := by
  rcases writeChar_cases ascii c with ⟨e, letter, -⟩ | numbers | ⟨itself, -⟩
  · simp [letter]
  · rw [numbers, charEscape]
    split
    · simp [unitEscape]
    · simp [unitEscape]
  · simp [itself]

/-! ### Texts -/

/-- What is written for characters is at least as long as they are. -/
theorem length_le_flatMap (ascii : Bool) (cs : List Char) :
    cs.length ≤ (cs.flatMap (writeChar ascii)).length := by
  induction cs with
  | nil => exact Nat.le_refl 0
  | cons c cs ih =>
    have positive := List.length_pos_iff.2 (writeChar_ne_nil ascii c)
    rw [List.flatMap_cons, List.length_append, List.length_cons]
    omega

theorem not_mem_writeText (ascii : Bool) (s : String) : '\r' ∉ writeText ascii s := by
  intro mem
  simp only [writeText, List.mem_append, List.mem_cons, List.mem_flatMap, List.not_mem_nil,
    or_false] at mem
  rcases mem with (quote | ⟨c, -, mem⟩) | quote
  · cases quote
  · exact not_mem_writeChar mem
  · cases quote

/-- A written text is read up to its closing quote. -/
theorem readText_written (cs : List Char) {fuel : Nat} (enough : cs.length < fuel) :
    readText start fuel read (cs.flatMap (writeChar ascii) ++ '"' :: rest) =
      .ok (String.ofList (read.reverse ++ cs), rest) := by
  obtain ⟨fuel, rfl⟩ := Nat.exists_eq_succ_of_ne_zero (Nat.ne_of_gt (Nat.zero_lt_of_lt enough))
  induction cs generalizing fuel read with
  | nil =>
    rw [readText.eq_def]
    simp
  | cons c cs ih =>
    obtain ⟨fuel, rfl⟩ := Nat.exists_eq_succ_of_ne_zero (Nat.ne_of_gt
      (Nat.zero_lt_of_lt (Nat.lt_of_succ_lt_succ enough)))
    rw [List.flatMap_cons, List.append_assoc, readText_writeChar (by simp),
      ih _ (Nat.lt_of_succ_lt_succ enough), List.reverse_cons, List.append_assoc,
      List.singleton_append]

end Promptuary.Json
