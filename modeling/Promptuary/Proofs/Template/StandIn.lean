import Promptuary.Proofs.Number.Ordering
import Promptuary.Proofs.Outcome
import Promptuary.Template.Check

/-!
What stands in for a binding. A datum passes the check of a variable just if it has the type and the
constraints allow it (`check_eq_nil_iff`). Texts are filled and cut, and numbers chosen, such that
the stand-in is allowed whenever anything is (`standIn_check`).
-/

namespace Promptuary

open Number (Quantity)

variable {name : String} {c : Constraints} {d : Datum} {s : String} {n : Quantity} {x : Variable}

/-! ### What constraints allow -/

/-- A text that matches the pattern and is neither too short nor too long. -/
structure Constraints.AllowsText (c : Constraints) (s : String) : Prop where
  pattern : ∀ asked, c.pattern = some asked →
    asked.isEmpty = true ∨ Pattern.search asked s = .ok true
  least : ∀ limit, c.minLength = some limit → limit ≤ s.length
  most : ∀ limit, c.maxLength = some limit → (s.length : Int) ≤ limit

/-- A number that is neither too small nor too large. -/
structure Constraints.AllowsNumber (c : Constraints) (n : Quantity) : Prop where
  least : ∀ bound, c.min = some bound → n.lt (.float bound) = false
  most : ∀ bound, c.max = some bound → (Quantity.float bound).lt n = false

/-- A datum that constraints leave nothing to complain about. -/
structure Constraints.Allows (c : Constraints) (d : Datum) : Prop where
  text : ∀ s, Value.of d = .string s → c.AllowsText s
  number : ∀ n, Value.of d = .number n → c.AllowsNumber n
  option : ∀ options, c.options = some options → options.any d.same = true

/-- Two lists of complaints are empty together. -/
theorem joined_eq_nil_iff {ε : Type} {first second : Except ε (List String)} :
    (do return (← first) ++ (← second)) = Except.ok [] ↔ first = .ok [] ∧ second = .ok [] := by
  rcases first with _ | _ | _ <;> rcases second with _ | _ | _ <;>
    simp [bind, pure, Except.bind, Except.pure]

theorem patternProblems_eq_nil {pattern : Option String} :
    patternProblems name s pattern = .ok [] ↔
      ∀ asked, pattern = some asked → asked.isEmpty = true ∨ Pattern.search asked s = .ok true := by
  cases pattern with
  | none => exact iff_of_true rfl nofun
  | some asked =>
    rw [patternProblems]
    split
    · next empty => exact iff_of_true rfl fun _ same => .inl (Option.some.inj same ▸ empty)
    · next present =>
      split <;> simp_all

theorem limitProblems_eq_nil {words : String} {violates : Int → Bool} {limit : Option Int} :
    limitProblems name words violates limit = .ok [] ↔
      ∀ asked, limit = some asked → violates asked = false := by
  cases limit with
  | none => exact iff_of_true rfl nofun
  | some asked =>
    rw [limitProblems]
    split
    · next violated => cases Number.writeInt asked <;> simp [violated]
    · next kept => simp [kept]

theorem textProblems_eq_nil : textProblems name s c = .ok [] ↔ c.AllowsText s := by
  rw [textProblems, joined_eq_nil_iff, lengthProblems, joined_eq_nil_iff, patternProblems_eq_nil,
    limitProblems_eq_nil, limitProblems_eq_nil]
  simp only [decide_eq_false_iff_not, Int.not_lt]
  exact ⟨fun ⟨pattern, least, most⟩ => ⟨pattern, least, most⟩,
    fun ⟨pattern, least, most⟩ => ⟨pattern, least, most⟩⟩

theorem boundProblems_eq_nil : boundProblems name n c = [] ↔ c.AllowsNumber n := by
  rw [boundProblems, List.append_eq_nil_iff]
  constructor
  · rintro ⟨least, most⟩
    constructor
    · intro bound asked
      simpa [asked] using least
    · intro bound asked
      simpa [asked] using most
  · rintro ⟨least, most⟩
    constructor
    · split
      · next bound asked => simp [least bound asked]
      · rfl
    · split
      · next bound asked => simp [most bound asked]
      · rfl

theorem optionProblems_eq_nil {options : Option (List Datum)} :
    optionProblems name d options = .ok [] ↔
      ∀ listed, options = some listed → listed.any d.same = true := by
  cases options with
  | none => exact iff_of_true rfl nofun
  | some listed =>
    rw [optionProblems]
    split
    · next found => simpa using found
    · next lost => cases listed.mapM Datum.message <;> simpa using lost

theorem constraintProblems_eq_nil : constraintProblems name d c = .ok [] ↔ c.Allows d := by
  rw [constraintProblems, joined_eq_nil_iff, optionProblems_eq_nil]
  have own : valueProblems name (.of d) c = .ok [] ↔
      (∀ s, Value.of d = .string s → c.AllowsText s) ∧
        ∀ n, Value.of d = .number n → c.AllowsNumber n := by
    cases Value.of d with
    | string s => simp [valueProblems, textProblems_eq_nil]
    | number n => simp [valueProblems, boundProblems_eq_nil]
    | _ => simp [valueProblems]
  rw [own]
  exact ⟨fun ⟨⟨text, number⟩, option⟩ => ⟨text, number, option⟩,
    fun ⟨text, number, option⟩ => ⟨⟨text, number⟩, option⟩⟩

theorem typeProblems_eq_nil : typeProblems x (.of d) = [] ↔ x.type.admits (.of d) = true := by
  rw [typeProblems]
  split <;> simp_all

/-- Where nothing is constrained everything is allowed. -/
theorem allows_of_unconstrained : ({} : Constraints).Allows d :=
  ⟨fun _ _ => ⟨nofun, nofun, nofun⟩, fun _ _ => ⟨nofun, nofun⟩, nofun⟩

/-- A datum passes the check of a variable just if it has the type and the constraints allow it. -/
theorem check_eq_nil_iff :
    x.check d = .ok [] ↔
      x.type.admits (.of d) = true ∧ (x.constraints.getD {}).Allows d := by
  cases constrained : x.constraints with
  | none =>
    have alone : x.check d = .ok (typeProblems x (.of d)) := by
      rw [Variable.check, if_pos rfl, constrained]
      rfl
    rw [alone, Except.ok.injEq, typeProblems_eq_nil]
    exact (and_iff_left allows_of_unconstrained).symm
  | some c =>
    have both : x.check d =
        (do return (← .ok (typeProblems x (.of d))) ++ (← constraintProblems x.name d c)) := by
      rw [Variable.check, if_pos rfl, constrained]
      rfl
    rw [both, joined_eq_nil_iff, Except.ok.injEq, typeProblems_eq_nil, constraintProblems_eq_nil]
    rfl

/-! ### Texts -/

/-- Constraints that ask for no pattern and list no options, and whose bounds are numbers. -/
structure Constraints.IsPlain (c : Constraints) : Prop where
  pattern : c.pattern = none
  options : c.options = none
  min : ∀ bound, c.min = some bound → bound.isNaN = false
  max : ∀ bound, c.max = some bound → bound.isNaN = false

/-- How many characters a text that stands in has before it is cut. -/
def filledLength (c : Constraints) : Nat := max 10 (c.minLength.getD 0).toNat

/-- How many characters the text that stands in has. -/
theorem length_filledText :
    (filledText c).length = c.maxLength.elim (filledLength c) (keptLength (filledLength c)) := by
  have enough (length : Nat) : min length 10 + (length - 10) = length := by omega
  unfold filledText
  cases c.maxLength <;> simp [enough, filledLength]

/-- If some text is neither too short nor too long, the text that stands in is not either. -/
theorem allowsText_filledText (plain : c.IsPlain) (allows : c.AllowsText s) :
    c.AllowsText (filledText c) := by
  have filled (limit : Int) (asked : c.minLength = some limit) : limit ≤ (filledLength c) := by
    rw [filledLength, asked, Option.getD_some]
    omega
  -- A text of any length shows that the greatest length is not negative.
  have cut (limit : Int) (asked : c.maxLength = some limit) :
      (keptLength (filledLength c) limit : Int) = min ((filledLength c) : Int) limit := by
    have most := allows.most limit asked
    rw [keptLength, if_pos (by omega)]
    omega
  refine ⟨by simp [plain.pattern], fun limit asked => ?_, fun limit asked => ?_⟩
  · rw [length_filledText]
    cases upper : c.maxLength with
    | none => exact filled limit asked
    | some most =>
      rw [Option.elim_some, cut most upper]
      have least := allows.least limit asked
      exact le_min (filled limit asked) (least.trans (allows.most most upper))
  · rw [length_filledText, asked, Option.elim_some, cut limit asked]
    exact min_le_right _ _

/-- The text that stands in can be made just if there is room for the least length. -/
theorem exists_standInText_iff :
    (∃ s, standInText c = .ok s) ↔ ∀ least, c.minLength = some least → least ≤ roomyLength := by
  have room : roomyLength < lengthBound := by decide
  unfold standInText
  cases c.minLength with
  | none => simp
  | some least =>
    simp only [Option.bind_some, fillError?, Option.some.injEq, forall_eq']
    split_ifs <;> simp <;> omega

/-! ### Numbers -/

theorem worthOf_zero : Number.worthOf 0 = 0 := rfl

/-- Of two quantities that are numbers one is not less than the other just if it is not worth
less. -/
theorem not_lt_iff_worth {a b : Quantity} (first : a.isNaN = false) (second : b.isNaN = false) :
    a.lt b = false ↔ b.worth ≤ a.worth := by
  rw [← Bool.not_eq_true, Quantity.lt_iff_worth first second, not_lt]

/-- If some number is neither too small nor too large, the number that stands in is not either. -/
theorem allowsNumber_standInNumber (plain : c.IsPlain) (number : n.isNaN = false)
    (allows : c.AllowsNumber n) :
    ∃ m, Value.of (standInNumber c) = .number m ∧ m.isNaN = false ∧ c.AllowsNumber m := by
  -- As quantities the bounds are numbers.
  have lowest (bound : Float) (asked : c.min = some bound) : (Quantity.float bound).isNaN = false :=
    plain.min bound asked
  have highest (bound : Float) (asked : c.max = some bound) :
      (Quantity.float bound).isNaN = false :=
    plain.max bound asked
  unfold standInNumber
  cases lower : c.min with
  | some least =>
    refine ⟨.float least, rfl, lowest least lower, fun bound asked => ?_, fun bound asked => ?_⟩
    · cases lower.symm.trans asked
      exact (not_lt_iff_worth (lowest least lower) (lowest least lower)).2 le_rfl
    · have above := (not_lt_iff_worth number (lowest least lower)).1 (allows.least least lower)
      have below := (not_lt_iff_worth (highest bound asked) number).1 (allows.most bound asked)
      exact (not_lt_iff_worth (highest bound asked) (lowest least lower)).2 (above.trans below)
  | none =>
    cases upper : c.max with
    | none => exact ⟨.int 0, rfl, rfl, by simp [lower], by simp [upper]⟩
    | some most =>
      dsimp only
      split
      · refine ⟨.float most, rfl, highest most upper, by simp [lower], fun bound asked => ?_⟩
        cases upper.symm.trans asked
        exact (not_lt_iff_worth (highest most upper) (highest most upper)).2 le_rfl
      · next nonnegative =>
        refine ⟨.int 0, rfl, rfl, by simp [lower], fun bound asked => ?_⟩
        cases upper.symm.trans asked
        rw [Number.lt_iff_worthOf (plain.max most upper) rfl, worthOf_zero, not_lt] at nonnegative
        rw [not_lt_iff_worth (highest most upper) rfl]
        exact le_of_eq_of_le (by simp [Quantity.worth, Number.worthOfInt]) nonnegative

/-! ### Stand-ins -/

/-- Variables without a default whose constraints, if there are any, are plain. -/
structure Variable.IsPlain (x : Variable) : Prop where
  default : x.default = none
  constraints : (x.constraints.getD {}).IsPlain

/-- Whether there is room for a datum, which for a text means that it is not too long. -/
def Datum.HasRoom (d : Datum) : Prop :=
  ∀ s, Value.of d = .string s → (s.length : Int) ≤ roomyLength

theorem admits_string_iff {v : Value} :
    VariableType.string.admits v = true ↔ ∃ s, v = .string s := by
  cases v <;> simp [VariableType.admits, VariableType.kind, Value.kind]

theorem admits_number_iff {v : Value} :
    VariableType.number.admits v = true ↔ ∃ n, v = .number n ∧ n.isNaN = false := by
  cases v <;> simp [VariableType.admits, VariableType.kind, Value.kind]

/-- What stands in for values of a type, within constraints. -/
def standInOf (type : VariableType) (c : Constraints) : Except CheckError Datum :=
  match type with
  | .string => ((standInText c).map Datum.text).mapError .length
  | .number => .ok (standInNumber c)
  | .boolean => .ok (.bool true)
  | .array => .ok (.list [])
  | .object => .ok (.object [])

/-- What stands in for a variable without a default and without options is of its type. -/
theorem standIn_eq (plain : x.IsPlain) : x.standIn = standInOf x.type (x.constraints.getD {}) := by
  unfold Variable.standIn
  rw [plain.default]
  dsimp only
  rw [plain.constraints.options]
  cases x.type <;> rfl

/-- Plain constraints are about texts and numbers only. -/
theorem Constraints.IsPlain.allows_iff (plain : c.IsPlain) :
    c.Allows d ↔ match Value.of d with
      | .string s => c.AllowsText s
      | .number n => c.AllowsNumber n
      | _ => True := by
  constructor
  · intro allows
    split
    · exact allows.text _ ‹_›
    · exact allows.number _ ‹_›
    · trivial
  · intro allowed
    refine ⟨fun s text => ?_, fun n number => ?_, by simp [plain.options]⟩
    · simpa [text] using allowed
    · simpa [number] using allowed

/-- What stands in for a variable passes its check if any datum does; and there is something that
stands in, if there is room for such a datum. -/
theorem standIn_check (plain : x.IsPlain) (passes : x.check d = .ok []) :
    (∀ found, x.standIn = .ok found → x.check found = .ok []) ∧
      (d.HasRoom → ∃ found, x.standIn = .ok found) := by
  obtain ⟨typed, allows⟩ := check_eq_nil_iff.1 passes
  have bare := plain.constraints
  rw [standIn_eq plain]
  simp only [check_eq_nil_iff]
  generalize x.constraints.getD {} = c at bare allows
  cases type : x.type with
  | string =>
    rw [type] at typed
    obtain ⟨s, text⟩ := admits_string_iff.1 typed
    constructor
    · intro found made
      unfold standInOf standInText at made
      dsimp only at made
      split at made <;> cases made
      exact ⟨admits_string_iff.2 ⟨_, rfl⟩,
        bare.allows_iff.2 (allowsText_filledText bare (allows.text s text))⟩
    · intro room
      obtain ⟨made, found⟩ := exists_standInText_iff.2 fun least asked =>
        ((allows.text s text).least least asked).trans (room s text)
      exact ⟨.text made, by rw [standInOf, found]; rfl⟩
  | number =>
    rw [type] at typed
    obtain ⟨n, value, number⟩ := admits_number_iff.1 typed
    obtain ⟨m, stands, defined, allowed⟩ :=
      allowsNumber_standInNumber bare number (allows.number n value)
    refine ⟨fun found made => ?_, fun _ => ⟨_, rfl⟩⟩
    cases made
    rw [bare.allows_iff, stands]
    exact ⟨admits_number_iff.2 ⟨m, rfl, defined⟩, allowed⟩
  | boolean | array | object =>
    refine ⟨fun found made => ?_, fun _ => ⟨_, rfl⟩⟩
    cases made
    exact ⟨rfl, bare.allows_iff.2 trivial⟩

/-- A text of two to four characters is asked for, and the word that stands in is cut. -/
theorem standIn_check_initials :
    let initials : Variable :=
      { name := "initials", constraints := some { minLength := some 2, maxLength := some 4 } }
    initials.IsPlain ∧ initials.check (.text "abc") = .ok [] ∧
      ∃ found, initials.standIn = .ok found ∧ initials.check found = .ok [] := by
  intro initials
  have plain : initials.IsPlain := ⟨rfl, rfl, rfl, nofun, nofun⟩
  have passes : initials.check (.text "abc") = .ok [] := rfl
  have room : (Datum.text "abc").HasRoom := by
    rintro _ ⟨⟩
    decide
  obtain ⟨suits, exist⟩ := standIn_check plain passes
  obtain ⟨found, made⟩ := exist room
  exact ⟨plain, passes, found, made, suits found made⟩

end Promptuary
