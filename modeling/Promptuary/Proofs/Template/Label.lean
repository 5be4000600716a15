import Mathlib.Data.Nat.Find
import Promptuary.Proofs.Number.Digits
import Promptuary.Template.Label

/-!
Successors of labels. Whatever a label is, its successor is spelt with three numbers, and from there
on successors differ in the last number, which goes up by one. So the search for a free label ends
with one.
-/

namespace Promptuary

namespace Text

/-- Stretches without the character, put together, are split again. -/
theorem split_join {sep : Char} {cs : List Char} (free : sep ∉ cs) (rest : List Char) :
    split sep (cs ++ sep :: rest) = cs :: split sep rest := by
  induction cs with
  | nil =>
    rw [List.nil_append, split, if_pos rfl]
  | cons c cs ih =>
    have ne : c ≠ sep := fun same => free (same ▸ List.mem_cons_self)
    rw [List.cons_append, split, if_neg ne, ih fun mem => free (List.mem_cons_of_mem _ mem)]

theorem split_of_not_mem {sep : Char} {cs : List Char} (free : sep ∉ cs) : split sep cs = [cs] := by
  induction cs with
  | nil => rfl
  | cons c cs ih =>
    have ne : c ≠ sep := fun same => free (same ▸ List.mem_cons_self)
    rw [split, if_neg ne, ih fun mem => free (List.mem_cons_of_mem _ mem)]

end Text

namespace Label

open Number (natDigits digitCount digitLimit)

/-- The label of three numbers. -/
def spell (major minor patch : Nat) : String :=
  s!"{String.ofList (natDigits major)}.{String.ofList (natDigits minor)}.{String.ofList (natDigits patch)}"

variable {taken : List String} {label r : String} {major minor patch n : Nat}

theorem toList_spell (major minor patch : Nat) :
    (spell major minor patch).toList =
      natDigits major ++ '.' :: (natDigits minor ++ '.' :: natDigits patch) := by
  simp [spell, toString]

theorem point_not_mem (n : Nat) : '.' ∉ natDigits n := fun mem =>
  absurd (Number.isDigit_of_mem_natDigits mem) (by decide)

theorem split_spell (major minor patch : Nat) :
    Text.split '.' (spell major minor patch).toList =
      [natDigits major, natDigits minor, natDigits patch] := by
  rw [toList_spell, Text.split_join (point_not_mem major), Text.split_join (point_not_mem minor),
    Text.split_of_not_mem (point_not_mem patch)]

/-- Labels of different last numbers differ. -/
theorem spell_injective (same : spell major minor patch = spell major minor n) : patch = n := by
  have parts := congrArg (fun label => Text.split '.' label.toList) same
  simp only [split_spell] at parts
  exact Number.natDigits_injective (by simpa using parts)

theorem isNumeral_natDigits (n : Nat) : isNumeral (natDigits n) = true := by
  have digits : (natDigits n).all Text.isDigit = true :=
    List.all_eq_true.2 fun c mem =>
      Text.isDigit_of_isDecimal (Text.isDecimal_of_isDigit (Number.isDigit_of_mem_natDigits mem))
  have nonempty : (natDigits n).isEmpty = false := by
    simpa using Number.natDigits_ne_nil n
  rw [isNumeral, digits, nonempty]
  rfl

/-- Numbers that can be written. -/
structure Written (major minor patch : Nat) : Prop where
  major : digitCount major ≤ digitLimit
  minor : digitCount minor ≤ digitLimit
  patch : digitCount patch ≤ digitLimit

/-- The label of three numbers, if all of them can be written. -/
def spell? (major minor patch : Nat) : Except Number.IntegerError String := do
  return s!"{← Number.writeInt major}.{← Number.writeInt minor}.{← Number.writeInt patch}"

theorem spell?_eq_ok (ok : spell? major minor patch = .ok r) :
    r = spell major minor patch ∧ Written major minor patch := by
  unfold spell? at ok
  cases first : Number.writeInt major with
  | error => rw [first] at ok; cases ok
  | ok a =>
    cases second : Number.writeInt minor with
    | error => rw [first, second] at ok; cases ok
    | ok b =>
      cases third : Number.writeInt patch with
      | error => rw [first, second, third] at ok; cases ok
      | ok c =>
        rw [first, second, third] at ok
        obtain ⟨short, rfl⟩ := Number.writeInt_eq_ok first
        obtain ⟨short', rfl⟩ := Number.writeInt_eq_ok second
        obtain ⟨short'', rfl⟩ := Number.writeInt_eq_ok third
        exact ⟨(Except.ok.inj ok).symm, short, short', short''⟩

/-- A label of three numbers has the next last number in its successor. -/
theorem next_spell (written : Written major minor patch) :
    next (spell major minor patch) = spell? major minor (patch + 1) := by
  unfold next
  rw [split_spell]
  simp only [isNumeral_natDigits, Bool.and_self, if_true]
  rw [Number.readDigits_natDigits written.major, Number.readDigits_natDigits written.minor,
    Number.readDigits_natDigits written.patch]
  rfl

/-- Every successor is the label of three numbers. -/
theorem next_eq_ok (ok : next label = .ok r) :
    ∃ major minor patch, r = spell major minor patch ∧ Written major minor patch := by
  have spare : ∃ major minor patch,
      fallback = spell major minor patch ∧ Written major minor patch :=
    ⟨1, 0, 1, rfl, by decide, by decide, by decide⟩
  unfold next at ok
  split at ok
  · next major minor patch _ =>
    split at ok
    · cases first : Number.readDigits (String.ofList major) with
      | error => rw [first] at ok; cases ok
      | ok a =>
        cases second : Number.readDigits (String.ofList minor) with
        | error => rw [first, second] at ok; cases ok
        | ok b =>
          cases third : Number.readDigits (String.ofList patch) with
          | error => rw [first, second, third] at ok; cases ok
          | ok c =>
            rw [first, second, third] at ok
            exact ⟨a, b, c + 1, spell?_eq_ok ok⟩
    · cases ok
      exact spare
  · cases ok
    exact spare

/-! ### The search for a free label -/

/-- The search goes past labels that are taken. It ends with one that is free, unless it ran out of
fuel on the way. -/
theorem skipTaken_spell {fuel : Nat} (written : Written major minor patch)
    (ok : skipTaken taken fuel (spell major minor patch) = .ok r) :
    ∃ steps ≤ fuel, r = spell major minor (patch + steps) ∧
      Written major minor (patch + steps) ∧
      (∀ i < steps, spell major minor (patch + i) ∈ taken) ∧ (steps < fuel → r ∉ taken) := by
  induction fuel generalizing patch with
  | zero =>
    cases ok
    exact ⟨0, Nat.le_refl _, rfl, written, fun i lt => absurd lt (Nat.not_lt_zero i),
      fun lt => absurd lt (Nat.not_lt_zero 0)⟩
  | succ fuel ih =>
    rw [skipTaken] at ok
    by_cases mem : taken.contains (spell major minor patch) = true
    · rw [if_pos mem, next_spell written] at ok
      cases spelt : spell? major minor (patch + 1) with
      | error => rw [spelt] at ok; cases ok
      | ok label =>
        rw [spelt] at ok
        obtain ⟨rfl, written'⟩ := spell?_eq_ok spelt
        obtain ⟨steps, le, same, written'', passed, free⟩ := ih written' ok
        rw [Nat.add_assoc, Nat.add_comm 1 steps] at same written''
        refine ⟨steps + 1, by omega, same, written'', ?_, fun lt => free (by omega)⟩
        intro i lt
        cases i with
        | zero => exact List.contains_iff_mem.1 mem
        | succ i =>
          have past := passed i (by omega)
          rwa [Nat.add_assoc, Nat.add_comm 1 i] at past
    · rw [if_neg mem] at ok
      cases ok
      exact ⟨0, by omega, rfl, written, fun i lt => absurd lt (Nat.not_lt_zero i),
        fun _ taken => mem (List.contains_iff_mem.2 taken)⟩

/-- What the search makes of a label: it starts from the successor and goes on from there. -/
theorem nextFree_eq_ok (ok : nextFree taken label = .ok r) :
    ∃ major minor patch steps, next label = .ok (spell major minor patch) ∧
      steps ≤ taken.length + 1 ∧ r = spell major minor (patch + steps) ∧
      Written major minor (patch + steps) ∧
      (∀ i < steps, spell major minor (patch + i) ∈ taken) ∧
      (steps < taken.length + 1 → r ∉ taken) := by
  unfold nextFree at ok
  cases first : next label with
  | error => rw [first] at ok; cases ok
  | ok label' =>
    rw [first] at ok
    obtain ⟨major, minor, patch, rfl, written⟩ := next_eq_ok first
    obtain ⟨steps, rest⟩ := skipTaken_spell written ok
    exact ⟨major, minor, patch, steps, rfl, rest⟩

/-- A line of labels that is longer than what is taken has a free one. -/
theorem exists_free (taken : List String) (major minor patch : Nat) :
    ∃ i ≤ taken.length, spell major minor (patch + i) ∉ taken := by
  refine Classical.byContradiction fun none => ?_
  have distinct : ((List.range (taken.length + 1)).map
      fun i => spell major minor (patch + i)).Nodup := by
    refine List.pairwise_map.2 (List.nodup_range.imp ?_)
    intro i j ne same
    have sums := spell_injective same
    omega
  have all : ((List.range (taken.length + 1)).map
      fun i => spell major minor (patch + i)) ⊆ taken := by
    intro label mem
    obtain ⟨i, lt, rfl⟩ := List.mem_map.1 mem
    refine Classical.byContradiction fun free => none ⟨i, ?_, free⟩
    exact Nat.le_of_lt_succ (List.mem_range.1 lt)
  have fits := distinct.length_le_of_subset all
  rw [List.length_map, List.length_range] at fits
  omega

/-- The search reaches a free label: it would need more labels than are taken to miss one. -/
theorem nextFree_not_mem (ok : nextFree taken label = .ok r) : r ∉ taken := by
  obtain ⟨major, minor, patch, steps, -, le, -, -, passed, free⟩ := nextFree_eq_ok ok
  obtain ⟨i, near, untaken⟩ := exists_free taken major minor patch
  refine free (Nat.lt_of_le_of_ne le ?_)
  rintro rfl
  exact untaken (passed i (Nat.lt_succ_of_le near))

/-- The search never comes back to the label that it started from. -/
theorem nextFree_ne (ok : nextFree taken label = .ok r) : r ≠ label := by
  obtain ⟨major, minor, patch, steps, first, -, rfl, written, -, -⟩ := nextFree_eq_ok ok
  rintro rfl
  rw [next_spell written] at first
  obtain ⟨same, -⟩ := spell?_eq_ok first
  have sums := spell_injective same
  omega

/-! ### The least free label -/

/-- Numbers below one that can be written can be written. -/
theorem Written.of_le (written : Written major minor n) (le : patch ≤ n) :
    Written major minor patch where
  major := written.major
  minor := written.minor
  patch := by
    have positive : 0 < digitLimit := by decide
    refine (Nat.length_toDigits_le_iff (by decide) positive).2 (Nat.lt_of_le_of_lt le ?_)
    exact (Nat.length_toDigits_le_iff (by decide) positive).1 written.patch

theorem spell?_of_written (written : Written major minor patch) :
    spell? major minor patch = .ok (spell major minor patch) := by
  unfold spell?
  rw [Number.writeInt_of_le written.major, Number.writeInt_of_le written.minor,
    Number.writeInt_of_le written.patch]
  rfl

/-- Only the last number can be too large, and then it says so. -/
theorem spell?_of_not_written (written : Written major minor n)
    (beyond : ¬ Written major minor patch) :
    spell? major minor patch = .error .tooLargeToWrite := by
  have large : digitLimit < digitCount (patch : Int).natAbs :=
    Nat.lt_of_not_le fun within => beyond ⟨written.major, written.minor, within⟩
  have failed : Number.writeInt patch = .error .tooLargeToWrite := if_pos large
  unfold spell?
  rw [Number.writeInt_of_le written.major, Number.writeInt_of_le written.minor, failed]
  rfl

/-- How far the least free label of a line is: one step at least, and one step more than there are
taken labels at most. -/
structure LeastFree (taken : List String) (major minor patch step : Nat) : Prop where
  forward : 1 ≤ step
  near : step ≤ taken.length + 1
  free : spell major minor (patch + step) ∉ taken
  least : ∀ i, 1 ≤ i → i < step → spell major minor (patch + i) ∈ taken

theorem exists_leastFree (taken : List String) (major minor patch : Nat) :
    ∃ step, LeastFree taken major minor patch step := by
  obtain ⟨i, near, free⟩ := exists_free taken major minor (patch + 1)
  have some : ∃ i, spell major minor (patch + 1 + i) ∉ taken := ⟨i, free⟩
  refine ⟨1 + Nat.find some, ?_, ?_, ?_, ?_⟩
  · exact Nat.le_add_right 1 _
  · have first : Nat.find some ≤ i := Nat.find_min' some free
    omega
  · rw [← Nat.add_assoc]
    exact Nat.find_spec some
  · intro j positive earlier
    have before : j - 1 < Nat.find some := by omega
    have taken := Decidable.not_not.1 (Nat.find_min some before)
    rwa [show patch + 1 + (j - 1) = patch + j by omega] at taken

/-- The search goes on to the first free label, with any fuel that takes it there. -/
theorem skipTaken_eq {step fuel : Nat} (written : Written major minor patch)
    (enough : step ≤ fuel) (free : spell major minor (patch + step) ∉ taken)
    (passed : ∀ i < step, spell major minor (patch + i) ∈ taken) :
    skipTaken taken fuel (spell major minor patch) = spell? major minor (patch + step) := by
  induction step generalizing patch fuel with
  | zero =>
    rw [Nat.add_zero] at free ⊢
    rw [spell?_of_written written]
    cases fuel with
    | zero => rfl
    | succ fuel => rw [skipTaken, if_neg fun mem => free (List.contains_iff_mem.1 mem)]
  | succ step ih =>
    obtain ⟨fuel, rfl⟩ : ∃ more, fuel = more + 1 := ⟨fuel - 1, by omega⟩
    have here : taken.contains (spell major minor patch) = true :=
      List.contains_iff_mem.2 (passed 0 (Nat.succ_pos step))
    rw [skipTaken, if_pos here, next_spell written]
    have sum : patch + 1 + step = patch + (step + 1) := by omega
    by_cases further : Written major minor (patch + 1)
    · rw [spell?_of_written further, ← sum]
      rw [← sum] at free
      refine ih further (Nat.le_of_succ_le_succ enough) free ?_
      intro i lt
      rw [Nat.add_assoc, Nat.add_comm 1 i]
      exact passed (i + 1) (Nat.succ_lt_succ lt)
    · have never : ¬ Written major minor (patch + (step + 1)) := fun all =>
        further (all.of_le (by omega))
      rw [spell?_of_not_written written further, spell?_of_not_written written never]
      rfl

/-- What follows a label of three numbers is the least free label of its line, whatever the fuel, as
long as there is as much as there are taken labels. -/
theorem next_skipTaken {step fuel : Nat} (written : Written major minor patch)
    (least : LeastFree taken major minor patch step) (enough : taken.length ≤ fuel) :
    (next (spell major minor patch) >>= skipTaken taken fuel) =
      spell? major minor (patch + step) := by
  rw [next_spell written]
  by_cases further : Written major minor (patch + 1)
  · have forward := least.forward
    have near := least.near
    have sum : patch + 1 + (step - 1) = patch + step := by omega
    rw [spell?_of_written further, ← sum]
    refine skipTaken_eq further (by omega) (sum ▸ least.free) ?_
    intro i lt
    rw [Nat.add_assoc, Nat.add_comm 1 i]
    exact least.least (i + 1) (by omega) (by omega)
  · have never : ¬ Written major minor (patch + step) := fun all =>
      further (all.of_le (Nat.add_le_add_left least.forward patch))
    rw [spell?_of_not_written written further, spell?_of_not_written written never]
    rfl

end Label

end Promptuary
