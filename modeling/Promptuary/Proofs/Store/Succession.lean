import Mathlib.Algebra.Group.Nat.Defs
import Mathlib.Data.List.Induction
import Promptuary.Proofs.Outcome
import Promptuary.Proofs.Store.Run
import Promptuary.Proofs.Template.Label

/-!
Successors of labels of any kind. A label that joins three numerals is followed by the one with the
next last number, and any other text by a fixed label. Between them lie labels that have three
stretches of digits of which not all are numerals: they have no successor, and a record with such a
label cannot be updated.
-/

namespace Promptuary

namespace Number

variable {cs : List Char} {n : Nat}

/-- Digits denote a number below the power of ten that is as long as they are. -/
theorem ofDigits_lt (denotes : ofDigits cs = some n) : n < 10 ^ cs.length := by
  -- The induction is on the end of the digits, where the place of a unit is.
  induction cs using List.reverseRecOn generalizing n with
  | nil =>
    cases denotes
    exact Nat.one_pos
  | append_singleton cs c ih =>
    rw [ofDigits, List.foldl_append, ← ofDigits] at denotes
    cases before : ofDigits cs with
    | none =>
      rw [before] at denotes
      cases denotes
    | some m =>
      obtain ⟨digit, value, rfl⟩ : ∃ digit, Text.digitValue? c = some digit ∧
          10 * m + digit = n := by
        rw [before, List.foldl_cons, List.foldl_nil] at denotes
        cases value : Text.digitValue? c with
        | none =>
          rw [value] at denotes
          cases denotes
        | some digit =>
          rw [value] at denotes
          exact ⟨digit, rfl, Option.some.inj denotes⟩
      have shorter := ih before
      have unit := Text.digitValue?_lt value
      rw [List.length_append, List.length_singleton, Nat.pow_succ]
      omega

/-- What can be read can be written. -/
theorem digitCount_le (denotes : ofDigits cs = some n) (short : cs.length ≤ digitLimit) :
    digitCount n ≤ digitLimit := by
  have positive : 0 < digitLimit := by decide
  refine (Nat.length_toDigits_le_iff (by decide) positive).2 ?_
  exact Nat.lt_of_lt_of_le (ofDigits_lt denotes) (Nat.pow_le_pow_right (by decide) short)

end Number

namespace Label

open Number (ofDigits digitCount digitLimit readDigits)

/-- A text is three stretches with points between them. -/
def Joins (label : String) (a b c : List Char) : Prop :=
  label.toList = a ++ '.' :: (b ++ '.' :: c)

/-- A stretch is a numeral: decimal digits of any script, at least one and no more than can be read,
that denote a number. -/
structure Denotes (part : List Char) (n : Nat) : Prop where
  nonempty : part ≠ []
  short : part.length ≤ digitLimit
  value : ofDigits part = some n

/-- A label joins three numerals. -/
def Reads (label : String) (major minor patch : Nat) : Prop :=
  ∃ a b c, Joins label a b c ∧ Denotes a major ∧ Denotes b minor ∧ Denotes c patch

/-- A label joins three stretches of digits, which need not be decimal. -/
def Digital (label : String) : Prop :=
  ∃ a b c, Joins label a b c ∧ isNumeral a = true ∧ isNumeral b = true ∧ isNumeral c = true

variable {label r : String} {a b c part : List Char} {major minor patch n : Nat}
  {taken : List String} {e : Number.IntegerError}

/-! ### Parts of a label -/

theorem split_joins (joins : Joins label a b c) (first : '.' ∉ a) (second : '.' ∉ b)
    (third : '.' ∉ c) : Text.split '.' label.toList = [a, b, c] := by
  rw [joins, Text.split_join first, Text.split_join second, Text.split_of_not_mem third]

theorem joins_of_split (split : Text.split '.' label.toList = [a, b, c]) : Joins label a b c := by
  have joined := Text.join_split '.' label.toList
  rw [split] at joined
  rw [Joins, ← joined]
  simp [Text.join, List.intercalate]

theorem not_mem_of_isNumeral (digits : isNumeral part = true) : '.' ∉ part := by
  intro mem
  have all := (Bool.and_eq_true_iff.1 digits).2
  exact absurd (List.all_eq_true.1 all '.' mem) (by decide)

/-- Labels of three stretches of digits are those whose parts are such stretches. -/
theorem digital_iff : Digital label ↔ ∃ a b c, Text.split '.' label.toList = [a, b, c] ∧
    isNumeral a = true ∧ isNumeral b = true ∧ isNumeral c = true := by
  constructor
  · rintro ⟨a, b, c, joins, first, second, third⟩
    exact ⟨a, b, c, split_joins joins (not_mem_of_isNumeral first) (not_mem_of_isNumeral second)
      (not_mem_of_isNumeral third), first, second, third⟩
  · rintro ⟨a, b, c, split, digits⟩
    exact ⟨a, b, c, joins_of_split split, digits⟩

namespace Denotes

theorem decimal (denotes : Denotes part n) : ∀ c ∈ part, Text.isDecimal c = true :=
  Number.isSome_ofDigits.1 (Option.isSome_iff_exists.2 ⟨n, denotes.value⟩)

theorem isNumeral (denotes : Denotes part n) : isNumeral part = true := by
  have nonempty : part.isEmpty = false := by
    simpa using denotes.nonempty
  have digits : part.all Text.isDigit = true :=
    List.all_eq_true.2 fun c mem => Text.isDigit_of_isDecimal (denotes.decimal c mem)
  rw [Label.isNumeral, nonempty, digits]
  rfl

theorem digitCount_le (denotes : Denotes part n) : digitCount n ≤ digitLimit :=
  Number.digitCount_le denotes.value denotes.short

theorem readDigits (denotes : Denotes part n) : readDigits (String.ofList part) = .ok n := by
  have short : ¬ digitLimit < part.length := Nat.not_lt_of_le denotes.short
  simp only [Number.readDigits, String.toList_ofList, Number.takeWhile_decimal denotes.decimal]
  rw [if_neg short, denotes.value]

theorem natDigits (short : digitCount n ≤ digitLimit) : Denotes (Number.natDigits n) n :=
  ⟨Number.natDigits_ne_nil n, short, Number.ofDigits_natDigits n⟩

end Denotes

/-- Digits that are read are a numeral. -/
theorem denotes_of_readDigits (digits : isNumeral part = true)
    (read : readDigits (String.ofList part) = .ok n) : Denotes part n := by
  obtain ⟨short, decimal⟩ := Number.exists_readDigits.1 ⟨n, read⟩
  rw [String.toList_ofList] at short decimal
  obtain ⟨m, value⟩ := Option.isSome_iff_exists.1 (Number.isSome_ofDigits.2 decimal)
  have nonempty : part ≠ [] := by
    rintro rfl
    cases digits
  have denotes : Denotes part m := ⟨nonempty, short, value⟩
  cases denotes.readDigits.symm.trans read
  exact denotes

theorem Written.reads (written : Written major minor patch) :
    Reads (spell major minor patch) major minor patch :=
  ⟨_, _, _, toList_spell major minor patch, .natDigits written.major, .natDigits written.minor,
    .natDigits written.patch⟩

theorem Reads.written (reads : Reads label major minor patch) : Written major minor patch := by
  obtain ⟨a, b, c, -, first, second, third⟩ := reads
  exact ⟨first.digitCount_le, second.digitCount_le, third.digitCount_le⟩

/-! ### Successors -/

/-- A label of three numerals is followed by the one with the next last number. -/
theorem next_reads (reads : Reads label major minor patch) :
    next label = spell? major minor (patch + 1) := by
  obtain ⟨a, b, c, joins, first, second, third⟩ := reads
  have split : Text.split '.' label.toList = [a, b, c] :=
    split_joins joins (not_mem_of_isNumeral first.isNumeral)
      (not_mem_of_isNumeral second.isNumeral) (not_mem_of_isNumeral third.isNumeral)
  unfold next
  rw [split]
  simp only [first.isNumeral, second.isNumeral, third.isNumeral, Bool.and_self, if_true]
  rw [first.readDigits, second.readDigits, third.readDigits]
  rfl

/-- A text that does not even look like a label is followed by a fixed one. -/
theorem next_of_not_digital (none : ¬ Digital label) : next label = .ok fallback := by
  rw [digital_iff] at none
  unfold next
  split
  · next a b c split =>
    refine if_neg fun digits => none ⟨a, b, c, split, ?_⟩
    simpa [and_assoc] using digits
  · rfl

/-- A label of three stretches of digits that are not all numerals has no successor, and the cause
is the first that is none. -/
theorem next_of_not_reads (digital : Digital label)
    (none : ∀ major minor patch, ¬ Reads label major minor patch) :
    ∃ a b c part e, Joins label a b c ∧ part ∈ [a, b, c] ∧ (∀ n, ¬ Denotes part n) ∧
      readDigits (String.ofList part) = .error e ∧ next label = .error e := by
  obtain ⟨a, b, c, split, first, second, third⟩ := digital_iff.1 digital
  have joins : Joins label a b c := joins_of_split split
  have failing : ∀ {part : List Char} {e : Number.IntegerError},
      readDigits (String.ofList part) = .error e → ∀ n, ¬ Denotes part n := by
    intro part e failed n denotes
    cases failed.symm.trans denotes.readDigits
  have opened : next label =
      (do
        let major ← readDigits (String.ofList a)
        let minor ← readDigits (String.ofList b)
        let patch ← readDigits (String.ofList c)
        spell? major minor (patch + 1)) := by
    unfold next
    rw [split]
    simp only [first, second, third, Bool.and_self, if_true]
    rfl
  rw [opened]
  cases readA : readDigits (String.ofList a) with
  | error e => exact ⟨a, b, c, a, e, joins, by simp, failing readA, readA, rfl⟩
  | ok major =>
    cases readB : readDigits (String.ofList b) with
    | error e => exact ⟨a, b, c, b, e, joins, by simp, failing readB, readB, rfl⟩
    | ok minor =>
      cases readC : readDigits (String.ofList c) with
      | error e => exact ⟨a, b, c, c, e, joins, by simp, failing readC, readC, rfl⟩
      | ok patch =>
        refine absurd ?_ (none major minor patch)
        exact ⟨a, b, c, joins, denotes_of_readDigits first readA,
          denotes_of_readDigits second readB, denotes_of_readDigits third readC⟩

/-- What follows a label of three numbers: the label with the next last number, if that can be
written. -/
def following (major minor patch : Nat) : Except Number.IntegerError String :=
  if digitCount (patch + 1) ≤ digitLimit then .ok (spell major minor (patch + 1))
  else .error .tooLargeToWrite

theorem spell?_succ (written : Written major minor patch) :
    spell? major minor (patch + 1) = following major minor patch := by
  unfold following
  split
  · next short => exact spell?_of_written ⟨written.major, written.minor, short⟩
  · next long => exact spell?_of_not_written written fun further => long further.patch

/-- A label that follows three numbers has the same first two, and the next last one. -/
theorem reads_of_following (written : Written major minor patch)
    (ok : following major minor patch = .ok r) : Reads r major minor (patch + 1) := by
  unfold following at ok
  split at ok
  · next short =>
    cases ok
    exact Written.reads ⟨written.major, written.minor, short⟩
  · cases ok

/-! ### The search for a free label -/

/-- From a label of three numbers on, the search fails if all labels of the line that can be written
are taken. -/
theorem skipTaken_fails_iff {fuel : Nat} (written : Written major minor patch)
    (enough : taken.length ≤ fuel) :
    (∃ e, skipTaken taken fuel (spell major minor patch) = .error e) ↔
      ∃ step, (∀ i < step, spell major minor (patch + i) ∈ taken) ∧
        digitLimit < digitCount (patch + step) := by
  have some : ∃ i, spell major minor (patch + i) ∉ taken :=
    let ⟨i, _, free⟩ := exists_free taken major minor patch
    ⟨i, free⟩
  -- One of the next labels, as many as are taken and one more, is free.
  have near : Nat.find some ≤ taken.length :=
    let ⟨_, le, free⟩ := exists_free taken major minor patch
    (Nat.find_min' some free).trans le
  have passed : ∀ i < Nat.find some, spell major minor (patch + i) ∈ taken := fun i lt =>
    Decidable.not_not.1 (Nat.find_min some lt)
  have search := skipTaken_eq written (near.trans enough) (Nat.find_spec some) passed
  rw [search]
  constructor
  · rintro ⟨e, failed⟩
    refine ⟨Nat.find some, passed, Nat.lt_of_not_le fun short => ?_⟩
    cases (spell?_of_written ⟨written.major, written.minor, short⟩).symm.trans failed
  · rintro ⟨step, before, long⟩
    have le : step ≤ Nat.find some := Nat.le_of_not_lt fun lt =>
      Nat.find_spec some (before _ lt)
    refine ⟨_, spell?_of_not_written written fun further => ?_⟩
    exact Nat.not_le_of_lt long (further.of_le (Nat.add_le_add_left le patch)).patch

/-- The search for a free label fails if the label has no successor, or if all labels from there on
that can be written are taken. -/
theorem nextFree_fails_iff : (∃ e, nextFree taken label = .error e) ↔
    (∃ e, next label = .error e) ∨ ∃ major minor patch step,
      next label = .ok (spell major minor patch) ∧
      (∀ i < step, spell major minor (patch + i) ∈ taken) ∧
      digitLimit < digitCount (patch + step) := by
  unfold nextFree
  cases first : next label with
  | error e => exact ⟨fun _ => .inl ⟨e, rfl⟩, fun _ => ⟨e, rfl⟩⟩
  | ok r =>
    rw [Outcome.ok_bind]
    obtain ⟨major, minor, patch, rfl, written⟩ := next_eq_ok first
    rw [skipTaken_fails_iff written (Nat.le_succ _)]
    constructor
    · rintro ⟨step, passed, long⟩
      exact .inr ⟨major, minor, patch, step, rfl, passed, long⟩
    · rintro (⟨e, failed⟩ | ⟨major', minor', patch', step, same, passed, long⟩)
      · cases failed
      · have parts := congrArg (fun label => Text.split '.' label.toList) (Except.ok.inj same)
        simp only [split_spell, List.cons.injEq, and_true] at parts
        obtain rfl := Number.natDigits_injective parts.1
        obtain rfl := Number.natDigits_injective parts.2.1
        obtain rfl := Number.natDigits_injective parts.2.2
        exact ⟨step, passed, long⟩

end Label

namespace Store

open Label (Denotes Digital Joins Reads following spell)
open Number (digitCount digitLimit)

variable {s : Store} {d : Desk Store} {time : Calendar.Moment} {id : String} {updates : Fields}
  {changelog : Option String} {old : Template} {cause : Number.IntegerError} {e : Failure}

/-! ### Updates -/

/-- A record whose label leads to no free one cannot be revised. -/
theorem Revision.not_stuck {t other : Template} {label : String}
    (revision : Revision s time id updates other t label) (live : s.live.get? id = some old) :
    Label.nextFree (s.history id).labels old.version ≠ .error cause := by
  intro stuck
  cases live.symm.trans revision.live
  cases stuck.symm.trans revision.free

theorem Undrawn.eq_integer (undrawn : Undrawn s time id updates e)
    (live : s.live.get? id = some old)
    (stuck : Label.nextFree (s.history id).labels old.version = .error cause) :
    e = .integer cause := by
  cases undrawn with
  | missing none => cases live.symm.trans none
  | unlabelled live' stuck' =>
    cases live.symm.trans live'
    cases stuck.symm.trans stuck'
    rfl
  | faulty live' free =>
    cases live.symm.trans live'
    cases stuck.symm.trans free
  | unchecked revision => exact absurd stuck (revision.not_stuck live)
  | refused revision => exact absurd stuck (revision.not_stuck live)

/-- An update of a record whose label leads to no free one fails for that reason, says so, and
changes nothing. -/
theorem update_of_stuck (live : d.own.live.get? id = some old)
    (stuck : Label.nextFree (d.own.history id).labels old.version = .error cause) :
    ∃ d', (update id updates changelog).on d = (.error (.integer cause), d') ∧
      d.Leads d' d.own d.shared.repository [.failed id "update" cause.message []] := by
  rcases ran : (update id updates changelog).on d with ⟨result, d'⟩
  rcases report_cases ran with ⟨t, rfl, succeeded⟩ | ⟨e, d₁, rfl, failed, leads⟩
  · rcases revise_cases succeeded with ⟨_, impossible, -⟩ | ⟨_, _, _, _, _, revision, -⟩
    · cases impossible
    · exact absurd stuck (revision.not_stuck live)
  · rcases revise_cases failed with ⟨_, same, passes, undrawn⟩ | ⟨_, _, _, _, _, revision, -⟩
    · cases same
      obtain rfl := undrawn.eq_integer live stuck
      rw [passes.own, passes.repository] at leads
      exact ⟨d', rfl, passes.andLeads leads⟩
    · exact absurd stuck (revision.not_stuck live)

/-- What follows a label, whatever text it is. A label of three numerals is followed by the one with
the next last number, and a text that does not join three stretches of digits by a fixed label. A
label of three stretches of digits that are not all numerals has no successor. Every successor is
read as the three numbers that it was written for, so from there on the first two stay, and the last
one grows until it has too many digits to be written. The search for a free label fails just if
there is no successor to begin with, or none left that can be written, and then an update of a
record with this label fails as well. -/
theorem successors_of_labels (label : String) :
    (∀ major minor patch, Reads label major minor patch →
      Label.next label = following major minor patch) ∧
    (¬ Digital label → Label.next label = .ok Label.fallback) ∧
    (Digital label → (∀ major minor patch, ¬ Reads label major minor patch) →
      ∃ a b c part e, Joins label a b c ∧ part ∈ [a, b, c] ∧ (∀ n, ¬ Denotes part n) ∧
        Number.readDigits (String.ofList part) = .error e ∧ Label.next label = .error e) ∧
    (∀ r, Label.next label = .ok r → ∃ major minor patch, r = spell major minor patch ∧
      Reads r major minor patch ∧ Label.next r = following major minor patch ∧
      ∀ r', Label.next r = .ok r' → Reads r' major minor (patch + 1)) ∧
    (∀ taken, (∃ e, Label.nextFree taken label = .error e) ↔
      (∃ e, Label.next label = .error e) ∨ ∃ major minor patch step,
        Label.next label = .ok (spell major minor patch) ∧
        (∀ i < step, spell major minor (patch + i) ∈ taken) ∧
        digitLimit < digitCount (patch + step)) ∧
    ∀ (d : Desk Store) (id : String) (updates : Fields) (changelog : Option String)
      (old : Template) (cause : Number.IntegerError), d.own.live.get? id = some old →
      old.version = label → Label.nextFree (d.own.history id).labels label = .error cause →
      ∃ d', (update id updates changelog).on d = (.error (.integer cause), d') ∧
        d.Leads d' d.own d.shared.repository [.failed id "update" cause.message []] := by
  refine ⟨?_, Label.next_of_not_digital, Label.next_of_not_reads, ?_,
    fun _ => Label.nextFree_fails_iff, ?_⟩
  · intro major minor patch reads
    rw [Label.next_reads reads, Label.spell?_succ reads.written]
  · intro r ok
    obtain ⟨major, minor, patch, rfl, written⟩ := Label.next_eq_ok ok
    have after : Label.next (spell major minor patch) = following major minor patch := by
      rw [Label.next_spell written, Label.spell?_succ written]
    refine ⟨major, minor, patch, rfl, written.reads, after, fun r' ok' => ?_⟩
    exact Label.reads_of_following written (after.symm.trans ok')
  · rintro d id updates changelog old cause live rfl stuck
    exact update_of_stuck live stuck

/-- A desk with a live record whose label ends in a superscript, which is a digit and no numeral. -/
def raisedDesk : Desk Store :=
  { emptyDesk with
    own := emptyDesk.own.putLive
      { firstRecord "tpl-1" ⟨0, none⟩ greeting with version := "1.0.²" } }

/-- The successors of an ordinary label in digits of another script, of a text that is no label, and
of the label there, which has none. The record there cannot be updated. -/
theorem successors_of_labels_raisedDesk :
    Label.next "١.٠.٩" = .ok "1.0.10" ∧ Label.next "v1" = .ok "1.0.1" ∧
      Label.next "1.0.²" = .error (.notANumeral "²") ∧
      ∃ d', (update "tpl-1" []).on raisedDesk = (.error (.integer (.notANumeral "²")), d') ∧
        d'.own = raisedDesk.own := by
  have reads : Reads "١.٠.٩" 1 0 9 :=
    ⟨['١'], ['٠'], ['٩'], rfl, ⟨by decide, by decide, by decide⟩,
      ⟨by decide, by decide, by decide⟩, ⟨by decide, by decide, by decide⟩⟩
  have wordy : ¬ Digital "v1" := by
    rintro ⟨a, b, c, joins, -⟩
    have points : ("v1".toList.count '.') = 0 := by decide
    rw [joins] at points
    simp at points
  have raised : Label.next "1.0.²" = .error (.notANumeral "²") := by decide +kernel
  have stuck : Label.nextFree (raisedDesk.own.history "tpl-1").labels "1.0.²" =
      .error (.notANumeral "²") := by decide +kernel
  obtain ⟨ordinary, -⟩ := successors_of_labels "١.٠.٩"
  obtain ⟨-, fixed, -⟩ := successors_of_labels "v1"
  obtain ⟨-, -, -, -, -, stops⟩ := successors_of_labels "1.0.²"
  obtain ⟨d', failed, leads⟩ := stops raisedDesk "tpl-1" [] none _ _ rfl rfl stuck
  exact ⟨ordinary 1 0 9 reads, fixed wordy, raised, d', failed, leads.own⟩

end Store

end Promptuary
