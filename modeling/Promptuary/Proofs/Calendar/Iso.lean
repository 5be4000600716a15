import Promptuary.Calendar.Iso
import Promptuary.Proofs.Calendar.Window
import Promptuary.Proofs.Number.Digits

/-!
Moments as text. What a clock shows between the years 1 and 9999 is read back as it was written, if
the offset of the clock, as far as it has one, is a whole number of minutes.
-/

namespace Promptuary.Calendar

open Number (paddedDigits tenTo)

/-- A moment of a clock without an offset, within the years of the calendar. -/
structure Moment.Ordinary (t : Moment) : Prop where
  offset : t.offset = none
  inRange : t.wall < endOfTime

/-- A moment that a clock can show: within the years of the calendar, and less than a day ahead of
or behind the common time. -/
structure Moment.Shown (t : Moment) : Prop where
  inRange : t.wall < endOfTime
  near : (t.offset.getD 0).natAbs < day

theorem Moment.Ordinary.shown {t : Moment} (ordinary : t.Ordinary) : t.Shown := by
  refine ⟨ordinary.inRange, ?_⟩
  rw [ordinary.offset]
  decide

theorem Moment.Ordinary.wholeMinutes {t : Moment} (ordinary : t.Ordinary) : t.WholeMinutes := by
  rw [Moment.WholeMinutes, ordinary.offset]
  exact Int.dvd_zero _

/-! ### Digits -/

theorem digitsOf?_paddedDigits (width n : Nat) (positive : 0 < width) (small : n < tenTo width)
    (rest : List Char) : digitsOf? width (paddedDigits width n ++ rest) = some (n, rest) := by
  have length := Number.length_paddedDigits width n positive small
  have front : (paddedDigits width n ++ rest).take width = paddedDigits width n := by
    rw [List.take_append_of_le_length (by omega), List.take_of_length_le (by omega)]
  have back : (paddedDigits width n ++ rest).drop width = rest := List.drop_left' length
  have digits : (paddedDigits width n).all Char.isDigit = true :=
    List.all_eq_true.2 fun _ mem => Number.isDigit_of_mem_paddedDigits mem
  unfold digitsOf?
  simp only [front, back, length, digits, Number.ofDigits_paddedDigits]
  simp

theorem digitsOr_paddedDigits (width n : Nat) (fault : DateFault) (positive : 0 < width)
    (small : n < tenTo width) (rest : List Char) :
    digitsOr fault width (paddedDigits width n ++ rest) = .ok (n, rest) := by
  rw [digitsOr, digitsOf?_paddedDigits width n positive small]

/-! ### Dates -/

theorem length_le_utf8ByteSize (cs : List Char) : cs.length ≤ (String.ofList cs).utf8ByteSize := by
  induction cs with
  | nil => exact Nat.zero_le _
  | cons c cs ih =>
    rw [String.ofList_cons, String.utf8ByteSize_append, String.utf8ByteSize_singleton,
      List.length_cons]
    have positive := c.utf8Size_pos
    omega

theorem daysInMonth_le (year month : Nat) : daysInMonth year month ≤ 31 := by
  unfold daysInMonth
  cases isLeap year with
  | true => split <;> decide
  | false => split <;> decide

/-- A date that there is, in years of four digits. -/
theorem readDate_text {year month day : Nat} (years : year ≤ 9999) (least : 1 ≤ month)
    (most : month ≤ 12) (first : 1 ≤ day) (last : day ≤ daysInMonth year month)
    (rest : List Char) :
    readDate (String.ofList (Date.text ⟨year, month, day⟩ ++ rest)) =
      .ok (⟨year, month, day⟩, rest) := by
  have short := daysInMonth_le year month
  have yearFits : year < tenTo 4 := Nat.lt_of_le_of_lt years (by decide)
  have monthFits : month < tenTo 2 := Nat.lt_of_le_of_lt most (by decide)
  have dayFits : day < tenTo 2 := Nat.lt_of_le_of_lt (Nat.le_trans last short) (by decide)
  have text : Date.text ⟨year, month, day⟩ ++ rest = paddedDigits 4 year ++
      '-' :: (paddedDigits 2 month ++ '-' :: (paddedDigits 2 day ++ rest)) := by
    simp [Date.text]
  have long : ¬ (String.ofList (Date.text ⟨year, month, day⟩ ++ rest)).utf8ByteSize < 10 := by
    have size := length_le_utf8ByteSize (Date.text ⟨year, month, day⟩ ++ rest)
    have four := Number.length_paddedDigits 4 year (by decide) yearFits
    have two := Number.length_paddedDigits 2 month (by decide) monthFits
    have two' := Number.length_paddedDigits 2 day (by decide) dayFits
    rw [text] at size ⊢
    simp only [List.length_append, List.length_cons, four, two, two'] at size
    omega
  have readYear := digitsOr_paddedDigits 4 year .year (by decide) yearFits
  have readMonth := digitsOr_paddedDigits 2 month .month (by decide) monthFits
  have readDay := digitsOr_paddedDigits 2 day .day (by decide) dayFits
  have noMonth : (decide (month < 1) || decide (12 < month)) = false := by
    simp only [Bool.or_eq_false_iff, decide_eq_false_iff_not]
    omega
  have noDay : (decide (day < 1) || decide (daysInMonth year month < day)) = false := by
    simp only [Bool.or_eq_false_iff, decide_eq_false_iff_not]
    omega
  unfold readDate
  rw [if_neg long, String.toList_ofList, text]
  simp only [readYear, readMonth, readDay, hyphen, noMonth, noDay, bind, Except.bind]
  rfl

/-! ### Times -/

/-- What may come after the time of a day: it does not begin with a digit, a point or a comma. -/
def EndsTime (rest : List Char) : Prop :=
  ∀ c ∈ rest.head?, c.isDigit = false ∧ c ≠ '.' ∧ c ≠ ','

section

variable {rest : List Char}

theorem takeDigits_paddedDigits (width n : Nat) (ends : EndsTime rest) :
    Number.takeDigits (paddedDigits width n ++ rest) = (paddedDigits width n, rest) := by
  have digits : ∀ c ∈ paddedDigits width n, c.isDigit = true :=
    fun _ mem => Number.isDigit_of_mem_paddedDigits mem
  have none : rest.takeWhile Char.isDigit = [] ∧ rest.dropWhile Char.isDigit = rest := by
    cases rest with
    | nil => exact ⟨rfl, rfl⟩
    | cons c cs =>
      have noDigit := (ends c rfl).1
      simp [noDigit]
  rw [Number.takeDigits, List.takeWhile_append_of_pos digits, List.dropWhile_append_of_pos digits,
    none.1, none.2, List.append_nil]

theorem readFraction?_paddedDigits {n : Nat} (small : n < second) (ends : EndsTime rest) :
    readFraction? (paddedDigits 6 n ++ rest) = some (n, rest) := by
  have six := Number.length_paddedDigits 6 n (by decide) small
  have some : (paddedDigits 6 n).isEmpty = false := by
    rw [← Bool.not_eq_true, List.isEmpty_iff]
    intro nil
    rw [nil] at six
    cases six
  have kept : (paddedDigits 6 n).take 6 = paddedDigits 6 n := List.take_of_length_le (by omega)
  unfold readFraction?
  simp only [takeDigits_paddedDigits 6 n ends, some, kept, six, Nat.sub_self, List.replicate_zero,
    List.append_nil, Number.ofDigits_paddedDigits]
  rfl

/-- The fraction of a second as text, if there is one. -/
def fractionText (micros : Nat) : List Char :=
  if micros = 0 then [] else '.' :: paddedDigits 6 micros

/-- The seconds and their fraction. -/
theorem readSeconds?_text (s micros : Nat) (seconds : s ≤ 59) (small : micros < second)
    (ends : EndsTime rest) :
    readSeconds? (':' :: (paddedDigits 2 s ++ (fractionText micros ++ rest))) =
      some (s * second + micros, rest) := by
  have readS := digitsOf?_paddedDigits 2 s (by decide) (Nat.lt_of_le_of_lt seconds (by decide))
  have fits : ¬ 59 < s := by omega
  unfold readSeconds? fractionText
  by_cases whole : micros = 0
  · simp only [whole, if_true, List.nil_append, readS, bind, Option.bind, if_neg fits]
    rw [Nat.add_zero]
    cases rest with
    | nil => rfl
    | cons c cs =>
      obtain ⟨-, noPoint, noComma⟩ := ends c rfl
      simp [noPoint, noComma]
  · simp only [whole, if_false, List.cons_append, readS, bind, Option.bind, if_neg fits,
      readFraction?_paddedDigits small ends]
    rfl

/-- The time of a day, and the offset after it. -/
theorem readTime?_timeText {time : Nat} (inDay : time < day) (ends : EndsTime rest) :
    readTime? readOffset? (timeText time ++ rest) = (readOffset? rest).map (time, ·) := by
  have text : timeText time ++ rest = paddedDigits 2 (time / hour) ++
      ':' :: (paddedDigits 2 (time / minute % 60) ++
        ':' :: (paddedDigits 2 (time / second % 60) ++ (fractionText (time % second) ++ rest))) := by
    simp [timeText, fractionText]
  simp only [day, hour, minute, second] at inDay
  have hours : time / hour < 24 := by
    simp only [hour, minute, second]
    omega
  have minutes : time / minute % 60 < 60 := Nat.mod_lt _ (by decide)
  have readH := digitsOf?_paddedDigits 2 (time / hour) (by decide) (Nat.lt_trans hours (by decide))
  have readM := digitsOf?_paddedDigits 2 (time / minute % 60) (by decide)
    (Nat.lt_trans minutes (by decide))
  have readS := readSeconds?_text (time / second % 60) (time % second) (by omega)
    (Nat.mod_lt _ (by decide)) ends
  have fits : (decide (23 < time / hour) || decide (59 < time / minute % 60)) = false := by
    simp only [Bool.or_eq_false_iff, decide_eq_false_iff_not]
    omega
  have total : time / hour * hour + time / minute % 60 * minute +
      (time / second % 60 * second + time % second) = time := by
    simp only [hour, minute, second]
    omega
  rw [text]
  unfold readTime?
  simp only [readH, readM, readS, fits, bind, Option.bind, total]
  cases readOffset? rest <;> rfl

end

/-! ### Offsets -/

/-- An offset in hours and minutes, if there is one. -/
def offsetText : Option Int → List Char
  | none => []
  | some offset => shortOffset offset

theorem shortOffset_zero : shortOffset 0 = ['Z'] := by decide

/-- An offset of some minutes other than none. -/
theorem shortOffset_minutes {offset : Int} {n : Nat} (size : offset.natAbs = n * minute)
    (some : 0 < n) : shortOffset offset = offsetSign offset ::
      (paddedDigits 2 (n / 60) ++ ':' :: paddedDigits 2 (n % 60)) := by
  have seconds : (2 * offset.natAbs + second) / (2 * second) = 60 * n := by
    rw [size]
    simp only [minute, second]
    omega
  have hours : 60 * n / 3600 = n / 60 := by omega
  have minutes : 60 * n / 60 % 60 = n % 60 := by omega
  unfold shortOffset
  rw [seconds, if_neg (by omega), hours, minutes]
  rfl

theorem endsTime_offsetText (offset : Option Int) : EndsTime (offsetText offset) := by
  cases offset with
  | none => exact nofun
  | some offset =>
    intro c head
    change c ∈ (shortOffset offset).head? at head
    unfold shortOffset offsetSign at head
    dsimp only at head
    split at head
    · cases head
      decide
    · split at head
      · cases head
        decide
      · cases head
        decide

theorem readOffset?_cons {sign : Char} {cs : List Char} {negative : Bool} {size : Nat}
    (isSign : readOffsetSign? sign = some negative)
    (minutes : readHoursMinutes? cs = some (size, [])) (near : size < day) :
    readOffset? (sign :: cs) = some (some (if negative then -(size : Int) else size)) := by
  unfold readOffset?
  split
  · next same => cases same
  · next same =>
    cases same
    cases isSign
  · next same =>
    cases same
    cases isSign
  · next same =>
    cases same
    rw [isSign, Option.bind_eq_bind, Option.bind_some, minutes]
    simp [offsetOf?, near]

/-- An offset of whole minutes, less than a day, is read as it was written. -/
theorem readOffset?_offsetText {offset : Option Int} (near : (offset.getD 0).natAbs < day)
    (whole : (minute : Int) ∣ offset.getD 0) : readOffset? (offsetText offset) = some offset := by
  cases offset with
  | none => rfl
  | some offset =>
    obtain ⟨n, size⟩ : ∃ n, offset.natAbs = n * minute := by
      obtain ⟨k, same⟩ := whole
      refine ⟨k.natAbs, ?_⟩
      change offset = _ at same
      rw [same, Int.natAbs_mul, Nat.mul_comm]
      rfl
    change offset.natAbs < day at near
    change readOffset? (shortOffset offset) = _
    rcases Nat.eq_zero_or_pos n with zero | positive
    · rw [zero, Nat.zero_mul, Int.natAbs_eq_zero] at size
      rw [size, shortOffset_zero]
      rfl
    have small : n < 24 * 60 := by
      rw [size] at near
      simp only [day, hour, minute, second] at near
      omega
    have readH := digitsOf?_paddedDigits 2 (n / 60) (by decide)
      (Nat.lt_of_lt_of_le (Nat.div_lt_of_lt_mul (by omega : n < 60 * 24)) (by decide))
    have readM := digitsOf?_paddedDigits 2 (n % 60) (by decide)
      (Nat.lt_trans (Nat.mod_lt _ (by decide)) (by decide : 60 < tenTo 2)) []
    have fits : ¬ 59 < n % 60 := by omega
    have total : n / 60 * hour + n % 60 * minute = offset.natAbs := by
      rw [size]
      simp only [hour, minute, second]
      omega
    have minutes : readHoursMinutes? (paddedDigits 2 (n / 60) ++ ':' :: paddedDigits 2 (n % 60)) =
        some (offset.natAbs, []) := by
      rw [List.append_nil] at readM
      unfold readHoursMinutes?
      simp only [readH, readM, bind, Option.bind, if_neg fits, total]
      rfl
    rw [shortOffset_minutes size positive]
    by_cases behind : offset < 0
    · have sign : offsetSign offset = '-' := if_pos behind
      have value : -(offset.natAbs : Int) = offset := by omega
      rw [sign, readOffset?_cons (by decide : readOffsetSign? '-' = some true) minutes near,
        if_pos rfl, value]
    · have sign : offsetSign offset = '+' := if_neg behind
      have value : (offset.natAbs : Int) = offset := by omega
      rw [sign, readOffset?_cons (by decide : readOffsetSign? '+' = some false) minutes near,
        if_neg (by decide), value]

/-! ### Moments -/

/-- What was written for a moment is read as that moment, if its offset is a whole number of
minutes. -/
theorem readMoment_iso {t : Moment} (shown : t.Shown) (whole : t.WholeMinutes) :
    readMoment t.iso = .ok t := by
  obtain ⟨wall, offset⟩ := t
  obtain ⟨inRange, near⟩ := shown
  have inRange : wall < endOfTime := inRange
  obtain ⟨month, left, date, least, most, fits, -⟩ := ofDay_spec (wall / day)
  have years : yearOfDay (wall / day) ≤ 9999 := by
    refine yearOfDay_le ?_
    simp only [endOfTime, day, hour, minute, second] at inRange ⊢
    omega
  have text : (Moment.iso ⟨wall, offset⟩) = String.ofList
      (Date.text ⟨yearOfDay (wall / day), month, left + 1⟩ ++
        'T' :: (timeText (wall % day) ++ offsetText offset)) := by
    cases offset <;> simp [Moment.iso, Moment.text, Moment.date, date, offsetText]
  have readD := readDate_text years least most (Nat.le_add_left 1 left) fits
    ('T' :: (timeText (wall % day) ++ offsetText offset))
  have readT := readTime?_timeText (Nat.mod_lt wall (by decide : 0 < day))
    (endsTime_offsetText offset)
  have sameDay : (⟨yearOfDay (wall / day), month, left + 1⟩ : Date).toDay = wall / day := by
    rw [← date, toDay_ofDay]
  have year : yearOfDay (wall / day) ≠ 0 := Nat.ne_of_gt (one_le_yearOfDay _)
  have dateTime : readDateTime? (Moment.iso ⟨wall, offset⟩) = some (.ok ⟨wall, offset⟩) := by
    rw [text]
    unfold readDateTime?
    rw [readD]
    have whole' : wall / day * day + wall % day = wall := Nat.div_add_mod' wall day
    simp only [readT, readOffset?_offsetText near whole, Option.map_some, momentOf, if_neg year,
      Moment.of, sameDay, whole']
    rfl
  rw [readMoment, dateTime]

end Promptuary.Calendar
