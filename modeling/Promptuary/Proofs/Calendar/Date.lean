import Promptuary.Calendar.Moment

/-!
Days and dates. Every day of the calendar has a date, and the date has the number of the day.
-/

namespace Promptuary.Calendar

variable {n : Nat}

/-! ### Years -/

/-- The number of days of a year. -/
def daysInYear (year : Nat) : Nat := if isLeap year then 366 else 365

/-- A day by the cycles of the calendar: of four hundred years, of a hundred, of four, and single
years. Only the last year of a cycle of four has one day more, and that one not at the end of a
century, unless it ends four of them. -/
structure Cycles (n c h q y left : Nat) : Prop where
  century : h ≤ 3
  quad : q ≤ 24
  year : y ≤ 3
  day : n = 146097 * c + 36524 * h + 1461 * q + 365 * y + left
  left : left < 365 ∨ (left = 365 ∧ y = 3 ∧ (q < 24 ∨ h = 3))
  number : yearOfDay n = 400 * c + 100 * h + 4 * q + y + 1

theorem exists_cycles (n : Nat) : ∃ c h q y left, Cycles n c h q y left := by
  have century : min 3 (n % 146097 / 36524) ≤ 3 := Nat.min_le_left ..
  generalize same : min 3 (n % 146097 / 36524) = h at century
  have inCentury : n % 146097 - 36524 * h < 36524 ∨
      (n % 146097 - 36524 * h = 36524 ∧ h = 3) := by omega
  refine ⟨n / 146097, h, (n % 146097 - 36524 * h) / 1461,
    min 3 ((n % 146097 - 36524 * h) % 1461 / 365),
    (n % 146097 - 36524 * h) % 1461 -
      365 * min 3 ((n % 146097 - 36524 * h) % 1461 / 365), ?_⟩
  constructor
  · exact century
  · omega
  · exact Nat.min_le_left ..
  · omega
  · omega
  · rw [← same]
    rfl

/-- The days before a year, by its cycles. -/
theorem daysBeforeYear_cycles {c h q y : Nat} (century : h ≤ 3) (quad : q ≤ 24) (year : y ≤ 3) :
    daysBeforeYear (400 * c + 100 * h + 4 * q + y + 1) =
      146097 * c + 36524 * h + 1461 * q + 365 * y := by
  unfold daysBeforeYear
  rw [Nat.add_sub_cancel]
  have fours : (400 * c + 100 * h + 4 * q + y) / 4 = 100 * c + 25 * h + q := by omega
  have hundreds : (400 * c + 100 * h + 4 * q + y) / 100 = 4 * c + h := by omega
  have cycles : (400 * c + 100 * h + 4 * q + y) / 400 = c := by omega
  simp only [fours, hundreds, cycles]
  omega

/-- A day comes after the days before its year, and lies within it. -/
theorem day_in_year (n : Nat) :
    daysBeforeYear (yearOfDay n) ≤ n ∧
      n < daysBeforeYear (yearOfDay n) + daysInYear (yearOfDay n) := by
  obtain ⟨c, h, q, y, left, century, quad, year, day, last, number⟩ := exists_cycles n
  rw [number, daysBeforeYear_cycles century quad year]
  refine ⟨by omega, ?_⟩
  unfold daysInYear
  rcases last with short | ⟨long, rfl, ends⟩
  · split <;> omega
  · have leap : isLeap (400 * c + 100 * h + 4 * q + 3 + 1) = true := by
      simp only [isLeap, Bool.and_eq_true, Bool.or_eq_true, decide_eq_true_eq]
      omega
    rw [if_pos leap]
    omega

theorem one_le_yearOfDay (n : Nat) : 1 ≤ yearOfDay n := Nat.le_add_left ..

/-- The calendar ends with the year 9999. -/
theorem yearOfDay_le (small : n < 3652059) : yearOfDay n ≤ 9999 := by
  obtain ⟨c, h, q, y, left, century, quad, year, day, -, number⟩ := exists_cycles n
  omega

/-! ### Months -/

theorem daysBeforeMonth_thirteen (year : Nat) : daysBeforeMonth year 13 = daysInYear year := by
  unfold daysInYear
  cases leap : isLeap year <;> simp [daysBeforeMonth, daysInMonth, leap]

/-- The search for a month ends with the one that a day falls into. -/
theorem monthFrom_spec {year fuel month left : Nat} (fuelled : month + fuel = 12)
    (within : daysBeforeMonth year month + left < daysBeforeMonth year 13) :
    ∃ m l, monthFrom year fuel month left = (m, l) ∧ month ≤ m ∧ m ≤ 12 ∧
      l < daysInMonth year m ∧
      daysBeforeMonth year m + l = daysBeforeMonth year month + left := by
  induction fuel generalizing month left with
  | zero =>
    have december : month = 12 := by omega
    subst december
    have last : daysBeforeMonth year 13 = daysBeforeMonth year 12 + daysInMonth year 12 := rfl
    exact ⟨12, left, rfl, Nat.le_refl _, Nat.le_refl _, by omega, rfl⟩
  | succ fuel ih =>
    rw [monthFrom]
    by_cases here : left < daysInMonth year month
    · rw [if_pos here]
      exact ⟨month, left, rfl, Nat.le_refl _, by omega, here, rfl⟩
    · rw [if_neg here]
      have step : daysBeforeMonth year (month + 1) =
          daysBeforeMonth year month + daysInMonth year month := rfl
      have within' : daysBeforeMonth year (month + 1) + (left - daysInMonth year month) <
          daysBeforeMonth year 13 := by omega
      obtain ⟨m, l, found, after, most, fits, same⟩ := ih (by omega) within'
      exact ⟨m, l, found, by omega, most, fits, by omega⟩

/-! ### Dates -/

/-- The date of a day, by its parts. -/
theorem ofDay_spec (n : Nat) :
    ∃ month left, Date.ofDay n = ⟨yearOfDay n, month, left + 1⟩ ∧ 1 ≤ month ∧ month ≤ 12 ∧
      left < daysInMonth (yearOfDay n) month ∧
      daysBeforeYear (yearOfDay n) + daysBeforeMonth (yearOfDay n) month + left = n := by
  obtain ⟨before, within⟩ := day_in_year n
  have first : daysBeforeMonth (yearOfDay n) 1 = 0 := rfl
  have start : daysBeforeMonth (yearOfDay n) 1 + (n - daysBeforeYear (yearOfDay n)) <
      daysBeforeMonth (yearOfDay n) 13 := by
    rw [daysBeforeMonth_thirteen, first]
    omega
  have twelve : 1 + 11 = 12 := rfl
  obtain ⟨month, left, found, least, most, fits, same⟩ := monthFrom_spec twelve start
  have date : Date.ofDay n = ⟨yearOfDay n, month, left + 1⟩ := by
    simp only [Date.ofDay, found]
  exact ⟨month, left, date, least, most, fits, by omega⟩

@[simp] theorem toDay_ofDay (n : Nat) : (Date.ofDay n).toDay = n := by
  obtain ⟨month, left, date, -, -, -, same⟩ := ofDay_spec n
  rw [date]
  exact same

end Promptuary.Calendar
