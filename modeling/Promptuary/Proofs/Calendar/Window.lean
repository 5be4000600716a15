import Mathlib.Order.Monotone.Basic
import Mathlib.Order.Nat
import Promptuary.Calendar.Window
import Promptuary.Proofs.Calendar.Date
import Promptuary.Proofs.Calendar.Order

/-!
Windows as stretches between edges. The edges of an interval follow one another without end, every
moment lies between two neighbours among them, and the edges of an interval are edges of the finer
one that it is rolled up from.
-/

namespace Promptuary.Calendar

/-! ### Months -/

/-- The first day of a month, counting the months from the first one of the year 1. -/
def firstDay (month : Nat) : Nat :=
  daysBeforeYear (month / 12 + 1) + daysBeforeMonth (month / 12 + 1) (month % 12 + 1)

theorem daysBeforeYear_succ (y : Nat) :
    daysBeforeYear (y + 2) = daysBeforeYear (y + 1) + daysInYear (y + 1) := by
  have leap : isLeap (y + 1) = true ↔
      (y + 1) % 4 = 0 ∧ ((y + 1) % 100 ≠ 0 ∨ (y + 1) % 400 = 0) := by simp [isLeap]
  have before : daysBeforeYear (y + 1) = 365 * y + y / 4 - y / 100 + y / 400 := rfl
  have next : daysBeforeYear (y + 2) =
    365 * (y + 1) + (y + 1) / 4 - (y + 1) / 100 + (y + 1) / 400 := rfl
  rw [before, next, daysInYear]
  by_cases long : isLeap (y + 1) = true
  · have when := leap.1 long
    rw [if_pos long]
    omega
  · have when := mt leap.2 long
    rw [if_neg long]
    omega

theorem firstDay_succ (month : Nat) :
    firstDay (month + 1) = firstDay month + daysInMonth (month / 12 + 1) (month % 12 + 1) := by
  unfold firstDay
  by_cases december : month % 12 = 11
  · have year : (month + 1) / 12 = month / 12 + 1 := by omega
    have january : (month + 1) % 12 = 0 := by omega
    have whole := daysBeforeMonth_thirteen (month / 12 + 1)
    have last : daysBeforeMonth (month / 12 + 1) 13 =
      daysBeforeMonth (month / 12 + 1) (11 + 1) + daysInMonth (month / 12 + 1) (11 + 1) := rfl
    have first : daysBeforeMonth (month / 12 + 1 + 1) (0 + 1) = 0 := rfl
    rw [year, january, december, daysBeforeYear_succ, first]
    omega
  · have year : (month + 1) / 12 = month / 12 := by omega
    have next : (month + 1) % 12 = month % 12 + 1 := by omega
    have step : daysBeforeMonth (month / 12 + 1) (month % 12 + 1 + 1) =
      daysBeforeMonth (month / 12 + 1) (month % 12 + 1) +
        daysInMonth (month / 12 + 1) (month % 12 + 1) := rfl
    rw [year, next, step, Nat.add_assoc]

theorem daysInMonth_pos (year month : Nat) (least : 1 ≤ month) (most : month ≤ 12) :
    0 < daysInMonth year month := by
  have cases : month = 1 ∨ month = 2 ∨ month = 3 ∨ month = 4 ∨ month = 5 ∨ month = 6 ∨ month = 7 ∨
    month = 8 ∨ month = 9 ∨ month = 10 ∨ month = 11 ∨ month = 12 := by omega
  rcases cases with rfl | rfl | rfl | rfl | rfl | rfl | rfl | rfl | rfl | rfl | rfl | rfl
  all_goals simp only [daysInMonth]
  all_goals first | omega | (split <;> omega)

theorem firstDay_strictMono : StrictMono firstDay := by
  refine strictMono_nat_of_lt_succ fun month => ?_
  rw [firstDay_succ]
  have pos := daysInMonth_pos (month / 12 + 1) (month % 12 + 1) (by omega) (by omega)
  omega

/-- The date of a day, by its month. -/
theorem ofDay_month (n : Nat) :
    ∃ month left, Date.ofDay n = ⟨month / 12 + 1, month % 12 + 1, left + 1⟩ ∧
      firstDay month + left = n ∧ n < firstDay (month + 1) := by
  obtain ⟨m, left, date, least, most, fits, same⟩ := ofDay_spec n
  have year := one_le_yearOfDay n
  let month := 12 * (yearOfDay n - 1) + (m - 1)
  have years : month / 12 + 1 = yearOfDay n := by omega
  have months : month % 12 + 1 = m := by omega
  refine ⟨month, left, ?_, ?_, ?_⟩
  · rw [years, months]
    exact date
  · unfold firstDay
    rw [years, months]
    exact same
  · rw [firstDay_succ]
    unfold firstDay
    rw [years, months]
    omega

/-- The date of the first day of a month. -/
theorem ofDay_firstDay (month : Nat) :
    Date.ofDay (firstDay month) = ⟨month / 12 + 1, month % 12 + 1, 1⟩ := by
  obtain ⟨month', left, date, same, within⟩ := ofDay_month (firstDay month)
  have least : month' ≤ month := firstDay_strictMono.le_iff_le.1 (by omega)
  have most : month < month' + 1 := firstDay_strictMono.lt_iff_lt.1 within
  have here : month' = month := by omega
  subst here
  have first : left = 0 := by omega
  rw [date, first]

/-! ### Turned clocks -/

theorem Moment.shift?_spec {t u : Moment} {micros : Int} (shifted : t.shift? micros = .ok u) :
    u.offset = t.offset ∧ (u.wall : Int) = t.wall + micros ∧ u.wall < endOfTime := by
  simp only [Moment.shift?] at shifted
  split at shifted
  · next range =>
    cases shifted
    rw [Bool.and_eq_true, decide_eq_true_iff, decide_eq_true_iff] at range
    have wall : ((t.wall + micros).toNat : Int) = t.wall + micros := Int.toNat_of_nonneg range.1
    refine ⟨rfl, wall, ?_⟩
    rw [← Int.ofNat_lt, wall]
    exact range.2
  · cases shifted

theorem Moment.daysBefore?_spec {t u : Moment} {days : Int} (known : t.daysBefore? days = .ok u) :
    u.offset = t.offset ∧ (u.wall : Int) = t.wall - days * day := by
  unfold Moment.daysBefore? at known
  split at known
  · cases known
  · obtain ⟨offset, wall, -⟩ := Moment.shift?_spec known
    exact ⟨offset, wall⟩

namespace Interval

/-! ### Edges -/

/-- The edges of an interval, in order. Each is the start of a window, and the end of the one
before. -/
def edge (i : Interval) (n : Nat) : Nat :=
  match i with
  | .month => firstDay n * Calendar.day
  | _ => n * (i.nominalSeconds * second)

variable {i j : Interval} {u v w : Nat}

theorem edge_of_ne_month (other : i ≠ .month) (n : Nat) :
    i.edge n = n * (i.nominalSeconds * second) := by
  cases i with
  | month => exact absurd rfl other
  | _ => rfl

theorem edge_strictMono (i : Interval) : StrictMono i.edge := by
  cases i with
  | month =>
    intro m n lt
    exact Nat.mul_lt_mul_of_pos_right (firstDay_strictMono lt) (by decide)
  | _ =>
    intro m n lt
    exact Nat.mul_lt_mul_of_pos_right lt (by decide)

theorem floor_of_length (length w : Nat) (positive : 0 < length) :
    ∃ n, w - w % length = n * length ∧ n * length ≤ w ∧ w < (n + 1) * length := by
  have whole := Nat.div_add_mod' w length
  have rest := Nat.mod_lt w positive
  refine ⟨w / length, by omega, by omega, ?_⟩
  rw [Nat.add_one_mul]
  omega

/-- Every moment lies between an edge and the next one, and its window starts at the first. -/
theorem floor_spec (i : Interval) (w : Nat) :
    ∃ n, i.floor w = i.edge n ∧ i.edge n ≤ w ∧ w < i.edge (n + 1) := by
  cases i with
  | month =>
    obtain ⟨month, left, date, same, within⟩ := ofDay_month (w / Calendar.day)
    have start : Interval.month.floor w = firstDay month * Calendar.day := by
      simp only [floor, date]
      rfl
    refine ⟨month, start, ?_, ?_⟩
    · exact (Nat.mul_le_mul_right _ (by omega)).trans (Nat.div_mul_le_self ..)
    · exact (Nat.div_lt_iff_lt_mul (by decide)).1 within
  | _ => exact floor_of_length _ w (by decide)

theorem startOf_naive {t : Moment} (naive : t.Naive) : i.startOf t = ⟨i.floor t.wall, none⟩ := by
  rw [startOf, naive]

theorem floor_le (i : Interval) (w : Nat) : i.floor w ≤ w := by
  obtain ⟨n, start, le, -⟩ := i.floor_spec w
  rw [start]
  exact le

/-- A window starts at an edge if and only if its moments lie between that edge and the next. -/
theorem floor_eq_edge_iff {n : Nat} :
    i.floor w = i.edge n ↔ i.edge n ≤ w ∧ w < i.edge (n + 1) := by
  obtain ⟨m, start, le, lt⟩ := i.floor_spec w
  rw [start]
  constructor
  · intro same
    cases (edge_strictMono i).injective same
    exact ⟨le, lt⟩
  · rintro ⟨le', lt'⟩
    have most := (edge_strictMono i).lt_iff_lt.1 (le.trans_lt lt')
    have least := (edge_strictMono i).lt_iff_lt.1 (le'.trans_lt lt)
    have same : m = n := by omega
    rw [same]

theorem floor_edge (i : Interval) (n : Nat) : i.floor (i.edge n) = i.edge n :=
  floor_eq_edge_iff.2 ⟨Nat.le_refl _, edge_strictMono i (Nat.lt_succ_self n)⟩

@[simp] theorem floor_floor (i : Interval) (w : Nat) : i.floor (i.floor w) = i.floor w := by
  obtain ⟨n, start, -⟩ := i.floor_spec w
  rw [start, floor_edge]

theorem floor_mono (i : Interval) (le : u ≤ v) : i.floor u ≤ i.floor v := by
  obtain ⟨m, start, after, -⟩ := i.floor_spec u
  obtain ⟨n, start', -, before⟩ := i.floor_spec v
  rw [start, start', (edge_strictMono i).le_iff_le]
  exact Nat.lt_succ_iff.1 ((edge_strictMono i).lt_iff_lt.1 ((after.trans le).trans_lt before))

/-- A moment before a window has begun is not in it. -/
theorem lt_floor_iff : u < i.floor v ↔ i.floor u < i.floor v := by
  constructor
  · exact (i.floor_le u).trans_lt
  · intro lt
    by_contra le
    have start := i.floor_mono (Nat.not_lt.1 le)
    rw [floor_floor] at start
    omega

/-! ### Coarser and finer windows -/

/-- The edges of an interval are edges of the one that it is rolled up from. -/
theorem edge_of_source (source : i.source? = some j) (n : Nat) : ∃ m, i.edge n = j.edge m := by
  cases i with
  | minute => cases source
  | month =>
    cases source
    exact ⟨firstDay n, rfl⟩
  | hour =>
    cases source
    refine ⟨n * 60, ?_⟩
    simp only [edge, nominalSeconds, second]
    omega
  | day =>
    cases source
    refine ⟨n * 24, ?_⟩
    simp only [edge, nominalSeconds, second]
    omega
  | week =>
    cases source
    refine ⟨n * 7, ?_⟩
    simp only [edge, nominalSeconds, second]
    omega

/-- A window lies in the same coarser window as the moments in it. -/
theorem floor_floor_of_source (source : i.source? = some j) (w : Nat) :
    i.floor (j.floor w) = i.floor w := by
  obtain ⟨n, start, le, lt⟩ := i.floor_spec w
  obtain ⟨m, edge⟩ := edge_of_source source n
  rw [start, floor_eq_edge_iff]
  refine ⟨?_, (j.floor_le w).trans_lt lt⟩
  have start' := j.floor_mono le
  rwa [edge, floor_edge, ← edge] at start'

theorem floor_le_floor_of_source (source : i.source? = some j) (w : Nat) :
    i.floor w ≤ j.floor w := by
  rw [← floor_floor_of_source source]
  exact i.floor_le _

/-- The finer window of a moment is over if the coarser one is. -/
theorem floor_lt_floor_of_source (source : i.source? = some j) (elapsed : i.floor u < i.floor v) :
    j.floor u < j.floor v := by
  rw [← lt_floor_iff] at elapsed ⊢
  exact elapsed.trans_le (floor_le_floor_of_source source v)

/-! ### Ends -/

theorem shift?_forward (t : Moment) (micros : Nat)
    (representable : t.wall + micros < endOfTime) :
    t.shift? (micros : Nat) = .ok { t with wall := t.wall + micros } := by
  have range : (decide (0 ≤ (t.wall : Int) + micros) &&
      decide ((t.wall : Int) + micros < endOfTime)) = true := by
    rw [Bool.and_eq_true, decide_eq_true_iff, decide_eq_true_iff]
    omega
  simp only [Moment.shift?, range, if_true]
  rfl

theorem nextMonth?_firstDay (month : Nat) :
    nextMonth? ⟨firstDay month * Calendar.day, none⟩ =
      if 9999 < (month + 1) / 12 + 1 then .error (.noSuchYear ((month + 1) / 12 + 1))
      else .ok ⟨firstDay (month + 1) * Calendar.day, none⟩ := by
  have date : Moment.date ⟨firstDay month * Calendar.day, none⟩ =
      ⟨month / 12 + 1, month % 12 + 1, 1⟩ := by
    rw [Moment.date, Nat.mul_div_cancel _ (by decide), ofDay_firstDay]
  have following : (if month % 12 + 1 = 12 then (⟨month / 12 + 1 + 1, 1, 1⟩ : Date)
      else ⟨month / 12 + 1, month % 12 + 1 + 1, 1⟩) =
        ⟨(month + 1) / 12 + 1, (month + 1) % 12 + 1, 1⟩ := by
    split
    · have year : (month + 1) / 12 = month / 12 + 1 := by omega
      have january : (month + 1) % 12 = 0 := by omega
      rw [year, january]
    · have year : (month + 1) / 12 = month / 12 := by omega
      have next : (month + 1) % 12 = month % 12 + 1 := by omega
      rw [year, next]
  have long : ¬ daysInMonth ((month + 1) / 12 + 1) ((month + 1) % 12 + 1) < 1 := by
    have pos := daysInMonth_pos ((month + 1) / 12 + 1) ((month + 1) % 12 + 1)
      (by omega) (by omega)
    omega
  simp only [nextMonth?, date, following, long, if_false, Nat.mul_mod_left, Nat.add_zero]
  rfl

theorem endOf?_of_ne_month (other : i ≠ .month) (t : Moment) :
    i.endOf? t = t.shift? (i.nominalSeconds * second : Nat) := by
  cases i with
  | month => exact absurd rfl other
  | _ => rfl

/-- The window from an edge ends at the next one, if that is representable. -/
theorem endOf?_edge {n : Nat} (representable : i.edge (n + 1) < endOfTime) :
    i.endOf? ⟨i.edge n, none⟩ = .ok ⟨i.edge (n + 1), none⟩ := by
  by_cases month : i = .month
  · subst month
    have days : firstDay (n + 1) < firstDay (9999 * 12) :=
      Nat.lt_of_mul_lt_mul_right representable
    have months : n + 1 < 9999 * 12 := firstDay_strictMono.lt_iff_lt.1 days
    exact (nextMonth?_firstDay n).trans (if_neg (by omega))
  · rw [edge_of_ne_month month, Nat.add_one_mul] at representable
    rw [endOf?_of_ne_month month, edge_of_ne_month month, edge_of_ne_month month, Nat.add_one_mul]
    exact shift?_forward ⟨_, none⟩ _ representable

theorem eq_edge_of_endOf? {n : Nat} {stop : Moment}
    (ended : i.endOf? ⟨i.edge n, none⟩ = .ok stop) : stop = ⟨i.edge (n + 1), none⟩ := by
  by_cases month : i = .month
  · subst month
    have ran := (nextMonth?_firstDay n).symm.trans ended
    split at ran
    · cases ran
    · exact (Except.ok.inj ran).symm
  · rw [endOf?_of_ne_month month, edge_of_ne_month month] at ended
    obtain ⟨offset, wall, -⟩ := Moment.shift?_spec ended
    rw [edge_of_ne_month month, Nat.add_one_mul, Moment.Naive.eq offset, Moment.mk.injEq]
    exact ⟨Int.ofNat.inj wall, rfl⟩

/-- The end of a window comes after all moments in it. -/
theorem lt_of_endOf? {u : Nat} {stop : Moment}
    (ended : i.endOf? ⟨i.floor u, none⟩ = .ok stop) : stop.Naive ∧ u < stop.wall := by
  obtain ⟨n, start, -, before⟩ := i.floor_spec u
  rw [start] at ended
  rw [eq_edge_of_endOf? ended]
  exact ⟨rfl, before⟩

/-- A window that has ended by a moment is not the one that holds it. -/
theorem floor_lt_of_endOf? {stop : Moment} (ended : i.endOf? ⟨i.floor u, none⟩ = .ok stop)
    (elapsed : stop.wall ≤ v) : i.floor u < i.floor v := by
  obtain ⟨n, start, -⟩ := i.floor_spec u
  rw [start] at ended ⊢
  rw [eq_edge_of_endOf? ended] at elapsed
  have next := i.floor_mono elapsed
  rw [floor_edge] at next
  exact (edge_strictMono i (Nat.lt_succ_self n)).trans_le next

/-- What lies between the start of a window and its end is what lies in it. -/
theorem exists_within {stop : Moment} (ended : i.endOf? ⟨i.floor u, none⟩ = .ok stop) :
    ∃ last, stop = ⟨last, none⟩ ∧ ∀ w, i.floor u ≤ w ∧ w < last ↔ i.floor w = i.floor u := by
  obtain ⟨n, start, -⟩ := i.floor_spec u
  rw [start] at ended ⊢
  exact ⟨_, eq_edge_of_endOf? ended, fun _ => floor_eq_edge_iff.symm⟩

theorem edge_lt_of_endOf? {n : Nat} {stop : Moment}
    (ended : i.endOf? ⟨i.edge n, none⟩ = .ok stop) : i.edge (n + 1) < endOfTime := by
  by_cases month : i = .month
  · subst month
    have ran := (nextMonth?_firstDay n).symm.trans ended
    split at ran
    · cases ran
    · next year =>
      have months : n + 1 < 9999 * 12 := by omega
      exact Nat.mul_lt_mul_of_pos_right (firstDay_strictMono months) (by decide)
  · rw [endOf?_of_ne_month month, edge_of_ne_month month] at ended
    obtain ⟨-, wall, within⟩ := Moment.shift?_spec ended
    rw [edge_of_ne_month month, Nat.add_one_mul]
    dsimp only at wall
    omega

/-- Whether the window of an interval that holds a moment has an end in the calendar. -/
def HasEnd (i : Interval) (t : Moment) : Prop := ∃ stop, i.endOf? (i.startOf t) = .ok stop

/-- Where a window has an end, so have those before it. -/
theorem HasEnd.earlier (ends : i.HasEnd ⟨v, none⟩) (le : u ≤ v) : i.HasEnd ⟨u, none⟩ := by
  obtain ⟨stop, ended⟩ := ends
  obtain ⟨m, start, -⟩ := i.floor_spec u
  obtain ⟨n, start', -⟩ := i.floor_spec v
  have before := i.floor_mono le
  rw [start, start', (edge_strictMono i).le_iff_le] at before
  have ended : i.endOf? ⟨i.floor v, none⟩ = .ok stop := ended
  rw [start'] at ended
  have last : i.edge (m + 1) < endOfTime :=
    ((edge_strictMono i).le_iff_le.2 (Nat.succ_le_succ before)).trans_lt (edge_lt_of_endOf? ended)
  refine ⟨⟨i.edge (m + 1), none⟩, ?_⟩
  change i.endOf? ⟨i.floor u, none⟩ = _
  rw [start]
  exact endOf?_edge last

/-! ### Windows that are over -/

/-- A window before the one that holds a moment has an end, which comes no later than that one
starts. What lies between its start and its end is what lies in it. -/
theorem exists_end (elapsed : i.floor u < i.floor v) (representable : v < endOfTime) :
    ∃ stop, i.endOf? ⟨i.floor u, none⟩ = .ok ⟨stop, none⟩ ∧ stop ≤ i.floor v ∧
      ∀ w, i.floor u ≤ w ∧ w < stop ↔ i.floor w = i.floor u := by
  obtain ⟨m, start, -⟩ := i.floor_spec u
  obtain ⟨n, now, le, -⟩ := i.floor_spec v
  rw [start, now, (edge_strictMono i).lt_iff_lt] at elapsed
  have before : i.edge (m + 1) ≤ i.edge n := (edge_strictMono i).le_iff_le.2 elapsed
  rw [start, now]
  exact ⟨_, endOf?_edge ((before.trans le).trans_lt representable), before,
    fun _ => floor_eq_edge_iff.symm⟩

end Interval

/-! ### Minutes on the time line -/

/-- A moment whose offset, if it has one, is a whole number of minutes. -/
def Moment.WholeMinutes (t : Moment) : Prop := (minute : Int) ∣ t.offset.getD 0

theorem instant_startOf (t : Moment) :
    (Interval.minute.startOf t).instant = (t.wall - t.wall % minute : Nat) - t.offset.getD 0 := rfl

theorem minute_end {t stop : Moment} (ended : Interval.minute.endOf? t = .ok stop) :
    stop.offset = t.offset ∧ stop.instant = t.instant + minute := by
  have shifted : t.shift? (minute : Nat) = .ok stop := ended
  obtain ⟨offset, wall, -⟩ := Moment.shift?_spec shifted
  refine ⟨offset, ?_⟩
  rw [Moment.instant, wall, offset, Moment.instant]
  omega

theorem minute_end_lt {t stop : Moment} (ended : Interval.minute.endOf? t = .ok stop) :
    stop.wall < endOfTime := by
  have shifted : t.shift? (minute : Nat) = .ok stop := ended
  exact (Moment.shift?_spec shifted).2.2

/-- If the question whether a moment lies in the minute of another has an answer, it says whether
the two have the same minute. -/
theorem isIn?_minute {t u stop : Moment} {b : Bool} (whole : t.WholeMinutes)
    (whole' : u.WholeMinutes)
    (ended : Interval.minute.endOf? (Interval.minute.startOf u) = .ok stop)
    (answer : (Interval.minute.startOf u).isIn? stop t = .ok b) :
    b = (Interval.minute.startOf t).same (Interval.minute.startOf u) := by
  obtain ⟨offset, last⟩ := minute_end ended
  have bounds : (Interval.minute.startOf u).Comparable stop := by
    rw [Moment.Comparable, offset]
  rw [Moment.isIn?_eq bounds] at answer
  split at answer
  · next comparable =>
    obtain ⟨k, offset_t⟩ := whole
    obtain ⟨l, offset_u⟩ := whole'
    have start := instant_startOf u
    have start' := instant_startOf t
    have here : t.instant = t.wall - t.offset.getD 0 := rfl
    have same : (Interval.minute.startOf t).same (Interval.minute.startOf u) = true ↔
        (Interval.minute.startOf t).instant = (Interval.minute.startOf u).instant := by
      rw [Moment.same_iff]
      exact and_iff_right comparable.symm
    cases answer
    rw [Bool.eq_iff_iff, decide_eq_true_iff, same, last]
    rw [start, start', here, offset_t, offset_u]
    simp only [minute, second]
    omega
  · cases answer

end Promptuary.Calendar
