import Mathlib.Algebra.Order.Ring.Int
import Promptuary.Proofs.Calendar.Iso

/-!
Windows tile the time line of a clock, and the windows of an interval are made of whole windows of
the one that it is rolled up from. A clock with another offset cuts the time line at other places,
unless the offsets differ by whole windows. Main statement: `windows_tile`.
-/

namespace Promptuary.Calendar

variable {i j : Interval} {s t u e : Moment} {n w : Nat}

/-! ### Moments of one clock -/

theorem Moment.le?_of_offset_eq (same : s.offset = t.offset) :
    s.le? t = .ok (decide (s.wall ≤ t.wall)) := by
  rw [Moment.le?_eq (congrArg Option.isSome same), Moment.instant, Moment.instant, same]
  simp

theorem Moment.lt?_of_offset_eq (same : s.offset = t.offset) :
    s.lt? t = .ok (decide (s.wall < t.wall)) := by
  rw [Moment.lt?_eq (congrArg Option.isSome same), Moment.instant, Moment.instant, same]
  simp

/-- How far the offset of a clock is ahead of that of another. -/
def Moment.aheadOf (u t : Moment) : Int := u.offset.getD 0 - t.offset.getD 0

/-- What is known of a moment that is found to lie in a span, by the walls of the clocks. -/
theorem Moment.bounds_of_within (same : e.offset = s.offset) (after : s.le? u = .ok true)
    (before : u.lt? e = .ok true) :
    s.Comparable u ∧ s.wall + u.aheadOf s ≤ u.wall ∧ u.wall < e.wall + u.aheadOf s := by
  have comparable : s.Comparable u := by
    by_contra apart
    rw [Moment.le?, Moment.compare?_eq, if_neg apart] at after
    cases after
  have comparable' : u.Comparable e := comparable.symm.trans (congrArg Option.isSome same.symm)
  rw [Moment.le?_eq comparable, Except.ok.injEq, decide_eq_true_iff] at after
  rw [Moment.lt?_eq comparable', Except.ok.injEq, decide_eq_true_iff] at before
  simp only [Moment.instant, same] at after before
  refine ⟨comparable, ?_, ?_⟩
  · unfold Moment.aheadOf
    omega
  · unfold Moment.aheadOf
    omega

/-! ### Years with a year after them -/

theorem twentyEight_le_daysInMonth (year month : Nat) (least : 1 ≤ month) (most : month ≤ 12) :
    28 ≤ daysInMonth year month := by
  have cases : month = 1 ∨ month = 2 ∨ month = 3 ∨ month = 4 ∨ month = 5 ∨ month = 6 ∨ month = 7 ∨
    month = 8 ∨ month = 9 ∨ month = 10 ∨ month = 11 ∨ month = 12 := by omega
  rcases cases with rfl | rfl | rfl | rfl | rfl | rfl | rfl | rfl | rfl | rfl | rfl | rfl
  all_goals simp only [daysInMonth]
  all_goals first | omega | (split <;> omega)

theorem firstDay_add_twentyEight_le (month : Nat) : firstDay month + 28 ≤ firstDay (month + 1) := by
  rw [firstDay_succ]
  have long := twentyEight_le_daysInMonth (month / 12 + 1) (month % 12 + 1) (by omega) (by omega)
  omega

/-- The first day of the year 9999. -/
theorem firstDay_lastYear : firstDay (9998 * 12) = 3651694 := by decide

theorem Moment.wall_lt_of_year (early : t.date.year ≤ 9998) : t.wall < 3651694 * day := by
  obtain ⟨month, left, date, -, within⟩ := ofDay_month (t.wall / day)
  have year : t.date.year = month / 12 + 1 := by rw [Moment.date, date]
  have months : month + 1 ≤ 9998 * 12 := by omega
  have days := firstDay_strictMono.le_iff_le.2 months
  rw [firstDay_lastYear] at days
  exact (Nat.div_lt_iff_lt_mul (by decide)).1 (within.trans_le days)

namespace Interval

/-- The window of a moment before the year 9999 ends within the calendar. -/
theorem edge_succ_lt_endOfTime (after : i.edge n ≤ w) (early : w < 3651694 * Calendar.day) :
    i.edge (n + 1) < endOfTime := by
  by_cases month : i = .month
  · subst month
    have days : firstDay n < firstDay (9998 * 12) := by
      rw [firstDay_lastYear]
      exact Nat.lt_of_mul_lt_mul_right (after.trans_lt early)
    have next : firstDay (n + 1) ≤ firstDay (9998 * 12) :=
      firstDay_strictMono.le_iff_le.2 (firstDay_strictMono.lt_iff_lt.1 days)
    rw [firstDay_lastYear] at next
    exact (Nat.mul_le_mul_right Calendar.day next).trans_lt (by decide)
  · have short : i.nominalSeconds * second ≤ 7 * Calendar.day := by
      cases i <;> first | exact absurd rfl month | decide
    rw [edge_of_ne_month month] at after ⊢
    rw [Nat.add_one_mul]
    have room : 3651694 * Calendar.day + 7 * Calendar.day < endOfTime := by decide
    omega

/-! ### Windows of a clock with an offset -/

/-- A clock with an offset shows the same windows as one without. -/
theorem endOf?_of_offset (i : Interval) (w : Nat) (offset : Option Int) :
    i.endOf? ⟨w, offset⟩ = (i.endOf? ⟨w, none⟩).map fun stop => { stop with offset } := by
  by_cases month : i = .month
  · subst month
    unfold endOf? nextMonth?
    dsimp only [Moment.date]
    generalize (if (Date.ofDay (w / Calendar.day)).month = 12 then _ else _ : Date) = next
    split
    · rfl
    · split <;> rfl
  · rw [endOf?_of_ne_month month, endOf?_of_ne_month month]
    unfold Moment.shift?
    dsimp only
    split <;> rfl

/-- The window of a moment lies between two edges that follow one another. -/
theorem exists_window (i : Interval) (early : t.date.year ≤ 9998) :
    ∃ n, i.startOf t = ⟨i.edge n, t.offset⟩ ∧
      i.endOf? (i.startOf t) = .ok ⟨i.edge (n + 1), t.offset⟩ ∧
      i.edge n ≤ t.wall ∧ t.wall < i.edge (n + 1) := by
  obtain ⟨n, start, after, before⟩ := i.floor_spec t.wall
  have representable := edge_succ_lt_endOfTime after (Moment.wall_lt_of_year early)
  have begins : i.startOf t = ⟨i.edge n, t.offset⟩ := by rw [startOf, start]
  refine ⟨n, begins, ?_, after, before⟩
  rw [begins, endOf?_of_offset, endOf?_edge representable]
  rfl

/-! ### Windows of another clock -/

/-- Two clocks have the same windows of an interval: their offsets differ by whole windows. Months
are not equally long, so that it takes the same offset there. -/
def Aligned (i : Interval) (t u : Moment) : Prop :=
  match i with
  | .month => u.aheadOf t = 0
  | _ => ((i.nominalSeconds * second : Nat) : Int) ∣ u.aheadOf t

theorem aligned_of_ne_month (other : i ≠ .month) :
    i.Aligned t u ↔ ((i.nominalSeconds * second : Nat) : Int) ∣ u.aheadOf t := by
  cases i with
  | month => exact absurd rfl other
  | _ => exact Iff.rfl

/-- No two first days of months are less than two days apart. -/
theorem eq_zero_of_edge_month {k n : Nat} {ahead : Int} (near : ahead.natAbs < 2 * Calendar.day)
    (same : (Interval.month.edge k : Int) = Interval.month.edge n + ahead) : ahead = 0 := by
  have spaced : ∀ {a b : Nat}, a < b →
      Interval.month.edge a + 28 * Calendar.day ≤ Interval.month.edge b := by
    intro a b less
    have days := (firstDay_add_twentyEight_le a).trans (firstDay_strictMono.monotone less)
    have walls := Nat.mul_le_mul_right Calendar.day days
    rwa [Nat.add_mul] at walls
  simp only [Calendar.day] at near spaced
  rcases Nat.lt_trichotomy k n with less | rfl | more
  · have apart := spaced less
    omega
  · omega
  · have apart := spaced more
    omega

theorem floor_of_ne_month (other : i ≠ .month) (w : Nat) :
    i.floor w = w - w % (i.nominalSeconds * second) := by
  cases i with
  | month => exact absurd rfl other
  | _ => rfl

/-- A reading rounded down to whole lengths is the start of a span that was moved, just if the span
was moved by whole lengths. -/
theorem sub_mod_eq_iff_dvd {length n w : Nat} {ahead : Int}
    (after : ((n * length : Nat) : Int) + ahead ≤ w)
    (before : (w : Int) < ((n + 1) * length : Nat) + ahead) :
    ((w - w % length : Nat) : Int) = (n * length : Nat) + ahead ↔ (length : Int) ∣ ahead := by
  rw [Nat.add_one_mul] at before
  have rest : w % length < length := Nat.mod_lt w (by omega)
  have whole : (length : Int) ∣ (w - w % length : Nat) :=
    Int.natCast_dvd_natCast.2 (Nat.dvd_sub_mod w)
  have start : (length : Int) ∣ (n * length : Nat) :=
    Int.natCast_dvd_natCast.2 (Nat.dvd_mul_left ..)
  constructor
  · intro same
    have moved : ahead = (w - w % length : Nat) - (n * length : Nat) := by omega
    exact moved ▸ Int.dvd_sub whole start
  · intro moved
    have gap : ((w - w % length : Nat) : Int) - ((n * length : Nat) + ahead) = 0 := by
      refine Int.eq_zero_of_abs_lt_dvd (Int.dvd_sub whole (Int.dvd_add start moved)) ?_
      rw [abs_lt]
      constructor <;> omega
    omega

/-- The window of a moment of another clock starts with the window of the first clock that it lies
in, just if the clocks have the same windows. -/
theorem floor_eq_iff_aligned (near : (u.aheadOf t).natAbs < 2 * Calendar.day)
    (after : i.edge n + u.aheadOf t ≤ u.wall) (before : u.wall < i.edge (n + 1) + u.aheadOf t) :
    (i.floor u.wall : Int) = i.edge n + u.aheadOf t ↔ i.Aligned t u := by
  by_cases month : i = .month
  · subst month
    constructor
    · intro same
      obtain ⟨k, start, -⟩ := Interval.month.floor_spec u.wall
      rw [start] at same
      exact eq_zero_of_edge_month near same
    · intro level
      rw [show u.aheadOf t = 0 from level] at after before ⊢
      rw [add_zero, Int.ofNat_inj, floor_eq_edge_iff]
      omega
  · rw [edge_of_ne_month month] at after before ⊢
    rw [aligned_of_ne_month month, floor_of_ne_month month]
    exact sub_mod_eq_iff_dvd after before

/-- What a window of a clock holds of another one: a moment in it starts a window with it just if
the clocks have the same windows. -/
theorem same_startOf_iff (shown : t.Shown) (shown' : u.Shown)
    (start : i.startOf t = ⟨i.edge n, t.offset⟩) (after : (i.startOf t).le? u = .ok true)
    (before : u.lt? ⟨i.edge (n + 1), t.offset⟩ = .ok true) :
    (i.startOf u).same (i.startOf t) = true ↔ i.Aligned t u := by
  rw [start] at after ⊢
  obtain ⟨comparable, least, most⟩ := Moment.bounds_of_within (by rfl) after before
  have ahead : u.aheadOf ⟨i.edge n, t.offset⟩ = u.aheadOf t := rfl
  rw [ahead] at least most
  have near : (u.aheadOf t).natAbs < 2 * Calendar.day := by
    have first := shown.near
    have second := shown'.near
    unfold Moment.aheadOf
    omega
  have comparable' : (i.startOf u).Comparable ⟨i.edge n, t.offset⟩ := comparable.symm
  have instants : (i.startOf u).instant = (⟨i.edge n, t.offset⟩ : Moment).instant ↔
      (i.floor u.wall : Int) = i.edge n + u.aheadOf t := by
    unfold Moment.instant startOf Moment.aheadOf
    dsimp only
    omega
  rw [Moment.same_iff, and_iff_right comparable', instants, floor_eq_iff_aligned near least most]

end Interval

open Promptuary.Calendar.Interval in
/-- The window of a moment holds it, ends within the calendar, and starts where its own window
starts; the next window starts where it ends. The moments of the same clock that lie in it, and those
of other clocks with the same windows, but of no others, have windows that start with it. It is made
of whole windows of the interval that it is rolled up from. -/
theorem windows_tile (i : Interval) {t : Moment} (shown : t.Shown) (early : t.date.year ≤ 9998) :
    ∃ e, i.endOf? (i.startOf t) = .ok e ∧
      (i.startOf t).le? t = .ok true ∧ t.lt? e = .ok true ∧
      i.startOf (i.startOf t) = i.startOf t ∧ i.startOf e = e ∧
      (∀ u : Moment, u.Shown → (i.startOf t).le? u = .ok true → u.lt? e = .ok true →
        (u.offset = t.offset → i.startOf u = i.startOf t) ∧
        ((i.startOf u).same (i.startOf t) = true ↔ i.Aligned t u)) ∧
      ∀ j, i.source? = some j → i.startOf (j.startOf t) = i.startOf t ∧
        ∃ e', j.endOf? (j.startOf t) = .ok e' ∧
          (i.startOf t).le? (j.startOf t) = .ok true ∧ e'.le? e = .ok true := by
  obtain ⟨n, start, ended, after, before⟩ := i.exists_window early
  have le {s u : Moment} (same : s.offset = u.offset) (walls : s.wall ≤ u.wall) :
      s.le? u = .ok true := by
    rw [Moment.le?_of_offset_eq same, decide_eq_true walls]
  refine ⟨⟨i.edge (n + 1), t.offset⟩, ended, ?_, ?_, ?_, ?_, fun u shown' least most => ⟨?_, ?_⟩,
    fun j source => ⟨?_, ?_⟩⟩
  · exact le rfl (i.floor_le t.wall)
  · rw [Moment.lt?_of_offset_eq (by rfl), decide_eq_true before]
  · rw [startOf, startOf, floor_floor]
  · rw [startOf, floor_edge]
  · intro same
    rw [start] at least ⊢
    obtain ⟨-, first, last⟩ := Moment.bounds_of_within (by rfl) least most
    have level : u.aheadOf ⟨i.edge n, t.offset⟩ = 0 := by
      rw [Moment.aheadOf, same]
      exact sub_self _
    have here : i.floor u.wall = i.edge n := by
      rw [floor_eq_edge_iff]
      dsimp only at first last
      omega
    rw [startOf, here, same]
  · exact same_startOf_iff shown shown' start least most
  · simp only [startOf, floor_floor_of_source source]
  · obtain ⟨m, start', ended', after', -⟩ := j.exists_window early
    refine ⟨_, ended', le rfl (floor_le_floor_of_source source t.wall), le rfl ?_⟩
    obtain ⟨k, coarse⟩ := edge_of_source source (n + 1)
    dsimp only
    rw [coarse] at before ⊢
    have behind : m < k := (edge_strictMono j).lt_iff_lt.1 (after'.trans_lt before)
    exact (edge_strictMono j).le_iff_le.2 behind

/-- Half past twelve by the common time, and ten minutes later by a clock that is five and a half
hours ahead. -/
def halfPastNoon : Moment :=
  { Moment.of ⟨2024, 3, 6⟩ (12 * hour + 30 * minute) with offset := some 0 }

@[inherit_doc halfPastNoon] def eveningAhead : Moment :=
  { Moment.of ⟨2024, 3, 6⟩ (18 * hour + 10 * minute) with offset := some (330 * minute : Nat) }

/-- The hours of the two clocks are not the same, but their minutes are. -/
theorem windows_tile_halfPastNoon :
    halfPastNoon.date.year ≤ 9998 ∧
      (Interval.hour.startOf eveningAhead).same (Interval.hour.startOf halfPastNoon) = false ∧
      Interval.hour.startOf (Interval.minute.startOf halfPastNoon) =
        Interval.hour.startOf halfPastNoon := by
  have early : halfPastNoon.date.year ≤ 9998 := by decide +kernel
  have shown : halfPastNoon.Shown := ⟨by decide, by decide⟩
  have shown' : eveningAhead.Shown := ⟨by decide, by decide⟩
  obtain ⟨e, ended, -, -, -, -, within, nested⟩ := windows_tile .hour shown early
  have stop : e = ⟨halfPastNoon.wall + 30 * minute, some 0⟩ := by
    rw [← Except.ok.injEq (ε := CalendarError), ← ended]
    decide +kernel
  obtain ⟨-, aligned⟩ := within eveningAhead shown' (by decide +kernel) (by rw [stop]; decide +kernel)
  refine ⟨early, ?_, (nested .minute rfl).1⟩
  have uneven : Interval.hour ≠ .month := nofun
  rw [← Bool.not_eq_true, aligned, Interval.aligned_of_ne_month uneven]
  decide

/-- A moment of another clock that lies in a window may have a window that starts elsewhere. -/
theorem windows_may_cross : ¬ ∀ (i : Interval) (t u e : Moment), t.Shown → u.Shown →
    t.date.year ≤ 9998 → i.endOf? (i.startOf t) = .ok e → (i.startOf t).le? u = .ok true →
    u.lt? e = .ok true → (i.startOf u).same (i.startOf t) = true := by
  intro always
  have same := always .hour halfPastNoon eveningAhead ⟨halfPastNoon.wall + 30 * minute, some 0⟩
    ⟨by decide, by decide⟩ ⟨by decide, by decide⟩ (by decide +kernel) (by decide +kernel)
    (by decide +kernel) (by decide +kernel)
  exact absurd same (by decide +kernel)

end Promptuary.Calendar
