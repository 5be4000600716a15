import Promptuary.Proofs.Analysis.Aggregation

/-!
Rollups lose nothing and count nothing twice. Whatever is recorded and rolled up as time goes on,
every snapshot of a window that was rolled up has just the amounts of the executions in that window,
and after the passes were made every window that is over has one, unless it is too old or empty.
-/

namespace Promptuary

open Calendar (Interval Moment)
open Exact Operation

namespace Analysis

/-! ### Windows that are over -/

section

variable {α : Type} {now : Nat}

/-- The executions of a template in a span of time. -/
def executionsWithin (id : String) (start stop : Moment) (es : List (Execution α)) :
    List (Execution α) :=
  es.filter fun e => e.templateId == id && Outcome.holds (start.isIn? stop e.executedAt)

/-- Where no moment has an offset, what lies from the start of a window to its end is what lies in
it. -/
theorem executionsWithin_eq_inWindow {key : WindowKey} {stop : Moment} (naive : key.start.Naive)
    (edge : key.interval.floor key.start.wall = key.start.wall)
    (ended : key.interval.endOf? key.start = .ok stop) (id : String) {es : List (Execution α)}
    (past : ∀ e ∈ es, e.executedAt.Naive) :
    executionsWithin id key.start stop es = inWindow id key es := by
  have key_eq : key = ⟨key.interval, ⟨key.start.wall, none⟩⟩ := by
    rw [← naive.eq]
  rw [naive.eq, ← edge] at ended
  obtain ⟨last, rfl, inside⟩ := Interval.exists_within ended
  rw [edge] at inside
  refine List.filter_congr fun e mem => ?_
  have naive_e := past e mem
  have here : (windowOf key.interval e == key) =
      decide (key.interval.floor e.executedAt.wall = key.start.wall) := by
    rw [Bool.eq_iff_iff, decide_eq_true_iff, WindowKey.beq_iff_eq (naive_windowOf naive_e) naive,
      ← windowOf_eq_iff naive_e, ← key_eq]
  rw [naive.isIn? (Moment.naive_mk _) naive_e, here]
  simp only [inside]
  rfl

/-- A window that is over has an end, which has come by now, and what lies from its start to its end
is what lies in it. -/
theorem exists_executionsWithin {key : WindowKey} (naive : key.start.Naive)
    (edge : key.interval.floor key.start.wall = key.start.wall)
    (elapsed : key.start.wall < key.interval.floor now) (within : now < Calendar.endOfTime) :
    ∃ stop, key.interval.endOf? key.start = .ok ⟨stop, none⟩ ∧ stop ≤ now ∧
      ∀ (id : String) (es : List (Execution α)), (∀ e ∈ es, e.executedAt.Naive) →
        executionsWithin id key.start ⟨stop, none⟩ es = inWindow id key es := by
  have lies := elapsed
  rw [← edge] at lies
  obtain ⟨stop, ended, before, -⟩ := Interval.exists_end lies within
  rw [edge, ← naive.eq] at ended
  refine ⟨stop, ended, before.trans (Interval.floor_le ..), fun id es past => ?_⟩
  exact executionsWithin_eq_inWindow naive edge ended id past

end

variable {α : Type} [Field α] [LinearOrder α] [FloorRing α] [Numerals α]

variable {d d' : Desk (Analysis α)} {es : List (Execution α)} {e : Execution α} {now cutoff : Nat}
  {id : String}

/-- A snapshot of a window that is over has the amounts of the executions from its start to its
end. -/
theorem Orderly.amounts_rollup (orderly : Orderly es now cutoff d)
    {entry : WindowKey × Snapshot α} (mem : entry ∈ d.own.shelf id)
    (coarse : entry.1.interval ≠ .minute) :
    ∃ stop, entry.1.interval.endOf? entry.1.start = .ok stop ∧
      entry.2.Amounts (executionsWithin id entry.1.start stop es) := by
  have tallies := (orderly.shelves id).entries entry mem
  obtain ⟨stop, ended, -, same⟩ := exists_executionsWithin (α := α) tallies.naive tallies.edge
    (tallies.elapsed coarse) orderly.steady.within
  refine ⟨⟨stop, none⟩, ended, ?_⟩
  rw [same id es orderly.recorded]
  exact tallies.amounts

/-- If all windows that are over are covered, one that has ended by now, started after the cutoff
and has an execution has a snapshot with the amounts of the executions in it. -/
theorem Orderly.has_rollup (orderly : Orderly es now cutoff d) {i : Interval} (coarse : i ≠ .minute)
    {stop since : Moment} (covers : Covers i e.templateId es now cutoff (d.own.shelf e.templateId))
    (mem : e ∈ es) (ended : i.endOf? (i.startOf e.executedAt) = .ok stop)
    (elapsed : stop.le? ⟨now, none⟩ = .ok true)
    (known : Moment.daysBefore? ⟨now, none⟩ d.own.policy.snapshotDays = .ok since)
    (after : since.lt? (i.startOf e.executedAt) = .ok true) :
    ∃ s, (d.own.shelf e.templateId).get? (windowOf i e) = some s ∧
      s.Amounts (executionsWithin e.templateId (i.startOf e.executedAt) stop es) := by
  have naive := orderly.recorded e mem
  have start : i.startOf e.executedAt = ⟨i.floor e.executedAt.wall, none⟩ := by
    rw [Interval.startOf, naive]
  have has : (d.own.shelf e.templateId).has (windowOf i e) = true := by
    rw [start] at ended after
    cases orderly.snapshots.symm.trans known
    have passed := ((Interval.lt_of_endOf? ended).1.le?_iff (Moment.naive_mk _)).1 elapsed
    exact covers e mem rfl (((Moment.naive_mk _).lt?_iff (Moment.naive_mk _)).1 after)
      (Interval.floor_lt_of_endOf? ended passed)
  obtain ⟨⟨key, s⟩, among, same⟩ := has_iff.1 has
  have stock := orderly.shelves e.templateId
  have found := stock.distinct.get?_of_mem among same
  cases (WindowKey.beq_iff_eq (stock.entries _ among).naive (naive_windowOf naive)).1 same
  obtain ⟨stop', ended', amounts⟩ := orderly.amounts_rollup among coarse
  cases ended.symm.trans ended'
  exact ⟨s, found, amounts⟩

/-! ### Analyses that stay in order -/

section

variable [IsStrictOrderedRing α]

/-- Recording an execution of the present moment succeeds if it is stored, and the analysis stays in
order. -/
theorem Orderly.record_runs (orderly : Orderly es now cutoff d)
    (present : e.executedAt = ⟨now, none⟩) (stored : stores e d = true) :
    ∃ found d', (record e).on d = (.ok found, d') ∧ Orderly (es ++ [e]) now cutoff d' := by
  have naive : e.executedAt.Naive := by
    rw [present]
    exact Moment.naive_mk _
  obtain ⟨found, d', ran, steady, adds⟩ := orderly.steady.record_runs present stored
  refine ⟨found, d', ran, steady.orderly (naive_append orderly.recorded naive) fun id => ?_⟩
  by_cases own : id = e.templateId
  · subst own
    obtain ⟨s, shelf, start, counts⟩ := adds.own
    rw [shelf]
    exact (orderly.shelves _).append_own orderly.recorded present start counts
  · rw [adds.others id own]
    exact (orderly.shelves id).append_other (Ne.symm own) naive

end

theorem Orderly.movedTo {t : Moment} (orderly : Orderly es now cutoff d) (forward : now ≤ t.wall)
    (range : InRange d.own.policy t) : ∃ cutoff, Orderly es t.wall cutoff (movedTo t d) := by
  obtain ⟨cutoff', since, steady⟩ := orderly.steady.movedTo forward range
  exact ⟨cutoff', steady.orderly orderly.recorded fun id =>
    (orderly.shelves id).later forward since⟩

/-! ### Runs -/

/-- The desks that are reached from one at which nothing was recorded, with the executions that were
recorded on the way, where executions are recorded at the moment that the clock shows, passes are
made, and the clock goes on. An execution that cannot be stored is not recorded. -/
inductive Reached : Desk (Analysis α) → List (Execution α) → Prop
  | start {d : Desk (Analysis α)} {t : Moment} (shelves : d.own.shelves = [])
      (buffers : d.own.recorder.buffers = []) (anomalies : d.own.anomalies = [])
      (realTime : d.own.policy.realTime = true) (clock : d.shared.clock.Gives t)
      (range : InRange d.own.policy t) : Reached d []
  | record {d : Desk (Analysis α)} {es : List (Execution α)} {e : Execution α}
      (before : Reached d es) (present : e.executedAt = d.shared.clock.current) :
      Reached ((record e).on d).2 (if stores e d then es ++ [e] else es)
  | runOnce {d : Desk (Analysis α)} {es : List (Execution α)} {names : List String}
      (before : Reached d es) (complete : Complete names) : Reached ((runOnce names).on d).2 es
  | moveTo {d : Desk (Analysis α)} {es : List (Execution α)} {t : Moment} (before : Reached d es)
      (forward : d.shared.clock.current.le? t = .ok true) (range : InRange d.own.policy t) :
      Reached (movedTo t d) es

section

variable [IsStrictOrderedRing α]

/-- Every analysis that is reached is in order. -/
theorem Reached.orderly (reached : Reached d es) : ∃ now cutoff, Orderly es now cutoff d := by
  induction reached with
  | start shelves buffers anomalies realTime clock range =>
    obtain ⟨cutoff, steady⟩ := steady_start shelves buffers anomalies realTime clock range
    refine ⟨_, cutoff, steady.orderly (fun _ mem => absurd mem List.not_mem_nil) fun id => ?_⟩
    rw [shelf, shelves]
    exact stock_nil ..
  | record before present ih =>
    rename_i d es e
    obtain ⟨now, cutoff, orderly⟩ := ih
    refine ⟨now, cutoff, ?_⟩
    split
    · next stored =>
      rw [orderly.clock.current] at present
      obtain ⟨found, d', ran, orderly'⟩ := orderly.record_runs present stored
      rw [ran]
      exact orderly'
    · next failed =>
      obtain ⟨f, d', ran, own, clock⟩ := record_of_not_stores (Bool.not_eq_true _ ▸ failed)
      rw [ran]
      refine (orderly.steady.same own clock).orderly orderly.recorded ?_
      rw [own]
      exact orderly.shelves
  | runOnce before complete ih =>
    obtain ⟨now, cutoff, orderly⟩ := ih
    obtain ⟨created, d', ran, orderly', -⟩ := runOnce_runs complete orderly
    rw [ran]
    exact ⟨now, cutoff, orderly'⟩
  | moveTo before forward range ih =>
    obtain ⟨now, cutoff, orderly⟩ := ih
    rw [orderly.clock.current, (Moment.naive_mk now).le?_iff range.naive] at forward
    obtain ⟨cutoff', orderly'⟩ := orderly.movedTo forward range
    exact ⟨_, cutoff', orderly'⟩

/-! ### Rollups lose nothing -/

/-- Whatever is recorded and rolled up as time goes on, there is at most one snapshot of each
window, and one of a window that was rolled up has the amounts of all executions of its template
from the start of the window to its end. Passes that can follow one another succeed, and then every
window of their intervals that has ended, started after the cutoff and has an execution has a
snapshot. -/
theorem rollups_lose_nothing (reached : Reached d es) :
    (∀ id, (d.own.shelf id).Distinct ∧
      ∀ entry ∈ d.own.shelf id, entry.1.interval ≠ .minute →
        ∃ stop, entry.1.interval.endOf? entry.1.start = .ok stop ∧
          entry.2.Amounts (executionsWithin id entry.1.start stop es)) ∧
    ∀ names, Complete names → ∃ created d', (runOnce names).on d = (.ok created, d') ∧
      ∀ pass ∈ passesOf names, ∀ e ∈ es, ∀ stop cutoff,
        pass.2.endOf? (pass.2.startOf e.executedAt) = .ok stop →
        stop.le? d.shared.clock.current = .ok true →
        d.shared.clock.current.daysBefore? d.own.policy.snapshotDays = .ok cutoff →
        cutoff.lt? (pass.2.startOf e.executedAt) = .ok true →
        ∃ s, (d'.own.shelf e.templateId).get? (windowOf pass.2 e) = some s ∧
          s.Amounts (executionsWithin e.templateId (pass.2.startOf e.executedAt) stop es) := by
  obtain ⟨now, cutoff, orderly⟩ := reached.orderly
  refine ⟨fun id => ⟨(orderly.shelves id).distinct, fun entry mem coarse =>
    orderly.amounts_rollup mem coarse⟩, fun names complete => ?_⟩
  obtain ⟨created, d', ran, orderly', covers⟩ := runOnce_runs complete orderly
  refine ⟨created, d', ran, fun pass among e mem stop since ended elapsed known after => ?_⟩
  rw [orderly.clock.current] at elapsed known
  cases orderly.snapshots.symm.trans known
  exact orderly'.has_rollup (ne_minute_of_mem_passesOf among) (covers pass among e.templateId) mem
    ended elapsed orderly'.snapshots after

end

/-! ### A run over two days -/

/-- A moment of a clock without zones. -/
def showing (day hour minute : Nat) : Moment :=
  .of ⟨2024, 3, day⟩ (hour * Calendar.hour + minute * Calendar.minute)

/-- Two executions in different hours of a day. -/
def early : Execution ℚ := execution "a" 100 (showing 6 10 20)
@[inherit_doc early] def late : Execution ℚ := execution "a" 300 (showing 6 11 10)

/-- A desk at which nothing was recorded so far. -/
def opening : Desk (Analysis ℚ) :=
  ⟨blank, { repository := .memory .empty, clock := .always early.executedAt }⟩

/-- The desk after both executions were recorded. -/
def recordedTwice : Desk (Analysis ℚ) :=
  ((record late).on (movedTo late.executedAt ((record early).on opening).2)).2

/-- The desk after hours and days were rolled up on the next day. -/
def rolledUp : Desk (Analysis ℚ) :=
  ((runOnce ["hourly", "daily"]).on (movedTo (showing 7 0 30) recordedTwice)).2

theorem inRange_blank {t : Moment} (naive : t.Naive)
    (minute : (Interval.minute.endOf? (Interval.minute.startOf t)).isOk = true)
    (days : (t.daysBefore? 30).isOk = true) : InRange blank.policy t :=
  ⟨naive, Outcome.exists_of_isOk minute, Outcome.exists_of_isOk days, Outcome.exists_of_isOk days⟩

theorem reached_rolledUp : Reached rolledUp [early, late] := by
  have morning : Reached opening [] := .start rfl rfl rfl rfl (Script.gives_always _)
    (inRange_blank rfl (by decide +kernel) (by decide +kernel))
  have first : Reached _ [early] := .record (e := early) morning rfl
  have noon : Reached _ [early] := first.moveTo (t := late.executedAt) (by decide +kernel)
    (inRange_blank rfl (by decide +kernel) (by decide +kernel))
  have second : Reached recordedTwice [early, late] := .record (e := late) noon rfl
  have night : Reached _ [early, late] := second.moveTo (t := showing 7 0 30) (by decide +kernel)
    (inRange_blank rfl (by decide +kernel) (by decide +kernel))
  exact night.runOnce ⟨by decide, by decide⟩

theorem rollups_lose_nothing_rolledUp :
    (∀ id, (rolledUp.own.shelf id).Distinct ∧
      ∀ entry ∈ rolledUp.own.shelf id, entry.1.interval ≠ .minute →
        ∃ stop, entry.1.interval.endOf? entry.1.start = .ok stop ∧
          entry.2.Amounts (executionsWithin id entry.1.start stop [early, late])) ∧
    ∀ names, Complete names → ∃ created d', (runOnce names).on rolledUp = (.ok created, d') ∧
      ∀ pass ∈ passesOf names, ∀ e ∈ [early, late], ∀ stop cutoff,
        pass.2.endOf? (pass.2.startOf e.executedAt) = .ok stop →
        stop.le? rolledUp.shared.clock.current = .ok true →
        rolledUp.shared.clock.current.daysBefore? rolledUp.own.policy.snapshotDays = .ok cutoff →
        cutoff.lt? (pass.2.startOf e.executedAt) = .ok true →
        ∃ s, (d'.own.shelf e.templateId).get? (windowOf pass.2 e) = some s ∧
          s.Amounts (executionsWithin e.templateId (pass.2.startOf e.executedAt) stop
            [early, late]) :=
  rollups_lose_nothing reached_rolledUp

end Analysis

end Promptuary
