import Promptuary.Proofs.Analysis.Stock

/-!
Analyses whose clock stands. Where nothing that is computed from what it shows is out of range and
no moment has an offset, an execution of the present moment is recorded without fail, and it is
clear what becomes of the shelves.
-/

namespace Promptuary

open Calendar (Interval Moment)
open Exact Operation

namespace Analysis

section

variable {α : Type} {d d' : Desk (Analysis α)} {e : Execution α} {now cutoff : Nat} {id : String}
  {shelf : Shelf α}

/-! ### Standing clocks -/

/-- An analysis where the clock stands and nothing that is computed from what it shows is out of
range, while no moment has an offset and each snapshot starts with its window. -/
structure Steady (now cutoff : Nat) (d : Desk (Analysis α)) : Prop where
  realTime : d.own.policy.realTime = true
  clock : d.shared.clock.Gives ⟨now, none⟩
  minute : ∃ stop, Interval.minute.endOf? ⟨Interval.minute.floor now, none⟩ = .ok stop
  snapshots : Moment.daysBefore? ⟨now, none⟩ d.own.policy.snapshotDays = .ok ⟨cutoff, none⟩
  anomalies : ∃ since, Moment.daysBefore? ⟨now, none⟩ d.own.policy.anomalyDays = .ok since
  held : ∀ id, ∀ e ∈ d.own.recorder.executions id, e.executedAt.Naive
  found : ∀ id, ∀ x ∈ d.own.anomaliesOf id, x.time.Naive
  keyed : ∀ id, Keyed (d.own.shelf id)

theorem Steady.within (steady : Steady now cutoff d) : now < Calendar.endOfTime := by
  obtain ⟨stop, ended⟩ := steady.minute
  exact (Interval.lt_of_endOf? ended).2.trans (Calendar.minute_end_lt ended)

/-- An analysis stays steady while its policy stays, if its recorder, its anomalies and its shelves
are still as they should be. -/
theorem Steady.replace (steady : Steady now cutoff d) (policy : d'.own.policy = d.own.policy)
    (clock : d'.shared.clock.readings <:+ d.shared.clock.readings)
    (held : ∀ id, ∀ e ∈ d'.own.recorder.executions id, e.executedAt.Naive)
    (found : ∀ id, ∀ x ∈ d'.own.anomaliesOf id, x.time.Naive)
    (keyed : ∀ id, Keyed (d'.own.shelf id)) : Steady now cutoff d' where
  realTime := by
    rw [policy]
    exact steady.realTime
  clock := steady.clock.later clock
  minute := steady.minute
  snapshots := by
    rw [policy]
    exact steady.snapshots
  anomalies := by
    rw [policy]
    exact steady.anomalies
  held := held
  found := found
  keyed := keyed

theorem Steady.same (steady : Steady now cutoff d) (own : d'.own = d.own)
    (clock : d'.shared.clock.readings <:+ d.shared.clock.readings) : Steady now cutoff d' := by
  refine steady.replace ?_ clock ?_ ?_ ?_
  all_goals rw [own]
  exacts [steady.held, steady.found, steady.keyed]

theorem Steady.reshelve (steady : Steady now cutoff d)
    (reshelves : d.own.Reshelves d'.own id shelf) (keyed : Keyed shelf)
    (clock : d'.shared.clock.readings <:+ d.shared.clock.readings) : Steady now cutoff d' := by
  refine steady.replace reshelves.policy clock ?_ (fun other => ?_) fun other => ?_
  · rw [reshelves.recorder]
    exact steady.held
  · rw [anomaliesOf, reshelves.anomalies]
    exact steady.found other
  · rw [reshelves.shelf]
    split
    · exact keyed
    · exact steady.keyed other

theorem Steady.keep (steady : Steady now cutoff d) (naive : e.executedAt.Naive)
    (own : d'.own = { d.own with recorder := d.own.recorder.keep e })
    (clock : d'.shared.clock.readings <:+ d.shared.clock.readings) : Steady now cutoff d' := by
  refine steady.replace ?_ clock ?_ ?_ ?_
  all_goals rw [own]
  · intro id x mem
    rw [Recorder.executions_keep] at mem
    split at mem
    · rcases List.mem_append.1 ((lastItems_suffix ..).mem mem) with old | new
      · exact steady.held id x old
      · cases List.mem_singleton.1 new
        exact naive
    · exact steady.held id x mem
  · exact steady.found
  · exact steady.keyed

/-! ### Time that passes -/

/-- What is computed from the present moment of a clock without zones is representable: the end of
its minute, and the moments up to which snapshots and anomalies are no longer kept. -/
structure InRange (policy : Policy α) (t : Moment) : Prop where
  naive : t.Naive
  minute : ∃ stop, Interval.minute.endOf? (Interval.minute.startOf t) = .ok stop
  snapshots : ∃ cutoff, t.daysBefore? policy.snapshotDays = .ok cutoff
  anomalies : ∃ since, t.daysBefore? policy.anomalyDays = .ok since

/-- The desk with a clock that shows another moment from now on. -/
def movedTo (t : Moment) (d : Desk (Analysis α)) : Desk (Analysis α) :=
  { d with shared := { d.shared with clock := .always t } }

/-- An analysis at which nothing was recorded is steady. -/
theorem steady_start {t : Moment} (shelves : d.own.shelves = [])
    (buffers : d.own.recorder.buffers = []) (anomalies : d.own.anomalies = [])
    (realTime : d.own.policy.realTime = true) (clock : d.shared.clock.Gives t)
    (range : InRange d.own.policy t) : ∃ cutoff, Steady t.wall cutoff d := by
  obtain ⟨since, known⟩ := range.snapshots
  have here : t = ⟨t.wall, none⟩ := range.naive.eq
  have naive : since.Naive := (Moment.daysBefore?_spec known).1.trans range.naive
  have minute := range.minute
  have anomalyCutoff := range.anomalies
  rw [here] at known minute anomalyCutoff clock
  rw [naive.eq] at known
  refine ⟨since.wall, {
    realTime, clock, minute, snapshots := known, anomalies := anomalyCutoff
    held := fun id e mem => ?_, found := fun id x mem => ?_, keyed := fun id => ?_ }⟩
  · rw [Recorder.executions, buffers] at mem
    exact absurd mem List.not_mem_nil
  · rw [anomaliesOf, anomalies] at mem
    exact absurd mem List.not_mem_nil
  · rw [Analysis.shelf, shelves]
    exact keyed_nil

theorem Steady.movedTo {t : Moment} (steady : Steady now cutoff d) (forward : now ≤ t.wall)
    (range : InRange d.own.policy t) :
    ∃ cutoff', cutoff ≤ cutoff' ∧ Steady t.wall cutoff' (movedTo t d) := by
  obtain ⟨cutoff', known⟩ := range.snapshots
  obtain ⟨since, known'⟩ := range.anomalies
  obtain ⟨offset, wall⟩ := Moment.daysBefore?_spec known
  obtain ⟨-, wall'⟩ := Moment.daysBefore?_spec steady.snapshots
  have here : t = ⟨t.wall, none⟩ := range.naive.eq
  have naive : cutoff'.Naive := offset.trans range.naive
  have since' : cutoff ≤ cutoff'.wall := by
    dsimp only at wall'
    omega
  have minute := range.minute
  rw [here] at known known' minute
  refine ⟨cutoff'.wall, since',
    { steady with clock := ?_, minute, snapshots := ?_, anomalies := ?_ }⟩
  · rw [← here]
    exact Script.gives_always t
  · rw [← naive.eq]
    exact known
  · exact ⟨_, known'⟩

end

end Analysis

variable {α : Type} [Field α] [LinearOrder α] [FloorRing α] [Numerals α]

/-! ### Anomalies in exact arithmetic -/

namespace Anomaly

/-- In exact arithmetic all values can be compared. -/
theorem comparisons_ok (e : Execution α) (window : List (Execution α)) :
    ∃ compared, comparisons e window = .ok compared := by
  have tokens : window.mapM (fun other =>
      (Scalar.ofInt other.tokens.total : Except NumberError α)) =
        .ok (window.map fun other => (other.tokens.total : α)) :=
    Outcome.mapM_eq_map fun _ _ => rfl
  unfold comparisons
  rw [ofInt_eq, Outcome.ok_bind, tokens]
  exact ⟨_, rfl⟩

/-- Looking for anomalies succeeds, and those found have the time of the execution. -/
theorem detect_ok (policy : Policy α) (id : String) (e : Execution α)
    (baseline : List (Execution α)) :
    ∃ found, detect policy id e baseline = .ok found ∧ ∀ x ∈ found, x.time = e.executedAt := by
  unfold detect
  split
  · exact ⟨[], rfl, fun _ mem => absurd mem List.not_mem_nil⟩
  · obtain ⟨compared, ok⟩ := comparisons_ok e (windowOf policy.window baseline)
    rw [ok]
    refine ⟨_, rfl, fun x mem => ?_⟩
    obtain ⟨c, -, shown⟩ := List.mem_filterMap.1 mem
    unfold ofComparison at shown
    dsimp only at shown
    split at shown
    · cases shown
    · split at shown
      · cases shown
      · cases shown
        rfl

end Anomaly

namespace Analysis

variable {d d' : Desk (Analysis α)} {es : List (Execution α)} {e : Execution α} {now cutoff : Nat}

/-! ### One execution more -/

/-- Looking for anomalies succeeds, and changes nothing but the anomalies that are kept. -/
theorem Steady.detect_runs (steady : Steady now cutoff d) (naive : e.executedAt.Naive)
    (id : String) (baseline : List (Execution α)) :
    ∃ found d', (detect id e baseline).on d = (.ok found, d') ∧ Steady now cutoff d' ∧
      d'.own.shelves = d.own.shelves := by
  obtain ⟨found, ok, times⟩ := Anomaly.detect_ok d.own.policy id e baseline
  unfold detect
  rw [on_bind_ok (on_own _), ok, Outcome.mapError_ok, on_bind_ok (on_attempt ..)]
  split
  · obtain ⟨since, known⟩ := steady.anomalies
    have naive_all : ∀ x ∈ d.own.anomaliesOf id ++ found, x.time.Naive := by
      intro x mem
      rcases List.mem_append.1 mem with old | new
      · exact steady.found id x old
      · rw [times x new]
        exact naive
    have naive_since : since.Naive := (Moment.daysBefore?_spec known).1
    have answers : ∀ x ∈ d.own.anomaliesOf id ++ found, ∃ b, since.lt? x.time = .ok b :=
      fun x mem => ⟨_, naive_since.lt? (naive_all x mem)⟩
    rw [← steady.clock.current] at known
    have kept := keepAnomalies_runs known answers
    refine ⟨found, _, on_bind_ok kept _, steady.replace rfl d.shared.clock.rest_suffix steady.held
      (fun other x mem => ?_) steady.keyed, rfl⟩
    rw [anomaliesOf, Entries.get?_put] at mem
    split at mem
    · exact naive_all x (List.mem_filter.1 mem).1
    · exact steady.found other x mem
  · exact ⟨found, d, rfl, steady, rfl⟩

/-- One state after another in which an execution was added to the snapshot of its minute, and what
is too old was dropped from that shelf. -/
structure Adds (e : Execution α) (cutoff : Nat) (a a' : Analysis α) : Prop where
  others : ∀ id, id ≠ e.templateId → a'.shelf id = a.shelf id
  own : ∃ s, a'.shelf e.templateId =
      ((a.shelf e.templateId).put (minuteOf e) s).filter (isKept ⟨cutoff, none⟩) ∧
    s.start = (minuteOf e).start ∧
    ∀ before, (a.minuteSnapshot e).Amounts before → s.Amounts (before ++ [e])

/-- The snapshot of a minute, new or from the shelf, starts with the minute. -/
theorem minuteSnapshot_start {a : Analysis α} (keyed : Keyed (a.shelf e.templateId))
    (naive : e.executedAt.Naive) : (a.minuteSnapshot e).start = (minuteOf e).start := by
  unfold minuteSnapshot
  cases found : (a.shelf e.templateId).get? (minuteOf e) with
  | none => rfl
  | some s => exact keyed.start _ (keyed.mem_of_get? naive found)

section

variable [IsStrictOrderedRing α]

/-- Adding an execution of the present moment to the snapshot of its minute succeeds. -/
theorem Steady.updateMinute_runs (steady : Steady now cutoff d)
    (present : e.executedAt = ⟨now, none⟩) :
    ∃ d', (updateMinute e).on d = (.ok (), d') ∧ Steady now cutoff d' ∧
      Adds e cutoff d.own d'.own := by
  have naive : e.executedAt.Naive := by
    rw [present]
    exact Moment.naive_mk _
  have keyed := steady.keyed e.templateId
  obtain ⟨m, counted⟩ := Metrics.addAmounts_ok (d.own.minuteSnapshot e).metrics e
  obtain ⟨stop, ended⟩ := steady.minute
  have ended : Interval.minute.endOf? (minuteOf e).start = .ok stop := by
    rw [minuteOf, present]
    exact ended
  have naive_stop : stop.Naive := (Calendar.minute_end ended).1.trans naive
  have chosen : ((d.own.recorder.executions e.templateId).filterM fun x =>
      (minuteOf e).start.isIn? stop x.executedAt) = .ok _ :=
    Outcome.filterM_eq_filter fun x mem =>
      (naive_windowOf naive).isIn? naive_stop (steady.held e.templateId x mem)
  have known : d.shared.clock.current.daysBefore? d.own.policy.snapshotDays =
      .ok ⟨cutoff, none⟩ := by
    rw [steady.clock.current]
    exact steady.snapshots
  have start : (d.own.minuteSnapshot e).start = (minuteOf e).start :=
    minuteSnapshot_start keyed naive
  have answers : ∀ entry ∈ d.own.shelf e.templateId,
      ∃ b, entry.2.start.le? ⟨cutoff, none⟩ = .ok b := by
    intro entry mem
    rw [keyed.start entry mem]
    exact ⟨_, (keyed.naive entry mem).le? (Moment.naive_mk _)⟩
  have answer : ∃ b, (d.own.minuteSnapshot e).start.le? ⟨cutoff, none⟩ = .ok b := by
    rw [start]
    exact ⟨_, (naive_windowOf naive).le? (Moment.naive_mk _)⟩
  obtain ⟨d', ran⟩ := Analysis.updateMinute_runs counted ended chosen known answers answer
  obtain ⟨-, held, custom, since, -, -, known', reshelves, clock⟩ :=
    updateMinute_spec counted ran
  cases known.symm.trans known'
  obtain ⟨s, start, counts, reshelves⟩ : ∃ s, s.start = (minuteOf e).start ∧
      (∀ before, (d.own.minuteSnapshot e).Amounts before → s.Amounts (before ++ [e])) ∧
      d.own.Reshelves d'.own e.templateId
        (((d.own.shelf e.templateId).put (minuteOf e) s).filter (isKept ⟨cutoff, none⟩)) := by
    refine ⟨_, ?_, ?_, reshelves⟩
    · exact start
    · exact fun before amounts => amounts_grown amounts counted ..
  refine ⟨d', ran, steady.reshelve reshelves ((keyed.put naive start).filter _) clock, ?_, ?_⟩
  · intro id other
    rw [reshelves.shelf, if_neg other.symm]
  · refine ⟨s, ?_, start, counts⟩
    rw [reshelves.shelf, if_pos rfl]

/-- Recording an execution of the present moment succeeds if it is stored. -/
theorem Steady.record_runs (steady : Steady now cutoff d) (present : e.executedAt = ⟨now, none⟩)
    (stored : stores e d = true) :
    ∃ found d', (record e).on d = (.ok found, d') ∧ Steady now cutoff d' ∧
      Adds e cutoff d.own d'.own := by
  have naive : e.executedAt.Naive := by
    rw [present]
    exact Moment.naive_mk _
  obtain ⟨r, d₁, ran, clock, ⟨f, rfl, -⟩ | ⟨rfl, own₁⟩⟩ := onRecorder_cases e d
  · rw [stores, ran] at stored
    cases stored
  have steady₁ := steady.keep naive own₁ clock
  obtain ⟨found, d₂, detected, steady₂, shelves⟩ := steady₁.detect_runs naive e.templateId
    (d.own.recorder.executions e.templateId)
  have adds : ∀ a, Adds e cutoff d₂.own a → Adds e cutoff d.own a := by
    have same : ∀ id, d₂.own.shelf id = d.own.shelf id := by
      intro id
      rw [Analysis.shelf, shelves, own₁]
      rfl
    rintro a ⟨others, own⟩
    simp only [minuteSnapshot, same] at others own
    exact ⟨others, own⟩
  unfold record
  rw [on_bind_ok (on_own _)]
  dsimp only
  rw [on_bind_ok ran, on_bind_ok (on_own _), if_pos steady₁.realTime, on_bind_ok detected]
  split
  · obtain ⟨d₃, announced, leads⟩ := announce_leads
      (.anomaliesDetected e.templateId (found.map (·.toDatum .stored))) d₂
    obtain ⟨d₄, updated, steady₄, added⟩ :=
      (steady₂.same leads.own leads.clock).updateMinute_runs present
    rw [leads.own] at added
    exact ⟨found, d₄, (on_bind_ok announced _).trans (on_bind_ok updated _), steady₄,
      adds _ added⟩
  · obtain ⟨d₃, updated, steady₃, added⟩ := steady₂.updateMinute_runs present
    exact ⟨found, d₃, on_bind_ok updated _, steady₃, adds _ added⟩

end

/-! ### Analyses in order -/

/-- An analysis all of whose shelves are stocks, where the clock stands and nothing that is computed
from what it shows is out of range. -/
structure Orderly (es : List (Execution α)) (now cutoff : Nat) (d : Desk (Analysis α)) : Prop where
  realTime : d.own.policy.realTime = true
  clock : d.shared.clock.Gives ⟨now, none⟩
  minute : ∃ stop, Interval.minute.endOf? ⟨Interval.minute.floor now, none⟩ = .ok stop
  snapshots : Moment.daysBefore? ⟨now, none⟩ d.own.policy.snapshotDays = .ok ⟨cutoff, none⟩
  anomalies : ∃ since, Moment.daysBefore? ⟨now, none⟩ d.own.policy.anomalyDays = .ok since
  recorded : ∀ e ∈ es, e.executedAt.Naive
  held : ∀ id, ∀ e ∈ d.own.recorder.executions id, e.executedAt.Naive
  found : ∀ id, ∀ x ∈ d.own.anomaliesOf id, x.time.Naive
  shelves : ∀ id, Stock id es now cutoff (d.own.shelf id)

theorem Orderly.steady (orderly : Orderly es now cutoff d) : Steady now cutoff d :=
  { orderly with keyed := fun id => (orderly.shelves id).keyed }

theorem Steady.orderly (steady : Steady now cutoff d) (recorded : ∀ e ∈ es, e.executedAt.Naive)
    (shelves : ∀ id, Stock id es now cutoff (d.own.shelf id)) : Orderly es now cutoff d :=
  { steady with recorded, shelves }

end Analysis

end Promptuary
