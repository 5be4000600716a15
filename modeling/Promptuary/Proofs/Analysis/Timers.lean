import Promptuary.Proofs.Analysis.Rollups

/-!
Passes by timers of their own. Where hours and days are rolled up at any moments and in any order, a
day that is over gets its snapshot from the hours that have theirs by then. It tells of the
executions of that day up to the last pass over the hours, and no later pass adds to it.
-/

namespace Promptuary

open Calendar (Interval Moment)
open Exact Operation

namespace Analysis

/-! ### Snapshots of days set aside -/

section

variable {α : Type} {shelf added : Shelf α} {key : WindowKey} {s : Snapshot α}

/-- The snapshots of a shelf that are not of days. -/
def withoutDays (shelf : Shelf α) : Shelf α :=
  shelf.filter fun entry => decide (entry.1.interval ≠ .day)

theorem mem_withoutDays {entry : WindowKey × Snapshot α} :
    entry ∈ withoutDays shelf ↔ entry ∈ shelf ∧ entry.1.interval ≠ .day := by
  rw [withoutDays, List.mem_filter, decide_eq_true_iff]

theorem interval_eq_of_beq (a b : WindowKey) (same : (a == b) = true) :
    decide (a.interval ≠ .day) = decide (b.interval ≠ .day) := by
  rw [(WindowKey.beq_iff.1 same).1]

theorem withoutDays_put (fine : key.interval ≠ .day) (shelf : Shelf α) :
    withoutDays (shelf.put key s) = (withoutDays shelf).put key s := by
  unfold withoutDays
  rw [Entries.put_filter_key interval_eq_of_beq, if_pos (decide_eq_true fine)]

theorem get?_withoutDays (fine : key.interval ≠ .day) (shelf : Shelf α) :
    (withoutDays shelf).get? key = shelf.get? key :=
  Entries.get?_filter_key interval_eq_of_beq shelf (decide_eq_true fine)

theorem has_withoutDays {i : Interval} (fine : i ≠ .day) (e : Execution α) (shelf : Shelf α) :
    (withoutDays shelf).has (windowOf i e) = shelf.has (windowOf i e) := by
  have found : (withoutDays shelf).get? (windowOf i e) = shelf.get? (windowOf i e) :=
    get?_withoutDays fine shelf
  rw [Entries.has_eq_isSome, Entries.has_eq_isSome, found]

theorem withoutDays_filter (p : WindowKey × Snapshot α → Bool) (shelf : Shelf α) :
    withoutDays (shelf.filter p) = (withoutDays shelf).filter p :=
  List.filter_comm ..

theorem withoutDays_append (days : ∀ entry ∈ added, entry.1.interval = .day) :
    withoutDays (shelf ++ added) = withoutDays shelf := by
  have none : withoutDays added = [] := by
    refine List.filter_eq_nil_iff.2 fun entry mem => ?_
    simp [days entry mem]
  unfold withoutDays at none ⊢
  rw [List.filter_append, none, List.append_nil]

end

variable {α : Type} [Field α] [LinearOrder α] [FloorRing α] [Numerals α]

variable {d d' : Desk (Analysis α)} {es : List (Execution α)} {e : Execution α}
  {now cutoff rolled : Nat} {id : String} {shelf shelf' : Shelf α}

theorem Stock.amounts_withoutDays (stock : Stock id es now cutoff (withoutDays shelf))
    {entry : WindowKey × Snapshot α} (mem : entry ∈ shelf) (fine : entry.1.interval ≠ .day) :
    entry.2.Amounts (inWindow id entry.1 es) :=
  (stock.entries entry (mem_withoutDays.2 ⟨mem, fine⟩)).amounts

theorem Stock.covers_withoutDays (stock : Stock id es now cutoff (withoutDays shelf)) :
    Covers .minute id es now cutoff shelf := by
  intro e mem own since _
  rw [← has_withoutDays (by decide)]
  exact stock.minutes e mem own since

/-! ### What holds between passes -/

/-- An analysis whose hours were rolled up as far as they ended before some moment. Its snapshots
are a stock but for those of days, of which nothing is said. -/
structure Timely (es : List (Execution α)) (now cutoff rolled : Nat) (d : Desk (Analysis α)) :
    Prop where
  steady : Steady now cutoff d
  past : ∀ e ∈ es, e.executedAt.Naive
  reached : rolled ≤ now
  stocks : ∀ id, Stock id es now cutoff (withoutDays (d.own.shelf id))
  hours : ∀ id, ∀ e : Execution α, e.executedAt.Naive →
    (d.own.shelf id).has (windowOf .hour e) = true → e.executedAt.wall < rolled
  covered : ∀ id, ∀ e ∈ es, e.templateId = id → cutoff < Interval.hour.floor e.executedAt.wall →
    e.executedAt.wall < rolled → (d.own.shelf id).has (windowOf .hour e) = true

/-- An analysis stays timely if nothing but snapshots of days changes. -/
theorem Timely.replace (timely : Timely es now cutoff rolled d) (steady : Steady now cutoff d')
    (same : ∀ id, withoutDays (d'.own.shelf id) = withoutDays (d.own.shelf id)) :
    Timely es now cutoff rolled d' := by
  have hour : ∀ id (e : Execution α), (d'.own.shelf id).has (windowOf .hour e) =
      (d.own.shelf id).has (windowOf .hour e) := by
    intro id e
    rw [← has_withoutDays (by decide), same, has_withoutDays (by decide)]
  exact {
    steady
    past := timely.past
    reached := timely.reached
    stocks := fun id => by
      rw [same]
      exact timely.stocks id
    hours := fun id e naive has => by
      rw [hour] at has
      exact timely.hours id e naive has
    covered := fun id e mem own since before => by
      rw [hour]
      exact timely.covered id e mem own since before }

section

variable [IsStrictOrderedRing α]

/-- Recording an execution of the present moment succeeds if it is stored, and the analysis stays
timely. -/
theorem Timely.record_runs (timely : Timely es now cutoff rolled d)
    (present : e.executedAt = ⟨now, none⟩) (stored : stores e d = true) :
    ∃ found d', (record e).on d = (.ok found, d') ∧ Timely (es ++ [e]) now cutoff rolled d' := by
  have naive : e.executedAt.Naive := by
    rw [present]
    exact Moment.naive_mk _
  have fine : (minuteOf e).interval ≠ .day := nofun
  obtain ⟨found, d', ran, steady, adds⟩ := timely.steady.record_runs present stored
  obtain ⟨s, shelf, start, counts⟩ := adds.own
  refine ⟨found, d', ran, {
    steady, past := naive_append timely.past naive, reached := timely.reached
    stocks := ?_, hours := ?_, covered := ?_ }⟩
  · intro id
    by_cases own : id = e.templateId
    · subst own
      rw [shelf, withoutDays_filter, withoutDays_put fine]
      refine (timely.stocks _).append_own timely.past present start fun before amounts => ?_
      rw [get?_withoutDays fine] at amounts
      exact counts before amounts
    · rw [adds.others id own]
      exact (timely.stocks id).append_other (Ne.symm own) naive
  · -- What was put there is a minute, so that hours with snapshots had them before.
    intro id x naive_x has
    refine timely.hours id x naive_x ?_
    by_cases own : id = e.templateId
    · subst own
      rw [shelf] at has
      obtain ⟨entry, mem, same⟩ := has_iff.1 has
      have put := has_iff.2 ⟨entry, (List.mem_filter.1 mem).1, same⟩
      rw [Entries.has_put] at put
      exact put
    · rw [adds.others id own] at has
      exact has
  · intro id x mem own since before
    rcases List.mem_append.1 mem with known | new
    · have has := timely.covered id x known own since before
      by_cases here : id = e.templateId
      · subst here
        rw [shelf]
        refine ((timely.steady.keyed _).put naive start).has_kept
          (naive_windowOf (timely.past x known)) since ?_
        rw [Entries.has_put, has, Bool.or_true]
      · rw [adds.others id here]
        exact has
    · -- The hour of the new execution is not over.
      cases List.mem_singleton.1 new
      rw [present] at before
      exact absurd timely.reached (Nat.not_le.2 before)

end

theorem Timely.movedTo {t : Moment} (timely : Timely es now cutoff rolled d)
    (forward : now ≤ t.wall) (range : InRange d.own.policy t) :
    ∃ cutoff, Timely es t.wall cutoff rolled (movedTo t d) := by
  obtain ⟨cutoff', since, steady⟩ := timely.steady.movedTo forward range
  exact ⟨cutoff', {
    steady
    past := timely.past
    reached := timely.reached.trans forward
    stocks := fun id => (timely.stocks id).later forward since
    hours := timely.hours
    covered := fun id e mem own after => timely.covered id e mem own (since.trans_lt after) }⟩

/-! ### A pass over the hours -/

/-- A pass over the hours succeeds, and all that are over are rolled up then. -/
theorem Timely.hours_run (timely : Timely es now cutoff rolled d) :
    ∃ created d', (aggregate .hour).on d = (.ok created, d') ∧
      Timely es now cutoff (Interval.hour.floor now) d' ∧ d'.own.policy = d.own.policy := by
  have source : Interval.hour.source? = some .minute := rfl
  have carries : Carries (fun d₁ => Steady now cutoff d₁ ∧ d₁.own.policy = d.own.policy ∧
      ∀ id, Stock id es now cutoff (withoutDays (d₁.own.shelf id))) .hour .minute es now cutoff := {
    past := timely.past
    steady := And.left
    tallied := fun ⟨_, _, stocks⟩ id entry mem fine =>
      (stocks id).amounts_withoutDays mem (by rw [fine]; decide)
    same := fun {d₁ d₂} ⟨steady, policy, stocks⟩ own clock => by
      refine ⟨steady.same own clock, ?_⟩
      rw [own]
      exact ⟨policy, stocks⟩
    rolls := fun {d₁ d₂ id u s} ⟨steady, policy, stocks⟩ since elapsed rolls => by
      refine ⟨rolls.steady steady, rolls.reshelves.policy.trans policy, fun other => ?_⟩
      rw [rolls.reshelves.shelf]
      split
      · next same =>
        subst same
        rw [withoutDays_put (nofun : Interval.hour ≠ .day)]
        refine (stocks _).roll (Moment.naive_mk _) (Interval.floor_floor ..) elapsed rolls.start ?_
        exact rolls.amounts_covered timely.past source (stocks _).covers_withoutDays since elapsed
      · exact stocks other }
  obtain ⟨created, d', ran, ⟨steady, policy, stocks⟩, -, follows⟩ :=
    aggregate_runs carries source ⟨timely.steady, rfl, timely.stocks⟩
  refine ⟨created, d', ran, {
    steady, stocks, past := timely.past, reached := Interval.floor_le .., hours := ?_
    covered := ?_ }, policy⟩
  · intro id e naive has
    rw [← has_withoutDays (by decide)] at has
    obtain ⟨s, mem⟩ := (stocks id).keyed.mem_of_has naive has
    exact Interval.lt_floor_iff.2 (((stocks id).entries _ mem).elapsed nofun)
  · intro id e mem own since before
    exact (follows id).covers timely.past source (timely.stocks id).covers_withoutDays e mem own
      since (Interval.lt_floor_iff.1 before)

/-! ### A pass over the days -/

/-- A snapshot of a day that is over tells of the executions of that day before some moment. -/
structure TellsBefore (rolled : Nat) (id : String) (es : List (Execution α)) (now : Nat)
    (entry : WindowKey × Snapshot α) : Prop where
  day : entry.1.interval = .day
  naive : entry.1.start.Naive
  edge : Interval.day.floor entry.1.start.wall = entry.1.start.wall
  elapsed : entry.1.start.wall < Interval.day.floor now
  amounts : entry.2.Amounts ((inWindow id entry.1 es).filter fun e =>
    decide (e.executedAt.wall < rolled))

/-- What a pass over the days leaves: a shelf on which snapshots of days follow those that were
there. -/
def AddsDays (rolled : Nat) (id : String) (es : List (Execution α)) (now : Nat)
    (shelf shelf' : Shelf α) : Prop :=
  ∃ added, shelf' = shelf ++ added ∧ ∀ entry ∈ added, TellsBefore rolled id es now entry

theorem AddsDays.refl (shelf : Shelf α) : AddsDays rolled id es now shelf shelf :=
  ⟨[], (List.append_nil _).symm, fun _ mem => absurd mem List.not_mem_nil⟩

theorem AddsDays.trans {shelf₁ shelf₂ : Shelf α} (first : AddsDays rolled id es now shelf shelf₁)
    (second : AddsDays rolled id es now shelf₁ shelf₂) :
    AddsDays rolled id es now shelf shelf₂ := by
  obtain ⟨added, rfl, before⟩ := first
  obtain ⟨added', rfl, after⟩ := second
  refine ⟨added ++ added', List.append_assoc .., fun entry mem => ?_⟩
  exact (List.mem_append.1 mem).elim (before entry) (after entry)

theorem AddsDays.withoutDays_eq (adds : AddsDays rolled id es now shelf shelf') :
    withoutDays shelf' = withoutDays shelf := by
  obtain ⟨added, rfl, tells⟩ := adds
  exact withoutDays_append fun entry mem => (tells entry mem).day

/-- A snapshot that is rolled up from hours tells of the executions before the moment up to which
there are any. -/
theorem Timely.tellsBefore {d₁ : Desk (Analysis α)} {s : Snapshot α} {u : Nat}
    (timely : Timely es now cutoff rolled d) (since : cutoff < Interval.day.floor u)
    (elapsed : Interval.day.floor u < Interval.day.floor now)
    (rolls : Rolls id .day .hour (Interval.day.floor u) es s d d₁) :
    TellsBefore rolled id es now (⟨.day, ⟨Interval.day.floor u, none⟩⟩, s) := by
  refine ⟨rfl, rfl, Interval.floor_floor .., elapsed, ?_⟩
  have same : (inWindow id ⟨.day, ⟨Interval.day.floor u, none⟩⟩ es).filter
      (fun e => (d.own.shelf id).has (windowOf .hour e)) =
        (inWindow id ⟨.day, ⟨Interval.day.floor u, none⟩⟩ es).filter
          fun e => decide (e.executedAt.wall < rolled) := by
    refine List.filter_congr fun e mem => ?_
    have naive := timely.past e (List.mem_filter.1 mem).1
    obtain ⟨known, own, here⟩ := (mem_inWindow naive (Moment.naive_mk _)).1 mem
    have here : Interval.day.floor e.executedAt.wall = Interval.day.floor u :=
      (windowOf_eq_iff naive).1 here
    rw [← here] at since
    rw [Bool.eq_iff_iff, decide_eq_true_iff]
    exact ⟨timely.hours id e naive, timely.covered id e known own
      (since.trans_le (Interval.floor_le_floor_of_source rfl _))⟩
  rw [← same]
  exact rolls.amounts

theorem Timely.addsDays {d₁ : Desk (Analysis α)} {s : Snapshot α} {u : Nat}
    (timely : Timely es now cutoff rolled d) (since : cutoff < Interval.day.floor u)
    (elapsed : Interval.day.floor u < Interval.day.floor now)
    (rolls : Rolls id .day .hour (Interval.day.floor u) es s d d₁) (other : String) :
    AddsDays rolled other es now (d.own.shelf other) (d₁.own.shelf other) := by
  rw [rolls.reshelves.shelf]
  split
  · next same =>
    subst same
    refine ⟨[_], Entries.put_of_not_has rolls.absent, fun entry mem => ?_⟩
    rw [List.mem_singleton.1 mem]
    exact timely.tellsBefore since elapsed rolls
  · exact .refl _

/-- A pass over the days succeeds and adds snapshots of days. Each day that is over has one then if
hours of it were rolled up, unless it is too old. -/
theorem Timely.days_run (timely : Timely es now cutoff rolled d) :
    ∃ created d', (aggregate .day).on d = (.ok created, d') ∧
      Timely es now cutoff rolled d' ∧
      (∀ id, AddsDays rolled id es now (d.own.shelf id) (d'.own.shelf id)) ∧
      ∀ id, Follows .day .hour now cutoff (d.own.shelf id) (d'.own.shelf id) := by
  have source : Interval.day.source? = some .hour := rfl
  have carries : Carries (fun d₁ => Timely es now cutoff rolled d₁ ∧
      ∀ id, AddsDays rolled id es now (d.own.shelf id) (d₁.own.shelf id))
        .day .hour es now cutoff := {
    past := timely.past
    steady := fun holds => holds.1.steady
    tallied := fun ⟨timely, _⟩ id entry mem fine =>
      (timely.stocks id).amounts_withoutDays mem (by rw [fine]; decide)
    same := fun {d d'} ⟨timely, adds⟩ own clock => by
      refine ⟨timely.replace (timely.steady.same own clock) fun id => ?_, ?_⟩
      all_goals rw [own]
      exact adds
    rolls := fun {d₁ d₂ id u s} ⟨timely, adds⟩ since elapsed rolls => by
      have next := timely.addsDays since elapsed rolls
      exact ⟨timely.replace (rolls.steady timely.steady) fun other => (next other).withoutDays_eq,
        fun other => (adds other).trans (next other)⟩ }
  obtain ⟨created, d', ran, ⟨timely', adds⟩, -, follows⟩ :=
    aggregate_runs carries source ⟨timely, fun _ => .refl _⟩
  exact ⟨created, d', ran, timely', adds, follows⟩

/-! ### Ends of days -/

/-- A snapshot that tells of the executions before some moment counts all of its day if and only if
none came later. -/
theorem TellsBefore.of_end {entry : WindowKey × Snapshot α} {rolled : Moment}
    (tells : TellsBefore rolled.wall id es now entry) (timely : Timely es now cutoff rolled.wall d)
    (naive : rolled.Naive) : ∃ stop, Interval.day.endOf? entry.1.start = .ok stop ∧
      stop.le? ⟨now, none⟩ = .ok true ∧
      entry.2.Amounts ((executionsWithin id entry.1.start stop es).filter fun e =>
        Outcome.holds (e.executedAt.lt? rolled)) ∧
      (entry.2.metrics.count = (executionsWithin id entry.1.start stop es).length ↔
        ∀ e ∈ executionsWithin id entry.1.start stop es, e.executedAt.lt? rolled = .ok true) := by
  obtain ⟨day, start, edge, elapsed, amounts⟩ := tells
  rw [← day] at edge elapsed
  obtain ⟨stop, ended, come, same⟩ :=
    exists_executionsWithin (α := α) start edge elapsed timely.steady.within
  rw [day] at ended
  refine ⟨⟨stop, none⟩, ended, ?_, ?_⟩
  · exact ((Moment.naive_mk _).le?_iff (Moment.naive_mk _)).2 come
  rw [same id es timely.past]
  have past : ∀ e ∈ inWindow id entry.1 es, e.executedAt.Naive := fun e mem =>
    timely.past e (List.mem_filter.1 mem).1
  have before : (inWindow id entry.1 es).filter (fun e => Outcome.holds (e.executedAt.lt? rolled)) =
      (inWindow id entry.1 es).filter fun e => decide (e.executedAt.wall < rolled.wall) := by
    refine List.filter_congr fun e mem => ?_
    rw [(past e mem).lt? naive]
    rfl
  rw [before, amounts.count, Int.natCast_inj, List.length_filter_eq_length_iff]
  refine ⟨amounts, forall₂_congr fun e mem => ?_⟩
  rw [decide_eq_true_iff, (past e mem).lt?_iff naive]

/-- A day that has ended, started after the cutoff and has an execution in an hour that was rolled
up has a snapshot after a pass. -/
theorem Timely.has_day {rolled stop : Moment}
    (timely : Timely es now cutoff rolled.wall d) (naive : rolled.Naive) (mem : e ∈ es)
    (follows : Follows .day .hour now cutoff (d.own.shelf e.templateId) shelf')
    (ended : Interval.day.endOf? (Interval.day.startOf e.executedAt) = .ok stop)
    (elapsed : stop.le? ⟨now, none⟩ = .ok true)
    (after : Moment.lt? ⟨cutoff, none⟩ (Interval.day.startOf e.executedAt) = .ok true)
    (before : e.executedAt.lt? rolled = .ok true) : shelf'.has (windowOf .day e) = true := by
  have naive_e := timely.past e mem
  have start : Interval.day.startOf e.executedAt =
      ⟨Interval.day.floor e.executedAt.wall, none⟩ := by
    rw [Interval.startOf, naive_e]
  rw [start] at ended after
  have since : cutoff < Interval.day.floor e.executedAt.wall :=
    ((Moment.naive_mk _).lt?_iff (Moment.naive_mk _)).1 after
  have passed := ((Interval.lt_of_endOf? ended).1.le?_iff (Moment.naive_mk _)).1 elapsed
  have hour := timely.covered e.templateId e mem rfl
    (since.trans_le (Interval.floor_le_floor_of_source rfl _))
    ((naive_e.lt?_iff naive).1 before)
  exact follows.has_windowOf rfl naive_e hour since (Interval.floor_lt_of_endOf? ended passed)

/-! ### Runs -/

/-- The desks that are reached from one at which nothing was recorded, with the executions that were
recorded on the way and the start of the hour in which the hours were last rolled up, where
executions are recorded at the moment that the clock shows, passes over the hours and over the days
are made, and the clock goes on. An execution that cannot be stored is not recorded. -/
inductive Timed : Desk (Analysis α) → List (Execution α) → Moment → Prop
  | start {d : Desk (Analysis α)} {t : Moment} (shelves : d.own.shelves = [])
      (buffers : d.own.recorder.buffers = []) (anomalies : d.own.anomalies = [])
      (realTime : d.own.policy.realTime = true) (clock : d.shared.clock.Gives t)
      (range : InRange d.own.policy t) : Timed d [] ⟨0, none⟩
  | record {d : Desk (Analysis α)} {es : List (Execution α)} {rolled : Moment} {e : Execution α}
      (before : Timed d es rolled) (present : e.executedAt = d.shared.clock.current) :
      Timed ((record e).on d).2 (if stores e d then es ++ [e] else es) rolled
  | hours {d : Desk (Analysis α)} {es : List (Execution α)} {rolled : Moment}
      (before : Timed d es rolled) :
      Timed ((aggregate .hour).on d).2 es (Interval.hour.startOf d.shared.clock.current)
  | days {d : Desk (Analysis α)} {es : List (Execution α)} {rolled : Moment}
      (before : Timed d es rolled) : Timed ((aggregate .day).on d).2 es rolled
  | moveTo {d : Desk (Analysis α)} {es : List (Execution α)} {rolled t : Moment}
      (before : Timed d es rolled) (forward : d.shared.clock.current.le? t = .ok true)
      (range : InRange d.own.policy t) : Timed (movedTo t d) es rolled

section

variable [IsStrictOrderedRing α]

/-- Every analysis that is reached is timely. -/
theorem Timed.timely {rolled : Moment} (timed : Timed d es rolled) :
    rolled.Naive ∧ ∃ now cutoff, Timely es now cutoff rolled.wall d := by
  induction timed with
  | start shelves buffers anomalies realTime clock range =>
    rename_i d t
    obtain ⟨cutoff, steady⟩ := steady_start shelves buffers anomalies realTime clock range
    refine ⟨rfl, t.wall, cutoff, {
      steady, reached := Nat.zero_le _, past := ?_, stocks := ?_, hours := ?_, covered := ?_ }⟩
    · exact fun _ mem => absurd mem List.not_mem_nil
    · intro id
      rw [shelf, shelves]
      exact stock_nil ..
    · intro id e _ has
      rw [shelf, shelves] at has
      cases has
    · exact fun _ _ mem => absurd mem List.not_mem_nil
  | record before present ih =>
    rename_i d es rolled e
    obtain ⟨naive, now, cutoff, timely⟩ := ih
    refine ⟨naive, now, cutoff, ?_⟩
    split
    · next stored =>
      rw [timely.steady.clock.current] at present
      obtain ⟨found, d', ran, timely'⟩ := timely.record_runs present stored
      rw [ran]
      exact timely'
    · next failed =>
      obtain ⟨f, d', ran, own, clock⟩ := record_of_not_stores (Bool.not_eq_true _ ▸ failed)
      rw [ran]
      refine timely.replace (timely.steady.same own clock) fun id => ?_
      rw [own]
  | hours before ih =>
    obtain ⟨-, now, cutoff, timely⟩ := ih
    obtain ⟨created, d', ran, timely', -⟩ := timely.hours_run
    rw [ran, timely.steady.clock.current]
    exact ⟨rfl, now, cutoff, timely'⟩
  | days before ih =>
    obtain ⟨naive, now, cutoff, timely⟩ := ih
    obtain ⟨created, d', ran, timely', -⟩ := timely.days_run
    rw [ran]
    exact ⟨naive, now, cutoff, timely'⟩
  | moveTo before forward range ih =>
    obtain ⟨naive, now, cutoff, timely⟩ := ih
    rw [timely.steady.clock.current, (Moment.naive_mk now).le?_iff range.naive] at forward
    obtain ⟨cutoff', timely'⟩ := timely.movedTo forward range
    exact ⟨naive, _, cutoff', timely'⟩

theorem Timed.policy_hours {rolled : Moment} (timed : Timed d es rolled) :
    ((aggregate .hour).on d).2.own.policy = d.own.policy := by
  obtain ⟨-, now, cutoff, timely⟩ := timed.timely
  obtain ⟨created, d', ran, -, policy⟩ := timely.hours_run
  rw [ran]
  exact policy

/-! ### Days of which hours are missing -/

/-- A pass over the days succeeds whatever passes were made before it, and adds snapshots of days
that have ended to those that are there, which stay as they are. Each that is added has the amounts
of the executions of its day that came before the hours were last rolled up, and thus counts all
executions of the day if and only if none came later. Every day that has ended and started after the
cutoff has a snapshot then if an execution of it came before. -/
theorem day_tells_of_rolled_hours {rolled : Moment} (timed : Timed d es rolled) :
    ∃ created d', (aggregate .day).on d = (.ok created, d') ∧
      (∀ id, (d'.own.shelf id).Distinct ∧ ∃ added, d'.own.shelf id = d.own.shelf id ++ added ∧
        ∀ entry ∈ added, entry.1.interval = .day ∧
          ∃ stop, Interval.day.endOf? entry.1.start = .ok stop ∧
            stop.le? d.shared.clock.current = .ok true ∧
            entry.2.Amounts ((executionsWithin id entry.1.start stop es).filter fun e =>
              Outcome.holds (e.executedAt.lt? rolled)) ∧
            (entry.2.metrics.count = (executionsWithin id entry.1.start stop es).length ↔
              ∀ e ∈ executionsWithin id entry.1.start stop es,
                e.executedAt.lt? rolled = .ok true)) ∧
      ∀ e ∈ es, ∀ stop since, Interval.day.endOf? (Interval.day.startOf e.executedAt) = .ok stop →
        stop.le? d.shared.clock.current = .ok true →
        d.shared.clock.current.daysBefore? d.own.policy.snapshotDays = .ok since →
        since.lt? (Interval.day.startOf e.executedAt) = .ok true →
        e.executedAt.lt? rolled = .ok true →
        (d'.own.shelf e.templateId).has (windowOf .day e) = true := by
  obtain ⟨naive, now, cutoff, timely⟩ := timed.timely
  obtain ⟨created, d', ran, timely', adds, follows⟩ := timely.days_run
  rw [timely.steady.clock.current]
  refine ⟨created, d', ran, fun id => ⟨(timely'.steady.keyed id).distinct, ?_⟩, ?_⟩
  · obtain ⟨added, shelf, tells⟩ := adds id
    refine ⟨added, shelf, fun entry mem => ⟨(tells entry mem).day, ?_⟩⟩
    exact (tells entry mem).of_end timely naive
  · intro e mem stop since ended elapsed known after before
    cases timely.steady.snapshots.symm.trans known
    exact timely.has_day naive mem (follows _) ended elapsed after before

end

/-! ### A run in which an hour is missing -/

/-- An execution in the last hour of a day. -/
def lateNight : Execution ℚ := execution "a" 300 (showing 6 23 30)

/-- A desk shortly before midnight, with an execution in the morning and one in this hour. -/
def beforeMidnight : Desk (Analysis ℚ) :=
  movedTo (showing 6 23 40)
    ((record lateNight).on (movedTo lateNight.executedAt ((record early).on opening).2)).2

/-- The desk shortly after midnight, where the hours were rolled up before it and not since. -/
def pastMidnight : Desk (Analysis ℚ) :=
  movedTo (showing 7 0 1) ((aggregate .hour).on beforeMidnight).2

theorem timed_beforeMidnight : Timed beforeMidnight [early, lateNight] ⟨0, none⟩ := by
  have morning : Timed opening [] ⟨0, none⟩ := .start (t := early.executedAt) rfl rfl rfl rfl
    (Script.gives_always _) (inRange_blank rfl (by decide +kernel) (by decide +kernel))
  have first : Timed _ [early] _ := .record (e := early) morning rfl
  have night : Timed _ [early] _ := first.moveTo (t := lateNight.executedAt) (by decide +kernel)
    (inRange_blank rfl (by decide +kernel) (by decide +kernel))
  have second : Timed _ [early, lateNight] _ := .record (e := lateNight) night rfl
  exact second.moveTo (t := showing 6 23 40) (by decide +kernel)
    (inRange_blank rfl (by decide +kernel) (by decide +kernel))

theorem timed_pastMidnight : Timed pastMidnight [early, lateNight] (showing 6 23 0) := by
  have hours : Timed _ [early, lateNight] (showing 6 23 0) := timed_beforeMidnight.hours
  have range : InRange beforeMidnight.own.policy (showing 7 0 1) :=
    inRange_blank rfl (by decide +kernel) (by decide +kernel)
  rw [← timed_beforeMidnight.policy_hours] at range
  exact hours.moveTo (by decide +kernel) range

theorem day_tells_of_rolled_hours_pastMidnight :
    ∃ created d', (aggregate .day).on pastMidnight = (.ok created, d') ∧
      (∀ id, (d'.own.shelf id).Distinct ∧
        ∃ added, d'.own.shelf id = pastMidnight.own.shelf id ++ added ∧
          ∀ entry ∈ added, entry.1.interval = .day ∧
            ∃ stop, Interval.day.endOf? entry.1.start = .ok stop ∧
              stop.le? pastMidnight.shared.clock.current = .ok true ∧
              entry.2.Amounts ((executionsWithin id entry.1.start stop
                [early, lateNight]).filter fun e =>
                  Outcome.holds (e.executedAt.lt? (showing 6 23 0))) ∧
              (entry.2.metrics.count =
                  (executionsWithin id entry.1.start stop [early, lateNight]).length ↔
                ∀ e ∈ executionsWithin id entry.1.start stop [early, lateNight],
                  e.executedAt.lt? (showing 6 23 0) = .ok true)) ∧
      ∀ e ∈ [early, lateNight], ∀ stop since,
        Interval.day.endOf? (Interval.day.startOf e.executedAt) = .ok stop →
        stop.le? pastMidnight.shared.clock.current = .ok true →
        pastMidnight.shared.clock.current.daysBefore?
          pastMidnight.own.policy.snapshotDays = .ok since →
        since.lt? (Interval.day.startOf e.executedAt) = .ok true →
        e.executedAt.lt? (showing 6 23 0) = .ok true →
        (d'.own.shelf e.templateId).has (windowOf .day e) = true :=
  day_tells_of_rolled_hours timed_pastMidnight

end Analysis

end Promptuary
