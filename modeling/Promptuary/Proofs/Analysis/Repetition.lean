import Promptuary.Proofs.Analysis.Aggregation
import Promptuary.Proofs.Repetition
import Promptuary.Proofs.Snapshot.Counts

/-!
Passes that are made again. A pass adds snapshots of windows that had none and changes nothing else.
What it does depends on the snapshots of the finer interval only, which it leaves alone, and so do
the passes over coarser intervals that follow it: made again at the same time, each finds all its
windows done.
-/

namespace Promptuary

open Calendar (CalendarError Interval Moment)
open Operation

namespace Analysis

variable {α : Type} {d d' d₁ d₂ : Desk (Analysis α)} {id : String} {i j : Interval}
  {among : Interval → Prop} {shelf : Shelf α}

/-! ### Shelves that are added to -/

/-- A snapshot of a template that joins a shelf: one of an interval among some, under the start of
a window that had none. -/
structure Joins (among : Interval → Prop) (id : String) (shelf : Shelf α)
    (entry : WindowKey × Snapshot α) : Prop where
  among : among entry.1.interval
  aligned : entry.1.interval.startOf entry.1.start = entry.1.start
  absent : shelf.has entry.1 = false
  template : entry.2.templateId = id
  interval : entry.2.interval = entry.1.interval
  start : entry.2.start = entry.1.start

/-- One desk after another at which the shelves of the templates have snapshots more, at the end of
those that are there, and at which nothing else has changed but that the new snapshots may have been
announced and time has passed. -/
structure Enlarges (among : Interval → Prop) (d d' : Desk (Analysis α)) : Prop where
  policy : d'.own.policy = d.own.policy
  recorder : d'.own.recorder = d.own.recorder
  anomalies : d'.own.anomalies = d.own.anomalies
  custom : d'.own.custom = d.own.custom
  repository : d'.shared.repository = d.shared.repository
  clock : d'.shared.clock.readings <:+ d.shared.clock.readings
  templates : d'.own.shelves.keys = d.own.shelves.keys
  shelves : ∀ id, ∃ added, d'.own.shelf id = d.own.shelf id ++ added ∧ added.Distinct ∧
    ∀ entry ∈ added, Joins among id (d.own.shelf id) entry

theorem Enlarges.refl (among : Interval → Prop) (d : Desk (Analysis α)) : Enlarges among d d where
  policy := rfl
  recorder := rfl
  anomalies := rfl
  custom := rfl
  repository := rfl
  clock := List.suffix_refl _
  templates := rfl
  shelves _ := ⟨[], (List.append_nil _).symm, Entries.distinct_nil,
    fun _ mem => absurd mem List.not_mem_nil⟩

theorem Enlarges.trans (first : Enlarges among d d₁) (second : Enlarges among d₁ d₂) :
    Enlarges among d d₂ where
  policy := second.policy.trans first.policy
  recorder := second.recorder.trans first.recorder
  anomalies := second.anomalies.trans first.anomalies
  custom := second.custom.trans first.custom
  repository := second.repository.trans first.repository
  clock := second.clock.trans first.clock
  templates := second.templates.trans first.templates
  shelves id := by
    obtain ⟨added, shelf, distinct, joins⟩ := first.shelves id
    obtain ⟨added', shelf', distinct', joins'⟩ := second.shelves id
    rw [shelf] at shelf' joins'
    have absent : ∀ entry ∈ added', (d.own.shelf id).has entry.1 = false ∧
        added.has entry.1 = false := by
      intro entry mem
      have absent := (joins' entry mem).absent
      rw [Entries.has_append] at absent
      exact Bool.or_eq_false_iff.1 absent
    refine ⟨added ++ added', by rw [shelf', List.append_assoc], ?_, ?_⟩
    · exact distinct.append distinct' fun entry mem => (absent entry mem).2
    · intro entry mem
      rcases List.mem_append.1 mem with old | new
      · exact joins entry old
      · exact { joins' entry new with absent := (absent entry new).1 }

theorem Enlarges.mono {among' : Interval → Prop} (enlarges : Enlarges among d d')
    (le : ∀ i, among i → among' i) : Enlarges among' d d' where
  policy := enlarges.policy
  recorder := enlarges.recorder
  anomalies := enlarges.anomalies
  custom := enlarges.custom
  repository := enlarges.repository
  clock := enlarges.clock
  templates := enlarges.templates
  shelves id := by
    obtain ⟨added, shelf, distinct, joins⟩ := enlarges.shelves id
    exact ⟨added, shelf, distinct, fun entry mem =>
      { joins entry mem with among := le _ (joins entry mem).among }⟩

theorem Enlarges.ticked (enlarges : Enlarges among d d') : Enlarges among d d'.ticked :=
  { enlarges with clock := d'.shared.clock.rest_suffix.trans enlarges.clock }

theorem Enlarges.has (enlarges : Enlarges among d d') {key : WindowKey}
    (has : (d.own.shelf id).has key = true) : (d'.own.shelf id).has key = true := by
  obtain ⟨added, shelf, -⟩ := enlarges.shelves id
  rw [shelf, Entries.has_append, has, Bool.true_or]

theorem Enlarges.distinct (enlarges : Enlarges among d d') (distinct : (d.own.shelf id).Distinct) :
    (d'.own.shelf id).Distinct := by
  obtain ⟨added, shelf, apart, joins⟩ := enlarges.shelves id
  rw [shelf]
  exact distinct.append apart fun entry mem => (joins entry mem).absent

theorem Enlarges.get?_of_has (enlarges : Enlarges among d d') {key : WindowKey}
    (has : (d.own.shelf id).has key = true) :
    (d'.own.shelf id).get? key = (d.own.shelf id).get? key := by
  obtain ⟨added, shelf, -⟩ := enlarges.shelves id
  rw [Entries.has_eq_isSome] at has
  rw [shelf, Entries.get?_append, Option.or_of_isSome has]

/-- A snapshot is one of those that were there, or one that has joined them. -/
theorem Enlarges.mem_or_joins (enlarges : Enlarges among d d') {entry : WindowKey × Snapshot α}
    (mem : entry ∈ d'.own.shelf id) :
    entry ∈ d.own.shelf id ∨ Joins among id (d.own.shelf id) entry := by
  obtain ⟨added, shelf, -, joins⟩ := enlarges.shelves id
  rw [shelf] at mem
  exact (List.mem_append.1 mem).imp_right (joins entry)

theorem Enlarges.clock_always {t : Moment} (enlarges : Enlarges among d d')
    (clock : d.shared.clock = .always t) :
    d'.shared.clock = .always t := by
  have later := enlarges.clock
  rw [clock] at later
  exact Script.eq_always later

/-- The snapshots of an interval on a shelf, with their keys. -/
def ofKind (j : Interval) (shelf : Shelf α) : Shelf α := shelf.filter (·.1.interval = j)

theorem ofKind_append (j : Interval) (shelf added : Shelf α) :
    ofKind j (shelf ++ added) = ofKind j shelf ++ ofKind j added := List.filter_append ..

theorem keys_ofKind (j : Interval) (shelf : Shelf α) :
    (ofKind j shelf).keys = shelf.keys.filter (·.interval = j) := by
  rw [Entries.keys, Entries.keys, List.filter_map]
  rfl

/-- The snapshots of other intervals stay the same. -/
theorem Enlarges.ofKind_eq (enlarges : Enlarges among d d') (spared : ¬ among j) (id : String) :
    ofKind j (d'.own.shelf id) = ofKind j (d.own.shelf id) := by
  obtain ⟨added, shelf, -, joins⟩ := enlarges.shelves id
  have none : ofKind j added = [] := by
    refine List.filter_eq_nil_iff.2 fun entry mem same => ?_
    have kind : entry.1.interval = j := of_decide_eq_true same
    exact spared (kind ▸ (joins entry mem).among)
  rw [shelf, ofKind_append, none, List.append_nil]

/-! ### What a pass depends on -/

/-- The windows of a template that a pass goes through. -/
def windowsOf? (i j : Interval) (current cutoff : Moment) (windowStart : Option Moment)
    (shelf : Shelf α) : Except Failure (List Moment) :=
  match windowStart with
  | some t => .ok [i.startOf t]
  | none => (completedWindows i j current cutoff shelf).mapError .calendar

theorem windowsOf?_congr {shelf shelf' : Shelf α} (same : ofKind j shelf' = ofKind j shelf)
    (current cutoff : Moment) (windowStart : Option Moment) :
    windowsOf? i j current cutoff windowStart shelf' =
      windowsOf? i j current cutoff windowStart shelf := by
  cases windowStart with
  | some => rfl
  | none =>
    unfold windowsOf? completedWindows
    dsimp only
    rw [← keys_ofKind, ← keys_ofKind, same]

theorem sourcesIn_congr {shelf shelf' : Shelf α} (same : ofKind j shelf' = ofKind j shelf)
    (start stop : Moment) : sourcesIn j start stop shelf' = sourcesIn j start stop shelf := by
  change ((ofKind j shelf').filterM _ >>= _) = ((ofKind j shelf).filterM _ >>= _)
  rw [same]

/-- The windows that a pass goes through start as windows of its interval do. -/
theorem aligned_of_windowsOf? {current cutoff : Moment} {windowStart : Option Moment}
    {windows : List Moment}
    (known : windowsOf? i j current cutoff windowStart shelf = .ok windows) :
    ∀ start ∈ windows, i.startOf start = start := by
  have aligned (t : Moment) : i.startOf (i.startOf t) = i.startOf t := by
    simp only [Interval.startOf, Interval.floor_floor]
  intro start mem
  cases windowStart with
  | some t =>
    cases known
    rw [List.mem_singleton.1 mem, aligned]
  | none =>
    obtain ⟨completed, -, rest⟩ := Outcome.exists_of_bind_eq_ok (mapError_eq_ok known)
    obtain ⟨ordered, sorted, recent⟩ := Outcome.exists_of_bind_eq_ok rest
    rw [(Outcome.filterM_spec recent).2] at mem
    have among := (Moment.perm_of_sortOn? sorted).mem_iff.1 (List.mem_filter.1 mem).1
    obtain ⟨key, window, rfl⟩ := List.mem_map.1 among
    obtain ⟨t, -, rfl⟩ := List.mem_map.1 (Distinct.mem_of_mem_eraseDups _ window)
    exact aligned t

variable [Scalar α]

/-- The snapshot that a window is rolled up into, with the number of those that it is rolled up
from, unless there is none. -/
def rolled (id : String) (i j : Interval) (start : Moment) (a : Analysis α) :
    Except Failure (Option (Snapshot α × Nat)) := do
  let stop ← (i.endOf? start).mapError .calendar
  let sources ← (sourcesIn j start stop (a.shelf id)).mapError .calendar
  if sources.isEmpty then return none
  let known ← ((a.recorder.executions id).filterM fun e =>
    start.isIn? stop e.executedAt).mapError .calendar
  let snapshot ←
    (Snapshot.rollUp id i start sources (known.map (·.responseTime))).mapError .number
  return some (snapshot, sources.length)

theorem rolled_congr (enlarges : Enlarges among d d') (spared : ¬ among j) (id : String)
    (i : Interval) (start : Moment) : rolled id i j start d'.own = rolled id i j start d.own := by
  unfold rolled
  simp only [sourcesIn_congr (enlarges.ofKind_eq spared id), enlarges.recorder]

/-! ### Windows -/

/-- Whether there is nothing left to do for a window of a template. -/
def Done (id : String) (i j : Interval) (start : Moment) (d : Desk (Analysis α)) : Prop :=
  (d.own.shelf id).has ⟨i, start⟩ = true ∨ rolled id i j start d.own = .ok none

theorem Done.later {start : Moment} (done : Done id i j start d) (enlarges : Enlarges among d d')
    (spared : ¬ among j) : Done id i j start d' := by
  rcases done with has | nothing
  · exact .inl (enlarges.has has)
  · refine .inr ?_
    rw [rolled_congr enlarges spared]
    exact nothing

theorem on_aggregateWindow (id : String) (i j : Interval) (start : Moment)
    (d : Desk (Analysis α)) : (aggregateWindow id i j start).on d =
      if (d.own.shelf id).has ⟨i, start⟩ then (.ok none, d)
      else match rolled id i j start d.own with
        | .error e => (.error e, d)
        | .ok none => (.ok none, d)
        | .ok (some (s, count)) =>
          (.ok (some s), ((announce (.snapshotAggregated id i start count)).on
            { d with own := putShelf id ((d.own.shelf id).put ⟨i, start⟩ s) d.own }).2) := by
  unfold aggregateWindow rolled
  rw [on_bind_ok (on_own _)]
  dsimp only
  split
  · rfl
  cases (i.endOf? start).mapError Failure.calendar with
  | error e => rfl
  | ok stop =>
    rw [on_bind_ok (on_attempt ..), Outcome.ok_bind]
    cases (sourcesIn j start stop (d.own.shelf id)).mapError Failure.calendar with
    | error e => rfl
    | ok sources =>
      rw [on_bind_ok (on_attempt ..), Outcome.ok_bind]
      split
      · rfl
      cases ((d.own.recorder.executions id).filterM fun e =>
          start.isIn? stop e.executedAt).mapError Failure.calendar with
      | error e => rfl
      | ok known =>
        rw [on_bind_ok (on_attempt ..), Outcome.ok_bind]
        cases (Snapshot.rollUp id i start sources
            (known.map (·.responseTime))).mapError Failure.number with
        | error e => rfl
        | ok s =>
          rw [on_bind_ok (on_attempt ..), Outcome.ok_bind, on_bind_ok (on_change ..)]
          rfl

/-- The snapshots of an interval on a shelf that start in a span of time, with their keys. -/
def sourcesOf (j : Interval) (start stop : Moment) (shelf : Shelf α) : Shelf α :=
  (ofKind j shelf).filter fun entry => Outcome.holds (start.isIn? stop entry.1.start)

/-- Whether an execution lies in a span of time, if this can be told. -/
def liesWithin (start stop : Moment) (e : Execution α) : Bool :=
  Outcome.holds (start.isIn? stop e.executedAt)

/-- What a window that is rolled up is rolled up from. -/
theorem rolled_parts {start : Moment} {a : Analysis α} {s : Snapshot α} {count : Nat}
    (known : rolled id i j start a = .ok (some (s, count))) :
    ∃ stop, i.endOf? start = .ok stop ∧ sourcesOf j start stop (a.shelf id) ≠ [] ∧
      (∀ entry ∈ ofKind j (a.shelf id), start.isIn? stop entry.1.start =
        .ok (Outcome.holds (start.isIn? stop entry.1.start))) ∧
      Snapshot.rollUp id i start (sourcesOf j start stop (a.shelf id)).values
        (((a.recorder.executions id).filter (liesWithin start stop)).map (·.responseTime)) =
          .ok s := by
  obtain ⟨stop, ended, rest⟩ := Outcome.exists_of_bind_eq_ok known
  obtain ⟨sources, found, rest⟩ := Outcome.exists_of_bind_eq_ok rest
  split at rest
  · cases rest
  next some =>
  obtain ⟨times, held, rest⟩ := Outcome.exists_of_bind_eq_ok rest
  obtain ⟨snapshot, ok, done⟩ := Outcome.exists_of_bind_eq_ok rest
  cases done
  obtain ⟨chosen, asked, done⟩ := Outcome.exists_of_bind_eq_ok (mapError_eq_ok found)
  cases done
  obtain ⟨answers, rfl⟩ := Outcome.filterM_spec asked
  obtain ⟨-, rfl⟩ := Outcome.filterM_spec (mapError_eq_ok held)
  refine ⟨stop, mapError_eq_ok ended, fun none => some ?_, answers, mapError_eq_ok ok⟩
  exact List.isEmpty_iff.2 (congrArg (List.map Prod.snd) none)

/-- A window that is rolled up is rolled up from snapshots on the shelf, at least one. -/
theorem rolled_sources {start : Moment} {a : Analysis α} {s : Snapshot α} {count : Nat}
    (known : rolled id i j start a = .ok (some (s, count))) :
    ∃ sources times, sources ≠ [] ∧ (∀ source ∈ sources, source ∈ (a.shelf id).values) ∧
      Snapshot.rollUp id i start sources times = .ok s := by
  obtain ⟨stop, -, some, -, ok⟩ := rolled_parts known
  refine ⟨_, _, fun none => some (List.map_eq_nil_iff.1 none), fun source mem => ?_, ok⟩
  obtain ⟨entry, among, rfl⟩ := List.mem_map.1 mem
  exact List.mem_map_of_mem (List.mem_of_mem_filter (List.mem_of_mem_filter among))

/-- A window that is rolled up has snapshots to be rolled up, and gives one of its own. -/
theorem rolled_spec {start : Moment} {a : Analysis α} {s : Snapshot α} {count : Nat}
    (known : rolled id i j start a = .ok (some (s, count))) :
    s.templateId = id ∧ s.interval = i ∧ s.start = start ∧ a.shelf id ≠ [] := by
  obtain ⟨sources, times, some, among, ok⟩ := rolled_sources known
  obtain ⟨template, interval, start, -⟩ := Snapshot.merged_of_rollUp ok
  refine ⟨template, interval, start, fun empty => ?_⟩
  obtain ⟨source, mem⟩ := List.exists_mem_of_ne_nil sources some
  have here := among source mem
  rw [empty] at here
  exact absurd here List.not_mem_nil

/-- How rolling up a window can end. -/
theorem aggregateWindow_cases (id : String) (i j : Interval) (start : Moment)
    (d : Desk (Analysis α)) :
    (Done id i j start d ∧ (aggregateWindow id i j start).on d = (.ok none, d)) ∨
      (∃ e, rolled id i j start d.own = .error e ∧
        (aggregateWindow id i j start).on d = (.error e, d)) ∨
      ∃ s count d', (d.own.shelf id).has ⟨i, start⟩ = false ∧
        rolled id i j start d.own = .ok (some (s, count)) ∧
        (aggregateWindow id i j start).on d = (.ok (some s), d') ∧
        d.Leads d' (d.own.putShelf id ((d.own.shelf id).put ⟨i, start⟩ s))
          d.shared.repository [.snapshotAggregated id i start count] := by
  rw [on_aggregateWindow]
  split
  · next has => exact .inl ⟨.inl has, rfl⟩
  next absent =>
  cases known : rolled id i j start d.own with
  | error e => exact .inr (.inl ⟨e, rfl, rfl⟩)
  | ok r =>
    cases r with
    | none => exact .inl ⟨.inr known, rfl⟩
    | some made =>
      obtain ⟨s, count⟩ := made
      obtain ⟨d', announced, leads⟩ := announce_leads (.snapshotAggregated id i start count)
        { d with own := d.own.putShelf id ((d.own.shelf id).put ⟨i, start⟩ s) }
      refine .inr (.inr ⟨s, count, d', Bool.not_eq_true _ ▸ absent, rfl, ?_, ?_⟩)
      · dsimp only
        rw [announced]
      · exact ⟨leads.own, leads.repository, leads.notices, leads.issued, leads.clock⟩

theorem aggregateWindow_enlarges (id : String) (j : Interval) {start : Moment}
    (aligned : i.startOf start = start) (d : Desk (Analysis α)) :
    Enlarges (· = i) d ((aggregateWindow id i j start).on d).2 := by
  rcases aggregateWindow_cases id i j start d with
    ⟨-, ran⟩ | ⟨e, -, ran⟩ | ⟨s, count, d', absent, known, ran, leads⟩
  · rw [ran]
    exact .refl ..
  · rw [ran]
    exact .refl ..
  rw [ran]
  obtain ⟨template, interval, start_eq, filled⟩ := rolled_spec known
  have listed : id ∈ d.own.shelves.keys := by
    rw [← Entries.get?_isSome_iff]
    cases found : d.own.shelves.get? id with
    | some => rfl
    | none =>
      rw [Analysis.shelf, found] at filled
      exact absurd rfl filled
  constructor
  · rw [leads.own]
    rfl
  · rw [leads.own]
    rfl
  · rw [leads.own]
    rfl
  · rw [leads.own]
    rfl
  · exact leads.repository
  · exact leads.clock
  · rw [leads.own]
    exact (Entries.keys_put ..).trans (if_pos listed)
  · intro other
    rw [leads.own, shelf_putShelf]
    split
    · next same =>
      subst same
      refine ⟨[(⟨i, start⟩, s)], Entries.put_of_not_has absent, List.pairwise_singleton .., ?_⟩
      intro entry mem
      rw [List.mem_singleton.1 mem]
      exact ⟨rfl, aligned, absent, template, interval, start_eq⟩
    · exact (Enlarges.refl (· = i) d).shelves other

/-- Rolling up a window that succeeds leaves nothing to do for it. -/
theorem done_of_aggregateWindow {start : Moment} {r : Option (Snapshot α)}
    (ok : (aggregateWindow id i j start).on d = (.ok r, d')) : Done id i j start d' := by
  rcases aggregateWindow_cases id i j start d with
    ⟨done, ran⟩ | ⟨e, -, ran⟩ | ⟨s, count, d₁, -, -, ran, leads⟩
  · rw [ran] at ok
    cases ok
    exact done
  · rw [ran] at ok
    cases ok
  · rw [ran] at ok
    cases ok
    left
    rw [leads.own, shelf_putShelf, if_pos rfl, Entries.has_put, BEq.rfl, Bool.true_or]

theorem Done.on {start : Moment} (done : Done id i j start d) :
    (aggregateWindow id i j start).on d = (.ok none, d) := by
  rw [on_aggregateWindow]
  rcases done with has | nothing
  · rw [if_pos has]
  · rw [nothing]
    split
    · rfl
    · rfl

/-- The windows of a template are rolled up once and for all. -/
theorem resting_windows (id : String) {windows : List Moment} (apart : i ≠ j)
    (aligned : ∀ start ∈ windows, i.startOf start = start) :
    Resting (fun _ => True) (Done id i j) (aggregateWindow (α := α) id i j) none windows where
  keeps _ _ _ _ := trivial
  rests _ _ _ _ done := done.on
  settles _ _ _ _ _ _ ok := done_of_aggregateWindow ok
  fails start _ d e d' _ failed := by
    rcases aggregateWindow_cases id i j start d with
      ⟨-, ran⟩ | ⟨e', -, ran⟩ | ⟨s, count, d₁, -, -, ran, -⟩
    · rw [ran] at failed
      cases failed
    · rw [ran] at failed
      cases failed
      exact ran
    · rw [ran] at failed
      cases failed
  stays := by
    refine List.pairwise_of_forall_mem_list fun start _ other mem d _ done => ?_
    exact done.later (aggregateWindow_enlarges id j (aligned other mem) d) apart.symm

/-! ### Templates -/

section

variable {current cutoff : Moment} {windowStart : Option Moment}

theorem on_aggregateTemplate (i j : Interval) (current cutoff : Moment)
    (windowStart : Option Moment) (id : String) (d : Desk (Analysis α)) :
    (aggregateTemplate i j current cutoff windowStart id).on d =
      match windowsOf? i j current cutoff windowStart (d.own.shelf id) with
      | .error e => (.error e, d)
      | .ok windows => (windows.filterMapM (aggregateWindow id i j)).on d := by
  unfold aggregateTemplate
  rw [on_bind_ok (on_own _)]
  cases windowStart with
  | some t => rfl
  | none =>
    dsimp only
    rw [on_attempt_bind, windowsOf?]
    cases (completedWindows i j current cutoff (d.own.shelf id)).mapError Failure.calendar with
    | error e => rfl
    | ok windows => rfl

/-- What rolling up each of its windows preserves, whether or not it succeeds, a pass over a template
preserves. -/
theorem aggregateTemplate_preserves {P : Desk (Analysis α) → Prop}
    (windows : ∀ start d, i.startOf start = start → P d → P ((aggregateWindow id i j start).on d).2)
    (current cutoff : Moment) (windowStart : Option Moment) (holds : P d) :
    P ((aggregateTemplate i j current cutoff windowStart id).on d).2 := by
  rw [on_aggregateTemplate]
  cases known : windowsOf? i j current cutoff windowStart (d.own.shelf id) with
  | error e => exact holds
  | ok starts =>
    dsimp only
    rw [filterMapM_eq_mapM, on_bind_pure]
    refine mapM_preserves (fun start mem d₁ holds₁ => ?_) holds
    exact windows start d₁ (aligned_of_windowsOf? known start mem) holds₁

theorem aggregateTemplate_enlarges (i j : Interval) (current cutoff : Moment)
    (windowStart : Option Moment) (id : String) (d : Desk (Analysis α)) :
    Enlarges (· = i) d ((aggregateTemplate i j current cutoff windowStart id).on d).2 := by
  refine aggregateTemplate_preserves (fun start d₁ aligned before => ?_) _ _ _ (.refl _ d)
  exact before.trans (aggregateWindow_enlarges id j aligned d₁)

/-- Whether there is nothing left to do for a template. -/
def AllDone (i j : Interval) (current cutoff : Moment) (windowStart : Option Moment) (id : String)
    (d : Desk (Analysis α)) : Prop :=
  ∃ windows, windowsOf? i j current cutoff windowStart (d.own.shelf id) = .ok windows ∧
    ∀ start ∈ windows, Done id i j start d

theorem AllDone.later (done : AllDone i j current cutoff windowStart id d)
    (enlarges : Enlarges among d d') (spared : ¬ among j) :
    AllDone i j current cutoff windowStart id d' := by
  obtain ⟨windows, known, all⟩ := done
  refine ⟨windows, ?_, fun start mem => (all start mem).later enlarges spared⟩
  rw [windowsOf?_congr (enlarges.ofKind_eq spared id)]
  exact known

theorem AllDone.on (apart : i ≠ j) (done : AllDone i j current cutoff windowStart id d) :
    (aggregateTemplate i j current cutoff windowStart id).on d = (.ok [], d) := by
  obtain ⟨windows, known, all⟩ := done
  have resting := resting_windows (α := α) id apart (aligned_of_windowsOf? known)
  rw [on_aggregateTemplate, known]
  dsimp only
  exact resting.filterMapM_idles trivial all

/-- Rolling up the windows of a template that succeeds leaves nothing to do for it. -/
theorem allDone_of_aggregateTemplate (apart : i ≠ j) {r : List (Snapshot α)}
    (ok : (aggregateTemplate i j current cutoff windowStart id).on d = (.ok r, d')) :
    AllDone i j current cutoff windowStart id d' := by
  have enlarges := aggregateTemplate_enlarges i j current cutoff windowStart id d
  rw [ok] at enlarges
  rw [on_aggregateTemplate] at ok
  cases known : windowsOf? i j current cutoff windowStart (d.own.shelf id) with
  | error e =>
    rw [known] at ok
    cases ok
  | ok windows =>
    rw [known] at ok
    dsimp only at ok
    rw [filterMapM_eq_mapM] at ok
    rcases on_bind_cases ok with ⟨e, -, failed⟩ | ⟨rs, d₁, ran, done⟩
    · cases failed
    cases done
    have resting := resting_windows (α := α) id apart (aligned_of_windowsOf? known)
    refine ⟨windows, ?_, resting.settled trivial ran⟩
    rw [windowsOf?_congr (enlarges.ofKind_eq apart.symm id)]
    exact known

theorem aggregateTemplate_fails_again (apart : i ≠ j) {e : Failure}
    (failed : (aggregateTemplate i j current cutoff windowStart id).on d = (.error e, d')) :
    (aggregateTemplate i j current cutoff windowStart id).on d' = (.error e, d') := by
  have enlarges := aggregateTemplate_enlarges i j current cutoff windowStart id d
  rw [failed] at enlarges
  rw [on_aggregateTemplate] at failed ⊢
  rw [windowsOf?_congr (enlarges.ofKind_eq apart.symm id)]
  cases known : windowsOf? i j current cutoff windowStart (d.own.shelf id) with
  | error e' =>
    rw [known] at failed
    cases failed
    rfl
  | ok windows =>
    rw [known] at failed
    have resting := resting_windows (α := α) id apart (aligned_of_windowsOf? known)
    dsimp only at failed ⊢
    rw [filterMapM_eq_mapM] at failed ⊢
    exact ((resting.repeats trivial).map _).failed failed

/-- The templates are gone through once and for all. -/
theorem resting_templates (apart : i ≠ j) (current cutoff : Moment) (windowStart : Option Moment)
    (ids : List String) :
    Resting (fun _ => True) (AllDone i j current cutoff windowStart)
      (aggregateTemplate (α := α) i j current cutoff windowStart) [] ids where
  keeps _ _ _ _ := trivial
  rests _ _ _ _ done := done.on apart
  settles _ _ _ _ _ _ ok := allDone_of_aggregateTemplate apart ok
  fails _ _ _ _ _ _ failed := aggregateTemplate_fails_again apart failed
  stays := by
    refine List.pairwise_of_forall fun id other d _ done => ?_
    exact done.later (aggregateTemplate_enlarges ..) apart.symm

end

/-! ### Passes -/

section

variable {t : Moment} {windowStart : Option Moment}

theorem on_aggregate (i : Interval) (t : Moment) (windowStart : Option Moment)
    (d : Desk (Analysis α)) : (aggregate i (some t) windowStart).on d =
      match i.source? with
      | none => (.error .minuteRollup, d)
      | some j =>
        match t.daysBefore? d.own.policy.snapshotDays with
        | .error e => (.error (.calendar e), d)
        | .ok cutoff => (d.own.shelves.keys.mapM
            (aggregateTemplate i j (i.startOf t) cutoff windowStart) >>= fun created =>
              pure created.flatten).on d := by
  unfold aggregate
  cases i.source? with
  | none => rfl
  | some j =>
    dsimp only
    rw [pure_bind, on_bind_ok (on_own _), on_attempt_bind]
    cases t.daysBefore? d.own.policy.snapshotDays with
    | error e => rfl
    | ok cutoff => rfl

/-- A pass at the time that the clock shows. -/
theorem on_aggregate_now (source : i.source? = some j) (windowStart : Option Moment)
    (d : Desk (Analysis α)) : (aggregate i none windowStart).on d =
      (aggregate i (some d.shared.clock.current) windowStart).on d.ticked := by
  unfold aggregate
  rw [source]
  dsimp only
  rw [on_bind_ok (on_now _), pure_bind]

/-- A pass at the time that a standing clock shows. -/
theorem on_aggregate_always (i : Interval) (windowStart : Option Moment)
    (clock : d.shared.clock = .always t) :
    (aggregate i none windowStart).on d = (aggregate i (some t) windowStart).on d := by
  have standing : d.ticked = d := by
    obtain ⟨own, shared⟩ := d
    obtain ⟨repository, _, announced, issued, waits⟩ := shared
    cases clock
    rfl
  cases source : i.source? with
  | none =>
    unfold aggregate
    rw [source]
  | some j =>
    rw [on_aggregate_now source, standing, clock]
    rfl

/-- What the passage of time preserves and rolling up each window does, whether or not it succeeds, a
pass preserves. -/
theorem aggregate_preserves {P : Desk (Analysis α) → Prop} (ticks : ∀ d, P d → P d.ticked)
    (windows : ∀ id j start d, i.source? = some j → i.startOf start = start → P d →
      P ((aggregateWindow id i j start).on d).2)
    (time windowStart : Option Moment) (holds : P d) :
    P ((aggregate i time windowStart).on d).2 := by
  have at_time (t : Moment) (d : Desk (Analysis α)) (holds : P d) :
      P ((aggregate i (some t) windowStart).on d).2 := by
    rw [on_aggregate]
    cases source : i.source? with
    | none => exact holds
    | some j =>
      dsimp only
      cases t.daysBefore? d.own.policy.snapshotDays with
      | error e => exact holds
      | ok cutoff =>
        dsimp only
        rw [on_bind_pure]
        refine mapM_preserves (fun id _ d₁ holds₁ => ?_) holds
        exact aggregateTemplate_preserves (fun start d₂ => windows id j start d₂ source) _ _ _ holds₁
  cases time with
  | some t => exact at_time t d holds
  | none =>
    cases source : i.source? with
    | none =>
      unfold aggregate
      rw [source]
      exact holds
    | some j =>
      rw [on_aggregate_now source]
      exact at_time _ d.ticked (ticks d holds)

theorem aggregate_enlarges (i : Interval) (t : Moment) (windowStart : Option Moment)
    (d : Desk (Analysis α)) :
    Enlarges (· = i) d ((aggregate i (some t) windowStart).on d).2 := by
  refine aggregate_preserves (fun d₁ before => before.ticked) ?_ _ _ (.refl _ d)
  exact fun id j start d₁ _ aligned before => before.trans (aggregateWindow_enlarges id j aligned d₁)

/-- Whether there is nothing left to do for a pass at a time. -/
def Over (t : Moment) (windowStart : Option Moment) (i : Interval) (d : Desk (Analysis α)) : Prop :=
  ∃ j cutoff, i.source? = some j ∧ t.daysBefore? d.own.policy.snapshotDays = .ok cutoff ∧
    ∀ id ∈ d.own.shelves.keys, AllDone i j (i.startOf t) cutoff windowStart id d

theorem ne_source (source : i.source? = some j) : i ≠ j := by
  rintro rfl
  cases i <;> cases source

theorem exists_source (coarse : i ≠ .minute) : ∃ j, i.source? = some j := by
  cases i with
  | minute => exact absurd rfl coarse
  | _ => exact ⟨_, rfl⟩

theorem Over.on (finished : Over t windowStart i d) :
    (aggregate i (some t) windowStart).on d = (.ok [], d) := by
  obtain ⟨j, cutoff, source, since, all⟩ := finished
  have resting := resting_templates (α := α) (ne_source source) (i.startOf t) cutoff
    windowStart d.own.shelves.keys
  rw [on_aggregate, source]
  dsimp only
  rw [since]
  dsimp only
  rw [on_bind_pure, resting.idles trivial all]
  simp [Except.map]

/-- A pass that succeeds leaves nothing to do for it. -/
theorem over_of_aggregate {r : List (Snapshot α)}
    (ok : (aggregate i (some t) windowStart).on d = (.ok r, d')) : Over t windowStart i d' := by
  have enlarges := aggregate_enlarges i t windowStart d
  rw [ok] at enlarges
  rw [on_aggregate] at ok
  cases source : i.source? with
  | none =>
    rw [source] at ok
    cases ok
  | some j =>
    rw [source] at ok
    dsimp only at ok
    cases since : t.daysBefore? d.own.policy.snapshotDays with
    | error e =>
      rw [since] at ok
      cases ok
    | ok cutoff =>
      rw [since] at ok
      dsimp only at ok
      have resting := resting_templates (α := α) (ne_source source) (i.startOf t) cutoff
        windowStart d.own.shelves.keys
      rcases on_bind_cases ok with ⟨e, -, failed⟩ | ⟨created, d₁, ran, done⟩
      · cases failed
      cases done
      refine ⟨j, cutoff, source, ?_, ?_⟩
      · rw [enlarges.policy]
        exact since
      · rw [enlarges.templates]
        exact resting.settled trivial ran

theorem aggregate_fails_again {e : Failure}
    (failed : (aggregate i (some t) windowStart).on d = (.error e, d')) :
    (aggregate i (some t) windowStart).on d' = (.error e, d') := by
  have enlarges := aggregate_enlarges i t windowStart d
  rw [failed] at enlarges
  rw [on_aggregate] at failed ⊢
  rw [enlarges.policy, enlarges.templates]
  cases source : i.source? with
  | none =>
    rw [source] at failed
    cases failed
    rfl
  | some j =>
    rw [source] at failed
    dsimp only at failed ⊢
    cases since : t.daysBefore? d.own.policy.snapshotDays with
    | error e' =>
      rw [since] at failed
      cases failed
      rfl
    | ok cutoff =>
      rw [since] at failed
      dsimp only at failed ⊢
      have resting := resting_templates (α := α) (ne_source source) (i.startOf t) cutoff
        windowStart d.own.shelves.keys
      exact ((resting.repeats trivial).map _).failed failed

/-- A pass made again at the same time changes nothing. -/
theorem aggregate_repeats (i : Interval) (t : Moment) (windowStart : Option Moment)
    (d : Desk (Analysis α)) : (aggregate i (some t) windowStart).Repeats [] d :=
  repeats_of_cases (fun _ _ ok => (over_of_aggregate ok).on)
    fun _ _ failed => aggregate_fails_again failed

theorem Over.later (finished : Over t windowStart i d) (enlarges : Enlarges among d d')
    (spared : ∀ j, i.source? = some j → ¬ among j) : Over t windowStart i d' := by
  obtain ⟨j, cutoff, source, since, all⟩ := finished
  refine ⟨j, cutoff, source, ?_, ?_⟩
  · rw [enlarges.policy]
    exact since
  · rw [enlarges.templates]
    exact fun id mem => (all id mem).later enlarges (spared j source)

/-! ### All passes -/

theorem nominalSeconds_source (source : i.source? = some j) :
    j.nominalSeconds < i.nominalSeconds := by
  cases i <;> cases source <;> decide

/-- Passes over ever coarser intervals at one time are made once and for all. -/
theorem resting_passes (t : Moment) (names : List String) :
    Resting (fun d : Desk (Analysis α) => d.shared.clock = .always t)
      (fun pass => Over t none pass.2) (fun pass => aggregate pass.2) [] (passesOf names) where
  keeps pass _ d clock := by
    rw [on_aggregate_always _ _ clock]
    exact (aggregate_enlarges ..).clock_always clock
  rests pass _ d clock finished := by
    rw [on_aggregate_always _ _ clock]
    exact finished.on
  settles pass _ d r d' clock ok := by
    rw [on_aggregate_always _ _ clock] at ok
    exact over_of_aggregate ok
  fails pass _ d e d' clock failed := by
    rw [on_aggregate_always _ _ clock] at failed
    have enlarges := aggregate_enlarges pass.2 t none d
    rw [failed] at enlarges
    rw [on_aggregate_always _ _ (enlarges.clock_always clock)]
    exact aggregate_fails_again failed
  stays := by
    refine (pairwise_passesOf names).imp fun {pass other} finer d clock finished => ?_
    rw [on_aggregate_always _ _ clock]
    refine finished.later (aggregate_enlarges ..) fun j source same => ?_
    have shorter := nominalSeconds_source source
    rw [same] at shorter
    exact absurd shorter (Nat.lt_asymm finer)

/-- All passes made again at the same time change nothing. -/
theorem runOnce_repeats (names : List String) (clock : d.shared.clock = .always t) :
    (runOnce names).Repeats [] d := by
  have repeats := ((resting_passes (α := α) t names).repeats clock).map List.flatten
  rwa [List.map_const', List.flatten_replicate_nil] at repeats

theorem runOnce_enlarges (names : List String) (clock : d.shared.clock = .always t) :
    Enlarges (· ∈ (passesOf names).map (·.2)) d ((runOnce names).on d).2 := by
  unfold runOnce
  rw [on_bind_pure]
  refine (mapM_preserves (P := fun d' => d'.shared.clock = .always t ∧
    Enlarges (· ∈ (passesOf names).map (·.2)) d d') ?_ ⟨clock, .refl _ d⟩).2
  rintro pass mem d₁ ⟨clock, before⟩
  rw [on_aggregate_always _ _ clock]
  have enlarges := aggregate_enlarges pass.2 t none d₁
  refine ⟨enlarges.clock_always clock, before.trans (enlarges.mono ?_)⟩
  rintro _ rfl
  exact List.mem_map_of_mem mem

end

end Analysis

end Promptuary
