import Promptuary.Analysis.Aggregation
import Promptuary.Proofs.Analysis.Steady
import Promptuary.Proofs.Distinct
import Promptuary.Proofs.Snapshot.Rollup

/-!
Passes over the shelves. A pass gives a snapshot to each window that is over and holds any of the
finer interval, with the amounts of the executions in those. Where all windows of the finer interval
that are over have theirs, so have all of its own then, and no execution is left out.
-/

namespace Promptuary

open Calendar (Interval Moment)
open Exact Operation

namespace Analysis

/-! ### Splitting executions by their windows -/

section

variable {α : Type} {shelf : Shelf α} {i j : Interval} {current cutoff stop : Moment} {u : Nat}

/-- The starts of the snapshots of an interval. -/
def startsOf (j : Interval) (shelf : Shelf α) : List Moment :=
  (shelf.keys.filter (·.interval = j)).map (·.start)

theorem mem_startsOf {t : Moment} :
    t ∈ startsOf j shelf ↔ ∃ entry ∈ shelf, entry.1.interval = j ∧ entry.1.start = t := by
  simp only [startsOf, Entries.keys, List.mem_map, List.mem_filter, decide_eq_true_eq]
  constructor
  · rintro ⟨key, ⟨⟨entry, mem, rfl⟩, fine⟩, rfl⟩
    exact ⟨entry, mem, fine, rfl⟩
  · rintro ⟨entry, mem, fine, rfl⟩
    exact ⟨_, ⟨⟨entry, mem, rfl⟩, fine⟩, rfl⟩

/-- The starts of the windows in which moments lie, each once. -/
theorem mem_windows {ts : List Moment} (naive : ∀ t ∈ ts, t.Naive) {start : Moment} :
    start ∈ ((ts.map fun t => (⟨i, i.startOf t⟩ : WindowKey)).eraseDups).map (·.start) ↔
      ∃ t ∈ ts, i.startOf t = start := by
  rw [List.mem_map]
  constructor
  · rintro ⟨key, mem, rfl⟩
    obtain ⟨t, known, rfl⟩ := List.mem_map.1 (Distinct.mem_of_mem_eraseDups _ mem)
    exact ⟨t, known, rfl⟩
  · rintro ⟨t, known, rfl⟩
    have mem : (⟨i, i.startOf t⟩ : WindowKey) ∈ ts.map fun t => ⟨i, i.startOf t⟩ :=
      List.mem_map.2 ⟨t, known, rfl⟩
    obtain ⟨key, mem, same⟩ := Distinct.exists_mem_eraseDups _ mem
    refine ⟨key, mem, ?_⟩
    obtain ⟨t', known', rfl⟩ := List.mem_map.1 (Distinct.mem_of_mem_eraseDups _ mem)
    have left : (i.startOf t).Naive := naive t known
    have right : (i.startOf t').Naive := naive t' known'
    exact ((left.same_iff right).1 (WindowKey.beq_iff.1 same).2).symm

/-- The windows that a pass goes through: those in which snapshots of the finer interval lie, as far
as these are over and the windows start after the cutoff. -/
theorem completedWindows_naive (naive : ∀ entry ∈ shelf, entry.1.start.Naive)
    (now : current.Naive) (since : cutoff.Naive) :
    ∃ windows, completedWindows i j current cutoff shelf = .ok windows ∧
      ∀ start, start ∈ windows ↔ cutoff.wall < start.wall ∧
        ∃ t ∈ startsOf j shelf, t.wall < current.wall ∧ i.startOf t = start := by
  have all : ∀ t ∈ startsOf j shelf, t.Naive := by
    intro t mem
    obtain ⟨entry, known, -, rfl⟩ := mem_startsOf.1 mem
    exact naive entry known
  let completed := (startsOf j shelf).filter fun t => decide (t.wall < current.wall)
  have chosen : ((startsOf j shelf).filterM fun t => t.lt? current) = .ok completed :=
    Outcome.filterM_eq_filter fun t mem => (all t mem).lt? now
  have naive_completed : ∀ t ∈ completed, t.Naive := fun t mem => all t (List.mem_filter.1 mem).1
  let windows := (completed.map fun t => (⟨i, i.startOf t⟩ : WindowKey)).eraseDups
  have naive_windows : ∀ start ∈ windows.map (·.start), start.Naive := by
    intro start mem
    obtain ⟨t, known, rfl⟩ := (mem_windows naive_completed).1 mem
    exact naive_completed t known
  obtain ⟨ordered, sorted, perm⟩ := Moment.sortOn?_naive id naive_windows
  have recent : (ordered.filterM fun start => cutoff.lt? start) =
      .ok (ordered.filter fun start => decide (cutoff.wall < start.wall)) :=
    Outcome.filterM_eq_filter fun start mem => since.lt? (naive_windows start (perm.mem_iff.1 mem))
  refine ⟨ordered.filter fun start => decide (cutoff.wall < start.wall), ?_, fun start => ?_⟩
  · change ((startsOf j shelf).filterM fun t => t.lt? current) >>= _ = _
    rw [chosen, Outcome.ok_bind]
    change (Moment.sortOn? id (windows.map (·.start)) >>= _) = _
    rw [sorted, Outcome.ok_bind, recent]
  · rw [List.mem_filter, perm.mem_iff, mem_windows naive_completed, decide_eq_true_iff, and_comm]
    simp only [completed, List.mem_filter, decide_eq_true_iff, and_assoc]

/-- Whether a snapshot is of an interval and lies in a window of another one. -/
def liesIn (i j : Interval) (u : Nat) (entry : WindowKey × Snapshot α) : Bool :=
  entry.1.interval = j && i.floor entry.1.start.wall == i.floor u

theorem mem_liesIn {entry : WindowKey × Snapshot α} : entry ∈ shelf.filter (liesIn i j u) ↔
    entry ∈ shelf ∧ entry.1.interval = j ∧ i.floor entry.1.start.wall = i.floor u := by
  rw [List.mem_filter, liesIn, Bool.and_eq_true, decide_eq_true_iff, beq_iff_eq]

theorem windowOf_eq_iff {e : Execution α} (naive : e.executedAt.Naive) {w : Nat} :
    windowOf i e = ⟨i, ⟨w, none⟩⟩ ↔ i.floor e.executedAt.wall = w := by
  rw [windowOf, Interval.startOf, naive, WindowKey.mk.injEq, Moment.mk.injEq]
  exact ⟨fun same => same.2.1, fun same => ⟨rfl, same, rfl⟩⟩

/-- The executions in the windows of the finer snapshots that lie in a window are those of its
executions whose finer windows have snapshots. -/
theorem sources_perm (id : String) {es : List (Execution α)} (distinct : shelf.Distinct)
    (naive : ∀ entry ∈ shelf, entry.1.start.Naive) (past : ∀ e ∈ es, e.executedAt.Naive)
    (source : i.source? = some j) :
    ((shelf.filter (liesIn i j u)).flatMap fun entry => inWindow id entry.1 es).Perm
      ((inWindow id ⟨i, ⟨i.floor u, none⟩⟩ es).filter fun e => shelf.has (windowOf j e)) := by
  have apart : (shelf.filter (liesIn i j u)).Pairwise fun a b => ∀ e : Execution α,
      (e.templateId == id && windowOf a.1.interval e == a.1) = true →
        (e.templateId == id && windowOf b.1.interval e == b.1) = false := by
    refine (distinct.filter _).imp_of_mem fun {a b} left right apart e chosen => ?_
    obtain ⟨-, here⟩ := Bool.and_eq_true_iff.1 chosen
    obtain ⟨-, fine, -⟩ := mem_liesIn.1 left
    obtain ⟨-, fine', -⟩ := mem_liesIn.1 right
    have there : (windowOf b.1.interval e == b.1) = false := by
      rw [fine', ← fine, BEq.congr_left here]
      exact apart
    rw [there, Bool.and_false]
  refine (Distinct.flatMap_filter_perm apart).trans (List.Perm.of_eq ?_)
  rw [inWindow, List.filter_filter]
  refine List.filter_congr fun e mem => ?_
  have naive_e := past e mem
  rw [Bool.eq_iff_iff, List.any_eq_true, Bool.and_eq_true, Bool.and_eq_true, beq_iff_eq,
    WindowKey.beq_iff_eq (naive_windowOf naive_e) (Moment.naive_mk _), windowOf_eq_iff naive_e]
  constructor
  · rintro ⟨entry, among, chosen⟩
    obtain ⟨own, here⟩ := Bool.and_eq_true_iff.1 chosen
    obtain ⟨known, fine, lies⟩ := mem_liesIn.1 among
    have key := (WindowKey.beq_iff_eq (naive_windowOf naive_e) (naive entry known)).1 here
    rw [fine] at key
    have wall : j.floor e.executedAt.wall = entry.1.start.wall :=
      congrArg (fun key => key.start.wall) key
    refine ⟨has_iff.2 ⟨entry, known, ?_⟩, eq_of_beq own, ?_⟩
    · rw [key]
      exact BEq.rfl
    · rw [← Interval.floor_floor_of_source source, wall, lies]
  · rintro ⟨has, own, here⟩
    obtain ⟨s, known⟩ := mem_of_has naive (naive_windowOf naive_e) has
    refine ⟨_, mem_liesIn.2 ⟨known, rfl, ?_⟩, ?_⟩
    · exact (Interval.floor_floor_of_source source _).trans here
    · exact Bool.and_eq_true_iff.2 ⟨beq_iff_eq.2 own, BEq.rfl⟩

/-- The snapshots that are rolled up for a window. -/
theorem sourcesIn_naive (naive : ∀ entry ∈ shelf, entry.1.start.Naive) {stop : Nat}
    (within : ∀ w, i.floor u ≤ w ∧ w < stop ↔ i.floor w = i.floor u) :
    sourcesIn j ⟨i.floor u, none⟩ ⟨stop, none⟩ shelf =
      .ok ((shelf.filter (liesIn i j u)).map (·.2)) := by
  have chosen : ((shelf.filter (·.1.interval = j)).filterM fun entry =>
      Moment.isIn? ⟨i.floor u, none⟩ ⟨stop, none⟩ entry.1.start) =
        .ok ((shelf.filter (·.1.interval = j)).filter fun entry =>
          i.floor entry.1.start.wall == i.floor u) := by
    refine Outcome.filterM_eq_filter fun entry mem => ?_
    rw [(Moment.naive_mk _).isIn? (Moment.naive_mk _) (naive entry (List.mem_filter.1 mem).1)]
    simp only [within]
    rfl
  have both : (shelf.filter (·.1.interval = j)).filter (fun entry =>
      i.floor entry.1.start.wall == i.floor u) = shelf.filter (liesIn i j u) := by
    rw [List.filter_filter]
    refine List.filter_congr fun entry _ => ?_
    rw [liesIn, Bool.and_comm]
  unfold sourcesIn
  dsimp only
  rw [chosen, both]
  rfl

/-- The executions in a span of time. -/
theorem filterM_isIn?_naive {es : List (Execution α)} (naive : ∀ e ∈ es, e.executedAt.Naive)
    (start stop : Nat) :
    (es.filterM fun e => Moment.isIn? ⟨start, none⟩ ⟨stop, none⟩ e.executedAt) =
      .ok (es.filter fun e => decide (start ≤ e.executedAt.wall ∧ e.executedAt.wall < stop)) :=
  Outcome.filterM_eq_filter fun e mem =>
    (Moment.naive_mk _).isIn? (Moment.naive_mk _) (naive e mem)

/-! ### Shelves that grow -/

variable {d d' : Desk (Analysis α)} {id : String} {es : List (Execution α)} {now since : Nat}

/-- One state of the shelves after another in which all windows that had a snapshot have one. -/
def Grows (d d' : Desk (Analysis α)) : Prop :=
  ∀ id key, (d.own.shelf id).has key = true → (d'.own.shelf id).has key = true

theorem Grows.refl (d : Desk (Analysis α)) : Grows d d := fun _ _ has => has

theorem Grows.trans {d₁ d₂ : Desk (Analysis α)} (first : Grows d d₁) (second : Grows d₁ d₂) :
    Grows d d₂ := fun id key has => second id key (first id key has)

theorem Grows.covers (grows : Grows d d')
    (covers : Covers i id es now since (d.own.shelf id)) :
    Covers i id es now since (d'.own.shelf id) :=
  fun e mem own after elapsed => grows id _ (covers e mem own after elapsed)

theorem Reshelves.grows {key : WindowKey} {s : Snapshot α}
    (reshelves : d.own.Reshelves d'.own id ((d.own.shelf id).put key s)) : Grows d d' := by
  intro other k has
  rw [reshelves.shelf]
  split
  · next same =>
    rw [Entries.has_put, same, has, Bool.or_true]
  · exact has

/-- The windows of an interval that are over and start after the cutoff have snapshots if there are
any of the finer interval in them. -/
def Follows (i j : Interval) (now since : Nat) (shelf shelf' : Shelf α) : Prop :=
  ∀ t : Moment, t.Naive → shelf.has ⟨j, t⟩ = true → since < i.floor t.wall →
    i.floor t.wall < i.floor now → shelf'.has ⟨i, i.startOf t⟩ = true

theorem Follows.has_windowOf {shelf' : Shelf α} {e : Execution α}
    (follows : Follows i j now since shelf shelf') (source : i.source? = some j)
    (naive : e.executedAt.Naive) (has : shelf.has (windowOf j e) = true)
    (after : since < i.floor e.executedAt.wall)
    (elapsed : i.floor e.executedAt.wall < i.floor now) : shelf'.has (windowOf i e) = true := by
  have wall : i.floor (j.startOf e.executedAt).wall = i.floor e.executedAt.wall :=
    Interval.floor_floor_of_source source _
  have start : i.startOf (j.startOf e.executedAt) = i.startOf e.executedAt := by
    simp only [Interval.startOf, Interval.floor_floor_of_source source]
  have next := follows (j.startOf e.executedAt) naive has (by rwa [wall]) (by rwa [wall])
  rw [start] at next
  exact next

/-- A pass after which there are snapshots for those of the finer interval covers all windows if
these did. -/
theorem Follows.covers {shelf' : Shelf α} (follows : Follows i j now since shelf shelf')
    (past : ∀ e ∈ es, e.executedAt.Naive) (source : i.source? = some j)
    (covers : Covers j id es now since shelf) : Covers i id es now since shelf' := by
  intro e mem own after elapsed
  have has := covers e mem own (after.trans_le (Interval.floor_le_floor_of_source source _))
    (Interval.floor_lt_floor_of_source source elapsed)
  exact follows.has_windowOf source (past e mem) has after elapsed

end

variable {α : Type} [Field α] [LinearOrder α] [FloorRing α] [Numerals α]

variable {d d' : Desk (Analysis α)} {id : String} {shelf : Shelf α} {es : List (Execution α)}
  {i j : Interval} {now cutoff u : Nat}

/-! ### One window -/

/-- One state after another in which a window that had no snapshot has one, with the amounts of
those of its executions whose finer windows have snapshots. -/
structure Rolls (id : String) (i j : Interval) (w : Nat) (es : List (Execution α))
    (s : Snapshot α) (d d' : Desk (Analysis α)) : Prop where
  absent : (d.own.shelf id).has ⟨i, ⟨w, none⟩⟩ = false
  start : s.start = ⟨w, none⟩
  amounts : s.Amounts ((inWindow id ⟨i, ⟨w, none⟩⟩ es).filter fun e =>
    (d.own.shelf id).has (windowOf j e))
  reshelves : d.own.Reshelves d'.own id ((d.own.shelf id).put ⟨i, ⟨w, none⟩⟩ s)
  clock : d'.shared.clock.readings <:+ d.shared.clock.readings

theorem Rolls.steady {s : Snapshot α} (rolls : Rolls id i j u es s d d')
    (steady : Steady now cutoff d) : Steady now cutoff d' :=
  steady.reshelve rolls.reshelves ((steady.keyed id).put (Moment.naive_mk _) rolls.start)
    rolls.clock

/-- Rolling up a window that is over succeeds. Nothing happens if it has a snapshot, or if none of
the finer interval lies in it. -/
theorem aggregateWindow_runs (steady : Steady now cutoff d)
    (past : ∀ e ∈ es, e.executedAt.Naive) (source : i.source? = some j)
    (tallied : ∀ entry ∈ d.own.shelf id, entry.1.interval = j →
      entry.2.Amounts (inWindow id entry.1 es))
    (elapsed : i.floor u < i.floor now) :
    ∃ r d', (aggregateWindow id i j ⟨i.floor u, none⟩).on d = (.ok r, d') ∧
      (d' = d ∨ ∃ s, Rolls id i j (i.floor u) es s d d') ∧
      ((∃ entry ∈ d.own.shelf id, entry.1.interval = j ∧ i.floor entry.1.start.wall = i.floor u) →
        (d'.own.shelf id).has ⟨i, ⟨i.floor u, none⟩⟩ = true) := by
  have keyed := steady.keyed id
  obtain ⟨stop, ended, -, inside⟩ := Interval.exists_end elapsed steady.within
  have amounts : ∀ entry ∈ (d.own.shelf id).filter (liesIn i j u),
      (Prod.snd entry).Amounts (inWindow id entry.1 es) := by
    intro entry mem
    obtain ⟨known, fine, -⟩ := mem_liesIn.1 mem
    exact tallied entry known fine
  unfold aggregateWindow
  rw [on_bind_ok (on_own _)]
  dsimp only
  split
  · next has => exact ⟨none, d, rfl, .inl rfl, fun _ => has⟩
  next absent =>
  rw [ended, Outcome.mapError_ok, on_bind_ok (on_attempt ..), sourcesIn_naive keyed.naive inside,
    Outcome.mapError_ok, on_bind_ok (on_attempt ..)]
  split
  · next empty =>
    refine ⟨none, d, rfl, .inl rfl, fun ⟨entry, known⟩ => ?_⟩
    have nothing : (d.own.shelf id).filter (liesIn i j u) = [] := by simpa using empty
    have among := mem_liesIn.2 known
    rw [nothing] at among
    exact absurd among List.not_mem_nil
  · have known := filterM_isIn?_naive (steady.held id) (i.floor u) stop
    obtain ⟨s, rolled, start, tells⟩ := Snapshot.rollUp_amounts amounts id i ⟨i.floor u, none⟩
      (((d.own.recorder.executions id).filter fun e =>
        decide (i.floor u ≤ e.executedAt.wall ∧ e.executedAt.wall < stop)).map (·.responseTime))
    rw [known, Outcome.mapError_ok, on_bind_ok (on_attempt ..), rolled, Outcome.mapError_ok,
      on_bind_ok (on_attempt ..), on_bind_ok (on_change ..)]
    obtain ⟨d', announced, leads⟩ := announce_leads
      (.snapshotAggregated id i ⟨i.floor u, none⟩
        (((d.own.shelf id).filter (liesIn i j u)).map (·.2)).length)
      { d with own := putShelf id ((d.own.shelf id).put ⟨i, ⟨i.floor u, none⟩⟩ s) d.own }
    have reshelves : d.own.Reshelves d'.own id ((d.own.shelf id).put ⟨i, ⟨i.floor u, none⟩⟩ s) := by
      rw [leads.own]
      exact reshelves_putShelf ..
    refine ⟨some s, d', ?_, .inr ⟨s, ?_⟩, fun _ => ?_⟩
    · rw [on_bind_ok announced]
      rfl
    · exact {
        absent := Bool.not_eq_true _ ▸ absent
        start, reshelves
        amounts := tells.perm (sources_perm id keyed.distinct keyed.naive past source)
        clock := leads.clock }
    · rw [reshelves.shelf, if_pos rfl, Entries.has_put, BEq.rfl, Bool.true_or]

/-! ### One pass -/

/-- What holds of an analysis while a pass goes through it: the snapshots of the finer interval have
the amounts of the executions in their windows, and all that is needed stays so as snapshots are
made. -/
structure Carries (P : Desk (Analysis α) → Prop) (i j : Interval) (es : List (Execution α))
    (now cutoff : Nat) : Prop where
  past : ∀ e ∈ es, e.executedAt.Naive
  steady : ∀ {d}, P d → Steady now cutoff d
  tallied : ∀ {d}, P d → ∀ id, ∀ entry ∈ d.own.shelf id, entry.1.interval = j →
    entry.2.Amounts (inWindow id entry.1 es)
  same : ∀ {d d'}, P d → d'.own = d.own →
    d'.shared.clock.readings <:+ d.shared.clock.readings → P d'
  rolls : ∀ {d d' id u s}, P d → cutoff < i.floor u → i.floor u < i.floor now →
    Rolls id i j (i.floor u) es s d d' → P d'

variable {P : Desk (Analysis α) → Prop}

/-- Rolling up one window of a pass keeps what holds during the pass. -/
theorem Carries.window_runs (carries : Carries P i j es now cutoff) (source : i.source? = some j)
    (holds : P d) (since : cutoff < i.floor u) (elapsed : i.floor u < i.floor now) :
    ∃ r d', (aggregateWindow id i j ⟨i.floor u, none⟩).on d = (.ok r, d') ∧ P d' ∧ Grows d d' ∧
      ((∃ entry ∈ d.own.shelf id, entry.1.interval = j ∧ i.floor entry.1.start.wall = i.floor u) →
        (d'.own.shelf id).has ⟨i, ⟨i.floor u, none⟩⟩ = true) := by
  obtain ⟨r, d', ran, rfl | ⟨s, rolls⟩, has⟩ := aggregateWindow_runs (carries.steady holds)
    carries.past source (carries.tallied holds id) elapsed
  · exact ⟨r, d', ran, holds, .refl _, has⟩
  · exact ⟨r, d', ran, carries.rolls holds since elapsed rolls, rolls.reshelves.grows, has⟩

/-- Rolling up the windows of a template succeeds, and they have snapshots then. -/
theorem aggregateTemplate_runs (carries : Carries P i j es now cutoff) (source : i.source? = some j)
    (holds : P d) (id : String) :
    ∃ created d', (aggregateTemplate i j ⟨i.floor now, none⟩ ⟨cutoff, none⟩ none id).on d =
        (.ok created, d') ∧ P d' ∧ Grows d d' ∧
      Follows i j now cutoff (d.own.shelf id) (d'.own.shelf id) := by
  have keyed := (carries.steady holds).keyed id
  obtain ⟨windows, completed, mem_windows⟩ := completedWindows_naive (i := i) (j := j) keyed.naive
    (Moment.naive_mk (i.floor now)) (Moment.naive_mk cutoff)
  have rounds : ∀ before start after d₁, windows = before ++ start :: after →
      (P d₁ ∧ Grows d d₁ ∧
        ∀ other ∈ before, (d₁.own.shelf id).has ⟨i, other⟩ = true) →
      ∃ r d₂, (aggregateWindow id i j start).on d₁ = (.ok r, d₂) ∧
        (P d₂ ∧ Grows d d₂ ∧
          ∀ other ∈ before ++ [start], (d₂.own.shelf id).has ⟨i, other⟩ = true) := by
    rintro before start after d₁ rfl ⟨holds₁, grows₁, done⟩
    obtain ⟨since, t, known, elapsed, rfl⟩ :=
      (mem_windows start).1 (List.mem_append_right _ List.mem_cons_self)
    obtain ⟨entry, mem, fine, rfl⟩ := mem_startsOf.1 known
    have start : i.startOf entry.1.start = ⟨i.floor entry.1.start.wall, none⟩ := by
      rw [Interval.startOf, keyed.naive entry mem]
    rw [start] at since ⊢
    obtain ⟨r, d₂, ran, holds₂, grows₂, has⟩ :=
      carries.window_runs source holds₁ since (Interval.lt_floor_iff.1 elapsed)
    refine ⟨r, d₂, ran, holds₂, grows₁.trans grows₂, fun other among => ?_⟩
    rcases List.mem_append.1 among with earlier | new
    · exact grows₂ id _ (done other earlier)
    · -- The finer snapshot for which the window is gone through is still there.
      cases List.mem_singleton.1 new
      have still := grows₁ id entry.1 (has_iff.2 ⟨entry, mem, BEq.rfl⟩)
      obtain ⟨s, mem₁⟩ :=
        ((carries.steady holds₁).keyed id).mem_of_has (keyed.naive entry mem) still
      exact has ⟨_, mem₁, fine, rfl⟩
  obtain ⟨created, d', ran, holds', grows, done⟩ := filterMapM_runs rounds
    ⟨holds, .refl d, fun _ mem => absurd mem List.not_mem_nil⟩
  refine ⟨created, d', ?_, holds', grows, fun t naive has since elapsed => done _ ?_⟩
  · unfold aggregateTemplate
    rw [on_bind_ok (on_own _)]
    dsimp only
    rw [completed, Outcome.mapError_ok, on_bind_ok (on_attempt ..)]
    exact ran
  · obtain ⟨s, mem⟩ := keyed.mem_of_has naive has
    have among : t ∈ startsOf j (d.own.shelf id) := mem_startsOf.2 ⟨_, mem, rfl, rfl⟩
    exact (mem_windows _).2 ⟨since, t, among, Interval.lt_floor_iff.2 elapsed, rfl⟩

/-- A pass succeeds, and all windows have snapshots then in which there are any of the finer
interval. -/
theorem aggregate_runs (carries : Carries P i j es now cutoff) (source : i.source? = some j)
    (holds : P d) :
    ∃ created d', (aggregate i).on d = (.ok created, d') ∧ P d' ∧ Grows d d' ∧
      ∀ id, Follows i j now cutoff (d.own.shelf id) (d'.own.shelf id) := by
  have steady := carries.steady holds
  have rounds : ∀ before id after d₁, d.own.shelves.keys = before ++ id :: after →
      (P d₁ ∧ Grows d d₁ ∧
        ∀ other ∈ before, Follows i j now cutoff (d.own.shelf other) (d₁.own.shelf other)) →
      ∃ r d₂, (aggregateTemplate i j ⟨i.floor now, none⟩ ⟨cutoff, none⟩ none id).on d₁ =
          (.ok r, d₂) ∧ (P d₂ ∧ Grows d d₂ ∧
        ∀ other ∈ before ++ [id],
          Follows i j now cutoff (d.own.shelf other) (d₂.own.shelf other)) := by
    rintro before id after d₁ - ⟨holds₁, grows₁, done⟩
    obtain ⟨r, d₂, ran, holds₂, grows₂, follows⟩ :=
      aggregateTemplate_runs carries source holds₁ id
    refine ⟨r, d₂, ran, holds₂, grows₁.trans grows₂,
      fun other among t naive has since elapsed => ?_⟩
    rcases List.mem_append.1 among with earlier | new
    · exact grows₂ other _ (done other earlier t naive has since elapsed)
    · cases List.mem_singleton.1 new
      exact follows t naive (grows₁ id _ has) since elapsed
  obtain ⟨created, d', ran, holds', grows, done⟩ := mapM_runs rounds (d := d.ticked)
    ⟨carries.same holds rfl d.shared.clock.rest_suffix, .refl d,
      fun _ mem => absurd mem List.not_mem_nil⟩
  refine ⟨created.flatten, d', ?_, holds', grows, fun id => ?_⟩
  · unfold aggregate
    rw [source]
    dsimp only
    rw [on_bind_ok (on_now _), on_bind_ok (on_own _), steady.clock.current]
    change (attempt ((Moment.daysBefore? ⟨now, none⟩ d.own.policy.snapshotDays).mapError .calendar)
      >>= _).on d.ticked = _
    rw [steady.snapshots, Outcome.mapError_ok, on_bind_ok (on_attempt ..), on_bind_ok (on_own _)]
    exact on_bind_ok ran _
  · by_cases known : id ∈ d.own.shelves.keys
    · exact done id known
    · -- A template that has no shelf has no snapshots of the finer interval.
      have empty : d.own.shelf id = [] := by
        rw [← Entries.get?_isSome_iff, Option.not_isSome_iff_eq_none] at known
        rw [Analysis.shelf, known]
        rfl
      intro t naive has
      rw [empty] at has
      cases has

/-! ### Passes over covered windows -/

/-- Where all finer windows have snapshots, the executions in a window that is over all count. -/
theorem Rolls.amounts_covered {s : Snapshot α} (rolls : Rolls id i j (i.floor u) es s d d')
    (past : ∀ e ∈ es, e.executedAt.Naive) (source : i.source? = some j)
    (covers : Covers j id es now cutoff (d.own.shelf id)) (since : cutoff < i.floor u)
    (elapsed : i.floor u < i.floor now) :
    s.Amounts (inWindow id ⟨i, ⟨i.floor u, none⟩⟩ es) := by
  have all : (inWindow id ⟨i, ⟨i.floor u, none⟩⟩ es).filter
      (fun e => (d.own.shelf id).has (windowOf j e)) = inWindow id ⟨i, ⟨i.floor u, none⟩⟩ es := by
    refine List.filter_eq_self.2 fun e mem => ?_
    have naive := past e (List.mem_filter.1 mem).1
    obtain ⟨known, own, here⟩ := (mem_inWindow naive (Moment.naive_mk _)).1 mem
    have here : i.floor e.executedAt.wall = i.floor u := (windowOf_eq_iff naive).1 here
    refine covers e known own ?_ (Interval.floor_lt_floor_of_source source (by rwa [here]))
    rw [← here] at since
    exact since.trans_le (Interval.floor_le_floor_of_source source _)
  exact all ▸ rolls.amounts

/-- A pass succeeds where all windows of the finer interval are covered, and all windows of its own
are covered then. -/
theorem Orderly.aggregate_runs (orderly : Orderly es now cutoff d) (source : i.source? = some j)
    (covers : ∀ id, Covers j id es now cutoff (d.own.shelf id)) :
    ∃ created d', (aggregate i).on d = (.ok created, d') ∧ Orderly es now cutoff d' ∧ Grows d d' ∧
      ∀ id, Covers i id es now cutoff (d'.own.shelf id) := by
  have carries : Carries (fun d => Orderly es now cutoff d ∧
      ∀ id, Covers j id es now cutoff (d.own.shelf id)) i j es now cutoff := {
    past := orderly.recorded
    steady := fun holds => holds.1.steady
    tallied := fun holds id entry mem _ => ((holds.1.shelves id).entries entry mem).amounts
    same := fun {d d'} ⟨orderly, covers⟩ own clock => by
      refine ⟨(orderly.steady.same own clock).orderly orderly.recorded ?_, ?_⟩
      all_goals rw [own]
      exacts [orderly.shelves, covers]
    rolls := fun {d d' id u s} ⟨orderly, covers⟩ since elapsed rolls => by
      refine ⟨(rolls.steady orderly.steady).orderly orderly.recorded fun other => ?_,
        fun other => rolls.reshelves.grows.covers (covers other)⟩
      rw [rolls.reshelves.shelf]
      split
      · next same =>
        subst same
        exact (orderly.shelves _).roll (Moment.naive_mk _) (Interval.floor_floor ..) elapsed
          rolls.start
          (rolls.amounts_covered orderly.recorded source (covers _) since elapsed)
      · exact orderly.shelves other }
  obtain ⟨created, d', ran, ⟨orderly', -⟩, grows, follows⟩ :=
    Analysis.aggregate_runs carries source ⟨orderly, covers⟩
  exact ⟨created, d', ran, orderly', grows, fun id =>
    (follows id).covers orderly.recorded source (covers id)⟩

/-! ### All passes -/

/-- Names of passes that can follow one another: hours first, and days before weeks and months. -/
def Complete (names : List String) : Prop :=
  "hourly" ∈ names ∧ ("weekly" ∈ names ∨ "monthly" ∈ names → "daily" ∈ names)

/-- The intervals that are rolled up come in the order of their lengths. -/
theorem pairwise_passesOf (names : List String) :
    (passesOf names).Pairwise fun a b => a.2.nominalSeconds < b.2.nominalSeconds := by
  refine List.Pairwise.filter _ ?_
  decide

theorem ne_minute_of_mem_passesOf {names : List String} {pass : String × Interval}
    (mem : pass ∈ passesOf names) : pass.2 ≠ .minute := by
  have all : ∀ pass ∈ passes, pass.2 ≠ .minute := by decide
  exact all pass (List.mem_filter.1 mem).1

/-- The interval that a pass rolls up is that of minutes, or has a pass of its own. -/
theorem source_of_mem_passesOf {names : List String} (complete : Complete names)
    {pass : String × Interval} (mem : pass ∈ passesOf names) :
    pass.2.source? = some .minute ∨ ∃ other ∈ passesOf names, pass.2.source? = some other.2 ∧
      other.2.nominalSeconds < pass.2.nominalSeconds := by
  obtain ⟨hourly, daily⟩ := complete
  have has : ∀ {other}, other ∈ passes → other.1 ∈ names → other ∈ passesOf names :=
    fun known named => List.mem_filter.2 ⟨known, List.contains_iff_mem.2 named⟩
  obtain ⟨known, named⟩ := List.mem_filter.1 mem
  have named := List.contains_iff_mem.1 named
  simp only [passes, List.mem_cons, List.not_mem_nil, or_false] at known
  rcases known with rfl | rfl | rfl | rfl
  · exact .inl rfl
  · exact .inr ⟨("hourly", .hour), has (by decide) hourly, rfl, by decide⟩
  · exact .inr ⟨("daily", .day), has (by decide) (daily (.inl named)), rfl, by decide⟩
  · exact .inr ⟨("daily", .day), has (by decide) (daily (.inr named)), rfl, by decide⟩

/-- The passes with names that can follow one another succeed, and all windows of their intervals
are covered then. -/
theorem runOnce_runs {names : List String} (complete : Complete names)
    (orderly : Orderly es now cutoff d) :
    ∃ created d', (runOnce names).on d = (.ok created, d') ∧ Orderly es now cutoff d' ∧
      ∀ pass ∈ passesOf names, ∀ id, Covers pass.2 id es now cutoff (d'.own.shelf id) := by
  have rounds : ∀ before pass after d₁, passesOf names = before ++ pass :: after →
      (Orderly es now cutoff d₁ ∧
        ∀ other ∈ before, ∀ id, Covers other.2 id es now cutoff (d₁.own.shelf id)) →
      ∃ r d₂, (aggregate pass.2).on d₁ = (.ok r, d₂) ∧ (Orderly es now cutoff d₂ ∧
        ∀ other ∈ before ++ [pass], ∀ id, Covers other.2 id es now cutoff (d₂.own.shelf id)) := by
    rintro before pass after d₁ whole ⟨orderly₁, done⟩
    have mem : pass ∈ passesOf names := by
      rw [whole]
      exact List.mem_append_right _ List.mem_cons_self
    obtain ⟨j, source, covers⟩ : ∃ j, pass.2.source? = some j ∧
        ∀ id, Covers j id es now cutoff (d₁.own.shelf id) := by
      rcases source_of_mem_passesOf complete mem with source | ⟨other, among, source, finer⟩
      · exact ⟨.minute, source, fun id => (orderly₁.shelves id).covers_minute⟩
      · refine ⟨other.2, source, done other ?_⟩
        have order := pairwise_passesOf names
        rw [whole, List.pairwise_append, List.pairwise_cons] at order
        rw [whole, List.mem_append, List.mem_cons] at among
        rcases among with earlier | rfl | later
        · exact earlier
        · exact absurd finer (Nat.lt_irrefl _)
        · exact absurd finer (Nat.lt_asymm (order.2.1.1 other later))
    obtain ⟨r, d₂, ran, orderly₂, grows, covered⟩ := orderly₁.aggregate_runs source covers
    refine ⟨r, d₂, ran, orderly₂, fun other among id => ?_⟩
    rcases List.mem_append.1 among with earlier | new
    · exact grows.covers (done other earlier id)
    · cases List.mem_singleton.1 new
      exact covered id
  obtain ⟨created, d', ran, orderly', done⟩ := mapM_runs rounds
    ⟨orderly, fun _ mem => absurd mem List.not_mem_nil⟩
  exact ⟨created.flatten, d', on_bind_ok ran _, orderly', done⟩

end Analysis

end Promptuary
