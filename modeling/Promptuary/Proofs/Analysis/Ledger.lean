import Promptuary.Proofs.Analysis.Consistency

/-!
Which executions the snapshots count. Beside a run of an analysis stand the executions that were
recorded, and for each window those that its snapshot counts: an execution joins them when it raises
the count of the snapshot, and a snapshot that is rolled up takes over those of the snapshots that
it is rolled up from. They are as many as the snapshot says.
-/

namespace Promptuary

open Calendar (Interval Moment)
open Operation

namespace Analysis

/-! ### Counts -/

section

variable {α : Type} {a a' : Analysis α} {id : String} {key : WindowKey} {s : Snapshot α} {n : Int}

/-- How many executions the snapshot of a window counts; none if there is no snapshot. -/
def countAt (a : Analysis α) (id : String) (key : WindowKey) : Int :=
  ((a.shelf id).get? key).elim 0 (·.metrics.count)

theorem countAt_of_get? (found : (a.shelf id).get? key = some s) :
    a.countAt id key = s.metrics.count := by
  rw [countAt, found]
  rfl

theorem countAt_of_not_has (absent : (a.shelf id).has key = false) : a.countAt id key = 0 := by
  rw [Entries.has_eq_isSome, Option.isSome_eq_false_iff, Option.isNone_iff_eq_none] at absent
  rw [countAt, absent]
  rfl

/-- No window of a template comes twice, and the snapshot of one, if there is one, counts some
number of executions. -/
structure Shows (id : String) (key : WindowKey) (n : Int) (a : Analysis α) : Prop where
  distinct : (a.shelf id).Distinct
  count : ∀ s, (a.shelf id).get? key = some s → s.metrics.count = n

theorem shows_withSnapshot (distinct : (a.shelf id).Distinct) (count : s.metrics.count = n) :
    Shows id key n (a.withSnapshot id key s) := by
  constructor
  · rw [shelf_withSnapshot]
    exact distinct.put ..
  · intro s' found
    rw [shelf_withSnapshot, Entries.get?_put_self] at found
    cases found
    exact count

theorem keeps_shows_changeSnapshot {f : Snapshot α → Snapshot α}
    (step : ∀ s, s.metrics.count = n → (f s).metrics.count = n) :
    Keeps (Shows id key n) (changeSnapshot id key f) := by
  refine keeps_change fun a holds => ?_
  dsimp only
  split
  · next s found => exact shows_withSnapshot holds.distinct (step s (holds.count s found))
  · exact holds

theorem keeps_shows_prune (id : String) (key : WindowKey) (n : Int) :
    Keeps (Shows (α := α) id key n) (prune id) := by
  intro d holds
  obtain ⟨p, reshelves⟩ := prune_reshelves id d
  have spares := reshelves.spares key
  refine ⟨spares.distinct holds.distinct, fun s found => ?_⟩
  rw [reshelves.shelf, if_pos rfl] at found
  obtain ⟨k, same, mem, -⟩ := (holds.distinct.get?_filter p).1 found
  exact holds.count s (holds.distinct.get?_of_mem mem same)

end

section

variable {α : Type} [Scalar α] {a : Analysis α} {d d' d₁ d₂ : Desk (Analysis α)} {id : String}
  {key : WindowKey} {s : Snapshot α} {e : Execution α} {i j : Interval}

/-! ### Counting an execution -/

theorem count_addAmounts {m m' : Metrics α} (added : m.addAmounts e = .ok m') :
    m'.count = m.count := by
  obtain ⟨tokens, -, done⟩ := Outcome.exists_of_bind_eq_ok added
  cases done
  cases e.quality <;> rfl

/-- Counting an execution in a snapshot raises its count, even where its amounts cannot be added. -/
theorem brings_countExecution (distinct : (a.shelf e.templateId).Distinct) :
    Brings (· = a.withSnapshot e.templateId key s) (Shows e.templateId key (s.metrics.count + 1))
      (countExecution key e) := by
  rintro ⟨_, shared⟩ rfl
  have raised : Shows e.templateId key (s.metrics.count + 1)
      (a.withSnapshot e.templateId key (s.withMetrics (s.metrics.addOutcome e))) :=
    shows_withSnapshot distinct rfl
  unfold countExecution
  rw [on_bind_ok (on_changeSnapshot ..), on_bind_ok (on_own _)]
  dsimp only
  split
  · exact raised
  · next s' found =>
    rw [on_attempt_bind]
    cases added : s'.metrics.addAmounts e with
    | error => exact raised
    | ok m =>
      have count : m.count = s.metrics.count + 1 :=
        (count_addAmounts added).trans (raised.count s' found)
      exact keeps_shows_changeSnapshot (fun _ _ => count) _ raised

/-- What becomes of the count of its minute when an execution is counted. -/
theorem shows_updateMinute (distinct : (d.own.shelf e.templateId).Distinct) :
    Shows e.templateId (minuteOf e) (d.own.countAt e.templateId (minuteOf e) + 1)
      ((updateMinute e).on d).2.own := by
  have opened : d.own.countAt e.templateId (minuteOf e) = (d.own.minuteSnapshot e).metrics.count := by
    unfold countAt minuteSnapshot
    cases (d.own.shelf e.templateId).get? (minuteOf e) <;> rfl
  have steps : updateMinute e = (openMinute e.templateId (minuteOf e).start >>= fun _ =>
      countExecution (minuteOf e) e >>= fun _ => updateSpread e.templateId (minuteOf e) >>= fun _ =>
        updateCustom e.templateId (minuteOf e) >>= fun _ => prune e.templateId) := rfl
  rw [opened, steps, on_bind_ok (on_openMinute ..)]
  refine Brings.bind (brings_countExecution distinct) (fun _ holds => holds) (fun _ => ?_) _ rfl
  refine (keeps_updateSpread fun _ => keeps_shows_changeSnapshot fun _ same => same).bind fun _ => ?_
  refine (keeps_updateCustom fun _ => keeps_shows_changeSnapshot fun _ same => same).bind fun _ => ?_
  exact keeps_shows_prune _ _ _

/-- What becomes of the count of its minute when an execution is stored: the call may fail before it
is counted. -/
theorem count_minuteOf (distinct : (d.own.shelf e.templateId).Distinct)
    (stored : stores e d = true)
    (found : (((record e).on d).2.own.shelf e.templateId).get? (minuteOf e) = some s) :
    s.metrics.count = d.own.countAt e.templateId (minuteOf e) ∨
      s.metrics.count = d.own.countAt e.templateId (minuteOf e) + 1 := by
  -- A call that fails before it comes to the minute leaves the count as it was; once it has come
  -- there, nothing can fail until the execution is counted.
  let n := d.own.countAt e.templateId (minuteOf e)
  let before (a : Analysis α) : Prop :=
    (a.shelf e.templateId).Distinct ∧ a.countAt e.templateId (minuteOf e) = n
  let after (a : Analysis α) : Prop :=
    ∀ s, (a.shelf e.templateId).get? (minuteOf e) = some s →
      s.metrics.count = n ∨ s.metrics.count = n + 1
  have early : ∀ a, before a → after a :=
    fun a ⟨_, same⟩ s found => .inl ((countAt_of_get? found).symm.trans same)
  have updates : Brings before after (updateMinute e) := by
    rintro d ⟨distinct, same⟩ s found
    rw [← same]
    exact .inr ((shows_updateMinute distinct).count s found)
  have holds : before { d.own with recorder := d.own.recorder.keep e } := ⟨distinct, rfl⟩
  exact record_brings stored (fun _ _ holds => holds) early updates holds s found

/-- A call leaves the count of a window as it was, unless it stores an execution of that window and
counts it there. -/
theorem count_record (distinct : ∀ id, (d.own.shelf id).Distinct)
    (found : (((record e).on d).2.own.shelf id).get? key = some s) :
    s.metrics.count = d.own.countAt id key ∨
      stores e d = true ∧ e.templateId = id ∧ (minuteOf e == key) = true ∧
        s.metrics.count = d.own.countAt id key + 1 := by
  cases stored : stores e d with
  | false =>
    obtain ⟨f, d', ran, own, -⟩ := record_of_not_stores stored
    rw [ran, own] at found
    exact .inl (countAt_of_get? found).symm
  | true =>
    have spares := record_spares stored
    by_cases own : id = e.templateId
    · subst own
      cases here : minuteOf e == key with
      | false => exact .inl (countAt_of_get? (spares.found (distinct _) key s here found)).symm
      | true =>
        rw [← Entries.get?_congr _ here] at found
        rw [countAt, ← Entries.get?_congr _ here]
        rcases count_minuteOf (distinct _) stored found with same | raised
        · exact .inl same
        · exact .inr ⟨rfl, rfl, rfl, raised⟩
    · rw [spares.others id own] at found
      exact .inl (countAt_of_get? found).symm

/-! ### Gathering snapshots -/

/-- One desk after another at which the shelves have snapshots of an interval more, each of them
rolled up from what was there. -/
structure Gathers (i j : Interval) (d d' : Desk (Analysis α)) : Prop where
  enlarges : Enlarges (· = i) d d'
  rolled : ∀ id, ∀ entry ∈ d'.own.shelf id, (d.own.shelf id).has entry.1 = false →
    ∃ count, rolled id i j entry.1.start d.own = .ok (some (entry.2, count))

theorem Gathers.refl (i j : Interval) (d : Desk (Analysis α)) : Gathers i j d d := by
  refine ⟨.refl _ d, fun id entry mem absent => ?_⟩
  rw [Entries.has_of_mem mem] at absent
  cases absent

theorem Gathers.joins (gathers : Gathers i j d d') {entry : WindowKey × Snapshot α}
    (mem : entry ∈ d'.own.shelf id) (absent : (d.own.shelf id).has entry.1 = false) :
    Joins (· = i) id (d.own.shelf id) entry := by
  rcases gathers.enlarges.mem_or_joins mem with old | new
  · rw [Entries.has_of_mem old] at absent
    cases absent
  · exact new

/-- What is added later is rolled up from the same snapshots. -/
theorem Gathers.trans (apart : i ≠ j) (first : Gathers i j d d₁) (second : Gathers i j d₁ d₂) :
    Gathers i j d d₂ := by
  refine ⟨first.enlarges.trans second.enlarges, fun id entry mem absent => ?_⟩
  cases has : (d₁.own.shelf id).has entry.1 with
  | true =>
    rcases second.enlarges.mem_or_joins mem with old | new
    · exact first.rolled id entry old absent
    · rw [new.absent] at has
      cases has
  | false =>
    rw [← rolled_congr first.enlarges apart.symm]
    exact second.rolled id entry mem has

theorem aggregateWindow_gathers (id : String) (j : Interval) {start : Moment}
    (aligned : i.startOf start = start) (d : Desk (Analysis α)) :
    Gathers i j d ((aggregateWindow id i j start).on d).2 := by
  refine ⟨aggregateWindow_enlarges id j aligned d, fun other entry mem absent => ?_⟩
  rcases aggregateWindow_cases id i j start d with
    ⟨-, ran⟩ | ⟨f, -, ran⟩ | ⟨s, count, d', free, known, ran, leads⟩
  · rw [ran] at mem
    exact (Gathers.refl i j d).rolled other entry mem absent
  · rw [ran] at mem
    exact (Gathers.refl i j d).rolled other entry mem absent
  · rw [ran, leads.own, shelf_putShelf] at mem
    split at mem
    · next same =>
      subst same
      rw [Entries.put_of_not_has free] at mem
      rcases List.mem_append.1 mem with old | new
      · rw [Entries.has_of_mem old] at absent
        cases absent
      · cases List.mem_singleton.1 new
        exact ⟨count, known⟩
    · rw [Entries.has_of_mem mem] at absent
      cases absent

/-- A pass adds snapshots that are rolled up from those of the finer interval that were there. -/
theorem aggregate_gathers (source : i.source? = some j) (time windowStart : Option Moment)
    (d : Desk (Analysis α)) : Gathers i j d ((aggregate i time windowStart).on d).2 := by
  refine aggregate_preserves (fun d₁ before => ?_) (fun id k start d₁ source' aligned before => ?_)
    time windowStart (.refl i j d)
  · exact ⟨before.enlarges.ticked, before.rolled⟩
  · cases source.symm.trans source'
    exact before.trans (ne_source source) (aggregateWindow_gathers id j aligned d₁)

/-- The windows of the snapshots that the snapshot of a window is rolled up from. -/
def sourceKeys (key : WindowKey) (shelf : Shelf α) : List WindowKey :=
  match key.interval.source?, key.interval.endOf? key.start with
  | some j, .ok stop => (sourcesOf j key.start stop shelf).keys
  | _, _ => []

/-- What is known of a snapshot that a pass has added: the snapshots that it is rolled up from and
the executions in its window that are still held are those from before the pass. -/
theorem Gathers.merged (gathers : Gathers i j d d') (source : i.source? = some j)
    {entry : WindowKey × Snapshot α} (mem : entry ∈ d'.own.shelf id)
    (absent : (d.own.shelf id).has entry.1 = false) :
    ∃ stop, entry.1.interval.endOf? entry.1.start = .ok stop ∧
      sourceKeys entry.1 (d.own.shelf id) =
        (sourcesOf j entry.1.start stop (d.own.shelf id)).keys ∧
      Snapshot.mergeMetrics (sourcesOf j entry.1.start stop (d.own.shelf id)).values
        (((d.own.recorder.executions id).filter (liesWithin entry.1.start stop)).map
          (·.responseTime)) = .ok entry.2.metrics := by
  obtain ⟨count, known⟩ := gathers.rolled id entry mem absent
  obtain ⟨stop, ended, -, -, ok⟩ := rolled_parts known
  obtain ⟨-, -, -, merged⟩ := Snapshot.merged_of_rollUp ok
  have interval := (gathers.joins mem absent).among
  rw [← interval] at ended source
  refine ⟨stop, ended, ?_, merged⟩
  rw [sourceKeys, source, ended]

end

/-! ### Chronicles -/

section

variable {α : Type}

/-- A run of an analysis so far: the state it has come to, the executions that were recorded, and
those that the snapshot of each window of a template counts. -/
structure Chronicle (α : Type) where
  state : Analysis α
  recorded : List (Execution α)
  counted : String → WindowKey → List (Execution α)

namespace Chronicle

/-- A run in which nothing was done so far. -/
def start (a : Analysis α) : Chronicle α := ⟨a, [], fun _ _ => []⟩

/-- What holds after every run of an analysis at which nothing was recorded: the recorder holds the
latest executions of each template or none, and every snapshot counts as many executions as are
listed for it. -/
structure Booked (c : Chronicle α) : Prop where
  distinct : ∀ id, (c.state.shelf id).Distinct
  latest : ∀ id, c.state.recorder.executions id = [] ∨ c.state.recorder.enabled = true ∧
    c.state.recorder.executions id <:+ c.recorded.filter (·.templateId == id)
  counts : ∀ id key, c.state.countAt id key = (c.counted id key).length

theorem booked_start {a : Analysis α} (shelves : a.shelves = []) (buffers : a.recorder.buffers = []) :
    (start a).Booked where
  distinct id := by
    rw [start, shelf, shelves]
    exact Entries.distinct_nil
  latest id := by
    rw [start, Recorder.executions, buffers]
    exact .inl rfl
  counts id key := by
    rw [start, countAt, shelf, shelves]
    rfl

end Chronicle

end

section

variable {α : Type} [Scalar α]

namespace Chronicle

variable {c : Chronicle α} {id : String} {key : WindowKey} {s : Snapshot α}

/-- An execution is counted in a window if it has raised the count of the snapshot. A snapshot that
is dropped counts nothing from then on. -/
def record (e : Execution α) (shared : Shared) (c : Chronicle α) : Chronicle α :=
  let state := (Turn.record e shared).after c.state
  { state
    recorded := if stores e ⟨c.state, shared⟩ then c.recorded ++ [e] else c.recorded
    counted := fun id key =>
      ((state.shelf id).get? key).elim [] fun s =>
        if s.metrics.count = c.state.countAt id key then c.counted id key
        else c.counted id key ++ [e] }

/-- A new snapshot counts what those count that it is rolled up from. It is looked up as it stands
there, since a window may be asked for with another offset. -/
def aggregate (interval : Interval) (time windowStart : Option Moment) (shared : Shared)
    (c : Chronicle α) : Chronicle α :=
  let state := (Turn.aggregate interval time windowStart shared).after c.state
  { state
    recorded := c.recorded
    counted := fun id key =>
      if (c.state.shelf id).has key then c.counted id key
      else ((state.shelf id).find? (·.1 == key)).elim [] fun entry =>
        (sourceKeys entry.1 (c.state.shelf id)).flatMap (c.counted id) }

/-- A run after one turn more. -/
def next (c : Chronicle α) : Turn α → Chronicle α
  | .record e shared => c.record e shared
  | .aggregate interval time windowStart shared => c.aggregate interval time windowStart shared

theorem state_next (c : Chronicle α) (turn : Turn α) : (c.next turn).state = turn.after c.state := by
  cases turn <;> rfl

/-! ### Executions that are recorded -/

theorem state_record_of_not_stores {e : Execution α} {shared : Shared}
    (not : stores e ⟨c.state, shared⟩ = false) : (c.record e shared).state = c.state := by
  obtain ⟨f, d', ran, own, -⟩ := record_of_not_stores not
  change ((Analysis.record e).on ⟨c.state, shared⟩).2.own = c.state
  rw [ran]
  exact own

theorem counted_record_of_get?_eq_none {e : Execution α} {shared : Shared}
    (absent : ((c.record e shared).state.shelf id).get? key = none) :
    (c.record e shared).counted id key = [] := by
  change (((c.record e shared).state.shelf id).get? key).elim [] _ = []
  rw [absent]
  rfl

/-- The count of a snapshot stays as it was and it counts the same executions, or it counts one
more, which was recorded in its minute. -/
theorem Booked.record_cases (booked : c.Booked) {e : Execution α} {shared : Shared}
    (found : ((c.record e shared).state.shelf id).get? key = some s) :
    (s.metrics.count = c.state.countAt id key ∧
        (c.record e shared).counted id key = c.counted id key) ∨
      stores e ⟨c.state, shared⟩ = true ∧ e.templateId = id ∧ (minuteOf e == key) = true ∧
        s.metrics.count = c.state.countAt id key + 1 ∧
        (c.record e shared).counted id key = c.counted id key ++ [e] := by
  have counted : (c.record e shared).counted id key =
      if s.metrics.count = c.state.countAt id key then c.counted id key
      else c.counted id key ++ [e] := by
    change (((c.record e shared).state.shelf id).get? key).elim [] _ = _
    rw [found]
    rfl
  rcases count_record (d := ⟨c.state, shared⟩) booked.distinct found with
    same | ⟨stored, own, here, raised⟩
  · exact .inl ⟨same, counted.trans (if_pos same)⟩
  · refine .inr ⟨stored, own, here, raised, counted.trans (if_neg ?_)⟩
    dsimp only at raised
    omega

theorem Booked.counts_record (booked : c.Booked) (e : Execution α) (shared : Shared) (id : String)
    (key : WindowKey) : (c.record e shared).state.countAt id key =
      ((c.record e shared).counted id key).length := by
  have before := booked.counts id key
  cases found : ((c.record e shared).state.shelf id).get? key with
  | none =>
    rw [counted_record_of_get?_eq_none found, countAt, found]
    rfl
  | some s =>
    rw [countAt_of_get? found]
    rcases booked.record_cases found with ⟨same, counted⟩ | ⟨-, -, -, raised, counted⟩
    · rw [same, counted, before]
    · rw [raised, counted, before, List.length_append, List.length_singleton, Nat.cast_add_one]

theorem Booked.record (booked : c.Booked) (e : Execution α) (shared : Shared) :
    (c.record e shared).Booked := by
  cases stored : stores e ⟨c.state, shared⟩ with
  | false =>
    have recorded : (c.record e shared).recorded = c.recorded := if_neg (by simp [stored])
    refine ⟨fun id => ?_, fun id => ?_, booked.counts_record e shared⟩
    · rw [state_record_of_not_stores stored]
      exact booked.distinct id
    · rw [state_record_of_not_stores stored, recorded]
      exact booked.latest id
  | true =>
    have spares := record_spares (d := ⟨c.state, shared⟩) stored
    have recorded : (c.record e shared).recorded = c.recorded ++ [e] := if_pos stored
    refine ⟨fun id => ?_, fun id => ?_, booked.counts_record e shared⟩
    · by_cases own : id = e.templateId
      · subst own
        exact spares.distinct (booked.distinct _)
      · have same : (c.record e shared).state.shelf id = c.state.shelf id := spares.others id own
        rw [same]
        exact booked.distinct id
    · rw [recorded]
      exact latest_append (booked.latest id) spares.recorder

/-! ### Snapshots that are rolled up -/

section

variable {interval : Interval} {time windowStart : Option Moment} {shared : Shared}
  {entry : WindowKey × Snapshot α}

theorem counted_aggregate_of_has (has : (c.state.shelf id).has key = true) :
    (c.aggregate interval time windowStart shared).counted id key = c.counted id key := if_pos has

/-- A pass over an interval adds snapshots that are rolled up, unless there is nothing that the
interval is rolled up from. -/
theorem aggregate_cases (c : Chronicle α) (interval : Interval) (time windowStart : Option Moment)
    (shared : Shared) :
    (c.aggregate interval time windowStart shared).state = c.state ∨
      ∃ j d', interval.source? = some j ∧ Gathers interval j ⟨c.state, shared⟩ d' ∧
        (c.aggregate interval time windowStart shared).state = d'.own := by
  cases source : interval.source? with
  | none =>
    left
    change ((Analysis.aggregate interval time windowStart).on ⟨c.state, shared⟩).2.own = c.state
    unfold Analysis.aggregate
    rw [source]
    rfl
  | some j => exact .inr ⟨j, _, rfl, aggregate_gathers source time windowStart _, rfl⟩

/-- Where a pass has added a snapshot, it is one of those that were gathered. -/
theorem exists_gathers
    (mem : entry ∈ (c.aggregate interval time windowStart shared).state.shelf id)
    (absent : (c.state.shelf id).has entry.1 = false) :
    ∃ j d', interval.source? = some j ∧ Gathers interval j ⟨c.state, shared⟩ d' ∧
      entry ∈ d'.own.shelf id := by
  rcases c.aggregate_cases interval time windowStart shared with same | ⟨j, d', source, gathers, own⟩
  · rw [same] at mem
    rw [Entries.has_of_mem mem] at absent
    cases absent
  · rw [own] at mem
    exact ⟨j, d', source, gathers, mem⟩

theorem Booked.distinct_aggregate (booked : c.Booked) :
    ((c.aggregate interval time windowStart shared).state.shelf id).Distinct := by
  rcases c.aggregate_cases interval time windowStart shared with same | ⟨j, d', -, gathers, own⟩
  · rw [same]
    exact booked.distinct id
  · rw [own]
    exact gathers.enlarges.distinct (booked.distinct id)

theorem Booked.counted_aggregate (booked : c.Booked)
    (mem : entry ∈ (c.aggregate interval time windowStart shared).state.shelf id)
    (absent : (c.state.shelf id).has entry.1 = false) (same : (entry.1 == key) = true) :
    (c.aggregate interval time windowStart shared).counted id key =
      (sourceKeys entry.1 (c.state.shelf id)).flatMap (c.counted id) := by
  rw [Entries.has_congr _ same] at absent
  refine (if_neg (by simp [absent])).trans ?_
  change (((c.aggregate interval time windowStart shared).state.shelf id).find? _).elim [] _ = _
  rw [booked.distinct_aggregate.find?_of_mem mem same]
  rfl

/-- A window that has no snapshot after a pass counts nothing. -/
theorem counted_aggregate_of_not_has
    (absent : ((c.aggregate interval time windowStart shared).state.shelf id).has key = false)
    (before : (c.state.shelf id).has key = false) :
    (c.aggregate interval time windowStart shared).counted id key = [] := by
  refine (if_neg (by simp [before])).trans ?_
  change (((c.aggregate interval time windowStart shared).state.shelf id).find? _).elim [] _ = _
  have none : ((c.aggregate interval time windowStart shared).state.shelf id).find? (·.1 == key) =
      none := List.find?_eq_none.2 fun entry mem => List.any_eq_false.1 absent entry mem
  rw [none]
  rfl

/-- A snapshot that is rolled up counts as many executions as those do that it is rolled up from. -/
theorem Booked.count_gathered (booked : c.Booked) {j : Interval} {d' : Desk (Analysis α)}
    (source : interval.source? = some j) (gathers : Gathers interval j ⟨c.state, shared⟩ d')
    (mem : entry ∈ d'.own.shelf id) (absent : (c.state.shelf id).has entry.1 = false) :
    entry.2.metrics.count =
      ((sourceKeys entry.1 (c.state.shelf id)).flatMap (c.counted id)).length := by
  obtain ⟨stop, -, keys, merged⟩ := gathers.merged source mem absent
  obtain ⟨count, -⟩ := Snapshot.parts_of_mergeMetrics merged
  have counts : ∀ part ∈ sourcesOf j entry.1.start stop (c.state.shelf id),
      part.2.metrics.count = ((c.counted id part.1).length : Int) := by
    intro part among
    have mem := List.mem_of_mem_filter (List.mem_of_mem_filter among)
    rw [← booked.counts, countAt_of_get? ((booked.distinct id).get?_of_mem mem BEq.rfl)]
  have total : Snapshot.totalCount (sourcesOf j entry.1.start stop (c.state.shelf id)).values =
      ((sourcesOf j entry.1.start stop (c.state.shelf id)).map
        fun part => ((c.counted id part.1).length : Int)).sum := by
    rw [Snapshot.totalCount, Exact.tally_eq, Entries.values, List.map_map]
    exact congrArg List.sum (List.map_congr_left counts)
  rw [count, total, Exact.sum_lengths, keys, Entries.keys, List.flatMap_map]

/-- What a pass leaves alone counts what it counted, and what it adds counts what was rolled up. -/
theorem Booked.counts_aggregate (booked : c.Booked) (id : String) (key : WindowKey) :
    (c.aggregate interval time windowStart shared).state.countAt id key =
      ((c.aggregate interval time windowStart shared).counted id key).length := by
  cases has : (c.state.shelf id).has key with
  | true =>
    rw [counted_aggregate_of_has has, ← booked.counts]
    rcases c.aggregate_cases interval time windowStart shared with same | ⟨j, d', -, gathers, own⟩
    · rw [same]
    · rw [own, countAt, gathers.enlarges.get?_of_has has]
      rfl
  | false =>
    cases has' : ((c.aggregate interval time windowStart shared).state.shelf id).has key with
    | false =>
      rw [counted_aggregate_of_not_has has' has, countAt_of_not_has has']
      rfl
    | true =>
      obtain ⟨entry, mem, same⟩ := List.any_eq_true.1 has'
      have absent := (Entries.has_congr _ same).trans has
      obtain ⟨j, d', source, gathers, gathered⟩ := exists_gathers mem absent
      rw [countAt_of_get? (booked.distinct_aggregate.get?_of_mem mem same),
        booked.counted_aggregate mem absent same]
      exact booked.count_gathered source gathers gathered absent

theorem Booked.aggregate (booked : c.Booked) (interval : Interval)
    (time windowStart : Option Moment) (shared : Shared) :
    (c.aggregate interval time windowStart shared).Booked := by
  refine ⟨fun _ => booked.distinct_aggregate, fun id => ?_, booked.counts_aggregate⟩
  rcases c.aggregate_cases interval time windowStart shared with same | ⟨j, d', -, gathers, own⟩
  · rw [same]
    exact booked.latest id
  · rw [own, gathers.enlarges.recorder]
    exact booked.latest id

end

theorem Booked.next (booked : c.Booked) (turn : Turn α) : (c.next turn).Booked := by
  cases turn with
  | record e shared => exact booked.record e shared
  | aggregate interval time windowStart shared =>
    exact booked.aggregate interval time windowStart shared

end Chronicle

/-- The run of an analysis through turns that are taken one after another. -/
def chronicle (turns : List (Turn α)) (a : Analysis α) : Chronicle α :=
  turns.foldl Chronicle.next (.start a)

theorem chronicle_append_singleton (turns : List (Turn α)) (turn : Turn α) (a : Analysis α) :
    chronicle (turns ++ [turn]) a = (chronicle turns a).next turn := by
  rw [chronicle, List.foldl_append]
  rfl

theorem state_chronicle (turns : List (Turn α)) (a : Analysis α) :
    (chronicle turns a).state = afterTurns turns a := by
  induction turns using List.reverseRecOn with
  | nil => rfl
  | append_singleton turns turn ih =>
    rw [chronicle_append_singleton, Chronicle.state_next, ih, afterTurns, afterTurns,
      List.foldl_append]
    rfl

theorem booked_chronicle {a : Analysis α} (shelves : a.shelves = [])
    (buffers : a.recorder.buffers = []) (turns : List (Turn α)) : (chronicle turns a).Booked := by
  induction turns using List.reverseRecOn with
  | nil => exact Chronicle.booked_start shelves buffers
  | append_singleton turns turn ih =>
    rw [chronicle_append_singleton]
    exact ih.next turn

end

end Analysis

end Promptuary
