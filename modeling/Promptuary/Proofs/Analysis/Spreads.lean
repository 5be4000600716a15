import Mathlib.Data.List.Perm.Subperm
import Promptuary.Proofs.Analysis.Ledger
import Promptuary.Proofs.Analysis.Rollups

/-!
Whose percentiles a snapshot has that is rolled up. They are those of the executions in its window
that the recorder holds if these are as many as the snapshot counts, and nothing else is compared:
an execution that was recorded after its hour was rolled up may stand there for one that the
recorder has dropped. If nothing was dropped, or everything is counted, the two are the same.
-/

namespace Promptuary

open Calendar (Interval Moment)

namespace Analysis

section

variable {α : Type} {id : String} {key : WindowKey} {shelf : Shelf α} {i j : Interval}

/-! ### Windows -/

theorem subperm_flatMap {β γ : Type} {f g : β → List γ} {xs : List β}
    (each : ∀ x ∈ xs, (f x).Subperm (g x)) : (xs.flatMap f).Subperm (xs.flatMap g) := by
  induction xs with
  | nil => exact List.Subperm.refl _
  | cons x xs ih =>
    rw [List.flatMap_cons, List.flatMap_cons]
    exact (each x List.mem_cons_self).append
      (ih fun y mem => each y (List.mem_cons_of_mem _ mem))

/-- Where no moment has an offset, the snapshots that lie in the span of a window are those that lie
in the window. -/
theorem sourcesOf_eq_filter {stop : Moment} (naive : ∀ entry ∈ shelf, entry.1.start.Naive)
    (start : key.start.Naive) (edge : key.interval.floor key.start.wall = key.start.wall)
    (ended : key.interval.endOf? key.start = .ok stop) :
    sourcesOf j key.start stop shelf = shelf.filter (liesIn key.interval j key.start.wall) := by
  rw [start.eq, ← edge] at ended
  obtain ⟨last, rfl, inside⟩ := Interval.exists_within ended
  rw [edge] at inside
  rw [sourcesOf, ofKind, List.filter_filter]
  refine List.filter_congr fun entry mem => ?_
  rw [start.isIn? (Moment.naive_mk _) (naive entry mem), liesIn, Bool.and_comm, edge]
  simp only [inside]
  rfl

/-- Executions that the snapshots of windows count are in the coarser window in which these lie, if
each snapshot counts executions of its own window. -/
theorem subperm_sources {es : List (Execution α)} {counted : WindowKey → List (Execution α)}
    {stop : Moment} (distinct : shelf.Distinct) (naive : ∀ entry ∈ shelf, entry.1.start.Naive)
    (past : ∀ e ∈ es, e.executedAt.Naive) (source : key.interval.source? = some j)
    (start : key.start.Naive) (edge : key.interval.floor key.start.wall = key.start.wall)
    (ended : key.interval.endOf? key.start = .ok stop)
    (each : ∀ entry ∈ shelf, (counted entry.1).Subperm (inWindow id entry.1 es)) :
    ((sourcesOf j key.start stop shelf).keys.flatMap counted).Subperm (inWindow id key es) := by
  have parts : ((sourcesOf j key.start stop shelf).flatMap fun entry => counted entry.1).Subperm
      ((shelf.filter (liesIn key.interval j key.start.wall)).flatMap
        fun entry => inWindow id entry.1 es) := by
    rw [sourcesOf_eq_filter naive start edge ended]
    exact subperm_flatMap fun entry mem => each entry (List.mem_of_mem_filter mem)
  have whole : (⟨key.interval, ⟨key.interval.floor key.start.wall, none⟩⟩ : WindowKey) = key := by
    rw [edge, ← start.eq]
  have together := sources_perm id (u := key.start.wall) distinct naive past source
  rw [whole] at together
  rw [Entries.keys, List.flatMap_map]
  exact (parts.trans together.subperm).trans List.filter_sublist.subperm

end

/-! ### Executions in their windows -/

section

variable {α : Type}

/-- Where no moment has an offset, every snapshot counts executions of its template in its window,
none of them twice. -/
structure Chronicle.Placed (c : Chronicle α) : Prop where
  naive : ∀ id, ∀ entry ∈ c.state.shelf id, entry.1.start.Naive
  counted : ∀ id key, key.start.Naive →
    (c.counted id key).Subperm (inWindow id key c.recorded)

theorem Chronicle.placed_start {a : Analysis α} (shelves : a.shelves = []) :
    (Chronicle.start a).Placed := by
  constructor
  · intro id entry mem
    rw [start, shelf, shelves] at mem
    exact absurd mem List.not_mem_nil
  · exact fun _ _ _ => List.nil_subperm

/-- The executions that were recorded in a span of time are those that the recorder has dropped and,
after them, those that it holds. -/
theorem Chronicle.Booked.exists_dropped {c : Chronicle α} (booked : c.Booked) (id : String)
    (start stop : Moment) :
    ∃ dropped, executionsWithin id start stop c.recorded =
      dropped ++ (c.state.recorder.executions id).filter (liesWithin start stop) := by
  have own : executionsWithin id start stop c.recorded =
      (c.recorded.filter (·.templateId == id)).filter (liesWithin start stop) := by
    rw [List.filter_filter]
    exact List.filter_congr fun e _ => Bool.and_comm ..
  rw [own]
  rcases booked.latest id with empty | ⟨-, before, whole⟩
  · rw [empty]
    exact ⟨_, (List.append_nil _).symm⟩
  · rw [← whole, List.filter_append]
    exact ⟨_, rfl⟩

end

section

variable {α : Type} [Scalar α]

/-- A window with an offset is never rolled up from windows without. -/
theorem Gathers.naive {d d' : Desk (Analysis α)} {id : String} {i j : Interval}
    (gathers : Gathers i j d d') (naive : ∀ entry ∈ d.own.shelf id, entry.1.start.Naive) :
    ∀ entry ∈ d'.own.shelf id, entry.1.start.Naive := by
  intro entry mem
  rcases gathers.enlarges.mem_or_joins mem with old | new
  · exact naive entry old
  · obtain ⟨count, known⟩ := gathers.rolled id entry mem new.absent
    obtain ⟨stop, -, some, answers, -⟩ := rolled_parts known
    obtain ⟨part, among⟩ := List.exists_mem_of_ne_nil _ some
    have kind := List.mem_of_mem_filter among
    exact (naive part (List.mem_of_mem_filter kind)).of_isIn? (answers part kind)

namespace Chronicle

variable {c : Chronicle α} {id : String} {key : WindowKey}

theorem recorded_extends (c : Chronicle α) (turn : Turn α) : c.recorded <+: (c.next turn).recorded := by
  cases turn with
  | record e shared =>
    change c.recorded <+: if _ then _ else _
    split
    · exact List.prefix_append ..
    · exact List.prefix_refl _
  | aggregate => exact List.prefix_refl _

/-- No window with an offset comes in with an execution that has none. -/
theorem naive_record (booked : c.Booked) {e : Execution α} {shared : Shared}
    (past : ∀ id, ∀ entry ∈ c.state.shelf id, entry.1.start.Naive)
    (naive : stores e ⟨c.state, shared⟩ = true → e.executedAt.Naive) :
    ∀ entry ∈ (c.record e shared).state.shelf id, entry.1.start.Naive := by
  intro entry mem
  cases stored : stores e ⟨c.state, shared⟩ with
  | false =>
    rw [state_record_of_not_stores stored] at mem
    exact past id entry mem
  | true =>
    have spares := record_spares (d := ⟨c.state, shared⟩) stored
    by_cases own : id = e.templateId
    · subst own
      cases here : minuteOf e == entry.1 with
      | true => exact WindowKey.naive_of_beq here (naive stored)
      | false =>
        have distinct := (booked.record e shared).distinct e.templateId
        have found := spares.found (booked.distinct _) entry.1 entry.2 here
          (distinct.get?_of_mem mem BEq.rfl)
        obtain ⟨k, same, known⟩ := Entries.exists_mem_of_get? found
        exact WindowKey.naive_of_beq same (past _ _ known)
    · exact past id entry (spares.others id own ▸ mem)

theorem Placed.record (placed : c.Placed) (booked : c.Booked) (e : Execution α) (shared : Shared)
    (past : ∀ e' ∈ (c.record e shared).recorded, e'.executedAt.Naive) :
    (c.record e shared).Placed := by
  have recorded (stored : stores e ⟨c.state, shared⟩ = true) :
      (c.record e shared).recorded = c.recorded ++ [e] := if_pos stored
  have naive (stored : stores e ⟨c.state, shared⟩ = true) : e.executedAt.Naive := by
    refine past e ?_
    rw [recorded stored]
    exact List.mem_append_right _ (List.mem_singleton_self e)
  refine ⟨fun id => naive_record booked placed.naive naive, fun id key start => ?_⟩
  cases found : ((c.record e shared).state.shelf id).get? key with
  | none =>
    rw [counted_record_of_get?_eq_none found]
    exact List.nil_subperm
  | some s =>
    rcases booked.record_cases found with ⟨-, same⟩ | ⟨stored, own, here, -, more⟩
    · rw [same]
      exact (placed.counted id key start).trans
        ((c.recorded_extends (.record e shared)).sublist.filter _).subperm
    · have minute : windowOf .minute e = key :=
        (WindowKey.beq_iff_eq (naive_windowOf (naive stored)) start).1 here
      rw [more, recorded stored, ← minute, inWindow_append_self own, minute,
        List.subperm_append_right]
      exact placed.counted id key start

/-- What a snapshot counts that a pass has added lies in its window. -/
theorem Placed.gathered (placed : c.Placed) (booked : c.Booked) {i j : Interval} {shared : Shared}
    {d' : Desk (Analysis α)} {entry : WindowKey × Snapshot α}
    (past : ∀ e ∈ c.recorded, e.executedAt.Naive) (source : i.source? = some j)
    (gathers : Gathers i j ⟨c.state, shared⟩ d') (mem : entry ∈ d'.own.shelf id)
    (absent : (c.state.shelf id).has entry.1 = false) :
    ((sourceKeys entry.1 (c.state.shelf id)).flatMap (c.counted id)).Subperm
      (inWindow id entry.1 c.recorded) := by
  obtain ⟨stop, ended, keys, -⟩ := gathers.merged source mem absent
  have joins := gathers.joins mem absent
  have interval : entry.1.interval = i := joins.among
  have edge : entry.1.interval.floor entry.1.start.wall = entry.1.start.wall :=
    congrArg Moment.wall joins.aligned
  rw [← interval] at source
  rw [keys]
  refine subperm_sources (booked.distinct id) (placed.naive id) past source
    (gathers.naive (placed.naive id) entry mem) edge ended fun part among => ?_
  exact placed.counted id part.1 (placed.naive id part among)

theorem Placed.aggregate (placed : c.Placed) (booked : c.Booked) (interval : Interval)
    (time windowStart : Option Moment) (shared : Shared)
    (past : ∀ e ∈ c.recorded, e.executedAt.Naive) :
    (c.aggregate interval time windowStart shared).Placed := by
  have naive : ∀ id, ∀ entry ∈ (c.aggregate interval time windowStart shared).state.shelf id,
      entry.1.start.Naive := by
    intro id entry mem
    rcases c.aggregate_cases interval time windowStart shared with same | ⟨j, d', -, gathers, own⟩
    · rw [same] at mem
      exact placed.naive id entry mem
    · rw [own] at mem
      exact gathers.naive (placed.naive id) entry mem
  refine ⟨naive, fun id key start => ?_⟩
  change ((c.aggregate interval time windowStart shared).counted id key).Subperm
    (inWindow id key c.recorded)
  cases has : (c.state.shelf id).has key with
  | true =>
    rw [counted_aggregate_of_has has]
    exact placed.counted id key start
  | false =>
    cases has' : ((c.aggregate interval time windowStart shared).state.shelf id).has key with
    | false =>
      rw [counted_aggregate_of_not_has has' has]
      exact List.nil_subperm
    | true =>
      obtain ⟨s, mem⟩ := mem_of_has (naive id) start has'
      obtain ⟨j, d', source, gathers, gathered⟩ := exists_gathers mem has
      rw [booked.counted_aggregate mem has BEq.rfl]
      exact placed.gathered booked past source gathers gathered has

end Chronicle

theorem placed_chronicle {a : Analysis α} (shelves : a.shelves = [])
    (buffers : a.recorder.buffers = []) (turns : List (Turn α))
    (past : ∀ e ∈ (chronicle turns a).recorded, e.executedAt.Naive) :
    (chronicle turns a).Placed := by
  induction turns using List.reverseRecOn with
  | nil => exact Chronicle.placed_start shelves
  | append_singleton turns turn ih =>
    rw [chronicle_append_singleton] at past ⊢
    have earlier : ∀ e ∈ (chronicle turns a).recorded, e.executedAt.Naive :=
      fun e mem => past e (((chronicle turns a).recorded_extends turn).subset mem)
    have booked := booked_chronicle shelves buffers turns
    cases turn with
    | record e shared => exact (ih earlier).record booked e shared past
    | aggregate interval time windowStart shared =>
      exact (ih earlier).aggregate booked interval time windowStart shared earlier

/-- Lists of which one is a part of the other's whole are the same as far as order does not matter,
if they are of one length and either nothing was dropped of the whole or nothing is missing of it. -/
theorem perm_of_subperm_append {β : Type} {counted dropped held : List β}
    (part : counted.Subperm (dropped ++ held)) (same : held.length = counted.length)
    (all : dropped = [] ∨ counted.length = (dropped ++ held).length) : held.Perm counted := by
  have nothing : dropped = [] := by
    rcases all with nothing | all
    · exact nothing
    · rw [List.length_append] at all
      exact List.eq_nil_of_length_eq_zero (by omega)
  rw [nothing, List.nil_append] at part
  exact (part.perm_of_length_le same.le).symm

/-- What is known of a snapshot that a pass has added: how many executions it counts, and what its
percentiles are taken from. -/
theorem Chronicle.Booked.spread_gathered {c : Chronicle α} (booked : c.Booked) {i j : Interval}
    {shared : Shared} {d' : Desk (Analysis α)} {id : String} {entry : WindowKey × Snapshot α}
    (source : i.source? = some j) (gathers : Gathers i j ⟨c.state, shared⟩ d')
    (mem : entry ∈ d'.own.shelf id) (absent : (c.state.shelf id).has entry.1 = false) :
    ∃ stop, i.endOf? entry.1.start = .ok stop ∧
      let parts := sourcesOf j entry.1.start stop (c.state.shelf id)
      let counted := (sourceKeys entry.1 (c.state.shelf id)).flatMap (c.counted id)
      let held := (c.state.recorder.executions id).filter (liesWithin entry.1.start stop)
      entry.2.metrics.count = counted.length ∧
      if held ≠ [] ∧ held.length = counted.length
        then entry.2.metrics.spread = Sample.spread (held.map (·.responseTime))
        else Snapshot.mergeSpread parts.values [] = .ok entry.2.metrics.spread := by
  obtain ⟨stop, ended, -, merged⟩ := gathers.merged source mem absent
  obtain ⟨total, spread, -⟩ := Snapshot.parts_of_mergeMetrics merged
  have count := booked.count_gathered source gathers mem absent
  rw [(gathers.joins mem absent).among] at ended
  refine ⟨stop, ended, count, ?_⟩
  rw [Snapshot.mergeSpread_eq, ← total, count, List.length_map] at spread
  simp only [ne_eq, List.map_eq_nil_iff, Int.natCast_inj] at spread
  split
  · next all =>
    rw [if_pos all] at spread
    exact (Except.ok.inj spread).symm
  · next some =>
    rw [if_neg some] at spread
    exact spread

/-- A snapshot that is rolled up counts the executions of the snapshots that it is rolled up from.
Its percentiles are those of the executions in its window that the recorder holds if there are any
and they are as many. Where no moment has an offset these are the same executions if the recorder
has dropped none of the window, or the snapshot counts all that were recorded in it. -/
theorem rollup_percentiles {a : Analysis α} (shelves : a.shelves = [])
    (buffers : a.recorder.buffers = []) (turns : List (Turn α)) (interval : Interval)
    (time windowStart : Option Moment) (shared : Shared) {id : String}
    {entry : WindowKey × Snapshot α}
    (absent : ((afterTurns turns a).shelf id).has entry.1 = false)
    (mem : entry ∈ (afterTurns (turns ++ [.aggregate interval time windowStart shared]) a).shelf id) :
    let c := chronicle turns a
    let c' := chronicle (turns ++ [.aggregate interval time windowStart shared]) a
    ∃ j stop dropped,
      interval.source? = some j ∧ interval.endOf? entry.1.start = .ok stop ∧
      let parts := sourcesOf j entry.1.start stop (c.state.shelf id)
      let counted := c'.counted id entry.1
      let within := executionsWithin id entry.1.start stop c.recorded
      let held := (c.state.recorder.executions id).filter (liesWithin entry.1.start stop)
      within = dropped ++ held ∧ entry.2.metrics.count = counted.length ∧
      (if held ≠ [] ∧ held.length = counted.length
        then entry.2.metrics.spread = Sample.spread (held.map (·.responseTime))
        else Snapshot.mergeSpread parts.values [] = .ok entry.2.metrics.spread) ∧
      ((∀ e ∈ c.recorded, e.executedAt.Naive) → counted.Subperm within ∧
        (held.length = counted.length → dropped = [] ∨ counted.length = within.length →
          held.Perm counted)) := by
  intro c c'
  have booked : c.Booked := booked_chronicle shelves buffers turns
  have after : c' = c.aggregate interval time windowStart shared := chronicle_append_singleton ..
  rw [← state_chronicle] at absent mem
  change entry ∈ c'.state.shelf id at mem
  rw [after] at mem ⊢
  have counted := booked.counted_aggregate mem absent BEq.rfl
  obtain ⟨j, d', source, gathers, gathered⟩ := Chronicle.exists_gathers mem absent
  obtain ⟨stop, ended, count, spread⟩ := booked.spread_gathered source gathers gathered absent
  obtain ⟨dropped, split⟩ := booked.exists_dropped id entry.1.start stop
  rw [← counted] at count spread
  refine ⟨j, stop, dropped, source, ended, split, count, spread, fun past => ?_⟩
  have placed : c.Placed := placed_chronicle shelves buffers turns past
  have part := placed.gathered booked past source gathers gathered absent
  have edge : entry.1.interval.floor entry.1.start.wall = entry.1.start.wall :=
    congrArg Moment.wall (gathers.joins gathered absent).aligned
  rw [← (gathers.joins gathered absent).among] at ended
  rw [← counted, ← executionsWithin_eq_inWindow (gathers.naive (placed.naive id) entry gathered) edge
    ended id past] at part
  refine ⟨part, fun same all => ?_⟩
  rw [split] at part all
  exact perm_of_subperm_append part same all

end

/-! ### An execution that comes late -/

section

open Exact

/-- A time of a day in March, by a clock without a zone. -/
def inMarch (day time : Nat) : Moment := Moment.of ⟨2024, 3, day⟩ time

/-- What the parts share when the clock shows a time of a day in March. -/
def sharedInMarch (day time : Nat) : Shared where
  repository := .memory .empty
  clock := .always (inMarch day time)

/-- An analysis whose recorder keeps one execution of each template. -/
def narrow : Analysis ℚ := { blank with recorder := { blank.recorder with bound := 1 } }

/-- An execution, the rollup of its hour, and an execution of the same hour that comes after it. -/
def lateArrival : List (Turn ℚ) :=
  [.record (execution "a" 100 (inMarch 6 (10 * Calendar.hour + 5 * Calendar.minute)))
     (sharedInMarch 6 (10 * Calendar.hour + 5 * Calendar.minute)),
   .aggregate .hour none none (sharedInMarch 6 (11 * Calendar.hour)),
   .record (execution "a" 900 (inMarch 6 (10 * Calendar.hour + 10 * Calendar.minute)))
     (sharedInMarch 6 (11 * Calendar.hour))]

/-- The rollup of the day, after all that. -/
def dayAfter : Turn ℚ := .aggregate .day none none (sharedInMarch 7 0)

/-- The day counts the first execution only, and has the percentiles of the second one only. -/
theorem rollup_percentiles_lateArrival :
    ∃ entry ∈ (afterTurns (lateArrival ++ [dayAfter]) narrow).shelf "a",
      ((afterTurns lateArrival narrow).shelf "a").has entry.1 = false ∧
      ((chronicle (lateArrival ++ [dayAfter]) narrow).counted "a" entry.1).map (·.responseTime) =
        [100] ∧
      ∃ held : List (Execution ℚ), held.map (·.responseTime) = [900] ∧
        entry.2.metrics.spread = Sample.spread (held.map (·.responseTime)) := by
  obtain ⟨entry, mem, start, absent, times⟩ :
      ∃ entry ∈ (afterTurns (lateArrival ++ [dayAfter]) narrow).shelf "a",
        entry.1.start = inMarch 6 0 ∧
        ((afterTurns lateArrival narrow).shelf "a").has entry.1 = false ∧
        ((chronicle (lateArrival ++ [dayAfter]) narrow).counted "a" entry.1).map (·.responseTime) =
          [100] := by decide +kernel
  refine ⟨entry, mem, absent, times, ?_⟩
  obtain ⟨j, stop, dropped, source, ended, split, count, spread, -⟩ :=
    rollup_percentiles rfl rfl lateArrival .day none none (sharedInMarch 7 0) absent mem
  have known : Interval.day.endOf? (inMarch 6 0) = .ok (inMarch 7 0) := by decide +kernel
  rw [start] at ended spread
  cases ended.symm.trans known
  have held : (((chronicle lateArrival narrow).state.recorder.executions "a").filter
      (liesWithin (inMarch 6 0) (inMarch 7 0))).map (·.responseTime) = [900] := by decide +kernel
  have one := congrArg List.length held
  have one' := congrArg List.length times
  rw [List.length_map] at one one'
  refine ⟨_, held, ?_⟩
  rw [if_pos ⟨List.ne_nil_of_length_eq_add_one one, one.trans one'.symm⟩] at spread
  exact spread

end

end Analysis

end Promptuary
