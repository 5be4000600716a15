import Promptuary.Proofs.Analysis.Minute

/-!
The stock of a shelf. Where no moment has an offset, every snapshot of a template has just the
amounts of the executions in its window, every minute with an execution has a snapshot unless it is
too old to be kept, and both stay so whatever is recorded and rolled up.
-/

namespace Promptuary

open Calendar (Interval Moment)
open Exact

/-! ### Keys without an offset -/

theorem WindowKey.beq_iff_eq {a b : WindowKey} (left : a.start.Naive) (right : b.start.Naive) :
    (a == b) = true ↔ a = b := by
  rw [WindowKey.beq_iff, left.same_iff right]
  obtain ⟨interval, start⟩ := a
  obtain ⟨interval', start'⟩ := b
  rw [WindowKey.mk.injEq]

theorem WindowKey.naive_of_beq {a b : WindowKey} (same : (a == b) = true) (naive : a.start.Naive) :
    b.start.Naive := by
  obtain ⟨-, start⟩ := WindowKey.beq_iff.1 same
  have comparable := (Moment.same_iff.1 start).1
  rw [Moment.Comparable, naive] at comparable
  exact Option.isNone_iff_eq_none.1 (by simpa using comparable.symm)

namespace Analysis

section

variable {α : Type} {id : String} {key : WindowKey} {s : Snapshot α} {shelf : Shelf α}
  {e : Execution α} {es : List (Execution α)} {i : Interval}

/-- The window of an interval in which an execution lies. -/
def windowOf (i : Interval) (e : Execution α) : WindowKey := ⟨i, i.startOf e.executedAt⟩

/-- The executions of a template in a window. -/
def inWindow (id : String) (key : WindowKey) (es : List (Execution α)) : List (Execution α) :=
  es.filter fun e => e.templateId == id && windowOf key.interval e == key

theorem naive_windowOf (naive : e.executedAt.Naive) : (windowOf i e).start.Naive := naive

theorem naive_append (past : ∀ x ∈ es, x.executedAt.Naive) (naive : e.executedAt.Naive) :
    ∀ x ∈ es ++ [e], x.executedAt.Naive :=
  List.forall_mem_append.2 ⟨past, List.forall_mem_singleton.2 naive⟩

theorem mem_inWindow (naive : e.executedAt.Naive) (start : key.start.Naive) :
    e ∈ inWindow id key es ↔ e ∈ es ∧ e.templateId = id ∧ windowOf key.interval e = key := by
  rw [inWindow, List.mem_filter, Bool.and_eq_true, beq_iff_eq,
    WindowKey.beq_iff_eq (naive_windowOf naive) start]

/-- An execution that is not in a window does not count there. -/
theorem inWindow_append_of_ne (other : e.templateId = id → windowOf key.interval e ≠ key)
    (naive : e.executedAt.Naive) (start : key.start.Naive) (es : List (Execution α)) :
    inWindow id key (es ++ [e]) = inWindow id key es := by
  have none : inWindow id key [e] = [] := by
    refine List.eq_nil_iff_forall_not_mem.2 fun x mem => ?_
    obtain ⟨one, -⟩ := List.mem_filter.1 mem
    cases List.mem_singleton.1 one
    obtain ⟨-, own, here⟩ := (mem_inWindow naive start).1 mem
    exact other own here
  rw [inWindow, List.filter_append]
  change inWindow id key es ++ inWindow id key [e] = _
  rw [none, List.append_nil]

theorem inWindow_append_self (own : e.templateId = id) (es : List (Execution α)) :
    inWindow id (windowOf i e) (es ++ [e]) = inWindow id (windowOf i e) es ++ [e] := by
  have one : inWindow id (windowOf i e) [e] = [e] := by
    simp [inWindow, own, windowOf]
  rw [inWindow, List.filter_append]
  change inWindow id (windowOf i e) es ++ inWindow id (windowOf i e) [e] = _
  rw [one]

theorem naive_put (naive : ∀ entry ∈ shelf, entry.1.start.Naive) (start : key.start.Naive)
    {entry : WindowKey × Snapshot α} (mem : entry ∈ shelf.put key s) : entry.1.start.Naive := by
  rcases Entries.mem_put mem with ⟨-, same | ⟨-, known⟩⟩ | old
  · rw [same]
    exact start
  · obtain ⟨other, known, same⟩ := List.mem_map.1 known
    rw [← same]
    exact naive other known
  · exact naive entry old

/-- An entry of a shelf after a snapshot was put there is the new one, or one of another window. -/
theorem mem_put (distinct : shelf.Distinct) (naive : ∀ entry ∈ shelf, entry.1.start.Naive)
    (start : key.start.Naive) {entry : WindowKey × Snapshot α} (mem : entry ∈ shelf.put key s) :
    entry = (key, s) ∨ entry ∈ shelf ∧ entry.1 ≠ key := by
  have naive := naive_put naive start mem
  by_cases here : entry.1 = key
  · have same : (entry.1 == key) = true := (WindowKey.beq_iff_eq naive start).2 here
    have found := (distinct.put key s).get?_of_mem mem same
    rw [Entries.get?_put_self] at found
    exact .inl (Prod.ext here (Option.some.inj found).symm)
  · rcases Entries.mem_put mem with ⟨-, same | ⟨same, -⟩⟩ | old
    · exact absurd same here
    · exact absurd ((WindowKey.beq_iff_eq naive start).1 same) here
    · exact .inr ⟨old, here⟩

theorem isKept_iff {cutoff : Moment} {entry : WindowKey × Snapshot α}
    (naive : entry.2.start.Naive) (since : cutoff.Naive) :
    isKept cutoff entry = true ↔ cutoff.wall < entry.2.start.wall := by
  rw [isKept, naive.le? since]
  change (!decide (entry.2.start.wall ≤ cutoff.wall)) = true ↔ _
  rw [Bool.not_eq_true', decide_eq_false_iff_not, Nat.not_le]

theorem has_iff : shelf.has key = true ↔ ∃ entry ∈ shelf, (entry.1 == key) = true :=
  List.any_eq_true

/-- Where no window has an offset, what is found for one stands under just that window. -/
theorem mem_of_get? (naive : ∀ entry ∈ shelf, entry.1.start.Naive) (start : key.start.Naive)
    (found : shelf.get? key = some s) : (key, s) ∈ shelf := by
  obtain ⟨k, same, mem⟩ := Entries.exists_mem_of_get? found
  cases (WindowKey.beq_iff_eq (naive _ mem) start).1 same
  exact mem

theorem mem_of_has (naive : ∀ entry ∈ shelf, entry.1.start.Naive) (start : key.start.Naive)
    (has : shelf.has key = true) : ∃ s, (key, s) ∈ shelf := by
  obtain ⟨⟨k, s⟩, mem, same⟩ := has_iff.1 has
  cases (WindowKey.beq_iff_eq (naive _ mem) start).1 same
  exact ⟨s, mem⟩

/-! ### Snapshots under their windows -/

/-- A shelf on which no window comes twice, no window has an offset, and each snapshot starts with
its window. -/
structure Keyed (shelf : Shelf α) : Prop where
  distinct : shelf.Distinct
  naive : ∀ entry ∈ shelf, entry.1.start.Naive
  start : ∀ entry ∈ shelf, entry.2.start = entry.1.start

theorem keyed_nil : Keyed ([] : Shelf α) :=
  ⟨Entries.distinct_nil, fun _ mem => absurd mem List.not_mem_nil,
    fun _ mem => absurd mem List.not_mem_nil⟩

theorem Keyed.put (keyed : Keyed shelf) (naive : key.start.Naive) (start : s.start = key.start) :
    Keyed (shelf.put key s) where
  distinct := keyed.distinct.put ..
  naive _ mem := naive_put keyed.naive naive mem
  start entry mem := by
    rcases mem_put keyed.distinct keyed.naive naive mem with rfl | ⟨old, -⟩
    · exact start
    · exact keyed.start entry old

theorem Keyed.filter (keyed : Keyed shelf) (p : WindowKey × Snapshot α → Bool) :
    Keyed (shelf.filter p) where
  distinct := keyed.distinct.filter p
  naive entry mem := keyed.naive entry (List.mem_filter.1 mem).1
  start entry mem := keyed.start entry (List.mem_filter.1 mem).1

theorem Keyed.mem_of_get? (keyed : Keyed shelf) (naive : key.start.Naive)
    (found : shelf.get? key = some s) : (key, s) ∈ shelf :=
  Analysis.mem_of_get? keyed.naive naive found

theorem Keyed.mem_of_has (keyed : Keyed shelf) (naive : key.start.Naive)
    (has : shelf.has key = true) : ∃ s, (key, s) ∈ shelf :=
  Analysis.mem_of_has keyed.naive naive has

theorem Keyed.isKept_iff {cutoff : Nat} {entry : WindowKey × Snapshot α} (keyed : Keyed shelf)
    (mem : entry ∈ shelf) : isKept ⟨cutoff, none⟩ entry = true ↔ cutoff < entry.1.start.wall := by
  have naive := keyed.naive entry mem
  rw [← keyed.start entry mem] at naive ⊢
  exact Analysis.isKept_iff naive rfl

/-- A window that starts after the cutoff keeps its snapshot. -/
theorem Keyed.has_kept {cutoff : Nat} (keyed : Keyed shelf) (naive : key.start.Naive)
    (since : cutoff < key.start.wall) (has : shelf.has key = true) :
    Entries.has (shelf.filter (isKept ⟨cutoff, none⟩)) key = true := by
  obtain ⟨s, mem⟩ := keyed.mem_of_has naive has
  exact has_iff.2 ⟨_, List.mem_filter.2 ⟨mem, (keyed.isKept_iff mem).2 since⟩, BEq.rfl⟩

end

variable {α : Type} [Field α] [LinearOrder α] [FloorRing α] [Numerals α]

variable {id : String} {key : WindowKey} {s : Snapshot α} {shelf : Shelf α} {e : Execution α}
  {es : List (Execution α)} {i : Interval} {now now' cutoff cutoff' : Nat}

/-! ### Stocks -/

/-- An entry of a shelf that has the amounts of the executions in its window. Unless that is a
minute, it is over. -/
structure Tallies (id : String) (es : List (Execution α)) (now : Nat)
    (entry : WindowKey × Snapshot α) : Prop where
  naive : entry.1.start.Naive
  edge : entry.1.interval.floor entry.1.start.wall = entry.1.start.wall
  start : entry.2.start = entry.1.start
  amounts : entry.2.Amounts (inWindow id entry.1 es)
  elapsed : entry.1.interval ≠ .minute → entry.1.start.wall < entry.1.interval.floor now

/-- The snapshots of a template, where the executions of all templates are known. Those of minutes
that start after the cutoff are all there. -/
structure Stock (id : String) (es : List (Execution α)) (now cutoff : Nat) (shelf : Shelf α) :
    Prop where
  distinct : shelf.Distinct
  entries : ∀ entry ∈ shelf, Tallies id es now entry
  minutes : ∀ e ∈ es, e.templateId = id → cutoff < Interval.minute.floor e.executedAt.wall →
    shelf.has (windowOf .minute e) = true

/-- All windows of an interval that are over, start after the cutoff and have an execution have a
snapshot. -/
def Covers (i : Interval) (id : String) (es : List (Execution α)) (now cutoff : Nat)
    (shelf : Shelf α) : Prop :=
  ∀ e ∈ es, e.templateId = id → cutoff < i.floor e.executedAt.wall →
    i.floor e.executedAt.wall < i.floor now → shelf.has (windowOf i e) = true

theorem Stock.keyed (stock : Stock id es now cutoff shelf) : Keyed shelf :=
  ⟨stock.distinct, fun entry mem => (stock.entries entry mem).naive,
    fun entry mem => (stock.entries entry mem).start⟩

theorem Stock.covers_minute (stock : Stock id es now cutoff shelf) :
    Covers .minute id es now cutoff shelf :=
  fun e mem own since _ => stock.minutes e mem own since

theorem stock_nil (id : String) (now cutoff : Nat) :
    Stock id ([] : List (Execution α)) now cutoff [] :=
  ⟨Entries.distinct_nil, fun _ mem => absurd mem List.not_mem_nil,
    fun _ mem => absurd mem List.not_mem_nil⟩

/-- A stock stays one as time passes. -/
theorem Stock.later (stock : Stock id es now cutoff shelf) (forward : now ≤ now')
    (since : cutoff ≤ cutoff') : Stock id es now' cutoff' shelf where
  distinct := stock.distinct
  entries entry mem :=
    { stock.entries entry mem with
      elapsed := fun coarse => ((stock.entries entry mem).elapsed coarse).trans_le
        (entry.1.interval.floor_mono forward) }
  minutes e mem own after := stock.minutes e mem own (since.trans_lt after)

/-- An execution of another template does not count. -/
theorem Stock.append_other (stock : Stock id es now cutoff shelf) (other : e.templateId ≠ id)
    (naive : e.executedAt.Naive) : Stock id (es ++ [e]) now cutoff shelf where
  distinct := stock.distinct
  entries entry mem :=
    { stock.entries entry mem with
      amounts := by
        rw [inWindow_append_of_ne (fun own => absurd own other) naive
          (stock.entries entry mem).naive]
        exact (stock.entries entry mem).amounts }
  minutes x mem own after := by
    rcases List.mem_append.1 mem with known | new
    · exact stock.minutes x known own after
    · cases List.mem_singleton.1 new
      exact absurd own other

/-! ### One execution more -/

/-- The snapshot to which an execution is added, if it is going to be kept, has the amounts of those
before it in its minute. -/
theorem Stock.amounts_minute (stock : Stock id es now cutoff shelf)
    (past : ∀ x ∈ es, x.executedAt.Naive) (naive : e.executedAt.Naive)
    (since : cutoff < Interval.minute.floor e.executedAt.wall) :
    ((shelf.get? (minuteOf e)).getD (.empty id .minute (minuteOf e).start)).Amounts
      (inWindow id (minuteOf e) es) := by
  cases found : shelf.get? (minuteOf e) with
  | some s => exact (stock.entries _ (stock.keyed.mem_of_get? naive found)).amounts
  | none =>
    have nothing : inWindow id (minuteOf e) es = [] := by
      refine List.eq_nil_iff_forall_not_mem.2 fun x mem => ?_
      obtain ⟨known, -⟩ := List.mem_filter.1 mem
      obtain ⟨known, own, here⟩ := (mem_inWindow (past x known) naive).1 mem
      have wall : Interval.minute.floor x.executedAt.wall =
          Interval.minute.floor e.executedAt.wall :=
        congrArg (fun key => key.start.wall) here
      have has := stock.minutes x known own (by rw [wall]; exact since)
      change shelf.has (windowOf (minuteOf e).interval x) = true at has
      rw [here, Entries.has_eq_isSome, found] at has
      cases has
    rw [nothing]
    exact Snapshot.amounts_empty ..

/-- A new execution lies in no window that has a snapshot, but for its minute. -/
theorem Tallies.ne_windowOf {entry : WindowKey × Snapshot α} (tallies : Tallies id es now entry)
    (present : e.executedAt = ⟨now, none⟩) (other : entry.1 ≠ minuteOf e) :
    windowOf entry.1.interval e ≠ entry.1 := by
  intro here
  by_cases fine : entry.1.interval = .minute
  · rw [fine] at here
    exact other here.symm
  · have wall : entry.1.interval.floor e.executedAt.wall = entry.1.start.wall :=
      congrArg (fun key => key.start.wall) here
    have elapsed := tallies.elapsed fine
    rw [present] at wall
    exact absurd wall (Nat.ne_of_gt elapsed)

/-- A stock after an execution was added to the snapshot of its minute and what is too old was
dropped. -/
theorem Stock.append_own (stock : Stock e.templateId es now cutoff shelf)
    (past : ∀ x ∈ es, x.executedAt.Naive) (present : e.executedAt = ⟨now, none⟩)
    (start : s.start = (minuteOf e).start)
    (counts : ∀ before, ((shelf.get? (minuteOf e)).getD
      (.empty e.templateId .minute (minuteOf e).start)).Amounts before →
        s.Amounts (before ++ [e])) :
    Stock e.templateId (es ++ [e]) now cutoff
      ((shelf.put (minuteOf e) s).filter (isKept ⟨cutoff, none⟩)) := by
  have naive : e.executedAt.Naive := by
    rw [present]
    rfl
  have minute : (minuteOf e).start = ⟨Interval.minute.floor now, none⟩ := by
    rw [minuteOf, present]
    rfl
  have keyed := stock.keyed.put naive start
  refine ⟨(stock.distinct.put ..).filter _, fun entry mem => ?_, fun x mem own' since => ?_⟩
  · obtain ⟨mem, stays⟩ := List.mem_filter.1 mem
    have since := (keyed.isKept_iff mem).1 stays
    rcases mem_put stock.distinct stock.keyed.naive naive mem with rfl | ⟨old, other⟩
    · exact {
        naive
        edge := by
          rw [minute]
          exact Interval.floor_floor ..
        start
        amounts := by
          have own : inWindow e.templateId (minuteOf e) (es ++ [e]) =
              inWindow e.templateId (minuteOf e) es ++ [e] := inWindow_append_self rfl es
          rw [own]
          exact counts _ (stock.amounts_minute past naive since)
        elapsed := fun coarse => absurd rfl coarse }
    · have tallies := stock.entries entry old
      refine { tallies with amounts := ?_ }
      rw [inWindow_append_of_ne (fun _ => ?_) naive tallies.naive]
      · exact tallies.amounts
      · exact tallies.ne_windowOf present other
  · rcases List.mem_append.1 mem with known | new
    · refine keyed.has_kept (naive_windowOf (past x known)) since ?_
      rw [Entries.has_put, stock.minutes x known own' since, Bool.or_true]
    · cases List.mem_singleton.1 new
      refine keyed.has_kept naive since ?_
      rw [Entries.has_put]
      exact Bool.or_eq_true_iff.2 (.inl BEq.rfl)

/-! ### One snapshot more -/

/-- A stock after the snapshot of a window that is over was put there. -/
theorem Stock.roll (stock : Stock id es now cutoff shelf) (naive : key.start.Naive)
    (edge : key.interval.floor key.start.wall = key.start.wall)
    (elapsed : key.start.wall < key.interval.floor now) (start : s.start = key.start)
    (amounts : s.Amounts (inWindow id key es)) : Stock id es now cutoff (shelf.put key s) where
  distinct := stock.distinct.put ..
  entries entry mem := by
    rcases mem_put stock.distinct (fun entry mem => (stock.entries entry mem).naive) naive mem with
      rfl | ⟨old, -⟩
    · exact { naive, edge, start, amounts, elapsed := fun _ => elapsed }
    · exact stock.entries entry old
  minutes e mem own since := by
    rw [Entries.has_put, stock.minutes e mem own since, Bool.or_true]

end Analysis

end Promptuary
