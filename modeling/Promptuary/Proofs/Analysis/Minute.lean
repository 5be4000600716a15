import Mathlib.Data.List.Induction
import Promptuary.Proofs.Analysis.Recording
import Promptuary.Proofs.Snapshot.Amounts
import Promptuary.Proofs.Statistics.Percentile

/-!
Minutes. The snapshot of a minute grows with every execution, and yet has just the amounts of all
executions of the minute, whatever else is recorded in between; its percentiles are those of all
their response times as long as the recorder still keeps them.
-/

namespace Promptuary

open Calendar (Interval Moment)
open Exact Operation

namespace Analysis

section

variable {α : Type} {a : Analysis α} {id : String} {key : WindowKey}

/-! ### Executions of a minute -/

/-- The executions of a template in a minute. -/
def executionsIn (id : String) (key : WindowKey) (es : List (Execution α)) : List (Execution α) :=
  es.filter fun e => e.templateId == id && minuteOf e == key

theorem executionsIn_append (id : String) (key : WindowKey) (es es' : List (Execution α)) :
    executionsIn id key (es ++ es') = executionsIn id key es ++ executionsIn id key es' :=
  List.filter_append ..

/-- The executions that the recorder still keeps of those in a minute. -/
def held (a : Analysis α) (id : String) (key : WindowKey) : List (Execution α) :=
  executionsIn id key (a.recorder.executions id)

/-- What holds of one template after calls were made: its snapshots have different keys, and the
recorder keeps the latest of its executions, or nothing at all. -/
structure Kept (id : String) (a : Analysis α) (es : List (Execution α)) : Prop where
  realTime : a.policy.realTime = true
  distinct : (a.shelf id).Distinct
  buffer : a.recorder.executions id = [] ∨
    a.recorder.enabled = true ∧ a.recorder.executions id <:+ es.filter (·.templateId == id)

/-- When one more execution is recorded, the recorder keeps the latest ones of each template. -/
theorem latest_append {e : Execution α} {a' : Analysis α} {es : List (Execution α)}
    (latest : a.recorder.executions id = [] ∨
      a.recorder.enabled = true ∧ a.recorder.executions id <:+ es.filter (·.templateId == id))
    (recorder : a'.recorder = a.recorder.keep e) :
    a'.recorder.executions id = [] ∨ a'.recorder.enabled = true ∧
      a'.recorder.executions id <:+ (es ++ [e]).filter (·.templateId == id) := by
  rw [recorder, Recorder.executions_keep, Recorder.enabled_keep, List.filter_append]
  split
  · next here =>
    obtain ⟨enabled, rfl⟩ := here
    have own : [e].filter (·.templateId == e.templateId) = [e] := by simp
    rw [own]
    refine .inr ⟨enabled, (lastItems_suffix ..).trans ?_⟩
    rcases latest with empty | ⟨-, suffix⟩
    · rw [empty]
      exact List.suffix_append ..
    · obtain ⟨before, whole⟩ := suffix
      exact ⟨before, by rw [← whole, List.append_assoc]⟩
  · next other =>
    rcases latest with empty | ⟨enabled, suffix⟩
    · exact .inl empty
    · have none : [e].filter (·.templateId == id) = [] := by
        simpa [enabled] using other
      rw [none, List.append_nil]
      exact .inr ⟨enabled, suffix⟩

theorem Kept.append {e : Execution α} {a' : Analysis α} {es : List (Execution α)}
    (kept : Kept id a es)
    (spares : Spares e.templateId (minuteOf e) { a with recorder := a.recorder.keep e } a') :
    Kept id a' (es ++ [e]) where
  realTime := by
    rw [spares.policy]
    exact kept.realTime
  distinct := by
    by_cases own : e.templateId = id
    · subst own
      exact spares.distinct kept.distinct
    · rw [spares.others id (Ne.symm own)]
      exact kept.distinct
  buffer := latest_append kept.buffer spares.recorder

theorem Kept.held_suffix {es : List (Execution α)} (kept : Kept id a es) (key : WindowKey) :
    a.held id key <:+ executionsIn id key es := by
  rcases kept.buffer with empty | ⟨-, suffix⟩
  · rw [held, empty]
    exact List.nil_suffix
  · have all : executionsIn id key (es.filter (·.templateId == id)) = executionsIn id key es := by
      rw [executionsIn, List.filter_filter]
      refine List.filter_congr fun e _ => ?_
      cases e.templateId == id <;> simp
    rw [← all]
    exact suffix.filter _

variable [Scalar α]

/-! ### Calls -/

/-- A call to record an execution, with what the parts share at that time. -/
structure Call (α : Type) where
  execution : Execution α
  shared : Shared

/-- What a call gives and leaves behind. -/
def Call.made (c : Call α) (a : Analysis α) :
    Except Failure (List (Anomaly α)) × Desk (Analysis α) :=
  (record c.execution).on ⟨a, c.shared⟩

/-- Whether the execution of a call is stored. -/
def Call.stores (c : Call α) (a : Analysis α) : Bool := Analysis.stores c.execution ⟨a, c.shared⟩

/-- The state after calls were made one after another. -/
def made (calls : List (Call α)) (a : Analysis α) : Analysis α :=
  calls.foldl (fun a c => (c.made a).2.own) a

/-- The executions of calls that were stored. -/
def recorded : List (Call α) → Analysis α → List (Execution α)
  | [], _ => []
  | c :: calls, a =>
    (if c.stores a then [c.execution] else []) ++ recorded calls (c.made a).2.own

/-- Calls of which each that stored an execution of a minute has returned. -/
def Unbroken (id : String) (key : WindowKey) : List (Call α) → Analysis α → Prop
  | [], _ => True
  | c :: calls, a =>
    (c.stores a = true → executionsIn id key [c.execution] ≠ [] →
      ∃ found, (c.made a).1 = .ok found) ∧ Unbroken id key calls (c.made a).2.own

variable {calls : List (Call α)} {c : Call α}

theorem made_append (before after : List (Call α)) (a : Analysis α) :
    made (before ++ after) a = made after (made before a) := List.foldl_append ..

theorem recorded_append (before after : List (Call α)) (a : Analysis α) :
    recorded (before ++ after) a = recorded before a ++ recorded after (made before a) := by
  induction before generalizing a with
  | nil => rfl
  | cons c before ih =>
    rw [List.cons_append, recorded, ih, recorded, List.append_assoc]
    rfl

theorem made_append_one (calls : List (Call α)) (c : Call α) (a : Analysis α) :
    made (calls ++ [c]) a = (c.made (made calls a)).2.own := made_append ..

/-- A call more has recorded its execution if it was stored, and nothing otherwise. -/
theorem recorded_append_one (calls : List (Call α)) (c : Call α) (a : Analysis α) :
    recorded (calls ++ [c]) a =
      recorded calls a ++ if c.stores (made calls a) then [c.execution] else [] := by
  rw [recorded_append, recorded, recorded, List.append_nil]

theorem unbroken_append {before after : List (Call α)} :
    Unbroken id key (before ++ after) a ↔
      Unbroken id key before a ∧ Unbroken id key after (made before a) := by
  induction before generalizing a with
  | nil => exact ⟨fun rest => ⟨trivial, rest⟩, fun ⟨_, rest⟩ => rest⟩
  | cons c before ih =>
    rw [List.cons_append, Unbroken, ih, Unbroken, and_assoc]
    rfl

theorem exists_call_of_mem_recorded {e : Execution α} (mem : e ∈ recorded calls a) :
    ∃ c ∈ calls, c.execution = e := by
  induction calls generalizing a with
  | nil => exact absurd mem List.not_mem_nil
  | cons first calls ih =>
    rw [recorded, List.mem_append] at mem
    rcases mem with here | later
    · split at here
      · exact ⟨first, List.mem_cons_self, (List.mem_singleton.1 here).symm⟩
      · exact absurd here List.not_mem_nil
    · obtain ⟨c, mem, same⟩ := ih later
      exact ⟨c, List.mem_cons_of_mem _ mem, same⟩

/-! ### The last execution of a minute -/

/-- The last of some calls that counted an execution in a minute, with those before and after. -/
structure LastCounted (id : String) (key : WindowKey) (a : Analysis α)
    (calls before : List (Call α)) (c : Call α) (after : List (Call α)) : Prop where
  split : calls = before ++ c :: after
  stored : c.stores (made before a) = true
  counted : executionsIn id key [c.execution] = [c.execution]
  last : executionsIn id key (recorded after (made (before ++ [c]) a)) = []

theorem LastCounted.append {before after : List (Call α)} {c next : Call α}
    (last : LastCounted id key a calls before c after)
    (none : executionsIn id key (recorded [next] (made calls a)) = []) :
    LastCounted id key a (calls ++ [next]) before c (after ++ [next]) where
  split := by rw [last.split, List.append_assoc, List.cons_append]
  stored := last.stored
  counted := last.counted
  last := by
    have state : made after (made (before ++ [c]) a) = made calls a := by
      rw [← made_append, last.split, List.append_assoc]
      rfl
    rw [recorded_append, executionsIn_append, state]
    exact List.append_eq_nil_iff.2 ⟨last.last, none⟩

/-- If the last call of all counted an execution, it is the last that did. -/
theorem LastCounted.eq_whole {first before after : List (Call α)} {c c' : Call α}
    (last : LastCounted id key a (first ++ [c']) before c after)
    (stored : c'.stores (made first a) = true)
    (counted : executionsIn id key [c'.execution] ≠ []) : before ++ [c] = first ++ [c'] := by
  have split := last.split
  rcases List.eq_nil_or_concat after with rfl | ⟨rest, x, rfl⟩
  · exact split.symm
  · rw [List.concat_eq_append, ← List.cons_append, ← List.append_assoc] at split
    obtain ⟨rfl, same⟩ := List.append_inj' split rfl
    cases same
    have state : made rest (made (before ++ [c]) a) = made (before ++ c :: rest) a := by
      rw [← made_append, List.append_assoc]
      rfl
    have one : recorded [c'] (made (before ++ c :: rest) a) = [c'.execution] := by
      rw [recorded, stored]
      rfl
    have none := last.last
    rw [List.concat_eq_append, recorded_append, state, one, executionsIn_append] at none
    exact absurd (List.append_eq_nil_iff.1 none).2 counted

/-! ### What a call that returns has done -/

/-- The snapshot of the minute of an execution has grown when the call returned. -/
theorem Recorded.get? {e : Execution α} {m : Metrics α} {d d' : Desk (Analysis α)}
    {stop cutoff : Moment} {inWindow : List (Execution α)} {custom : Entries String α}
    {s : Snapshot α} (recorded : Recorded e m d d' stop cutoff inWindow custom)
    (distinct : (d.own.shelf e.templateId).Distinct)
    (found : (d'.own.shelf e.templateId).get? key = some s) (here : (minuteOf e == key) = true) :
    s = grown (d.own.minuteSnapshot e) m e (inWindow.map (·.responseTime)) custom := by
  rw [recorded.shelf, if_pos rfl] at found
  obtain ⟨k, same, mem, -⟩ := ((distinct.put ..).get?_filter _).1 found
  have put := (distinct.put ..).get?_of_mem mem same
  rw [Entries.get?_put, if_pos here] at put
  exact (Option.some.inj put).symm

/-- The executions that give the percentiles are those of the minute that the recorder keeps. -/
theorem Recorded.inWindow_eq {e : Execution α} {m : Metrics α} {d d' : Desk (Analysis α)}
    {stop cutoff : Moment} {inWindow : List (Execution α)} {custom : Entries String α}
    {es : List (Execution α)} (recorded : Recorded e m d d' stop cutoff inWindow custom)
    (kept : Kept e.templateId d'.own es) (here : (minuteOf e == key) = true)
    (whole : ∀ x ∈ es, x.templateId = e.templateId → x.executedAt.WholeMinutes)
    (whole' : e.executedAt.WholeMinutes) : inWindow = d'.own.held e.templateId key := by
  have chosen := recorded.chosen
  rw [← recorded.recorder] at chosen
  obtain ⟨answers, rfl⟩ := Outcome.filterM_spec chosen
  refine List.filter_congr fun x mem => ?_
  rcases kept.buffer with empty | ⟨-, suffix⟩
  · rw [empty] at mem
    exact absurd mem List.not_mem_nil
  obtain ⟨mem_es, own⟩ := List.mem_filter.1 (suffix.mem mem)
  have same := eq_of_beq own
  have answer :=
    Calendar.isIn?_minute (whole x mem_es same) whole' recorded.ended (answers x mem)
  rw [answer, own, Bool.true_and, ← BEq.congr_right here]
  rfl

end

end Analysis

variable {α : Type} [Field α] [LinearOrder α] [FloorRing α] [Numerals α]

/-- In exact arithmetic no amount is out of range. -/
theorem Metrics.addAmounts_ok (m : Metrics α) (e : Execution α) :
    ∃ m', (m.addOutcome e).addAmounts e = .ok m' := ⟨_, rfl⟩

namespace Analysis

/-! ### Minutes are counted -/

variable {a : Analysis α} {calls : List (Call α)} {id : String} {key : WindowKey}

/-- A minute of a template has a snapshot after each call from its first execution on. -/
def NeverDropped (id : String) (key : WindowKey) (a : Analysis α) (calls : List (Call α)) : Prop :=
  ∀ before, before <+: calls → executionsIn id key (recorded before a) ≠ [] →
    ((made before a).shelf id).has key = true

/-- What a snapshot tells of executions of which some are still held: their amounts, and their
percentiles if all are held. -/
structure Tells (s : Snapshot α) (es held : List (Execution α)) : Prop where
  amounts : s.Amounts es
  spread : held = es → s.metrics.spread = interpolatedSpread (es.map (·.responseTime))
  mean : held ≠ es →
    let mean := meanOver (·.responseTime) es
    s.metrics.spread = ⟨mean, mean, mean⟩

/-- The snapshot of a minute tells of all executions of a template in that minute. What counts for
its percentiles is what the recorder held after the last of them. -/
def Told (id : String) (key : WindowKey) (a : Analysis α) (calls : List (Call α)) : Prop :=
  ∃ before c after s, LastCounted id key a calls before c after ∧
    ((made calls a).shelf id).get? key = some s ∧
    Tells s (executionsIn id key (recorded calls a)) ((made (before ++ [c]) a).held id key)

/-- What holds of a minute of a template after calls were made, if its snapshot was not dropped. -/
structure Counted (id : String) (key : WindowKey) (a : Analysis α) (calls : List (Call α)) :
    Prop where
  kept : Kept id (made calls a) (recorded calls a)
  absent : executionsIn id key (recorded calls a) = [] → ((made calls a).shelf id).get? key = none
  told : executionsIn id key (recorded calls a) ≠ [] → Told id key a calls

theorem counted_nil (shelves : a.shelves = []) (buffers : a.recorder.buffers = [])
    (realTime : a.policy.realTime = true) : Counted id key a [] := by
  refine ⟨⟨realTime, ?_, .inl ?_⟩, fun _ => ?_, fun none => absurd rfl none⟩
  · change (a.shelf id).Distinct
    rw [shelf, shelves]
    exact Entries.distinct_nil
  · change a.recorder.executions id = []
    rw [Recorder.executions, buffers]
    rfl
  · change (a.shelf id).get? key = none
    rw [shelf, shelves]
    rfl

/-- The snapshot to which an execution is added has the amounts of those before it. -/
theorem Counted.amounts_minuteSnapshot {e : Execution α} (counted : Counted id key a calls)
    (own : e.templateId = id) (here : (minuteOf e == key) = true) :
    ((made calls a).minuteSnapshot e).Amounts (executionsIn id key (recorded calls a)) := by
  rw [minuteSnapshot, own, Entries.get?_congr _ here]
  by_cases none : executionsIn id key (recorded calls a) = []
  · rw [counted.absent none, none]
    exact Snapshot.amounts_empty ..
  · obtain ⟨before, c, after, s, -, is, tells⟩ := counted.told none
    rw [is]
    exact tells.amounts

/-- A call that counts nothing in a minute leaves its snapshot as it is. -/
theorem Counted.append_other {c : Call α} (counted : Counted id key a calls)
    (kept : Kept id (made (calls ++ [c]) a) (recorded (calls ++ [c]) a))
    (none : executionsIn id key (recorded [c] (made calls a)) = [])
    (found : ∀ s, ((made (calls ++ [c]) a).shelf id).get? key = some s →
      ((made calls a).shelf id).get? key = some s)
    (present : executionsIn id key (recorded (calls ++ [c]) a) ≠ [] →
      ((made (calls ++ [c]) a).shelf id).has key = true) :
    Counted id key a (calls ++ [c]) := by
  have same : executionsIn id key (recorded (calls ++ [c]) a) =
      executionsIn id key (recorded calls a) := by
    rw [recorded_append, executionsIn_append, none, List.append_nil]
  refine ⟨kept, fun empty => ?_, fun some => ?_⟩
  · rw [same] at empty
    have absent := counted.absent empty
    refine Option.eq_none_iff_forall_ne_some.2 fun s is => ?_
    rw [found s is] at absent
    cases absent
  · have has := present some
    rw [same] at some
    obtain ⟨before, c', after, s, last, is, tells⟩ := counted.told some
    rw [Entries.has_eq_isSome] at has
    obtain ⟨s', is'⟩ := Option.isSome_iff_exists.1 has
    cases is.symm.trans (found s' is')
    refine ⟨before, c', after ++ [c], s, last.append none, is', ?_⟩
    rw [same]
    exact tells

/-! ### One execution more -/

section

variable [IsStrictOrderedRing α]

section

variable {s : Snapshot α} {m : Metrics α} {es : List (Execution α)} {e : Execution α}

/-- A snapshot that has grown has the amounts of one execution more. -/
theorem amounts_grown (amounts : s.Amounts es)
    (counted : (s.metrics.addOutcome e).addAmounts e = .ok m) (times : List α)
    (custom : Entries String α) : (grown s m e times custom).Amounts (es ++ [e]) := by
  obtain ⟨m', counted', added⟩ := amounts.add e
  cases counted.symm.trans counted'
  exact { added with }

/-- The percentiles of a snapshot that has grown: those of the known times, if they are as many as
its executions, and its mean otherwise. -/
theorem spread_grown (amounts : s.Amounts es)
    (counted : (s.metrics.addOutcome e).addAmounts e = .ok m) (times : List α)
    (custom : Entries String α) : (grown s m e times custom).metrics.spread =
      if times.length = (es ++ [e]).length then interpolatedSpread times
      else
        let mean := meanOver (·.responseTime) (es ++ [e])
        ⟨mean, mean, mean⟩ := by
  obtain ⟨m', counted', added⟩ := amounts.add e
  cases counted.symm.trans counted'
  have spread : (grown s m e times custom).metrics.spread =
      if (times.length : Int) = ((s.withMetrics m).addProvider e).metrics.count
      then Sample.spread times
      else
        let mean := ((s.withMetrics m).addProvider e).metrics.responseTime
        ⟨mean, mean, mean⟩ := rfl
  rw [spread, added.count, added.responseTime, spread_eq]
  simp only [Int.natCast_inj]

end

/-- The snapshot of a minute after one execution more. -/
theorem Recorded.tells {e : Execution α} {m : Metrics α} {d d' : Desk (Analysis α)}
    {stop cutoff : Moment} {inWindow : List (Execution α)} {custom : Entries String α}
    {es : List (Execution α)} (recorded : Recorded e m d d' stop cutoff inWindow custom)
    (kept : Kept e.templateId d'.own (es ++ [e])) (here : (minuteOf e == key) = true)
    (whole : ∀ x ∈ es ++ [e], x.templateId = e.templateId → x.executedAt.WholeMinutes)
    (counted : ((d.own.minuteSnapshot e).metrics.addOutcome e).addAmounts e = .ok m)
    (before : (d.own.minuteSnapshot e).Amounts (executionsIn e.templateId key es)) :
    Tells (grown (d.own.minuteSnapshot e) m e (inWindow.map (·.responseTime)) custom)
      (executionsIn e.templateId key (es ++ [e])) (d'.own.held e.templateId key) := by
  have last : e.executedAt.WholeMinutes :=
    whole e (List.mem_append_right _ (List.mem_singleton_self e)) rfl
  have times := recorded.inWindow_eq kept here whole last
  have own : executionsIn e.templateId key (es ++ [e]) =
      executionsIn e.templateId key es ++ [e] := by
    simp [executionsIn, here]
  have suffix := kept.held_suffix key
  have spread := spread_grown before counted (inWindow.map (·.responseTime)) custom
  rw [← own, List.length_map, times] at spread
  refine ⟨?_, fun all => ?_, fun some => ?_⟩
  · rw [own]
    exact amounts_grown before counted ..
  · rw [times, spread, if_pos (by rw [all]), all]
  · rw [times, spread, if_neg fun same => some (suffix.eq_of_length same)]

/-- A call that counts an execution in a minute makes its snapshot tell of one execution more. -/
theorem Counted.append_own {c : Call α} (counted : Counted id key a calls)
    (kept : Kept id (made (calls ++ [c]) a) (recorded (calls ++ [c]) a))
    (stored : c.stores (made calls a) = true)
    (here : c.execution.templateId = id ∧ (minuteOf c.execution == key) = true)
    (unbroken : c.stores (made calls a) = true → executionsIn id key [c.execution] ≠ [] →
      ∃ found, (c.made (made calls a)).1 = .ok found)
    (offsets : ∀ x ∈ recorded (calls ++ [c]) a, x.templateId = id → x.executedAt.WholeMinutes)
    (present : executionsIn id key (recorded (calls ++ [c]) a) ≠ [] →
      ((made (calls ++ [c]) a).shelf id).has key = true) :
    Counted id key a (calls ++ [c]) := by
  obtain ⟨rfl, same⟩ := here
  have counts : executionsIn c.execution.templateId key [c.execution] = [c.execution] := by
    simp [executionsIn, same]
  have filled : executionsIn c.execution.templateId key [c.execution] ≠ [] := by
    rw [counts]
    exact List.cons_ne_nil _ _
  have state : made (calls ++ [c]) a = (c.made (made calls a)).2.own := made_append_one ..
  have all : recorded (calls ++ [c]) a = recorded calls a ++ [c.execution] := by
    rw [recorded_append_one, if_pos stored]
  have some : executionsIn c.execution.templateId key (recorded (calls ++ [c]) a) ≠ [] := by
    rw [all, executionsIn_append]
    exact fun none => filled (List.append_eq_nil_iff.1 none).2
  obtain ⟨m, added⟩ :=
    Metrics.addAmounts_ok ((made calls a).minuteSnapshot c.execution).metrics c.execution
  obtain ⟨found, ok⟩ := unbroken stored filled
  rcases run : c.made (made calls a) with ⟨r, d'⟩
  rw [run] at ok state
  dsimp only at ok state
  subst ok
  obtain ⟨-, stop, cutoff, inWindow, custom, step⟩ :=
    record_spec (d := ⟨made calls a, c.shared⟩) counted.kept.realTime added run
  have has := present some
  rw [Entries.has_eq_isSome] at has
  obtain ⟨s, is⟩ := Option.isSome_iff_exists.1 has
  have grows := step.get? counted.kept.distinct (state ▸ is) same
  subst grows
  refine ⟨kept, fun none => absurd none some, fun _ =>
    ⟨calls, c, [], _, ⟨rfl, stored, counts, rfl⟩, is, ?_⟩⟩
  rw [state, all] at kept ⊢
  rw [all] at offsets
  exact step.tells kept same offsets added (counted.amounts_minuteSnapshot rfl same)

/-- What holds of a minute holds after one call more. -/
theorem Counted.append {c : Call α} (counted : Counted id key a calls)
    (unbroken : c.stores (made calls a) = true → executionsIn id key [c.execution] ≠ [] →
      ∃ found, (c.made (made calls a)).1 = .ok found)
    (offsets : ∀ x ∈ recorded (calls ++ [c]) a, x.templateId = id → x.executedAt.WholeMinutes)
    (present : executionsIn id key (recorded (calls ++ [c]) a) ≠ [] →
      ((made (calls ++ [c]) a).shelf id).has key = true) :
    Counted id key a (calls ++ [c]) := by
  have one : recorded [c] (made calls a) =
      if c.stores (made calls a) then [c.execution] else [] := List.append_nil _
  have all := recorded_append_one calls c a
  have state : made (calls ++ [c]) a = (c.made (made calls a)).2.own := made_append_one ..
  cases stored : c.stores (made calls a) with
  | false =>
    obtain ⟨f, d', ran, own, -⟩ := record_of_not_stores stored
    have unchanged : made (calls ++ [c]) a = made calls a := by
      rw [state, Call.made, ran]
      exact own
    rw [stored, if_neg Bool.false_ne_true] at one all
    rw [List.append_nil] at all
    refine counted.append_other ?_ ?_ ?_ present
    · rw [unchanged, all]
      exact counted.kept
    · rw [one]
      rfl
    · rw [unchanged]
      exact fun _ is => is
  | true =>
    have spares := record_spares (d := ⟨made calls a, c.shared⟩) stored
    rw [stored, if_pos rfl] at one all
    have kept : Kept id (made (calls ++ [c]) a) (recorded (calls ++ [c]) a) := by
      rw [state, all]
      exact counted.kept.append spares
    by_cases here : c.execution.templateId = id ∧ (minuteOf c.execution == key) = true
    · exact counted.append_own kept stored here unbroken offsets present
    · have nothing : executionsIn id key (recorded [c] (made calls a)) = [] := by
        rw [one]
        simpa [executionsIn] using here
      refine counted.append_other kept nothing (fun s is => ?_) present
      rw [state] at is
      by_cases own : c.execution.templateId = id
      · subst own
        have apart : (minuteOf c.execution == key) = false := by simpa using here
        exact spares.found counted.kept.distinct key s apart is
      · have others := spares.others id (Ne.symm own)
        exact others ▸ is

end

/-! ### Examples of calls -/

/-- An analysis that has seen nothing so far. -/
def blank : Analysis ℚ where
  policy :=
    { realTime := true
      detectAnomalies := true
      findTrends := true
      snapshotDays := 30
      anomalyDays := 30
      threshold := 3
      leastSamples := 10
      window := 100
      slowFrom := 5000
      leastSuccess := 9 / 10
      costRise := 20
      burst := 5
      leastQuality := 7 / 10 }
  recorder := { enabled := true, bound := 1000 }

/-- A successful execution of a template. -/
def execution (id : String) (responseTime : ℚ) (executedAt : Moment) : Execution ℚ where
  templateId := id
  label := "1.0.0"
  bindings := []
  provider := "p"
  model := "m"
  response := ""
  responseTime
  tokens := {}
  cost := 1 / 100
  success := true
  error := none
  quality := none
  executedAt

/-- A call at the time of its execution. -/
def call (id : String) (responseTime : ℚ) (executedAt : Moment) : Call ℚ where
  execution := execution id responseTime executedAt
  shared := { repository := .memory .empty, clock := .always executedAt }

/-- Some seconds after twelve, by a clock that is ahead of the common time by some more. -/
def afterNoon (seconds : Nat) (ahead : Nat := 0) : Moment :=
  { Moment.of ⟨2024, 3, 6⟩ (12 * Calendar.hour + seconds * Calendar.second) with
    offset := some (ahead * Calendar.second : Nat) }

/-- The minute that starts at twelve. -/
def noonMinute : WindowKey := ⟨.minute, afterNoon 0⟩

/-- Calls for two templates in one minute. -/
def mixedCalls : List (Call ℚ) :=
  [call "a" 100 (afterNoon 20), call "b" 500 (afterNoon 30), call "a" 300 (afterNoon 40)]

theorem neverDropped_mixedCalls : NeverDropped "a" noonMinute blank mixedCalls := by
  intro before start
  simp only [mixedCalls, List.prefix_cons_iff, List.prefix_nil] at start
  obtain rfl | ⟨_, rfl, rfl | ⟨_, rfl, rfl | ⟨_, rfl, rfl⟩⟩⟩ := start
  · exact fun none => absurd rfl none
  all_goals exact fun _ => by decide +kernel

/-- A call whose clock is ahead by half a minute, and two in the minute at twelve. The recorder
holds all three, and the first one lies in that minute on the common time line. -/
def shiftedCalls : List (Call ℚ) :=
  [call "a" 1000 (afterNoon 40 30), call "a" 100 (afterNoon 20), call "a" 300 (afterNoon 40)]

/-- A moment in the last minute of all. -/
def lastMoment : Moment := ⟨Calendar.endOfTime - Calendar.second, none⟩

/-- The last minute of all, which has no end that could be represented. -/
def lastMinute : WindowKey := ⟨.minute, Interval.minute.startOf lastMoment⟩

/-- A call that fails before it comes to the percentiles. -/
def lastCalls : List (Call ℚ) := [call "a" 100 lastMoment]

theorem neverDropped_shiftedCalls : NeverDropped "a" noonMinute blank shiftedCalls := by
  intro before start
  simp only [shiftedCalls, List.prefix_cons_iff, List.prefix_nil] at start
  obtain rfl | ⟨_, rfl, rfl | ⟨_, rfl, rfl | ⟨_, rfl, rfl⟩⟩⟩ := start
  · exact fun none => absurd rfl none
  · exact fun none => absurd (by decide +kernel) none
  all_goals exact fun _ => by decide +kernel

theorem neverDropped_lastCalls : NeverDropped "a" lastMinute blank lastCalls := by
  intro before start
  simp only [lastCalls, List.prefix_cons_iff, List.prefix_nil] at start
  obtain rfl | ⟨_, rfl, rfl⟩ := start
  · exact fun none => absurd rfl none
  · exact fun _ => by decide +kernel

theorem interpolated_single : interpolated (95 / 100) [(100 : ℚ)] = 100 := by
  simp [interpolated]

theorem interpolated_pair : interpolated (95 / 100) [(100 : ℚ), 300] = 290 := by
  have sorted : [(100 : ℚ), 300].mergeSort (fun x y => decide (x ≤ y)) = [100, 300] :=
    List.mergeSort_of_pairwise (by norm_num)
  have place : ⌊(95 / 100 : ℚ)⌋ = 0 := by norm_num
  unfold interpolated
  rw [sorted]
  simp [place]
  norm_num

theorem not_told_shiftedCalls : ¬ Told "a" noonMinute blank shiftedCalls := by
  rintro ⟨before, c, after, s, last, is, tells⟩
  have p95 : (((made shiftedCalls blank).shelf "a").get? noonMinute).map (·.metrics.spread.p95) =
      some 200 := by decide +kernel
  rw [is, Option.map_some] at p95
  have whole : before ++ [c] = shiftedCalls.take 2 ++ [call "a" 300 (afterNoon 40)] :=
    LastCounted.eq_whole last rfl (List.cons_ne_nil _ _)
  rw [whole] at tells
  have interpolated : s.metrics.spread.p95 = interpolated (95 / 100) [100, 300] :=
    congrArg Sample.Spread.p95 (tells.spread rfl)
  rw [interpolated, interpolated_pair] at p95
  exact absurd (Option.some.inj p95) (by norm_num)

theorem not_told_lastCalls : ¬ Told "a" lastMinute blank lastCalls := by
  rintro ⟨before, c, after, s, last, is, tells⟩
  have p95 : (((made lastCalls blank).shelf "a").get? lastMinute).map (·.metrics.spread.p95) =
      some 0 := by decide +kernel
  rw [is, Option.map_some] at p95
  have whole : before ++ [c] = [] ++ [call "a" 100 lastMoment] :=
    LastCounted.eq_whole last rfl (List.cons_ne_nil _ _)
  rw [whole] at tells
  have interpolated : s.metrics.spread.p95 = interpolated (95 / 100) [100] :=
    congrArg Sample.Spread.p95 (tells.spread rfl)
  rw [interpolated, interpolated_single] at p95
  exact absurd (Option.some.inj p95) (by norm_num)

end Analysis

end Promptuary
