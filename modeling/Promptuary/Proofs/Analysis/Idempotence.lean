import Promptuary.Proofs.Analysis.Range
import Promptuary.Proofs.Analysis.Rollups

/-!
Aggregation is idempotent and only ever adds. Main statement: for every state of an analysis, a pass
or all passes leave every snapshot that is there, add snapshots of windows that had none, and change
nothing when they are made again at the same time; where windows end within the calendar and counts
are in the range of scalars, they succeed.
-/

namespace Promptuary

open Calendar (Interval Moment)
open Counts Operation

namespace Analysis

section

variable {α : Type} [Scalar α]

/-- What passes over some intervals at a time need to succeed: no moment has an offset, the windows
that hold snapshots end within the calendar, and so many counts as are on a shelf are in the range
of scalars. -/
structure Feasible (among : Interval → Prop) (now : Moment) (d : Desk (Analysis α)) : Prop where
  calculable : Calculable among d
  time : now.Naive
  since : ∃ cutoff, now.daysBefore? d.own.policy.snapshotDays = .ok cutoff
  representable : ∃ bound, Representable α bound ∧ ∀ id, load (d.own.shelf id) ≤ bound

theorem Feasible.aggregate_runs {d : Desk (Analysis α)} {i : Interval} {now : Moment}
    {windowStart : Option Moment} (feasible : Feasible (· = i) now d) (coarse : i ≠ .minute)
    (given : ∀ t ∈ windowStart, t.Naive ∧ i.HasEnd t) :
    ∃ created, ((aggregate i (some now) windowStart).on d).1 = .ok created := by
  obtain ⟨j, source⟩ := exists_source coarse
  obtain ⟨cutoff, since⟩ := feasible.since
  obtain ⟨bound, representable, light⟩ := feasible.representable
  obtain ⟨created, d', ran, -⟩ := aggregate_ok feasible.calculable rfl source feasible.time since
    given representable fun id => (load_filter_le ..).trans (light id)
  exact ⟨created, by rw [ran]⟩

theorem Feasible.runOnce_runs {d : Desk (Analysis α)} {names : List String} {now : Moment}
    (feasible : Feasible (· ∈ (passesOf names).map (·.2)) now d)
    (clock : d.shared.clock = .always now) :
    ∃ created, ((runOnce names).on d).1 = .ok created := by
  obtain ⟨cutoff, since⟩ := feasible.since
  obtain ⟨bound, representable, light⟩ := feasible.representable
  obtain ⟨created, d', ran⟩ :=
    runOnce_ok feasible.calculable clock feasible.time since representable light
  exact ⟨created, by rw [ran]⟩

/-- A pass at a time, over all windows that are over or over that of a given moment, keeps all
snapshots, adds only snapshots of windows that had none, and changes nothing when it is made again;
so do all passes with some names together, at one reading of the clock. -/
theorem aggregation_is_idempotent (d : Desk (Analysis α)) :
    (∀ (i : Interval) (now : Moment) (windowStart : Option Moment),
      Enlarges (· = i) d ((aggregate i (some now) windowStart).on d).2 ∧
      (aggregate i (some now) windowStart).Repeats [] d ∧
      (Feasible (· = i) now d → i ≠ .minute → (∀ t ∈ windowStart, t.Naive ∧ i.HasEnd t) →
        ∃ created, ((aggregate i (some now) windowStart).on d).1 = .ok created)) ∧
    ∀ (names : List String) (now : Moment), d.shared.clock = .always now →
      Enlarges (· ∈ (passesOf names).map (·.2)) d ((runOnce names).on d).2 ∧
      (runOnce names).Repeats [] d ∧
      (Feasible (· ∈ (passesOf names).map (·.2)) now d →
        ∃ created, ((runOnce names).on d).1 = .ok created) := by
  constructor
  · intro i now windowStart
    exact ⟨aggregate_enlarges .., aggregate_repeats ..,
      fun feasible coarse given => feasible.aggregate_runs coarse given⟩
  · intro names now clock
    exact ⟨runOnce_enlarges names clock, runOnce_repeats names clock,
      fun feasible => feasible.runOnce_runs clock⟩

end

/-! ### Hours that are rolled up in part -/

section

open Exact

/-- A snapshot of one execution. -/
def single (interval : Interval) (start : Moment) : WindowKey × Snapshot ℚ :=
  (⟨interval, start⟩, ⟨"a", interval, start, { Metrics.none with count := 1 }, []⟩)

/-- The snapshots of two minutes, and of the hour of the first. -/
def halfShelf : Shelf ℚ :=
  [single .minute (showing 6 10 20), single .minute (showing 6 11 10),
    single .hour (showing 6 10 0)]

/-- A desk on the next day, where the second hour was not rolled up. -/
def halfRolled : Desk (Analysis ℚ) :=
  ⟨{ blank with shelves := [("a", halfShelf)] },
    { repository := .memory .empty, clock := .always (showing 7 0 30) }⟩

theorem shelf_halfRolled (id : String) :
    halfRolled.own.shelf id = if "a" = id then halfShelf else [] := by
  unfold shelf halfRolled
  rw [Entries.get?_cons, beq_eq_decide]
  by_cases here : "a" = id
  · simp [here]
  · simp [here]

theorem feasible_halfRolled (among : Interval → Prop) :
    Feasible among (showing 7 0 30) halfRolled := by
  have ends : ∀ entry ∈ halfShelf, entry.1.start.Naive ∧ ∀ i : Interval, i.HasEnd entry.1.start := by
    intro entry mem
    simp only [halfShelf, List.mem_cons, List.not_mem_nil, or_false] at mem
    rcases mem with rfl | rfl | rfl
    all_goals
      refine ⟨rfl, fun i => Outcome.exists_of_isOk ?_⟩
      cases i <;> decide +kernel
  have mem_shelf : ∀ id, ∀ entry ∈ halfRolled.own.shelf id, entry ∈ halfShelf := by
    intro id entry mem
    rw [shelf_halfRolled] at mem
    split at mem
    · exact mem
    · exact absurd mem List.not_mem_nil
  refine ⟨⟨?_, ?_, ?_⟩, rfl, Outcome.exists_of_isOk (by decide +kernel), 3,
    Snapshot.representable 3, fun id => ?_⟩
  · exact fun id entry mem => (ends entry (mem_shelf id entry mem)).1
  · exact fun id entry mem i _ => (ends entry (mem_shelf id entry mem)).2 i
  · exact fun _ _ mem => absurd mem List.not_mem_nil
  · rw [shelf_halfRolled]
    split
    · decide +kernel
    · exact Nat.zero_le _

theorem aggregation_is_idempotent_halfRolled :
    (Enlarges (· = .hour) halfRolled
        ((aggregate .hour (some (showing 7 0 30)) (some (showing 6 11 40))).on halfRolled).2 ∧
      (aggregate .hour (some (showing 7 0 30)) (some (showing 6 11 40))).Repeats [] halfRolled ∧
      ∃ created, ((aggregate .hour (some (showing 7 0 30)) (some (showing 6 11 40))).on
        halfRolled).1 = .ok created) ∧
    Enlarges (· ∈ (passesOf ["hourly", "monthly"]).map (·.2)) halfRolled
        ((runOnce ["hourly", "monthly"]).on halfRolled).2 ∧
      (runOnce ["hourly", "monthly"]).Repeats [] halfRolled ∧
      ∃ created, ((runOnce ["hourly", "monthly"]).on halfRolled).1 = .ok created := by
  obtain ⟨one, all⟩ := aggregation_is_idempotent halfRolled
  obtain ⟨adds, repeats, succeeds⟩ := one .hour (showing 7 0 30) (some (showing 6 11 40))
  obtain ⟨adds', repeats', succeeds'⟩ := all ["hourly", "monthly"] (showing 7 0 30) rfl
  refine ⟨⟨adds, repeats, succeeds (feasible_halfRolled _) (by decide) ?_⟩, adds', repeats',
    succeeds' (feasible_halfRolled _)⟩
  intro t given
  cases given
  exact ⟨rfl, Outcome.exists_of_isOk (by decide +kernel)⟩

end

end Analysis

end Promptuary
