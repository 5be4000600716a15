import Promptuary.Proofs.Analysis.Minute
import Promptuary.Proofs.Analysis.Repetition
import Promptuary.Proofs.Snapshot.Consistency

/-!
Snapshots in every run of an analysis. Executions are recorded and windows are rolled up in any
order, of any time, and any call may fail on its way. What is on the shelves is then always the
amounts of some executions: a snapshot comes in with one, and an execution or a rollup that stops
halfway has not yet touched it or has counted in full.
-/

namespace Promptuary

open Calendar (Interval Moment)
open Exact Operation

namespace Analysis

/-! ### Every snapshot -/

section

variable {α : Type} {a a' : Analysis α} {P : Snapshot α → Prop} {id : String} {key : WindowKey}
  {s : Snapshot α}

/-- Every snapshot of an analysis has a property. -/
def Every (P : Snapshot α → Prop) (a : Analysis α) : Prop :=
  ∀ id, ∀ s ∈ (a.shelf id).values, P s

theorem Every.of_get? (every : a.Every P) (found : (a.shelf id).get? key = some s) : P s := by
  obtain ⟨stored, -, mem⟩ := Entries.exists_mem_of_get? found
  exact every id s (List.mem_map.2 ⟨_, mem, rfl⟩)

theorem Every.withSnapshot (every : a.Every P) (holds : P s) (id : String) (key : WindowKey) :
    (a.withSnapshot id key s).Every P := by
  intro other s' mem
  rw [Analysis.withSnapshot, shelf_putShelf] at mem
  split at mem
  · obtain ⟨entry, put, rfl⟩ := List.mem_map.1 mem
    rcases Entries.mem_put put with ⟨new, -⟩ | old
    · rw [new]
      exact holds
    · exact every id _ (List.mem_map_of_mem old)
  · exact every other s' mem

theorem Every.reshelves {p : WindowKey × Snapshot α → Bool} (every : a.Every P)
    (reshelves : a.Reshelves a' id ((a.shelf id).filter p)) : a'.Every P := by
  intro other s mem
  rw [reshelves.shelf] at mem
  split at mem
  · obtain ⟨entry, among, rfl⟩ := List.mem_map.1 mem
    exact every id _ (List.mem_map_of_mem (List.mem_of_mem_filter among))
  · exact every other s mem

theorem keeps_every_changeSnapshot {f : Snapshot α → Snapshot α} (step : ∀ s, P s → P (f s))
    (id : String) (key : WindowKey) : Keeps (Every P) (changeSnapshot id key f) := by
  refine keeps_change fun a every => ?_
  dsimp only
  split
  · next s found => exact every.withSnapshot (step s (every.of_get? found)) id key
  · exact every

theorem keeps_every_prune (id : String) : Keeps (Every P) (prune id) := by
  intro d every
  obtain ⟨p, reshelves⟩ := prune_reshelves id d
  exact every.reshelves reshelves

end

/-! ### Turns -/

section

variable {α : Type}

/-- A turn of an analysis, with what the parts share at that time. -/
inductive Turn (α : Type) where
  | record (e : Execution α) (shared : Shared)
  | aggregate (interval : Interval) (time windowStart : Option Moment) (shared : Shared)

variable [Scalar α]

/-- An analysis after a turn, whether or not it succeeded. -/
def Turn.after : Turn α → Analysis α → Analysis α
  | .record e shared, a => ((Analysis.record e).on ⟨a, shared⟩).2.own
  | .aggregate interval time windowStart shared, a =>
    ((Analysis.aggregate interval time windowStart).on ⟨a, shared⟩).2.own

/-- An analysis after turns were taken one after another. -/
def afterTurns (turns : List (Turn α)) (a : Analysis α) : Analysis α :=
  turns.foldl (fun a turn => turn.after a) a

end

variable {α : Type} [Field α] [LinearOrder α] [FloorRing α] [Numerals α] [IsStrictOrderedRing α]
  {a : Analysis α}

/-! ### Recording -/

theorem minuteSnapshot_added (every : a.Every Snapshot.Founded) {e : Execution α} {m : Metrics α}
    (counted : ((a.minuteSnapshot e).metrics.addOutcome e).addAmounts e = .ok m) :
    (((a.minuteSnapshot e).withMetrics m).addProvider e).Founded := by
  unfold minuteSnapshot at counted ⊢
  cases found : (a.shelf e.templateId).get? (minuteOf e) with
  | none =>
    rw [found] at counted
    exact (Snapshot.amounts_empty ..).founded_add ⟨le_refl _, le_refl _⟩ counted
  | some s =>
    rw [found] at counted
    obtain ⟨es, -, amounts, ordered⟩ := every.of_get? found
    exact amounts.founded_add ordered counted

/-- From the execution on that opens a minute, its snapshot tells of executions: it is counted in
full before anything can fail. -/
theorem keeps_updateMinute_founded (e : Execution α) :
    Keeps (Every Snapshot.Founded) (updateMinute e) := by
  intro d every
  obtain ⟨m, counted⟩ := Metrics.addAmounts_ok (d.own.minuteSnapshot e).metrics e
  have spreads : Keeps (Every Snapshot.Founded) (updateSpread (α := α) e.templateId (minuteOf e)) :=
    keeps_updateSpread fun times =>
      keeps_every_changeSnapshot (fun _ founded => founded.withSpread times) _ _
  have customs : Keeps (Every Snapshot.Founded) (updateCustom (α := α) e.templateId (minuteOf e)) :=
    keeps_updateCustom fun _ => keeps_every_changeSnapshot
      (fun _ ⟨es, filled, amounts, ordered⟩ => ⟨es, filled, { amounts with }, ordered⟩) _ _
  rw [on_updateMinute d counted]
  refine (spreads.bind fun _ => customs.bind fun _ => keeps_every_prune _) _ ?_
  exact every.withSnapshot (minuteSnapshot_added every counted) _ _

theorem keeps_record_founded (e : Execution α) : Keeps (Every Snapshot.Founded) (record e) := by
  intro d every
  cases stored : stores e d with
  | false =>
    obtain ⟨f, d', ran, own, -⟩ := record_of_not_stores stored
    rw [ran, own]
    exact every
  | true =>
    exact record_brings stored (fun _ _ every => every) (fun _ every => every)
      (keeps_updateMinute_founded e) every

/-! ### Rolling up -/

theorem keeps_aggregateWindow (id : String) (i j : Interval) (start : Moment) :
    Keeps (Every Snapshot.Founded) (aggregateWindow (α := α) id i j start) := by
  intro d every
  rcases aggregateWindow_cases id i j start d with
    ⟨-, ran⟩ | ⟨f, -, ran⟩ | ⟨s, count, d', -, known, ran, leads⟩
  · rw [ran]
    exact every
  · rw [ran]
    exact every
  · obtain ⟨sources, times, some, among, ok⟩ := rolled_sources known
    have founded := Snapshot.founded_of_rollUp some (fun s mem => every id s (among s mem)) ok
    rw [ran, leads.own]
    exact every.withSnapshot founded id ⟨i, start⟩

theorem keeps_aggregate (i : Interval) (time windowStart : Option Moment) :
    Keeps (Every Snapshot.Founded) (aggregate (α := α) i time windowStart) := by
  intro d every
  refine aggregate_preserves (P := fun d => d.own.Every Snapshot.Founded) (fun _ every => every) ?_
    time windowStart every
  exact fun id j start d _ _ every => keeps_aggregateWindow id i j start d every

/-! ### Runs -/

theorem every_founded_after (turn : Turn α) (every : a.Every Snapshot.Founded) :
    (turn.after a).Every Snapshot.Founded := by
  cases turn with
  | record e shared => exact keeps_record_founded e ⟨a, shared⟩ every
  | aggregate interval time windowStart shared =>
    exact keeps_aggregate interval time windowStart ⟨a, shared⟩ every

theorem every_founded_afterTurns (turns : List (Turn α)) (every : a.Every Snapshot.Founded) :
    (afterTurns turns a).Every Snapshot.Founded := by
  induction turns generalizing a with
  | nil => exact every
  | cons turn turns ih => exact ih (every_founded_after turn every)

/-- The numbers of every snapshot belong together, whatever turns an analysis without snapshots has
taken. -/
theorem snapshots_consistent (fresh : a.shelves = []) (turns : List (Turn α)) (id : String) :
    ∀ s ∈ ((afterTurns turns a).shelf id).values, s.Consistent := by
  have none : a.Every Snapshot.Founded := by
    intro id s mem
    rw [shelf, fresh] at mem
    exact absurd mem List.not_mem_nil
  exact fun s mem => (every_founded_afterTurns turns none id s mem).consistent

/-- An execution of a minute, a late one of the minute before it, and the rollup of their hour. -/
def lateTurns : List (Turn ℚ) :=
  let shared : Shared := { repository := .memory .empty, clock := .always (afterNoon 3700) }
  [.record (execution "a" 100 (afterNoon 70)) shared,
   .record (execution "a" 300 (afterNoon 20)) shared,
   .aggregate .hour none none shared]

theorem snapshots_consistent_lateTurns :
    ((afterTurns lateTurns blank).shelf "a").keys.map (·.interval) = [.minute, .minute, .hour] ∧
      ∀ s ∈ ((afterTurns lateTurns blank).shelf "a").values, s.Consistent :=
  ⟨by decide +kernel, snapshots_consistent rfl lateTurns "a"⟩

end Analysis

end Promptuary
