import Promptuary.Proofs.Distinct
import Promptuary.Proofs.Snapshot.Rollup
import Promptuary.Proofs.Statistics.Spread

/-!
How the numbers of a snapshot belong together. They are computed along different ways, from single
executions or from finer snapshots, by all executions or by those of each provider, and agree since
all of them tell of the same executions.
-/

namespace Promptuary

open Exact

variable {α : Type} [Field α] [LinearOrder α] [FloorRing α] [Numerals α]

namespace Snapshot

/-- The mean of a number of the providers, with their counts as weights. -/
def providerMean (f : ProviderMetrics α → α) (s : Snapshot α) : α :=
  (s.providers.values.map fun p => f p * p.count).sum /
    ((s.providers.values.map (·.count)).sum : Int)

/-- The numbers of a snapshot belong together. -/
structure Consistent (s : Snapshot α) : Prop where
  filled : 1 ≤ s.metrics.count
  count : s.metrics.count = (s.providers.values.map (·.count)).sum
  successRate_nonneg : 0 ≤ s.metrics.successRate
  successRate_le_one : s.metrics.successRate ≤ 1
  rates : s.metrics.successRate + s.metrics.errorRate = 1
  totalCost : s.metrics.totalCost = s.metrics.cost * s.metrics.count
  qualityCount_le : s.metrics.qualityCount ≤ s.metrics.count
  quality : s.metrics.quality = none ↔ s.metrics.qualityCount = 0
  spread : s.metrics.spread.Ordered
  responseTime : s.metrics.responseTime = s.providerMean (·.responseTime)
  errorRate : s.metrics.errorRate = s.providerMean (·.errorRate)
  cost : s.metrics.cost = s.providerMean (·.cost)

/-! ### Executions by their providers -/

section

variable {s : Snapshot α} {es : List (Execution α)}

theorem Amounts.values_eq (amounts : s.Amounts es) : s.providers.values =
    s.providers.keys.map fun name => .ofExecutions (executionsBy name es) := by
  rw [Entries.values, Entries.keys, List.map_map]
  refine List.map_congr_left fun entry mem => ?_
  have found := amounts.distinct.get?_of_mem mem BEq.rfl
  rw [amounts.providers] at found
  split at found
  · cases found
  · exact (Option.some.inj found).symm

theorem Amounts.mem_keys (amounts : s.Amounts es) {e : Execution α} (mem : e ∈ es) :
    e.provider ∈ s.providers.keys := by
  have own : e ∈ executionsBy e.provider es := List.mem_filter.2 ⟨mem, decide_eq_true rfl⟩
  rw [← Entries.get?_isSome_iff, amounts.providers,
    if_neg (by simpa using List.ne_nil_of_mem own)]
  rfl

/-- Each execution counts for one provider of a snapshot. -/
theorem Amounts.perm_byProvider (amounts : s.Amounts es) :
    (s.providers.keys.flatMap fun name => executionsBy name es).Perm es := by
  have names := Entries.distinct_iff_nodup.1 amounts.distinct
  have apart : s.providers.keys.Pairwise fun a b => ∀ e : Execution α,
      decide (e.provider = a) = true → decide (e.provider = b) = false := by
    refine names.imp fun {a b} ne e here => decide_eq_false fun there => ne ?_
    exact (of_decide_eq_true here).symm.trans there
  refine (Distinct.flatMap_filter_perm apart).trans (List.Perm.of_eq ?_)
  refine List.filter_eq_self.2 fun e mem => List.any_eq_true.2 ⟨_, amounts.mem_keys mem, ?_⟩
  exact decide_eq_true rfl

/-- The counts of the providers add up to that of the snapshot. -/
theorem Amounts.sum_counts (amounts : s.Amounts es) :
    (s.providers.values.map (·.count)).sum = (es.length : Int) := by
  rw [amounts.values_eq, List.map_map, ← amounts.perm_byProvider.length_eq, ← sum_lengths]
  rfl

/-- A mean over the executions is the mean of those of the providers. -/
theorem Amounts.providerMean_eq (amounts : s.Amounts es) {f : ProviderMetrics α → α}
    {g : Execution α → α} (means : ∀ es, f (.ofExecutions es) = meanOver g es) :
    s.providerMean f = meanOver g es := by
  have products : (s.providers.values.map fun p => f p * p.count).sum = (es.map g).sum := by
    have all := (amounts.perm_byProvider.map g).sum_eq
    rw [List.map_flatMap, List.flatMap_def, List.sum_flatten, List.map_map] at all
    rw [amounts.values_eq, List.map_map, ← all]
    refine congrArg List.sum (List.map_congr_left fun name _ => ?_)
    change f (.ofExecutions _) * (((executionsBy name es).length : Int) : α) =
      ((executionsBy name es).map g).sum
    rw [means, meanOver, Int.cast_natCast, ← List.length_map (f := g), average_mul_length]
  rw [providerMean, products, amounts.sum_counts, Int.cast_natCast, meanOver, average,
    List.length_map]

end

/-! ### Percentiles on the way -/

theorem spread_of_addAmounts {m m' : Metrics α} {e : Execution α}
    (counted : (m.addOutcome e).addAmounts e = .ok m') : m'.spread = m.spread := by
  cases counted
  cases e.quality <;> rfl

/-! ### Snapshots of some executions -/

/-- A snapshot has the amounts of some executions, at least one, and percentiles in order. -/
def Founded (s : Snapshot α) : Prop :=
  ∃ es, es ≠ [] ∧ s.Amounts es ∧ s.metrics.spread.Ordered

variable [IsStrictOrderedRing α] {s : Snapshot α}

theorem shareOf_nonneg (p : Execution α → Bool) (es : List (Execution α)) : 0 ≤ shareOf p es :=
  div_nonneg (Nat.cast_nonneg _) (Nat.cast_nonneg _)

theorem shareOf_le_one (p : Execution α → Bool) (es : List (Execution α)) : shareOf p es ≤ 1 := by
  refine div_le_one_of_le₀ ?_ (Nat.cast_nonneg _)
  exact_mod_cast List.length_filter_le p es

/-- The numbers of a snapshot with the amounts of executions belong together. -/
theorem Founded.consistent (founded : s.Founded) : s.Consistent := by
  obtain ⟨es, some, amounts, ordered⟩ := founded
  have positive : 0 < es.length := List.length_pos_iff.2 some
  constructor
  · rw [amounts.count]
    exact_mod_cast positive
  · rw [amounts.count, amounts.sum_counts]
  · rw [amounts.successRate]
    exact shareOf_nonneg ..
  · rw [amounts.successRate]
    exact shareOf_le_one ..
  · rw [amounts.successRate, amounts.errorRate, shareOf_not some, add_sub_cancel]
  · rw [amounts.totalCost, amounts.cost, amounts.count, meanOver, Int.cast_natCast,
      ← List.length_map (f := fun e : Execution α => e.cost), average_mul_length]
  · rw [amounts.qualityCount, amounts.count]
    exact_mod_cast List.length_filterMap_le _ es
  · rw [amounts.quality, amounts.qualityCount]
    simp
  · exact ordered
  · rw [amounts.responseTime, amounts.providerMean_eq fun _ => rfl]
  · rw [amounts.errorRate, shareOf_eq_meanOver,
      amounts.providerMean_eq fun _ => shareOf_eq_meanOver ..]
  · rw [amounts.cost, amounts.providerMean_eq fun _ => rfl]

/-! ### What keeps a snapshot founded -/

/-- An execution more gives a snapshot of at least one. -/
theorem Amounts.founded_add {es : List (Execution α)} {m : Metrics α} {e : Execution α}
    (amounts : s.Amounts es) (ordered : s.metrics.spread.Ordered)
    (counted : (s.metrics.addOutcome e).addAmounts e = .ok m) :
    ((s.withMetrics m).addProvider e).Founded := by
  obtain ⟨m', counted', added⟩ := amounts.add e
  cases counted.symm.trans counted'
  refine ⟨es ++ [e], by simp, added, ?_⟩
  change m.spread.Ordered
  rw [spread_of_addAmounts counted]
  exact ordered

theorem Founded.withSpread (founded : s.Founded) (times : List α) :
    (s.withSpread times).Founded := by
  obtain ⟨es, some, amounts, -⟩ := founded
  refine ⟨es, some, { amounts with }, ?_⟩
  change Sample.Spread.Ordered (if times.length = s.metrics.count then _ else _)
  split
  · exact spread_ordered times
  · exact ⟨le_refl _, le_refl _⟩

/-- Percentiles that are means of percentiles in order are in order. -/
theorem ordered_of_mergeSpread {sources : List (Snapshot α)} {times : List α}
    {spread : Sample.Spread α} (counts : ∀ s ∈ sources, 0 ≤ s.metrics.count)
    (ordered : ∀ s ∈ sources, s.metrics.spread.Ordered)
    (merged : mergeSpread sources times = .ok spread) : spread.Ordered := by
  unfold mergeSpread at merged
  split at merged
  · cases merged
    exact spread_ordered times
  · obtain ⟨p50, first, merged⟩ := Outcome.exists_of_bind_eq_ok merged
    obtain ⟨p95, second, merged⟩ := Outcome.exists_of_bind_eq_ok merged
    obtain ⟨p99, third, merged⟩ := Outcome.exists_of_bind_eq_ok merged
    cases merged
    exact ⟨countedMean_le counts (fun s mem => (ordered s mem).middle) first second,
      countedMean_le counts (fun s mem => (ordered s mem).upper) second third⟩

/-- Snapshots of some executions are rolled up into one of some executions. -/
theorem founded_of_rollUp {sources : List (Snapshot α)} {times : List α} {id : String}
    {interval : Calendar.Interval} {start : Calendar.Moment} (some : sources ≠ [])
    (founded : ∀ s ∈ sources, s.Founded)
    (ok : rollUp id interval start sources times = .ok s) : s.Founded := by
  choose! of filled amounts ordered using founded
  have carries : ∀ s ∈ sources, Amounts (of s) ((fun s => s) s) := amounts
  obtain ⟨s', ok', -, all⟩ := rollUp_amounts carries id interval start times
  rw [List.map_id'] at ok'
  cases ok.symm.trans ok'
  refine ⟨sources.flatMap of, ?_, all, ?_⟩
  · obtain ⟨first, mem⟩ := List.exists_mem_of_ne_nil sources some
    exact fun none => filled first mem (List.flatMap_eq_nil_iff.1 none first mem)
  · obtain ⟨-, -, -, merged⟩ := merged_of_rollUp ok
    refine ordered_of_mergeSpread (fun s mem => ?_) ordered (parts_of_mergeMetrics merged).2.1
    rw [(amounts s mem).count]
    exact Int.natCast_nonneg _

end Snapshot

end Promptuary
