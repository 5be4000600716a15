import Promptuary.Proofs.Entries
import Promptuary.Proofs.Statistics.Counts
import Promptuary.Snapshot.Rollup

/-!
When rolling up succeeds. All that a rollup needs is that sums of counts are in the range of
scalars, and the counts of the snapshot that comes out of it are no greater than those of the
snapshots that go in, taken together.
-/

namespace Promptuary

/-! ### Sums -/

/-- What is measured of the items that a pass gives is no more than what is measured of those that
it went through, if this holds for each step. -/
theorem Outcome.sum_le_of_mapM {ε α β : Type} {f : α → Except ε β} {measure : β → Nat}
    {measure' : α → Nat} {xs : List α} {ys : List β}
    (each : ∀ x ∈ xs, ∀ y, f x = .ok y → measure y ≤ measure' x)
    (ran : xs.mapM f = .ok ys) : (ys.map measure).sum ≤ (xs.map measure').sum := by
  induction xs generalizing ys with
  | nil =>
    cases ran
    exact Nat.le_refl 0
  | cons x xs ih =>
    rw [List.mapM_cons] at ran
    obtain ⟨y, first, more⟩ := exists_of_bind_eq_ok ran
    obtain ⟨zs, rest, done⟩ := exists_of_bind_eq_ok more
    cases done
    rw [List.map_cons, List.sum_cons, List.map_cons, List.sum_cons]
    refine Nat.add_le_add (each x List.mem_cons_self y first) (ih ?_ rest)
    exact fun z mem => each z (List.mem_cons_of_mem _ mem)

/-- What is collected weighs as much as its parts. -/
theorem Entries.sum_collect {κ α : Type} [BEq κ] (weigh : List α → Nat)
    (add : ∀ xs x, weigh (xs ++ [x]) = weigh xs + weigh [x]) (pairs : List (κ × α))
    (all : Entries κ (List α)) :
    ((pairs.foldl Entries.collect all).map fun entry => weigh entry.2).sum =
      (all.map fun entry => weigh entry.2).sum + (pairs.map fun pair => weigh [pair.2]).sum := by
  have one (pair : κ × α) (all : Entries κ (List α)) :
      ((Entries.collect all pair).map fun entry => weigh entry.2).sum =
        (all.map fun entry => weigh entry.2).sum + weigh [pair.2] := by
    unfold Entries.collect
    induction all with
    | nil => simp [Entries.put]
    | cons entry all ih =>
      rw [Entries.put, Entries.get?_cons]
      by_cases here : (entry.1 == pair.1) = true
      · simp only [here, if_true, Option.getD_some, List.map_cons, List.sum_cons, add]
        omega
      · simp only [here, if_false, Bool.false_eq_true, List.map_cons, List.sum_cons, ih]
        omega
  induction pairs generalizing all with
  | nil => rfl
  | cons pair pairs ih =>
    rw [List.foldl_cons, ih, one, List.map_cons, List.sum_cons]
    omega

open Counts

variable {α : Type}

namespace Snapshot

/-! ### Weights -/

/-- The sizes of the counts of a snapshot, taken together. -/
def weight (s : Snapshot α) : Nat :=
  s.metrics.count.natAbs + s.metrics.qualityCount.natAbs + size (s.providers.map (·.2.count))

/-- The sizes of the counts of several snapshots, taken together. -/
def weightOf (snapshots : List (Snapshot α)) : Nat := (snapshots.map weight).sum

/-- The counts of all providers in several snapshots. -/
def providerCounts (snapshots : List (Snapshot α)) : List Int :=
  (snapshots.flatMap (·.providers)).map (·.2.count)

theorem weightOf_eq (snapshots : List (Snapshot α)) :
    weightOf snapshots = size (snapshots.map (·.metrics.count)) +
      size (snapshots.map (·.metrics.qualityCount)) + size (providerCounts snapshots) := by
  unfold weightOf providerCounts
  induction snapshots with
  | nil => rfl
  | cons s snapshots ih =>
    rw [List.map_cons, List.sum_cons, ih, List.flatMap_cons, List.map_append, size_append,
      List.map_cons, List.map_cons, size_cons, size_cons, weight]
    omega

theorem size_scored_le (snapshots : List (Snapshot α)) :
    size ((scored snapshots).map (·.metrics.qualityCount)) ≤
      size (snapshots.map (·.metrics.qualityCount)) :=
  size_le_of_sublist (List.filter_sublist.map _)

/-- Those that have a custom metric have a value of it each. -/
theorem length_having (snapshots : List (Snapshot α)) (name : String) :
    ((snapshots.filter (·.metrics.custom.has name)).filterMap
      (·.metrics.custom.get? name)).length =
        ((snapshots.filter (·.metrics.custom.has name)).map (·.metrics.count)).length := by
  rw [List.length_map, List.length_filterMap_eq_countP, List.countP_eq_length]
  intro s mem
  rw [← Entries.has_eq_isSome]
  exact (List.mem_filter.1 mem).2

variable [Scalar α] {bound : Nat} {snapshots : List (Snapshot α)}

/-! ### Means -/

theorem meanOf_ok (representable : Representable α bound) (light : weightOf snapshots ≤ bound)
    (f : Metrics α → α) : ∃ x, meanOf f snapshots = .ok x := by
  rw [weightOf_eq] at light
  refine Sample.countedMean_ok representable ?_ (by omega)
  rw [List.length_map, List.length_map]

theorem meanQuality_ok (representable : Representable α bound) (light : weightOf snapshots ≤ bound) :
    ∃ x, meanQuality snapshots = .ok x := by
  rw [weightOf_eq] at light
  have less := size_scored_le snapshots
  have same : ((scored snapshots).filterMap (·.metrics.quality)).length =
      ((scored snapshots).map (·.metrics.qualityCount)).length := by
    rw [List.length_map, List.length_filterMap_eq_countP, List.countP_eq_length]
    exact fun s mem => (List.mem_filter.1 mem).2
  obtain ⟨x, ok⟩ := Sample.countedMean_ok representable same (less.trans (by omega))
  unfold meanQuality
  dsimp only
  split
  · exact ⟨_, rfl⟩
  · rw [ok]
    exact ⟨_, rfl⟩

theorem meanCustom_ok (representable : Representable α bound)
    (light : weightOf snapshots ≤ bound) (name : String) :
    ∃ x, meanCustom snapshots name = .ok x := by
  rw [weightOf_eq] at light
  have less : size ((snapshots.filter (·.metrics.custom.has name)).map (·.metrics.count)) ≤
      size (snapshots.map (·.metrics.count)) := size_le_of_sublist (List.filter_sublist.map _)
  exact Sample.countedMean_ok representable (length_having ..) (less.trans (by omega))

theorem mergeSpread_ok (representable : Representable α bound)
    (light : weightOf snapshots ≤ bound) (times : List α) :
    ∃ spread, mergeSpread snapshots times = .ok spread := by
  obtain ⟨p50, first⟩ := meanOf_ok representable light (·.spread.p50)
  obtain ⟨p95, second⟩ := meanOf_ok representable light (·.spread.p95)
  obtain ⟨p99, third⟩ := meanOf_ok representable light (·.spread.p99)
  unfold mergeSpread
  split
  · exact ⟨_, rfl⟩
  · rw [first, second, third]
    exact ⟨_, rfl⟩

theorem mergeMetrics_ok (representable : Representable α bound) (light : weightOf snapshots ≤ bound)
    (times : List α) : ∃ m, mergeMetrics snapshots times = .ok m ∧
      m.count = totalCount snapshots ∧
      m.qualityCount = Scalar.tally ((scored snapshots).map (·.metrics.qualityCount)) := by
  have all := light
  rw [weightOf_eq] at all
  obtain ⟨total, totals⟩ := representable.ofInt_ok (n := totalCount snapshots)
    ((natAbs_tally_le _).trans (by omega))
  obtain ⟨successRate, ok₁⟩ := meanOf_ok representable light (·.successRate)
  obtain ⟨errorRate, ok₂⟩ := meanOf_ok representable light (·.errorRate)
  obtain ⟨responseTime, ok₃⟩ := meanOf_ok representable light (·.responseTime)
  obtain ⟨tokenUsage, ok₄⟩ := meanOf_ok representable light (·.tokenUsage)
  obtain ⟨quality, ok₅⟩ := meanQuality_ok representable light
  obtain ⟨spread, ok₆⟩ := mergeSpread_ok representable light times
  have each : ∀ name ∈ customNames snapshots, ∃ entry, (do
      return (name, ← meanCustom snapshots name) : Except NumberError (String × α)) = .ok entry := by
    intro name _
    obtain ⟨x, ok⟩ := meanCustom_ok representable light name
    rw [ok]
    exact ⟨_, rfl⟩
  obtain ⟨custom, ok₇⟩ := Outcome.mapM_ok each
  unfold mergeMetrics
  dsimp only
  rw [ok₁, ok₂, ok₃, ok₄, ok₅, ok₆, ok₇, totals]
  split
  · exact ⟨_, rfl, rfl, rfl⟩
  · exact ⟨_, rfl, rfl, rfl⟩

end Snapshot

variable [Scalar α] {bound : Nat}

/-! ### Providers -/

theorem ProviderMetrics.merge_ok (representable : Representable α bound)
    {entries : List (ProviderMetrics α)} (light : size (entries.map (·.count)) ≤ bound) :
    ∃ p, merge entries = .ok p ∧ p.count = Scalar.tally (entries.map (·.count)) := by
  have same (f : ProviderMetrics α → α) :
      (entries.map f).length = (entries.map (·.count)).length := by
    rw [List.length_map, List.length_map]
  obtain ⟨responseTime, ok₁⟩ := Sample.countedMean_ok representable (same (·.responseTime)) light
  obtain ⟨errorRate, ok₂⟩ := Sample.countedMean_ok representable (same (·.errorRate)) light
  obtain ⟨cost, ok₃⟩ := Sample.countedMean_ok representable (same (·.cost)) light
  unfold merge
  dsimp only
  rw [ok₁, ok₂, ok₃]
  exact ⟨_, rfl, rfl⟩

namespace Snapshot

variable {snapshots : List (Snapshot α)}

omit [Scalar α] in
theorem sum_byProvider (snapshots : List (Snapshot α)) :
    ((byProvider snapshots).map fun entry => size (entry.2.map (·.count))).sum =
      size (providerCounts snapshots) := by
  have collected := Entries.sum_collect
    (fun entries : List (ProviderMetrics α) => size (entries.map (·.count)))
    (fun _ _ => by rw [List.map_append, size_append]) (snapshots.flatMap (·.providers)) []
  refine collected.trans ?_
  rw [List.map_nil, List.sum_nil, Nat.zero_add, providerCounts, size, List.map_map]
  rfl

theorem mapM_merge_ok (representable : Representable α bound) (light : weightOf snapshots ≤ bound) :
    ∃ providers : Entries String (ProviderMetrics α),
      ((byProvider snapshots).mapM fun (name, entries) => do
        return (name, ← ProviderMetrics.merge entries)) = (.ok providers : Except NumberError _) ∧
      size (providers.map (·.2.count)) ≤ size (providerCounts snapshots) := by
  have small : ∀ entry ∈ byProvider snapshots,
      size ((Prod.snd entry).map (·.count)) ≤ size (providerCounts snapshots) := by
    intro entry mem
    rw [← sum_byProvider]
    exact List.single_le_sum (fun _ _ => Nat.zero_le _) _ (List.mem_map_of_mem mem)
  have each : ∀ entry ∈ byProvider snapshots, ∃ p,
      ProviderMetrics.merge (Prod.snd entry) = .ok p ∧
        p.count.natAbs ≤ size ((Prod.snd entry).map (·.count)) := by
    intro entry mem
    have light' := light
    rw [weightOf_eq] at light'
    obtain ⟨p, ok, count⟩ :=
      ProviderMetrics.merge_ok representable ((small entry mem).trans (by omega))
    refine ⟨p, ok, ?_⟩
    rw [count]
    exact natAbs_tally_le _
  let mergeEntry : String × List (ProviderMetrics α) → Except NumberError _ :=
    fun (name, entries) => do return (name, ← ProviderMetrics.merge entries)
  have ended : ∀ entry ∈ byProvider snapshots, ∃ made, mergeEntry entry = .ok made := by
    rintro ⟨name, entries⟩ mem
    obtain ⟨p, ok, -⟩ := each _ mem
    dsimp only [mergeEntry] at ok ⊢
    rw [ok]
    exact ⟨_, rfl⟩
  obtain ⟨providers, ran⟩ := Outcome.mapM_ok ended
  refine ⟨providers, ran, ?_⟩
  rw [← sum_byProvider, size, List.map_map]
  refine Outcome.sum_le_of_mapM (fun entry mem made ok => ?_) ran
  obtain ⟨name, entries⟩ := entry
  obtain ⟨p, merged, le⟩ := each _ mem
  dsimp only [mergeEntry] at merged ok
  rw [merged] at ok
  cases ok
  exact le

/-! ### Rollups -/

/-- What is known of metrics that several snapshots amount to. -/
theorem parts_of_mergeMetrics {sources : List (Snapshot α)} {times : List α} {m : Metrics α}
    (merged : mergeMetrics sources times = .ok m) :
    m.count = totalCount sources ∧ mergeSpread sources times = .ok m.spread ∧
      ((customNames sources).mapM fun name => do return (name, ← meanCustom sources name)) =
        .ok m.custom := by
  unfold mergeMetrics at merged
  dsimp only at merged
  split at merged
  all_goals
    obtain ⟨cost, -, merged⟩ := Outcome.exists_of_bind_eq_ok merged
    obtain ⟨successRate, -, merged⟩ := Outcome.exists_of_bind_eq_ok merged
    obtain ⟨errorRate, -, merged⟩ := Outcome.exists_of_bind_eq_ok merged
    obtain ⟨responseTime, -, merged⟩ := Outcome.exists_of_bind_eq_ok merged
    obtain ⟨tokenUsage, -, merged⟩ := Outcome.exists_of_bind_eq_ok merged
    obtain ⟨quality, -, merged⟩ := Outcome.exists_of_bind_eq_ok merged
    obtain ⟨spread, spreads, merged⟩ := Outcome.exists_of_bind_eq_ok merged
    obtain ⟨custom, customs, merged⟩ := Outcome.exists_of_bind_eq_ok merged
    cases merged
    exact ⟨rfl, spreads, customs⟩

theorem merged_of_rollUp {sources : List (Snapshot α)} {times : List α} {id : String}
    {interval : Calendar.Interval} {start : Calendar.Moment} {s : Snapshot α}
    (ok : rollUp id interval start sources times = .ok s) :
    s.templateId = id ∧ s.interval = interval ∧ s.start = start ∧
      mergeMetrics sources times = .ok s.metrics := by
  obtain ⟨metrics, merged, ok⟩ := Outcome.exists_of_bind_eq_ok ok
  obtain ⟨providers, -, ok⟩ := Outcome.exists_of_bind_eq_ok ok
  cases ok
  exact ⟨rfl, rfl, rfl, merged⟩

/-- The percentiles are those of the given times only if they are as many as the executions. -/
theorem mergeSpread_eq (sources : List (Snapshot α)) (times : List α) :
    mergeSpread sources times =
      if times ≠ [] ∧ (times.length : Int) = totalCount sources then .ok (Sample.spread times)
      else mergeSpread sources [] := by
  by_cases all : times ≠ [] ∧ (times.length : Int) = totalCount sources
  · rw [if_pos all]
    unfold mergeSpread
    rw [if_pos (by simpa using all)]
    rfl
  · rw [if_neg all]
    unfold mergeSpread
    rw [if_neg (by simpa using all), if_neg (by simp)]

/-- Snapshots are rolled up if sums of their counts are in the range of scalars. -/
theorem rollUp_ok (representable : Representable α bound) (light : weightOf snapshots ≤ bound)
    (id : String) (interval : Calendar.Interval) (start : Calendar.Moment) (times : List α) :
    ∃ s, rollUp id interval start snapshots times = .ok s ∧ s.weight ≤ weightOf snapshots := by
  obtain ⟨m, metrics, count, qualityCount⟩ := mergeMetrics_ok representable light times
  obtain ⟨providers, merged, less⟩ := mapM_merge_ok representable light
  unfold rollUp
  rw [metrics, Outcome.ok_bind, merged]
  refine ⟨_, rfl, ?_⟩
  have first := natAbs_tally_le (snapshots.map (·.metrics.count))
  have second := (natAbs_tally_le _).trans (size_scored_le snapshots)
  rw [weightOf_eq, weight]
  dsimp only
  rw [count, qualityCount, totalCount]
  omega

end Snapshot

end Promptuary
