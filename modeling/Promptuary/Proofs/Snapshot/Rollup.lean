import Promptuary.Proofs.Outcome
import Promptuary.Proofs.Snapshot.Amounts
import Promptuary.Proofs.Snapshot.Counts

/-!
Rolling snapshots up in exact arithmetic. Snapshots that have the amounts of some executions each
are rolled up into one that has the amounts of all of them: weighted means of means are means, and
nothing that a rollup computes can fail.
-/

namespace Promptuary

open Exact

variable {α : Type} [Field α] [LinearOrder α] [FloorRing α] [Numerals α]

/-! ### Means of means -/

namespace Exact

variable {γ : Type}

theorem sum_lengths {β : Type} (items : γ → List β) (cs : List γ) :
    (cs.map fun c => ((items c).length : Int)).sum = ((cs.flatMap items).length : Int) := by
  induction cs with
  | nil => rfl
  | cons c cs ih =>
    rw [List.map_cons, List.sum_cons, List.flatMap_cons, List.length_append, ih, Nat.cast_add]

theorem average_mul_length (xs : List α) : average xs * (xs.length : α) = xs.sum := by
  by_cases empty : xs = []
  · subst empty
    simp
  · have positive : (xs.length : α) ≠ 0 := by
      rw [Nat.cast_ne_zero, ne_eq, List.length_eq_zero_iff]
      exact empty
    rw [average, div_mul_cancel₀ _ positive]

/-- A mean of means with counts as weights is the mean of all values. -/
theorem countedMean_averages (values : γ → List α) (cs : List γ) :
    Sample.countedMean (cs.map fun c => average (values c))
      (cs.map fun c => ((values c).length : Int)) = .ok (average (cs.flatMap values)) := by
  have products : (cs.map fun c => average (values c) * (((values c).length : Int) : α)).sum =
      (cs.flatMap values).sum := by
    induction cs with
    | nil => rfl
    | cons c cs ih =>
      rw [List.map_cons, List.sum_cons, List.flatMap_cons, List.sum_append, ih, Int.cast_natCast,
        average_mul_length]
  rw [countedMean_map, products, sum_lengths, Int.cast_natCast]
  rfl

/-- The mean of a number over the executions of several lists, from the means over each. -/
theorem countedMean_meanOver (f : Execution α → α) (of : γ → List (Execution α)) (cs : List γ) :
    Sample.countedMean (cs.map fun c => meanOver f (of c))
      (cs.map fun c => ((of c).length : Int)) = .ok (meanOver f (cs.flatMap of)) := by
  have means := countedMean_averages (fun c => (of c).map f) cs
  simp only [List.length_map] at means
  rw [meanOver, List.map_flatMap]
  exact means

end Exact

section

variable {γ : Type} {snap : γ → Snapshot α} {of : γ → List (Execution α)} {cs : List γ}

/-! ### Providers -/

theorem ProviderMetrics.merge_ofExecutions (of : γ → List (Execution α)) (cs : List γ) :
    merge (cs.map fun c => ofExecutions (of c)) =
      .ok (ofExecutions (cs.flatMap of) : ProviderMetrics α) := by
  unfold merge ofExecutions
  simp only [List.map_map, Function.comp_def, tally_eq, sum_lengths, countedMean_meanOver,
    shareOf_eq_meanOver]
  rfl

/-- Lists that are left out because they are empty are not missed. -/
theorem flatMap_filter_filled {β γ : Type} (items : γ → List β) (cs : List γ) :
    (cs.filter fun c => !(items c).isEmpty).flatMap items = cs.flatMap items := by
  induction cs with
  | nil => rfl
  | cons c cs ih =>
    rw [List.filter_cons, List.flatMap_cons, ← ih]
    cases empty : items c with
    | nil => simp
    | cons => simp [empty]

/-- The metrics of a provider in snapshots are those of its executions, for each snapshot with
executions by it. -/
theorem valuesOf_snapshots (amounts : ∀ c ∈ cs, (snap c).Amounts (of c)) (name : String) :
    Entries.valuesOf name ((cs.map snap).flatMap (·.providers)) =
      (cs.filter fun c => !(executionsBy name (of c)).isEmpty).map fun c =>
        ProviderMetrics.ofExecutions (executionsBy name (of c)) := by
  induction cs with
  | nil => rfl
  | cons c cs ih =>
    have first := amounts c List.mem_cons_self
    have rest := ih fun other mem => amounts other (List.mem_cons_of_mem _ mem)
    have both : Entries.valuesOf name (((c :: cs).map snap).flatMap (·.providers)) =
        Entries.valuesOf name (snap c).providers ++
          Entries.valuesOf name ((cs.map snap).flatMap (·.providers)) := by
      simp [Entries.valuesOf]
    rw [both, rest, first.distinct.valuesOf_eq, first.providers, List.filter_cons]
    cases (executionsBy name (of c)).isEmpty <;> rfl

omit [Field α] [LinearOrder α] [FloorRing α] [Numerals α] in
/-- The executions by a provider in several lists are those in the lists that have any. -/
theorem executionsBy_flatMap (name : String) (of : γ → List (Execution α)) (cs : List γ) :
    executionsBy name (cs.flatMap of) =
      (cs.filter fun c => !(executionsBy name (of c)).isEmpty).flatMap
        fun c => executionsBy name (of c) := by
  rw [flatMap_filter_filled]
  exact List.filter_flatMap ..

/-- The metrics of a provider in snapshots, merged, are those of all its executions. -/
theorem merge_valuesOf (amounts : ∀ c ∈ cs, (snap c).Amounts (of c)) (name : String) :
    ProviderMetrics.merge (Entries.valuesOf name ((cs.map snap).flatMap (·.providers))) =
      .ok (.ofExecutions (executionsBy name (cs.flatMap of))) := by
  rw [valuesOf_snapshots amounts, executionsBy_flatMap]
  exact ProviderMetrics.merge_ofExecutions ..

/-- Snapshots have metrics of just the providers of their executions. -/
theorem isEmpty_valuesOf (amounts : ∀ c ∈ cs, (snap c).Amounts (of c)) (name : String) :
    (Entries.valuesOf name ((cs.map snap).flatMap (·.providers))).isEmpty =
      (executionsBy name (cs.flatMap of)).isEmpty := by
  rw [valuesOf_snapshots amounts, Bool.eq_iff_iff]
  simp [executionsBy, List.filter_flatMap]

/-- The metrics of providers are rolled up, each provider's for all its executions. -/
theorem mapM_merge (amounts : ∀ c ∈ cs, (snap c).Amounts (of c)) :
    ∃ providers : Entries String (ProviderMetrics α),
      ((Snapshot.byProvider (cs.map snap)).mapM fun (name, entries) => do
        return (name, ← ProviderMetrics.merge entries)) =
          (.ok providers : Except NumberError _) ∧
      providers.Distinct ∧ ∀ name, providers.get? name =
        if (executionsBy name (cs.flatMap of)).isEmpty then none
        else some (.ofExecutions (executionsBy name (cs.flatMap of))) := by
  let pairs := (cs.map snap).flatMap (·.providers)
  have distinct : (Snapshot.byProvider (cs.map snap)).Distinct :=
    Entries.distinct_nil.collect pairs
  have looks : ∀ name, (Snapshot.byProvider (cs.map snap)).get? name =
      if (Entries.valuesOf name pairs).isEmpty then none else some (Entries.valuesOf name pairs) :=
    Entries.get?_collect pairs []
  refine ⟨(Snapshot.byProvider (cs.map snap)).map fun entry =>
    (entry.1, .ofExecutions (executionsBy entry.1 (cs.flatMap of))), ?_, ?_, ?_⟩
  · refine Outcome.mapM_eq_map fun entry mem => ?_
    obtain ⟨name, entries⟩ := entry
    have found := (looks name).symm.trans (distinct.get?_of_mem mem BEq.rfl)
    have same : Entries.valuesOf name pairs = entries := by
      split at found
      · cases found
      · exact Option.some.inj found
    simp only [← same, pairs, merge_valuesOf amounts]
    rfl
  · exact distinct.map_keys _
  · intro name
    have mapped := Entries.get?_map_key (Snapshot.byProvider (cs.map snap))
      (fun name => ProviderMetrics.ofExecutions (executionsBy name (cs.flatMap of))) name
    rw [mapped, looks, isEmpty_valuesOf amounts]
    cases (executionsBy name (cs.flatMap of)).isEmpty <;> rfl

/-! ### Metrics -/

namespace Snapshot

/-- The weighted mean of a metric that is a mean over the executions of each snapshot. -/
theorem meanOf_eq {f : Metrics α → α} {g : Execution α → α}
    (amounts : ∀ c ∈ cs, (snap c).Amounts (of c))
    (each : ∀ c ∈ cs, f (snap c).metrics = meanOver g (of c)) :
    meanOf f (cs.map snap) = .ok (meanOver g (cs.flatMap of)) := by
  have values : (cs.map snap).map (fun s => f s.metrics) = cs.map fun c => meanOver g (of c) := by
    rw [List.map_map]
    exact List.map_congr_left each
  have counts : (cs.map snap).map (·.metrics.count) = cs.map fun c => ((of c).length : Int) := by
    rw [List.map_map]
    exact List.map_congr_left fun c mem => (amounts c mem).count
  rw [meanOf, values, counts, countedMean_meanOver]

theorem totalCount_eq (amounts : ∀ c ∈ cs, (snap c).Amounts (of c)) :
    totalCount (cs.map snap) = (cs.flatMap of).length := by
  have counts : (cs.map snap).map (·.metrics.count) = cs.map fun c => ((of c).length : Int) := by
    rw [List.map_map]
    exact List.map_congr_left fun c mem => (amounts c mem).count
  rw [totalCount, tally_eq, counts, sum_lengths]

theorem sum_totalCost (amounts : ∀ c ∈ cs, (snap c).Amounts (of c)) :
    Scalar.sum ((cs.map snap).map (·.metrics.totalCost)) =
      ((cs.flatMap of).map (·.cost)).sum := by
  rw [sum_eq]
  induction cs with
  | nil => rfl
  | cons c cs ih =>
    rw [List.map_cons, List.map_cons, List.sum_cons, List.flatMap_cons, List.map_append,
      List.sum_append, ih fun other mem => amounts other (List.mem_cons_of_mem _ mem),
      (amounts c List.mem_cons_self).totalCost]

/-! ### Qualities -/

theorem scored_eq (amounts : ∀ c ∈ cs, (snap c).Amounts (of c)) :
    scored (cs.map snap) = (cs.filter fun c => !(scoresOf (of c)).isEmpty).map snap := by
  rw [scored, List.filter_map]
  congr 1
  refine List.filter_congr fun c mem => ?_
  rw [Function.comp_apply, (amounts c mem).quality]
  cases (scoresOf (of c)).isEmpty <;> rfl

theorem tally_qualityCount (amounts : ∀ c ∈ cs, (snap c).Amounts (of c)) :
    Scalar.tally ((scored (cs.map snap)).map (·.metrics.qualityCount)) =
      (scoresOf (cs.flatMap of)).length := by
  have counts : ((cs.filter fun c => !(scoresOf (of c)).isEmpty).map snap).map
      (·.metrics.qualityCount) = (cs.filter fun c => !(scoresOf (of c)).isEmpty).map
        fun c => ((scoresOf (of c)).length : Int) := by
    rw [List.map_map]
    exact List.map_congr_left fun c mem => (amounts c (List.mem_of_mem_filter mem)).qualityCount
  rw [scored_eq amounts, tally_eq, counts, sum_lengths, flatMap_filter_filled, scoresOf,
    List.filterMap_flatMap]
  rfl

theorem meanQuality_eq (amounts : ∀ c ∈ cs, (snap c).Amounts (of c)) :
    meanQuality (cs.map snap) = .ok (if (scoresOf (cs.flatMap of)).isEmpty then none
      else some (average (scoresOf (cs.flatMap of)))) := by
  let having := cs.filter fun c => !(scoresOf (of c)).isEmpty
  have qualities : (having.map snap).filterMap (·.metrics.quality) =
      having.map fun c => average (scoresOf (of c)) := by
    rw [List.filterMap_map, ← List.filterMap_eq_map]
    refine List.filterMap_congr fun c mem => ?_
    obtain ⟨mem, filled⟩ := List.mem_filter.1 mem
    rw [Function.comp_apply, (amounts c mem).quality, if_neg (by simpa using filled)]
    rfl
  have counts : (having.map snap).map (·.metrics.qualityCount) =
      having.map fun c => ((scoresOf (of c)).length : Int) := by
    rw [List.map_map]
    exact List.map_congr_left fun c mem => (amounts c (List.mem_of_mem_filter mem)).qualityCount
  have all : scoresOf (cs.flatMap of) = cs.flatMap fun c => scoresOf (of c) :=
    List.filterMap_flatMap ..
  have empty : (having.map snap).isEmpty = (scoresOf (cs.flatMap of)).isEmpty := by
    rw [all, Bool.eq_iff_iff]
    simp [having]
  unfold meanQuality
  rw [scored_eq amounts]
  change (if (having.map snap).isEmpty then _ else _) = _
  rw [empty, qualities, counts, countedMean_averages, flatMap_filter_filled, ← all]
  cases (scoresOf (cs.flatMap of)).isEmpty <;> rfl

/-! ### Rollups -/

/-- In exact arithmetic all counts are in the range of scalars. -/
theorem representable (bound : Nat) : Counts.Representable α bound := fun _ _ => rfl

/-- The metrics of several snapshots are those of all their executions, with some percentiles and
custom metrics. -/
theorem mergeMetrics_eq (amounts : ∀ c ∈ cs, (snap c).Amounts (of c)) (times : List α) :
    ∃ spread custom, mergeMetrics (cs.map snap) times =
      .ok { count := (cs.flatMap of).length
            successRate := meanOver (fun e => Scalar.indicator e.success) (cs.flatMap of)
            errorRate := meanOver (fun e => Scalar.indicator (!e.success)) (cs.flatMap of)
            responseTime := meanOver (·.responseTime) (cs.flatMap of)
            tokenUsage := meanOver (fun e => (e.tokens.total : α)) (cs.flatMap of)
            totalCost := ((cs.flatMap of).map (·.cost)).sum
            cost := meanOver (·.cost) (cs.flatMap of)
            quality := if (scoresOf (cs.flatMap of)).isEmpty then none
              else some (average (scoresOf (cs.flatMap of)))
            qualityCount := (scoresOf (cs.flatMap of)).length
            spread, custom } := by
  have light := Nat.le_refl (weightOf (cs.map snap))
  obtain ⟨spread, spreads⟩ := mergeSpread_ok (representable _) light times
  let customOf (name : String) : Except NumberError (String × α) := do
    return (name, ← meanCustom (cs.map snap) name)
  have each : ∀ name ∈ customNames (cs.map snap), ∃ entry, customOf name = .ok entry := by
    intro name _
    obtain ⟨x, ok⟩ := meanCustom_ok (representable _) light name
    refine ⟨(name, x), ?_⟩
    simp only [customOf, ok]
    rfl
  obtain ⟨custom, customs⟩ := Outcome.mapM_ok each
  have successRate := meanOf_eq (f := (·.successRate)) amounts fun c mem =>
    (amounts c mem).successRate.trans (shareOf_eq_meanOver ..)
  have errorRate := meanOf_eq (f := (·.errorRate)) amounts fun c mem =>
    (amounts c mem).errorRate.trans (shareOf_eq_meanOver ..)
  have responseTime := meanOf_eq (f := (·.responseTime)) amounts fun c mem =>
    (amounts c mem).responseTime
  have tokenUsage := meanOf_eq (f := (·.tokenUsage)) amounts fun c mem =>
    (amounts c mem).tokenUsage
  have count := totalCount_eq amounts
  refine ⟨spread, custom, ?_⟩
  unfold mergeMetrics
  simp only [count, sum_totalCost amounts, tally_qualityCount amounts, successRate, errorRate,
    responseTime, tokenUsage, meanQuality_eq amounts, spreads]
  simp only [customOf] at customs
  rw [customs]
  split
  · next none =>
    have nothing : cs.flatMap of = [] := by
      rw [← List.length_eq_zero_iff]
      exact_mod_cast none
    have cost : (Scalar.zero : α) = meanOver (·.cost) (cs.flatMap of) := by
      simp [nothing, meanOver, average, zero_eq]
    rw [cost]
    rfl
  · have cost : ((cs.flatMap of).map (·.cost)).sum / (((cs.flatMap of).length : Int) : α) =
        meanOver (·.cost) (cs.flatMap of) := by
      rw [meanOver, average, List.length_map, Int.cast_natCast]
    rw [← cost]
    rfl

/-- Snapshots that have the amounts of some executions each are rolled up into one that has the
amounts of all of them. -/
theorem rollUp_amounts (amounts : ∀ c ∈ cs, (snap c).Amounts (of c)) (id : String)
    (interval : Calendar.Interval) (start : Calendar.Moment) (times : List α) :
    ∃ s, rollUp id interval start (cs.map snap) times = .ok s ∧ s.start = start ∧
      s.Amounts (cs.flatMap of) := by
  obtain ⟨spread, custom, metrics⟩ := mergeMetrics_eq amounts times
  obtain ⟨providers, merged, distinct, looks⟩ := mapM_merge amounts
  unfold rollUp
  rw [metrics, merged]
  refine ⟨_, rfl, rfl, ?_⟩
  constructor
  · rfl
  · exact (shareOf_eq_meanOver ..).symm
  · exact (shareOf_eq_meanOver ..).symm
  · rfl
  · rfl
  · rfl
  · rfl
  · rfl
  · rfl
  · exact distinct
  · exact looks

end Snapshot

end

end Promptuary
