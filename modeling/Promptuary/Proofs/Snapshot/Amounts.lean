import Promptuary.Proofs.Entries
import Promptuary.Proofs.Statistics.Exact

/-!
What executions amount to, computed from the list of them: counts, shares and means over all
executions, over those that have a quality, and over those of each provider. A snapshot to which
executions are added one after another has just these amounts.
-/

namespace Promptuary

open Exact

variable {α : Type} [Field α] [LinearOrder α] [FloorRing α] [Numerals α]

/-! ### Amounts of executions -/

/-- The mean of a number over executions; zero if there is none. -/
def meanOver (f : Execution α → α) (es : List (Execution α)) : α := average (es.map f)

/-- The share of the executions that have a property; zero if there is none. -/
def shareOf (p : Execution α → Bool) (es : List (Execution α)) : α :=
  ((es.filter p).length : α) / es.length

/-- The qualities of the executions that have one. -/
def scoresOf (es : List (Execution α)) : List α := es.filterMap (·.quality)

/-- The executions by a provider. -/
def executionsBy (provider : String) (es : List (Execution α)) : List (Execution α) :=
  es.filter (·.provider = provider)

/-- What the executions by one provider amount to. -/
def ProviderMetrics.ofExecutions (es : List (Execution α)) : ProviderMetrics α where
  count := es.length
  responseTime := meanOver (·.responseTime) es
  errorRate := shareOf (fun e => !e.success) es
  cost := meanOver (·.cost) es

/-- A snapshot has the amounts of executions, whatever its percentiles and custom metrics. -/
structure Snapshot.Amounts (es : List (Execution α)) (s : Snapshot α) : Prop where
  count : s.metrics.count = es.length
  successRate : s.metrics.successRate = shareOf (·.success) es
  errorRate : s.metrics.errorRate = shareOf (fun e => !e.success) es
  responseTime : s.metrics.responseTime = meanOver (·.responseTime) es
  tokenUsage : s.metrics.tokenUsage = meanOver (fun e => (e.tokens.total : α)) es
  totalCost : s.metrics.totalCost = (es.map (·.cost)).sum
  cost : s.metrics.cost = meanOver (·.cost) es
  quality : s.metrics.quality =
    if (scoresOf es).isEmpty then none else some (average (scoresOf es))
  qualityCount : s.metrics.qualityCount = (scoresOf es).length
  distinct : s.providers.Distinct
  providers : ∀ name, s.providers.get? name =
    if (executionsBy name es).isEmpty then none
    else some (.ofExecutions (executionsBy name es))

/-! ### Order does not matter -/

section

variable {es es' : List (Execution α)}

theorem average_perm {xs ys : List α} (perm : xs.Perm ys) : average xs = average ys := by
  rw [average, average, perm.sum_eq, perm.length_eq]

theorem meanOver_perm (f : Execution α → α) (perm : es.Perm es') :
    meanOver f es = meanOver f es' :=
  average_perm (perm.map f)

theorem shareOf_perm (p : Execution α → Bool) (perm : es.Perm es') :
    shareOf p es = shareOf p es' := by
  rw [shareOf, shareOf, (perm.filter p).length_eq, perm.length_eq]

theorem ProviderMetrics.ofExecutions_perm (perm : es.Perm es') :
    (ofExecutions es : ProviderMetrics α) = ofExecutions es' := by
  unfold ofExecutions
  rw [perm.length_eq, meanOver_perm _ perm, shareOf_perm _ perm, meanOver_perm _ perm]

theorem Snapshot.Amounts.perm {s : Snapshot α} (amounts : s.Amounts es) (perm : es.Perm es') :
    s.Amounts es' where
  count := by rw [amounts.count, perm.length_eq]
  successRate := by rw [amounts.successRate, shareOf_perm _ perm]
  errorRate := by rw [amounts.errorRate, shareOf_perm _ perm]
  responseTime := by rw [amounts.responseTime, meanOver_perm _ perm]
  tokenUsage := by rw [amounts.tokenUsage, meanOver_perm _ perm]
  totalCost := by rw [amounts.totalCost, (perm.map _).sum_eq]
  cost := by rw [amounts.cost, meanOver_perm _ perm]
  quality := by
    have scores : (scoresOf es).Perm (scoresOf es') := perm.filterMap _
    rw [amounts.quality, average_perm scores, scores.isEmpty_eq]
  qualityCount := by
    have scores : (scoresOf es).Perm (scoresOf es') := perm.filterMap _
    rw [amounts.qualityCount, scores.length_eq]
  distinct := amounts.distinct
  providers := by
    intro name
    have own : (executionsBy name es).Perm (executionsBy name es') := perm.filter _
    rw [amounts.providers, own.isEmpty_eq, ProviderMetrics.ofExecutions_perm own]

end

/-! ### One execution more -/

theorem shareOf_eq_meanOver (p : Execution α → Bool) (es : List (Execution α)) :
    shareOf p es = meanOver (fun e => Scalar.indicator (p e)) es := by
  have counted : ((es.filter p).length : α) =
      (es.map fun e => (Scalar.indicator (p e) : α)).sum := by
    induction es with
    | nil => simp
    | cons e es ih =>
      rw [List.map_cons, List.sum_cons, ← ih, indicator_eq, List.filter_cons]
      cases p e with
      | true => simp [add_comm]
      | false => simp
  rw [shareOf, meanOver, average, counted, List.length_map]

theorem shareOf_not {p : Execution α → Bool} {es : List (Execution α)} [CharZero α]
    (some : es ≠ []) : shareOf (fun e => !p e) es = 1 - shareOf p es := by
  have whole : (es.filter p).length + (es.filter fun e => !p e).length = es.length :=
    (List.length_eq_length_filter_add p).symm
  have parts : ((es.filter fun e => !p e).length : α) = es.length - (es.filter p).length := by
    rw [← whole, Nat.cast_add, add_sub_cancel_left]
  have positive : (es.length : α) ≠ 0 := by
    rw [Nat.cast_ne_zero, ne_eq, List.length_eq_zero_iff]
    exact some
  rw [shareOf, shareOf, parts, sub_div, div_self positive]

theorem ProviderMetrics.none_eq : (none : ProviderMetrics α) = ofExecutions [] := by
  have zero : (Scalar.zero : α) = 0 := zero_eq
  simp only [none, ofExecutions, meanOver, shareOf, average, zero, List.map_nil, List.sum_nil,
    List.filter_nil, List.length_nil, Nat.cast_zero, div_zero]

/-- A snapshot of no executions has the amounts of none. -/
theorem Snapshot.amounts_empty (id : String) (interval : Calendar.Interval)
    (start : Calendar.Moment) : (empty id interval start : Snapshot α).Amounts [] := by
  have zero : (Scalar.zero : α) = 0 := zero_eq
  constructor <;>
    simp [empty, Metrics.none, zero, meanOver, shareOf, scoresOf, executionsBy, average,
      Entries.distinct_nil]

section

variable [IsStrictOrderedRing α] {es : List (Execution α)} {e : Execution α}

theorem carryMean_meanOver (f : Execution α → α) (es : List (Execution α)) (e : Execution α) :
    carryMean (meanOver f es) es.length (f e) = meanOver f (es ++ [e]) := by
  have carried := carryMean_average (es.map f) (f e)
  rw [List.length_map] at carried
  rw [meanOver, meanOver, List.map_append, List.map_singleton]
  exact carried

theorem carryMean_shareOf (p : Execution α → Bool) (es : List (Execution α)) (e : Execution α) :
    carryMean (shareOf p es) es.length (Scalar.indicator (p e)) = shareOf p (es ++ [e]) := by
  rw [shareOf_eq_meanOver, shareOf_eq_meanOver]
  exact carryMean_meanOver (fun e => Scalar.indicator (p e)) es e

/-- Adding an execution to the metrics of its provider gives those of one execution more. -/
theorem ProviderMetrics.add_ofExecutions (es : List (Execution α)) (e : Execution α) :
    (ofExecutions es).add e = ofExecutions (es ++ [e]) := by
  have count : (es.length : Int) + 1 = (es ++ [e]).length := by simp
  have time : carryMean (meanOver (·.responseTime) es) es.length e.responseTime = _ :=
    carryMean_meanOver (·.responseTime) es e
  have errors : carryMean (shareOf (fun e => !e.success) es) es.length
      (Scalar.indicator (!e.success)) = _ := carryMean_shareOf (fun e => !e.success) es e
  have cost : carryMean (meanOver (·.cost) es) es.length e.cost = _ :=
    carryMean_meanOver (·.cost) es e
  unfold add ofExecutions
  rw [count, time, errors, cost]

/-- The quality after an execution more. -/
theorem scores_addQuality {m : Metrics α} (e : Execution α)
    (quality : m.quality = if (scoresOf es).isEmpty then none else some (average (scoresOf es)))
    (count : m.qualityCount = (scoresOf es).length) :
    (m.addQuality e.quality).qualityCount = (scoresOf (es ++ [e])).length ∧
      (m.addQuality e.quality).quality = if (scoresOf (es ++ [e])).isEmpty then none
        else some (average (scoresOf (es ++ [e]))) := by
  have scores : scoresOf (es ++ [e]) = scoresOf es ++ e.quality.toList := by
    rw [scoresOf, scoresOf, List.filterMap_append]
    cases quality : e.quality <;> simp [quality]
  rw [scores]
  cases e.quality with
  | none =>
    rw [Option.toList_none, List.append_nil]
    exact ⟨count, quality⟩
  | some score =>
    have known : m.quality.getD Scalar.zero = average (scoresOf es) := by
      rw [quality]
      by_cases empty : scoresOf es = []
      · rw [empty, average]
        simp [zero_eq]
      · rw [if_neg (by simpa using empty)]
        rfl
    have added : (m.addQuality (some score)).quality =
        some (carryMean (average (scoresOf es)) (scoresOf es).length score) := by
      rw [← known, ← count]
      rfl
    have counted : (m.addQuality (some score)).qualityCount = (scoresOf es).length + 1 := by
      rw [← count]
      rfl
    rw [added, counted, carryMean_average, Option.toList_some, List.length_append]
    exact ⟨rfl, by simp⟩

/-- The metrics of each provider after an execution more. -/
theorem Snapshot.Amounts.providers_addProvider {s : Snapshot α} (amounts : s.Amounts es)
    (e : Execution α) (name : String) : (s.addProvider e).providers.get? name =
      if (executionsBy name (es ++ [e])).isEmpty then none
      else some (.ofExecutions (executionsBy name (es ++ [e]))) := by
  have put : (s.addProvider e).providers.get? name = if e.provider == name then
      some (((s.providers.get? e.provider).getD .none).add e) else s.providers.get? name :=
    Entries.get?_put ..
  rw [put]
  by_cases same : e.provider = name
  · subst same
    have own : executionsBy e.provider (es ++ [e]) = executionsBy e.provider es ++ [e] := by
      simp [executionsBy]
    have known : (s.providers.get? e.provider).getD .none =
        .ofExecutions (executionsBy e.provider es) := by
      rw [amounts.providers]
      split
      · next empty =>
        rw [List.isEmpty_iff.1 empty, ← ProviderMetrics.none_eq]
        rfl
      · rfl
    rw [known, ProviderMetrics.add_ofExecutions, own]
    simp
  · have others : executionsBy name (es ++ [e]) = executionsBy name es := by
      simp [executionsBy, same]
    rw [others, if_neg (by simpa using same), amounts.providers]

/-- Adding an execution succeeds, and gives the amounts of one execution more. -/
theorem Snapshot.Amounts.add {s : Snapshot α} (amounts : s.Amounts es) (e : Execution α) :
    ∃ m, (s.metrics.addOutcome e).addAmounts e = .ok m ∧
      ((s.withMetrics m).addProvider e).Amounts (es ++ [e]) := by
  let outcome := s.metrics.addOutcome e
  let counted : Metrics α :=
    { outcome with
      tokenUsage := carryMean s.metrics.tokenUsage (s.metrics.count + 1 - 1) e.tokens.total
      totalCost := s.metrics.totalCost + e.cost
      cost := (s.metrics.totalCost + e.cost) / Scalar.ofCount (s.metrics.count + 1) }
  obtain ⟨qualityCount, quality⟩ :=
    scores_addQuality (m := counted) e amounts.quality amounts.qualityCount
  have length : s.metrics.count + 1 = ((es ++ [e]).length : Int) := by
    rw [amounts.count]
    simp
  have success : counted.successRate = shareOf (·.success) (es ++ [e]) := by
    rw [← carryMean_shareOf, ← amounts.successRate, ← amounts.count]
    rfl
  have failure : counted.errorRate = shareOf (fun e => !e.success) (es ++ [e]) := by
    rw [shareOf_not (by simp), ← success]
    change Scalar.one - _ = _
    rw [one_eq]
    rfl
  have time : counted.responseTime = meanOver (·.responseTime) (es ++ [e]) := by
    rw [← carryMean_meanOver, ← amounts.responseTime, ← amounts.count]
    rfl
  have tokens : counted.tokenUsage = meanOver (fun e => (e.tokens.total : α)) (es ++ [e]) := by
    rw [← carryMean_meanOver, ← amounts.tokenUsage, ← amounts.count]
    change carryMean _ (s.metrics.count + 1 - 1) _ = _
    rw [add_sub_cancel_right]
  have total : s.metrics.totalCost + e.cost = ((es ++ [e]).map (·.cost)).sum := by
    rw [amounts.totalCost]
    simp
  have cost : counted.cost = meanOver (·.cost) (es ++ [e]) := by
    change (s.metrics.totalCost + e.cost) / Scalar.ofCount (s.metrics.count + 1) = _
    rw [total, length, ofCount_eq, meanOver, average, List.length_map]
    push_cast
    rfl
  refine ⟨counted.addQuality e.quality, rfl, ?_⟩
  rw [Metrics.addQuality_eq, quality, qualityCount]
  exact {
    count := length
    successRate := success
    errorRate := failure
    responseTime := time
    tokenUsage := tokens
    totalCost := total
    cost := cost
    quality := rfl
    qualityCount := rfl
    distinct := amounts.distinct.put ..
    providers := amounts.providers_addProvider e }

end

end Promptuary
