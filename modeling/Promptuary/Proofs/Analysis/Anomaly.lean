import Mathlib.Analysis.Real.Sqrt
import Promptuary.Analysis.Anomaly
import Promptuary.Proofs.Outcome
import Promptuary.Proofs.Statistics.Exact
import Promptuary.Proofs.Statistics.Rounded

/-!
Anomalies. In exact arithmetic a change of the unit in which something is measured changes neither
what is an anomaly nor how far off it is, only the values that are told of it; and values that are
all equal show no anomaly. Floats that are all equal show none if their mean comes out as what they
are (`detect_rescale`); where it is rounded to something else they can
(`equal_values_may_be_flagged`).
-/

namespace Promptuary

open Exact

/-- Real numbers with their roots. They are not written. -/
noncomputable instance : Numerals ℝ where
  sqrt := Real.sqrt
  round x := .ok (round x)
  toDatum _ := .null
  shape _ := Schema.fault .number

/-! ### Units -/

/-- A value in another unit, of which one has the size of some number of the old ones, counted from
another zero. -/
def inUnit (a b v : ℝ) : ℝ := a * v + b

/-- An execution with a measure in another unit; tokens are always counted. -/
def Execution.rescale (measure : Measure) (unit : ℝ → ℝ) (e : Execution ℝ) : Execution ℝ :=
  match measure with
  | .responseTime => { e with responseTime := unit e.responseTime }
  | .tokenUsage => e
  | .cost => { e with cost := unit e.cost }
  | .quality => { e with quality := e.quality.map unit }

namespace Anomaly

/-! ### What is compared -/

section

variable {α : Type} [Scalar α] {policy : Policy α} {templateId : String} {e : Execution α}
  {baseline window : List (Execution α)}

/-- The values that a measure has in executions, as far as they lie within the range of scalars. -/
def valuesOf (measure : Measure) (window : List (Execution α)) : List α :=
  match measure with
  | .responseTime => window.map (·.responseTime)
  | .tokenUsage => window.filterMap fun e => Scalar.ofInt? e.tokens.total
  | .cost => window.map (·.cost)
  | .quality => window.filterMap (·.quality)

theorem valuesOf_tokenUsage {totals : List α}
    (ran : (window.mapM fun e => Scalar.ofInt e.tokens.total) =
      (.ok totals : Except NumberError (List α))) : valuesOf .tokenUsage window = totals := by
  have all : totals.map some = window.map fun e => Scalar.ofInt? e.tokens.total := by
    refine Outcome.map_of_mapM ran fun e x is => ?_
    unfold Scalar.ofInt at is
    split at is
    · next found => rw [found, Except.ok.inj is]
    · cases is
  have values : valuesOf .tokenUsage window = (totals.map some).filterMap id := by
    rw [all, List.filterMap_map]
    rfl
  rw [values, List.filterMap_map]
  exact List.filterMap_some

/-- What is compared of a measure is compared with its values in the window. -/
theorem history_of_mem {compared : List (Comparison α)} {c : Comparison α}
    (ran : comparisons e window = .ok compared) (mem : c ∈ compared) :
    c.history = valuesOf c.measure window := by
  unfold comparisons at ran
  obtain ⟨total, -, ran⟩ := Outcome.exists_of_bind_eq_ok ran
  obtain ⟨totals, counted, ran⟩ := Outcome.exists_of_bind_eq_ok ran
  cases ran
  rcases List.mem_append.1 mem with always | scored
  · simp only [List.mem_cons, List.not_mem_nil, or_false] at always
    rcases always with rfl | rfl | rfl
    · rfl
    · exact (valuesOf_tokenUsage counted).symm
    · rfl
  · split at scored
    · cases List.mem_singleton.1 scored
      rfl
    · cases scored

theorem measure_of_ofComparison {threshold : α} {time : Calendar.Moment} {c : Comparison α}
    {anomaly : Anomaly α} (shown : ofComparison threshold templateId time c = some anomaly) :
    anomaly.measure = c.measure.name := by
  unfold ofComparison at shown
  dsimp only at shown
  split at shown
  · cases shown
  · split at shown
    · cases shown
    · cases shown
      rfl

/-- Nothing is detected with too few executions. -/
theorem detect_of_few (few : (baseline.length : Int) < policy.leastSamples) :
    detect policy templateId e baseline = .ok [] := by
  unfold detect
  rw [if_pos (by simp [few])]
  rfl

/-- An anomaly that is detected is shown by the comparison of its measure with the values in the
window. -/
theorem exists_comparison_of_detect {found : List (Anomaly α)} {anomaly : Anomaly α}
    (ran : detect policy templateId e baseline = .ok found) (mem : anomaly ∈ found) :
    ∃ c : Comparison α, anomaly.measure = c.measure.name ∧
      c.history = valuesOf c.measure (windowOf policy.window baseline) ∧
      ofComparison policy.threshold templateId e.executedAt c = some anomaly := by
  unfold detect at ran
  split at ran
  · cases ran
    exact absurd mem List.not_mem_nil
  · obtain ⟨compared, made, same⟩ := Outcome.exists_of_bind_eq_ok ran
    cases same
    obtain ⟨c, among, shown⟩ := List.mem_filterMap.1 mem
    exact ⟨c, measure_of_ofComparison shown, history_of_mem made among, shown⟩

/-- Values of which no deviation is computed show no anomaly. -/
theorem ofComparison_of_same {threshold : α} {time : Calendar.Moment} {c : Comparison α}
    (none : Scalar.same (Sample.describe c.history).deviation Scalar.zero = true) :
    ofComparison threshold templateId time c = .none := if_pos none

end

/-! ### Other units of what is compared -/

/-- An anomaly with the values of a measure in another unit. -/
def rescale (measure : Measure) (unit : ℝ → ℝ) (found : Anomaly ℝ) : Anomaly ℝ :=
  if found.measure = measure.name then
    { found with expected := unit found.expected, actual := unit found.actual }
  else found

/-- A comparison with the values of a measure in another unit. -/
def Comparison.rescale (measure : Measure) (unit : ℝ → ℝ) (c : Comparison ℝ) : Comparison ℝ :=
  if c.measure = measure then
    { c with value := unit c.value, history := c.history.map unit }
  else c

variable {a b : ℝ} {xs : List ℝ} {measure : Measure}

/-! ### Statistics in another unit -/

theorem inUnit_sub {x y : ℝ} : inUnit a b x - inUnit a b y = a * (x - y) := by
  unfold inUnit
  ring

theorem average_inUnit (filled : xs ≠ []) :
    average (xs.map (inUnit a b)) = inUnit a b (average xs) := by
  have length := length_ne_zero filled
  have sum : (xs.map (inUnit a b)).sum = a * xs.sum + xs.length * b := by
    unfold inUnit
    rw [List.sum_map_add, List.sum_map_mul_left, List.map_id', List.map_const', List.sum_replicate,
      nsmul_eq_mul]
  rw [average, sum, List.length_map, average, inUnit]
  field_simp

theorem average_mul (c : ℝ) : average (xs.map (c * ·)) = c * average xs := by
  rw [average, average, List.length_map, List.sum_map_mul_left, List.map_id', mul_div_assoc]

/-- Mean and deviation of values that are there. -/
theorem describe_eq (filled : xs ≠ []) :
    (Sample.describe xs).mean = average xs ∧
      (Sample.describe xs).deviation =
        Real.sqrt (average (xs.map fun x => (x - average xs) * (x - average xs))) := by
  unfold Sample.describe
  rw [if_neg (by simpa using filled), arrayMean_eq]
  refine ⟨rfl, ?_⟩
  exact congrArg Real.sqrt (arrayMean_eq _)

/-- Without values there is no deviation. -/
theorem deviation_nil : (Sample.describe ([] : List ℝ)).deviation = 0 := zero_eq

theorem deviation_inUnit (positive : 0 < a) :
    (Sample.describe (xs.map (inUnit a b))).deviation = a * (Sample.describe xs).deviation := by
  by_cases empty : xs = []
  · rw [empty, List.map_nil, deviation_nil, mul_zero]
  · have filled : xs.map (inUnit a b) ≠ [] := by simpa using empty
    have squares : ((xs.map (inUnit a b)).map fun x =>
        (x - inUnit a b (average xs)) * (x - inUnit a b (average xs))) =
          (xs.map fun x => (x - average xs) * (x - average xs)).map (a ^ 2 * ·) := by
      rw [List.map_map, List.map_map]
      refine List.map_congr_left fun x _ => ?_
      simp only [Function.comp_apply, inUnit_sub]
      ring
    rw [(describe_eq filled).2, (describe_eq empty).2, average_inUnit empty, squares, average_mul,
      Real.sqrt_mul (sq_nonneg a), Real.sqrt_sq positive.le]

/-- Values that are all equal do not deviate. -/
theorem deviation_of_alike (alike : ∀ x ∈ xs, ∀ y ∈ xs, x = y) :
    (Sample.describe xs).deviation = 0 := by
  by_cases empty : xs = []
  · rw [empty, deviation_nil]
  · obtain ⟨first, mem⟩ := List.exists_mem_of_ne_nil xs empty
    have mean : average xs = first :=
      average_of_alike (fun y among => alike y among first mem) empty
    have none : ∀ z ∈ xs.map fun x => (x - first) * (x - first), z = 0 := by
      intro z among
      obtain ⟨x, member, rfl⟩ := List.mem_map.1 among
      rw [alike x member first mem, sub_self, zero_mul]
    rw [(describe_eq empty).2, mean, average_of_alike none (by simpa using empty), Real.sqrt_zero]

/-! ### One comparison -/

section

variable {threshold : ℝ} {templateId : String} {time : Calendar.Moment} {c : Comparison ℝ}

theorem abs_eq (x : ℝ) : Scalar.abs x = |x| := by
  unfold Scalar.abs
  rw [zero_eq]
  by_cases negative : x < 0
  · have less : Scalar.lt x 0 = true := decide_eq_true negative
    rw [if_pos less, abs_of_neg negative]
  · have least : ¬Scalar.lt x 0 = true := of_decide_eq_true.mt negative
    rw [if_neg least, abs_of_nonneg (not_lt.1 negative)]

/-- How many deviations a value lies away from the mean. -/
noncomputable def distanceOf (c : Comparison ℝ) : ℝ :=
  |c.value - (Sample.describe c.history).mean| / (Sample.describe c.history).deviation

/-- A comparison shows an anomaly just if there is a deviation and the value lies too many of them
away from the mean. -/
theorem ofComparison_eq :
    ofComparison threshold templateId time c =
      if (Sample.describe c.history).deviation = 0 ∨ distanceOf c ≤ threshold then none
      else
        some
          { time, templateId
            measure := c.measure.name
            expected := (Sample.describe c.history).mean
            actual := c.value
            distance := distanceOf c
            severity := .ofDistance (distanceOf c)
            causes := causesOf c.measure (c.value - (Sample.describe c.history).mean) } := by
  have none : Scalar.same (Sample.describe c.history).deviation Scalar.zero =
      decide ((Sample.describe c.history).deviation = 0) := by
    rw [zero_eq]
    rfl
  have within : Scalar.le (distanceOf c) threshold = decide (distanceOf c ≤ threshold) := by
    have both : Scalar.le (distanceOf c) threshold =
      (decide (distanceOf c < threshold) || decide (distanceOf c = threshold)) := rfl
    rw [both, ← Bool.decide_or]
    exact decide_eq_decide.2 le_iff_lt_or_eq.symm
  have distance : Scalar.abs (c.value - (Sample.describe c.history).mean) /
      (Sample.describe c.history).deviation = distanceOf c := by
    rw [abs_eq]
    rfl
  unfold ofComparison
  dsimp only
  rw [distance, none, within]
  by_cases alike : (Sample.describe c.history).deviation = 0
  · rw [if_pos (decide_eq_true alike), if_pos (.inl alike)]
  · rw [if_neg (of_decide_eq_true.mt alike)]
    by_cases near : distanceOf c ≤ threshold
    · rw [if_pos (decide_eq_true near), if_pos (.inr near)]
    · rw [if_neg (of_decide_eq_true.mt near), if_neg (not_or.2 ⟨alike, near⟩)]

theorem causesOf_mul (positive : 0 < a) (measure : Measure) (difference : ℝ) :
    causesOf measure (a * difference) = causesOf measure difference := by
  have above : Scalar.lt Scalar.zero (a * difference) = Scalar.lt Scalar.zero difference := by
    rw [zero_eq]
    exact decide_eq_decide.2 (mul_pos_iff_of_pos_left positive)
  have below : Scalar.lt (a * difference) Scalar.zero = Scalar.lt difference Scalar.zero := by
    rw [zero_eq]
    exact decide_eq_decide.2 (smul_neg_iff_of_pos_left positive)
  unfold causesOf
  rw [above, below]

theorem name_injective : Function.Injective Measure.name := by
  intro first second same
  cases first <;> cases second <;> simp_all [Measure.name]

/-- A value lies as many deviations away from the mean in another unit. -/
theorem distanceOf_inUnit (positive : 0 < a)
    (deviates : (Sample.describe c.history).deviation ≠ 0) :
    (Sample.describe (c.history.map (inUnit a b))).mean =
        inUnit a b (Sample.describe c.history).mean ∧
      distanceOf { c with value := inUnit a b c.value, history := c.history.map (inUnit a b) } =
        distanceOf c := by
  have filled : c.history ≠ [] := fun empty => deviates (empty ▸ deviation_nil)
  have mean : (Sample.describe (c.history.map (inUnit a b))).mean =
      inUnit a b (Sample.describe c.history).mean := by
    rw [(describe_eq filled).1, (describe_eq (by simpa using filled)).1, average_inUnit filled]
  refine ⟨mean, ?_⟩
  unfold distanceOf
  dsimp only
  rw [mean, inUnit_sub, deviation_inUnit positive, abs_mul, abs_of_pos positive,
    mul_div_mul_left _ _ positive.ne']

/-- A comparison in another unit shows the same anomaly with its values in that unit. -/
theorem ofComparison_rescale (positive : 0 < a) :
    ofComparison threshold templateId time (c.rescale measure (inUnit a b)) =
      (ofComparison threshold templateId time c).map (rescale measure (inUnit a b)) := by
  unfold Comparison.rescale
  split
  · next same =>
    subst same
    rw [ofComparison_eq, ofComparison_eq]
    dsimp only
    -- Where there is no deviation the distances are not numbers to be compared.
    by_cases alike : (Sample.describe c.history).deviation = 0
    · rw [deviation_inUnit positive, alike, mul_zero, if_pos (.inl rfl), if_pos (.inl rfl)]
      rfl
    · obtain ⟨mean, distance⟩ := distanceOf_inUnit (b := b) positive alike
      have deviates := mul_ne_zero positive.ne' alike
      rw [mean, distance, deviation_inUnit positive, inUnit_sub, causesOf_mul positive]
      by_cases near : distanceOf c ≤ threshold
      · rw [if_pos (.inr near), if_pos (.inr near)]
        rfl
      · rw [if_neg (not_or.2 ⟨deviates, near⟩), if_neg (not_or.2 ⟨alike, near⟩), Option.map_some,
          rescale, if_pos rfl]
  · next other =>
    rw [ofComparison_eq]
    split
    · rfl
    · have named : c.measure.name ≠ measure.name := name_injective.ne other
      rw [Option.map_some, rescale, if_neg named]

end

/-! ### All comparisons -/

variable {e : Execution ℝ} {window : List (Execution ℝ)}

/-- In exact arithmetic every measure that an execution has is compared with its values in the
window. -/
theorem comparisons_eq :
    comparisons e window =
      .ok ([⟨.responseTime, e.responseTime, valuesOf .responseTime window⟩,
        ⟨.tokenUsage, e.tokens.total, valuesOf .tokenUsage window⟩,
        ⟨.cost, e.cost, valuesOf .cost window⟩] ++
          (e.quality.map fun score => ⟨.quality, score, valuesOf .quality window⟩).toList) := by
  have tokens : (window.mapM fun other => Scalar.ofInt other.tokens.total) =
      (.ok (window.map fun other => (other.tokens.total : ℝ)) : Except NumberError (List ℝ)) :=
    Outcome.mapM_eq_map fun _ _ => rfl
  unfold comparisons
  rw [ofInt_eq, tokens, valuesOf_tokenUsage tokens]
  cases e.quality <;> rfl

theorem valuesOf_rescale {other : Measure} (counted : measure ≠ .tokenUsage) (unit : ℝ → ℝ) :
    valuesOf other (window.map (Execution.rescale measure unit)) =
      if other = measure then (valuesOf other window).map unit else valuesOf other window := by
  cases other <;> cases measure <;>
    simp_all [valuesOf, Execution.rescale, List.filterMap_map, List.map_filterMap,
      Function.comp_def]

theorem comparisons_rescale (counted : measure ≠ .tokenUsage) (unit : ℝ → ℝ) :
    comparisons (e.rescale measure unit) (window.map (Execution.rescale measure unit)) =
      (comparisons e window).map (List.map (Comparison.rescale measure unit)) := by
  have values (other : Measure) : valuesOf other (window.map (Execution.rescale measure unit)) =
      if other = measure then (valuesOf other window).map unit else valuesOf other window :=
    valuesOf_rescale counted unit
  rw [comparisons_eq, comparisons_eq]
  simp only [values]
  cases quality : e.quality <;> cases measure <;>
    simp_all [Execution.rescale, Comparison.rescale, Except.map]

theorem windowOf_map {β γ : Type} (count : Int) (f : β → γ) (xs : List β) :
    windowOf count (xs.map f) = (windowOf count xs).map f := by
  unfold windowOf
  split <;> simp

/-- What is detected in exact arithmetic. -/
theorem detect_eq (policy : Policy ℝ) (templateId : String) (e : Execution ℝ)
    (baseline : List (Execution ℝ)) :
    detect policy templateId e baseline =
      if !policy.detectAnomalies || (baseline.length : Int) < policy.leastSamples then .ok []
      else (comparisons e (windowOf policy.window baseline)).map
        (List.filterMap (ofComparison policy.threshold templateId e.executedAt)) := by
  unfold detect
  rw [comparisons_eq]
  split <;> rfl

theorem executedAt_rescale (unit : ℝ → ℝ) : (e.rescale measure unit).executedAt = e.executedAt := by
  cases measure <;> rfl

/-- In exact arithmetic a detection in another unit finds the same anomalies, with the same
distances, severities and causes, and tells the values of the measure in that unit. -/
theorem detect_inUnit (policy : Policy ℝ) (templateId : String) (e : Execution ℝ)
    (baseline : List (Execution ℝ)) (counted : measure ≠ .tokenUsage) (positive : 0 < a) :
    detect policy templateId (e.rescale measure (inUnit a b))
        (baseline.map (Execution.rescale measure (inUnit a b))) =
      (detect policy templateId e baseline).map
        (List.map (Anomaly.rescale measure (inUnit a b))) := by
  rw [detect_eq, detect_eq, List.length_map, windowOf_map, comparisons_rescale counted,
    executedAt_rescale, comparisons_eq]
  split
  · rfl
  · refine congrArg Except.ok ?_
    rw [List.filterMap_map, List.map_filterMap]
    exact congrArg (List.filterMap · _) (funext fun _ => ofComparison_rescale positive)

theorem exists_detect (policy : Policy ℝ) (templateId : String) (e : Execution ℝ)
    (baseline : List (Execution ℝ)) :
    ∃ found, detect policy templateId e baseline = .ok found := by
  rw [detect_eq, comparisons_eq]
  split
  · exact ⟨_, rfl⟩
  · exact ⟨_, rfl⟩

/-- In exact arithmetic a detection in another unit finds the same anomalies, with the same
distances, severities and causes, and tells the values of the measure in that unit; and nothing is
found for a measure of which all values in the window are equal. Of floats nothing is found for such
a measure if the mean of its values comes out as what they all are. Nothing is ever found with too
few executions. -/
theorem detect_rescale (templateId : String) :
    (∀ (policy : Policy ℝ) (e : Execution ℝ) (baseline : List (Execution ℝ)),
      (∀ measure ≠ Measure.tokenUsage, ∀ a b : ℝ, 0 < a →
        detect policy templateId (e.rescale measure (inUnit a b))
            (baseline.map (Execution.rescale measure (inUnit a b))) =
          (detect policy templateId e baseline).map
            (List.map (Anomaly.rescale measure (inUnit a b)))) ∧
      ∃ found, detect policy templateId e baseline = .ok found ∧
        ((baseline.length : Int) < policy.leastSamples → found = []) ∧
        ∀ measure : Measure,
          (∀ x ∈ valuesOf measure (windowOf policy.window baseline),
            ∀ y ∈ valuesOf measure (windowOf policy.window baseline), x = y) →
          ∀ anomaly ∈ found, anomaly.measure ≠ measure.name) ∧
    ∀ (policy : Policy Float) (e : Execution Float) (baseline : List (Execution Float)),
      ((baseline.length : Int) < policy.leastSamples →
        detect policy templateId e baseline = .ok []) ∧
      ∀ found, detect policy templateId e baseline = .ok found →
        ∀ (measure : Measure) (x : Float), x.isFinite = true →
          (∀ y ∈ valuesOf measure (windowOf policy.window baseline), y = x) →
          (Sample.describe (valuesOf measure (windowOf policy.window baseline))).mean = x →
          ∀ anomaly ∈ found, anomaly.measure ≠ measure.name := by
  refine ⟨fun policy e baseline => ⟨fun measure counted a b positive => ?_, ?_⟩,
    fun policy e baseline => ⟨detect_of_few, fun found ran measure x finite alike mean => ?_⟩⟩
  · exact detect_inUnit policy templateId e baseline counted positive
  · obtain ⟨found, ran⟩ := exists_detect policy templateId e baseline
    refine ⟨found, ran, fun few => ?_, fun measure alike anomaly mem named => ?_⟩
    · exact Except.ok.inj (ran.symm.trans (detect_of_few few))
    · obtain ⟨c, same, history, shown⟩ := exists_comparison_of_detect ran mem
      obtain rfl : c.measure = measure := name_injective (same.symm.trans named)
      have none := deviation_of_alike (history ▸ alike)
      rw [ofComparison_eq, if_pos (.inl none)] at shown
      cases shown
  · intro anomaly mem named
    obtain ⟨c, same, history, shown⟩ := exists_comparison_of_detect ran mem
    obtain rfl : c.measure = measure := name_injective (same.symm.trans named)
    rw [← history] at alike mean
    rw [ofComparison_of_same (same_deviation_zero finite alike mean)] at shown
    cases shown

/-- A run of which only the response time matters. -/
def timedRun (milliseconds : ℝ) : Execution ℝ :=
  { templateId := "t1", label := "1.0.0", bindings := [], provider := "p", model := "m"
    response := "", responseTime := milliseconds, tokens := {}, cost := 0, success := true
    error := none, quality := none, executedAt := ⟨0, none⟩ }

/-- Two runs are enough, and three deviations too many. -/
def strictPolicy : Policy ℝ :=
  { realTime := true, detectAnomalies := true, findTrends := true, snapshotDays := 30
    anomalyDays := 30, threshold := 3, leastSamples := 2, window := 100, slowFrom := 0
    leastSuccess := 0, costRise := 0, burst := 0, leastQuality := 0 }

/-- What is told of a run of nineteen milliseconds after runs of one and five. -/
def slowRun : Anomaly ℝ :=
  { time := ⟨0, none⟩, templateId := "t1", measure := "response_time", expected := 3, actual := 19
    distance := 8, severity := .high
    causes := ["Provider API slowdown", "Increased prompt complexity", "Network latency"] }

theorem detect_slowRun :
    detect strictPolicy "t1" (timedRun 19) [timedRun 1, timedRun 5] = .ok [slowRun] := by
  have mean : (Sample.describe [(1 : ℝ), 5]).mean = 3 := by
    rw [(describe_eq (by simp)).1]
    norm_num [average]
  have deviation : (Sample.describe [(1 : ℝ), 5]).deviation = 2 := by
    rw [(describe_eq (by simp)).2, Real.sqrt_eq_iff_mul_self_eq_of_pos two_pos]
    norm_num [average]
  have zeros : (Sample.describe [(0 : ℝ), 0]).deviation = 0 := deviation_of_alike (by simp)
  have severity : Severity.ofDistance (8 : ℝ) = .high := by
    rw [Severity.ofDistance, if_pos]
    rw [ofNat_eq]
    exact decide_eq_true (by norm_num)
  have causes : causesOf .responseTime (16 : ℝ) =
      ["Provider API slowdown", "Increased prompt complexity", "Network latency"] := by
    have above : Scalar.lt (Scalar.zero : ℝ) 16 = true := by
      rw [zero_eq]
      exact decide_eq_true (by norm_num)
    rw [causesOf, above]
    rfl
  have window : windowOf strictPolicy.window [timedRun 1, timedRun 5] = [timedRun 1, timedRun 5] :=
    rfl
  have time : ofComparison strictPolicy.threshold "t1" (timedRun 19).executedAt
      ⟨.responseTime, 19, [1, 5]⟩ = some slowRun := by
    have distance : distanceOf ⟨.responseTime, 19, [1, 5]⟩ = 8 := by
      rw [distanceOf, mean, deviation]
      norm_num
    have far : ¬((2 : ℝ) = 0 ∨ (8 : ℝ) ≤ strictPolicy.threshold) := by norm_num [strictPolicy]
    have difference : (19 : ℝ) - 3 = 16 := by norm_num
    rw [ofComparison_eq, distance, mean, deviation, severity, if_neg far, difference, causes]
    rfl
  have others (measure : Measure) : ofComparison strictPolicy.threshold "t1"
      (timedRun 19).executedAt ⟨measure, 0, [0, 0]⟩ = none := by
    rw [ofComparison_eq, if_pos (.inl zeros)]
  have tokens : valuesOf .tokenUsage [timedRun 1, timedRun 5] = [0, 0] := by
    have counted : [timedRun 1, timedRun 5].mapM (fun e => Scalar.ofInt e.tokens.total) =
        (.ok [((0 : Int) : ℝ), ((0 : Int) : ℝ)] : Except NumberError (List ℝ)) := rfl
    rw [valuesOf_tokenUsage counted, Int.cast_zero]
  have counted : ((timedRun 19).tokens.total : ℝ) = 0 := Int.cast_zero
  rw [detect_eq, if_neg (by decide), window, comparisons_eq, tokens, counted]
  refine congrArg Except.ok ?_
  refine (List.filterMap_cons_some time).trans (congrArg _ ?_)
  refine (List.filterMap_cons_none (others .tokenUsage)).trans ?_
  exact List.filterMap_cons_none (others .cost)

/-- In seconds the same run is as far off. -/
theorem detect_rescale_seconds :
    (0 : ℝ) < 1 / 1000 ∧
      detect strictPolicy "t1" ((timedRun 19).rescale .responseTime (inUnit (1 / 1000) 0))
          ([timedRun 1, timedRun 5].map (Execution.rescale .responseTime (inUnit (1 / 1000) 0))) =
        .ok [{ slowRun with expected := 3 / 1000, actual := 19 / 1000 }] := by
  have positive : (0 : ℝ) < 1 / 1000 := by norm_num
  refine ⟨positive, ?_⟩
  rw [((detect_rescale "t1").1 strictPolicy (timedRun 19) _).1 .responseTime (by decide) _ _
    positive, detect_slowRun]
  norm_num [Except.map, rescale, slowRun, Measure.name, inUnit]

/-- A run of which only the cost matters, in floats. -/
def pricedRun (cost : Float) : Execution Float :=
  { templateId := "t1", label := "1.0.0", bindings := [], provider := "p", model := "m"
    response := "", responseTime := 100, tokens := {}, cost, success := true
    error := none, quality := none, executedAt := ⟨0, none⟩ }

/-- Three runs are enough, and three deviations too many. -/
def shortPolicy : Policy Float :=
  { realTime := true, detectAnomalies := true, findTrends := true, snapshotDays := 30
    anomalyDays := 30, threshold := 3, leastSamples := 3, window := 100, slowFrom := 0
    leastSuccess := 0, costRise := 0, burst := 0, leastQuality := 0 }

/-- The condition on the mean cannot be left out: the mean of three costs of a tenth is rounded to
something more than a tenth, so that they seem to deviate, and the cost of another run is flagged. -/
theorem equal_values_may_be_flagged : ¬ ∀ (policy : Policy Float) (e : Execution Float)
    (baseline : List (Execution Float)) (found : List (Anomaly Float)),
    0 ≤ policy.threshold → detect policy "t1" e baseline = .ok found →
    ∀ (measure : Measure) (x : Float), x.isFinite = true →
      (∀ y ∈ valuesOf measure (windowOf policy.window baseline), y = x) →
      ∀ anomaly ∈ found, anomaly.measure ≠ measure.name := by
  intro never
  have flagged : ((detect shortPolicy "t1" (pricedRun 0.2)
      (List.replicate 3 (pricedRun 0.1))).map (List.map Anomaly.measure)).toOption =
        some ["cost"] := by
    decide +kernel
  rcases ran : detect shortPolicy "t1" (pricedRun 0.2) (List.replicate 3 (pricedRun 0.1)) with
    e | found
  · rw [ran] at flagged
    cases flagged
  · rw [ran] at flagged
    have mem : "cost" ∈ found.map Anomaly.measure := by
      rw [Option.some.inj flagged]
      exact List.mem_singleton_self _
    obtain ⟨anomaly, among, named⟩ := List.mem_map.1 mem
    refine never shortPolicy _ _ found (by decide +kernel) ran .cost 0.1 (by decide +kernel) ?_
      anomaly among named
    intro y among
    obtain ⟨e, mem, rfl⟩ := List.mem_map.1 among
    rw [(List.mem_replicate.1 mem).2]
    rfl

end Anomaly

end Promptuary
