import Promptuary.Analysis.Comparison
import Promptuary.Proofs.Number.Nearest

/-!
What the comparison of two periods calls an improvement. Although floats are rounded, a change in
percent has the sign of the difference (`percentOf_sign`); but a rise from zero counts as no change,
and a fall from something infinite has no percentage. So a metric that got better is called an
improvement just if it can get better from its earlier value (`improvement_iff_gotBetter`).
-/

namespace Promptuary

open Float.Model Float.Model.UnpackedFloat Number

/-! ### Changes in percent -/

section

variable {x y : Float} {m : Nat} {e : Int} {s : Sign}

/-- A change in percent of the earlier value. -/
def percentOf (current earlier : Float) : Float := (current - earlier) / earlier * Scalar.ofNat 100

/-- A change in percent lies on the side of the difference. -/
theorem reaches_percentOf {positive : 0 < m}
    (parts : y.toModel.unpack = .finite .positive m e positive) (canonical : Canonical m e)
    (differs : Reaches e s (UnpackedFloat.sub .binary64 x.toModel.unpack y.toModel.unpack)) :
    Reaches (-47) s (percentOf x y).toModel.unpack := by
  have hundred : (Scalar.ofNat 100 : Float).toModel.unpack =
      .finite .positive (100 * 2 ^ 46) (-46) (by decide) := rfl
  have quotient := (differs.unpack_pack.div positive canonical).unpack_pack
  have product := (quotient.mul (m := 100 * 2 ^ 46) (e := -46) (by decide) (by decide)
    (by decide)).unpack_pack
  rw [← parts, ← hundred] at product
  exact product

/-- Where nothing differs the change in percent is zero. -/
theorem percentOf_same {positive : 0 < m}
    (first : x.toModel.unpack = .finite .positive m e positive)
    (second : y.toModel.unpack = .finite .positive m e positive) :
    (percentOf x y).toModel.unpack = .zero .positive := by
  have difference : (x - y).toModel.unpack = .zero .positive := by
    have none : ((m <<< (e - e).toNat : Nat) : Int) - m = 0 := by simp
    rw [unpack_sub, first, second, (sub_of_le le_rfl).1, none]
    exact unpack_packedZero _
  have quotient : ((x - y) / y).toModel.unpack = .zero .positive := by
    rw [unpack_div, difference, second]
    exact unpack_packedZero _
  rw [percentOf, unpack_mul, quotient]
  exact unpack_packedZero _

/-- A change in percent lies to zero as the later value lies to the earlier one, where that is
positive and finite. -/
theorem percentOf_sign {positive : 0 < m} (nonneg : 0 ≤ x)
    (parts : y.toModel.unpack = .finite .positive m e positive) :
    (0 < percentOf x y ↔ y < x) ∧ (percentOf x y < 0 ↔ x < y) := by
  have canonical := canonical_of_parts parts
  obtain ⟨above, below⟩ := reaches_difference nonneg parts
  by_cases more : y < x
  · obtain ⟨side, other⟩ := zero_lt_of_reaches (reaches_percentOf parts canonical (above more))
    exact ⟨iff_of_true side more, iff_of_false other (not_lt_of_lt more)⟩
  · by_cases less : x < y
    · obtain ⟨side, other⟩ := lt_zero_of_reaches (reaches_percentOf parts canonical (below less))
      exact ⟨iff_of_false other more, iff_of_true side less⟩
    · have none := percentOf_same (unpack_eq_of_not_lt nonneg parts more less) parts
      rw [lt_iff_parts rfl none, lt_iff_parts none rfl]
      exact ⟨iff_of_false nofun more, iff_of_false nofun less⟩

/-- A change in percent of an infinite value is not a number. -/
theorem percentOf_infinite (nonneg : 0 ≤ x) (parts : y.toModel.unpack = .infinity .positive) :
    (percentOf x y).toModel.unpack = .notANumber := by
  have difference : (x - y).toModel.unpack = .infinity .negative ∨
      (x - y).toModel.unpack = .notANumber := by
    rw [unpack_sub, parts]
    rcases unpack_of_nonneg nonneg with ⟨s, zero⟩ | ⟨m', e', positive', finite⟩ | infinite
    · exact .inl (zero ▸ unpack_packedInfinity)
    · exact .inl (finite ▸ unpack_packedInfinity)
    · rw [infinite]
      exact .inr rfl
  have quotient : ((x - y) / y).toModel.unpack = .notANumber := by
    rw [unpack_div, parts]
    rcases difference with below | undefined
    · rw [below]
      rfl
    · rw [undefined]
      rfl
  rw [percentOf, unpack_mul, quotient]
  rfl

end

/-! ### Improvements -/

theorem isImprovement_eq (lowerIsBetter : Bool) (now before : Float) :
    (Change.between lowerIsBetter now before).isImprovement =
      if lowerIsBetter then decide ((Change.between lowerIsBetter now before).percent < 0)
      else decide (0 < (Change.between lowerIsBetter now before).percent) := rfl

/-- A change is an improvement just if the value got better: it is less, and what it was before is
finite, or it is more, and what it was before is not zero. -/
theorem between_isImprovement_iff {now before : Float} (nonneg : 0 ≤ now) (nonneg' : 0 ≤ before)
    (lowerIsBetter : Bool) :
    (Change.between lowerIsBetter now before).isImprovement = true ↔
      if lowerIsBetter then now < before ∧ before.isFinite = true
      else before < now ∧ 0 < before := by
  have same : Scalar.same before Scalar.zero = before.toModel.unpack.beq (.zero .positive) := rfl
  have positive : 0 < before ↔ (UnpackedFloat.zero .positive).lt before.toModel.unpack = true :=
    lt_iff_parts rfl rfl
  rw [isImprovement_eq, positive, isFinite_eq]
  rcases unpack_of_nonneg nonneg' with ⟨s, zero⟩ | ⟨m, e, some', parts⟩ | infinite
  · have unchanged : (Change.between lowerIsBetter now before).percent = 0 := by
      rw [Change.between, if_pos (by rw [same, zero]; rfl)]
      rfl
    have least := not_lt_zero nonneg zero
    rw [unchanged, zero]
    cases lowerIsBetter
    · exact iff_of_false nofun nofun
    · exact iff_of_false nofun fun better => least better.1
  · have changed : (Change.between lowerIsBetter now before).percent = percentOf now before := by
      rw [Change.between, if_neg (by rw [same, parts]; nofun)]
      rfl
    obtain ⟨above, below⟩ := percentOf_sign nonneg parts
    rw [changed, parts]
    cases lowerIsBetter
    · rw [if_neg nofun, if_neg nofun, decide_eq_true_iff, above]
      exact (and_iff_left rfl).symm
    · rw [if_pos rfl, if_pos rfl, decide_eq_true_iff, below]
      exact (and_iff_left rfl).symm
  · have changed : (Change.between lowerIsBetter now before).percent = percentOf now before := by
      rw [Change.between, if_neg (by rw [same, infinite]; nofun)]
      rfl
    have undefined := percentOf_infinite nonneg infinite
    have most := not_infinite_lt (y := now) infinite
    rw [changed, infinite]
    cases lowerIsBetter
    · rw [if_neg nofun, if_neg nofun, decide_eq_true_iff, lt_iff_parts rfl undefined]
      exact iff_of_false nofun fun better => most better.1
    · rw [if_pos rfl, if_pos rfl, decide_eq_true_iff, lt_iff_parts undefined rfl]
      exact iff_of_false nofun nofun

/-- The metrics of which less is better. -/
def lessIsBetter : List String := ["avg_response_time", "avg_cost", "avg_token_usage"]

/-- Whether a metric got better. -/
def GotBetter (name : String) (current earlier : Float) : Prop :=
  if name ∈ lessIsBetter then current < earlier else earlier < current

/-- Whether a metric can get better from a value: nothing is a percentage of zero, and no percentage
of something infinite. -/
def IsBaseline (name : String) (earlier : Float) : Prop :=
  if name ∈ lessIsBetter then earlier.isFinite = true else 0 < earlier

/-- Summaries of which no value is negative. -/
structure Summary.IsNonneg (summary : Summary Float) : Prop where
  successRate : 0 ≤ summary.successRate
  responseTime : 0 ≤ summary.responseTime
  tokenUsage : 0 ≤ summary.tokenUsage
  cost : 0 ≤ summary.cost
  quality : ∀ score, summary.quality = some score → 0 ≤ score

/-- The values that two summaries have for the same metrics, with the names of the metrics. -/
def sideBySide (now before : Summary Float) : List (String × Float × Float) :=
  [("success_rate", now.successRate, before.successRate),
   ("avg_response_time", now.responseTime, before.responseTime),
   ("avg_cost", now.cost, before.cost),
   ("avg_token_usage", now.tokenUsage, before.tokenUsage)] ++
    match now.quality, before.quality with
    | some score, some score' => [("quality_score", score, score')]
    | _, _ => []

/-- Two summaries are compared side by side. -/
theorem changes_eq (label : String) (now before : Summary Float) :
    (PeriodComparison.of label now before).changes =
      (sideBySide now before).map fun (name, current, earlier) =>
        (name, Change.between (decide (name ∈ lessIsBetter)) current earlier) := by
  unfold PeriodComparison.of sideBySide
  rcases now.quality with _ | _ <;> rcases before.quality with _ | _ <;> rfl

theorem nonneg_of_mem_sideBySide {now before : Summary Float} (nonneg : now.IsNonneg)
    (nonneg' : before.IsNonneg) {values : String × Float × Float}
    (mem : values ∈ sideBySide now before) : 0 ≤ values.2.1 ∧ 0 ≤ values.2.2 := by
  rcases List.mem_append.1 mem with always | scored
  · simp only [List.mem_cons, List.not_mem_nil, or_false] at always
    rcases always with rfl | rfl | rfl | rfl
    · exact ⟨nonneg.successRate, nonneg'.successRate⟩
    · exact ⟨nonneg.responseTime, nonneg'.responseTime⟩
    · exact ⟨nonneg.cost, nonneg'.cost⟩
    · exact ⟨nonneg.tokenUsage, nonneg'.tokenUsage⟩
  · split at scored
    · next score score' first second =>
      cases List.mem_singleton.1 scored
      exact ⟨nonneg.quality score first, nonneg'.quality score' second⟩
    · exact absurd scored List.not_mem_nil

/-- With the sides swapped the same metrics are compared. -/
theorem sideBySide_swap (now before : Summary Float) :
    sideBySide before now =
      (sideBySide now before).map fun (name, current, earlier) => (name, earlier, current) := by
  unfold sideBySide
  rcases now.quality with _ | _ <;> rcases before.quality with _ | _ <;> rfl

section

variable {name : String} {x y : Float}

theorem change_isImprovement_iff (nonneg : 0 ≤ x) (nonneg' : 0 ≤ y) :
    (Change.between (decide (name ∈ lessIsBetter)) x y).isImprovement = true ↔
      GotBetter name x y ∧ IsBaseline name y := by
  rw [between_isImprovement_iff nonneg nonneg']
  by_cases less : name ∈ lessIsBetter <;> simp [GotBetter, IsBaseline, less]

theorem GotBetter.asymm (better : GotBetter name x y) : ¬GotBetter name y x := by
  unfold GotBetter at *
  split at better <;> simp_all [not_lt_of_lt]

/-- What is better than something else can itself be an earlier value to get better from. -/
theorem GotBetter.isBaseline (better : GotBetter name x y) (nonneg : 0 ≤ x) (nonneg' : 0 ≤ y) :
    IsBaseline name x := by
  unfold GotBetter at better
  unfold IsBaseline
  rcases unpack_of_nonneg nonneg with ⟨s, parts⟩ | ⟨m, e, positive, parts⟩ | parts <;>
    split at better
  · next less =>
    rw [if_pos less, isFinite_eq, parts]
    rfl
  · exact absurd better (not_lt_zero nonneg' parts)
  · next less =>
    rw [if_pos less, isFinite_eq, parts]
    rfl
  · next more =>
    rw [if_neg more, lt_iff_parts rfl parts]
    rfl
  · exact absurd better (not_infinite_lt parts)
  · next more =>
    rw [if_neg more, lt_iff_parts rfl parts]
    rfl

theorem gotBetter_or (differ : x < y ∨ y < x) : GotBetter name x y ∨ GotBetter name y x := by
  unfold GotBetter
  split
  · exact differ
  · exact differ.symm

/-- Of the two changes between values that differ exactly one is an improvement, provided that the
metric can get better from both. -/
theorem exactly_one_iff (nonneg : 0 ≤ x) (nonneg' : 0 ≤ y) (differ : x < y ∨ y < x) :
    ((Change.between (decide (name ∈ lessIsBetter)) y x).isImprovement =
        !(Change.between (decide (name ∈ lessIsBetter)) x y).isImprovement) ↔
      IsBaseline name x ∧ IsBaseline name y := by
  have forth : _ = true ↔ GotBetter name x y ∧ _ := change_isImprovement_iff nonneg nonneg'
  have back : _ = true ↔ GotBetter name y x ∧ _ := change_isImprovement_iff nonneg' nonneg
  have either : GotBetter name x y ∨ GotBetter name y x := gotBetter_or differ
  rcases either with better | better
  · have none := Bool.eq_false_iff.2 fun improved => better.asymm (back.1 improved).1
    rw [none, eq_comm, Bool.not_eq_false', forth, and_iff_right better,
      and_iff_right (better.isBaseline nonneg nonneg')]
  · have none := Bool.eq_false_iff.2 fun improved => better.asymm (forth.1 improved).1
    rw [none, Bool.not_false, back, and_iff_right better,
      and_iff_left (better.isBaseline nonneg' nonneg)]

end

/-- For summaries without negative values the comparison calls a change of a metric an improvement
just if the metric got better and can get better from its earlier value. With the sides swapped no
improvement is one any more; and where the values differ exactly one of the two changes is an
improvement, provided that the metric can get better from both values. -/
theorem improvement_iff_gotBetter (label : String) {now before : Summary Float}
    (nonneg : now.IsNonneg) (nonneg' : before.IsNonneg) :
    (PeriodComparison.of label now before).changes.map
        (fun entry => (entry.1, entry.2.current, entry.2.earlier)) = sideBySide now before ∧
    ∀ entry ∈ (PeriodComparison.of label now before).changes,
      (entry.2.isImprovement = true ↔ GotBetter entry.1 entry.2.current entry.2.earlier ∧
        IsBaseline entry.1 entry.2.earlier) ∧
      ∃ back ∈ (PeriodComparison.of label before now).changes,
        back.1 = entry.1 ∧ back.2.current = entry.2.earlier ∧ back.2.earlier = entry.2.current ∧
        (entry.2.isImprovement = true → back.2.isImprovement = false) ∧
        (entry.2.current < entry.2.earlier ∨ entry.2.earlier < entry.2.current →
          ((back.2.isImprovement = !entry.2.isImprovement) ↔
            IsBaseline entry.1 entry.2.current ∧ IsBaseline entry.1 entry.2.earlier)) := by
  refine ⟨?_, fun entry mem => ?_⟩
  · rw [changes_eq, List.map_map]
    exact List.map_id _
  · rw [changes_eq] at mem
    obtain ⟨⟨name, x, y⟩, listed, rfl⟩ := List.mem_map.1 mem
    obtain ⟨nonnegX, nonnegY⟩ := nonneg_of_mem_sideBySide nonneg nonneg' listed
    refine ⟨change_isImprovement_iff nonnegX nonnegY,
      (name, Change.between (decide (name ∈ lessIsBetter)) y x), ?_, rfl, rfl, rfl, ?_, ?_⟩
    · rw [changes_eq, sideBySide_swap, List.map_map]
      exact List.mem_map.2 ⟨_, listed, rfl⟩
    · intro improved
      rw [Bool.eq_false_iff, Ne, change_isImprovement_iff nonnegY nonnegX]
      exact fun worse =>
        ((change_isImprovement_iff nonnegX nonnegY).1 improved).1.asymm worse.1
    · intro differ
      exact exactly_one_iff nonnegX nonnegY differ

/-- Responses that take half as long are an improvement, and a success rate that was zero is none
although it rose. -/
theorem improvement_iff_gotBetter_firstSuccess :
    let now : Summary Float := { Summary.none with successRate := 0.5, responseTime := 100 }
    let before : Summary Float := { Summary.none with responseTime := 200 }
    now.IsNonneg ∧ before.IsNonneg ∧
      (Change.between true now.responseTime before.responseTime).isImprovement = true ∧
      GotBetter "success_rate" now.successRate before.successRate ∧
      (Change.between false now.successRate before.successRate).isImprovement = false := by
  intro now before
  have nonneg : now.IsNonneg :=
    ⟨by decide +kernel, by decide +kernel, by decide +kernel, by decide +kernel, nofun⟩
  have nonneg' : before.IsNonneg :=
    ⟨by decide +kernel, by decide +kernel, by decide +kernel, by decide +kernel, nofun⟩
  have entries := (improvement_iff_gotBetter "before" nonneg nonneg').2
  have rate := (entries ("success_rate", _) List.mem_cons_self).1
  have time := (entries ("avg_response_time", _) (List.mem_cons_of_mem _ List.mem_cons_self)).1
  have rose : GotBetter "success_rate" now.successRate before.successRate := by
    rw [GotBetter, if_neg (by decide)]
    decide +kernel
  have halved : GotBetter "avg_response_time" now.responseTime before.responseTime := by
    rw [GotBetter, if_pos (by decide)]
    decide +kernel
  have finite : IsBaseline "avg_response_time" before.responseTime := by
    rw [IsBaseline, if_pos (by decide)]
    decide +kernel
  have zero : ¬IsBaseline "success_rate" before.successRate := by
    rw [IsBaseline, if_neg (by decide)]
    decide +kernel
  exact ⟨nonneg, nonneg', time.2 ⟨halved, finite⟩, rose,
    Bool.eq_false_iff.2 fun improved => zero (rate.1 improved).2⟩

end Promptuary
