import Promptuary.Execution.Recorder
import Promptuary.Proofs.Number.Ordering
import Promptuary.Proofs.Outcome

/-!
The score that the executions of a template give it. Response times may be any floats, yet a score
is always a number (`isNaN_score`).
-/

namespace Promptuary.Recorder

open Number

variable {r : Recorder Float} {id : String} {x : Float} {s : Summary Float}

/-- The share of successes in a summary is finite. -/
theorem isFinite_successRate (ok : r.summary id = .ok (some s)) : s.successRate.isFinite = true := by
  unfold summary at ok
  dsimp only at ok
  split at ok
  · cases ok
  · obtain ⟨rate, rated, ok⟩ := Outcome.exists_of_bind_eq_ok ok
    obtain ⟨tokens, -, ok⟩ := Outcome.exists_of_bind_eq_ok ok
    obtain ⟨last, -, ok⟩ := Outcome.exists_of_bind_eq_ok ok
    cases ok
    cases ratio : floatOfRatio? ((r.executions id).filter (·.success)).length
      (r.executions id).length with
    | none =>
      simp only [Scalar.quotient, Scalar.ofRatio?, ratio] at rated
      cases rated
    | some x =>
      simp only [Scalar.quotient, Scalar.ofRatio?, ratio] at rated
      cases rated
      exact isFinite_floatOfRatio ratio

/-- What a mark for speed is made of: the time left, if some is left. -/
theorem isNaN_speed (left : Float) :
    ((if Scalar.lt Scalar.zero left then left else Scalar.zero) / Scalar.ofNat 1000 : Float).isNaN =
      false := by
  refine isNaN_div_float ?_ (by decide +kernel)
  split
  · next less => exact isNaN_of_lt_float (of_decide_eq_true less)
  · decide +kernel

/-- A score is a number, also if response times are not. -/
theorem isNaN_score (ok : r.score id = .ok x) : x.isNaN = false := by
  unfold score at ok
  obtain ⟨summary, known, ok⟩ := Outcome.exists_of_bind_eq_ok ok
  cases summary with
  | none =>
    cases ok
    decide +kernel
  | some s =>
    cases ok
    refine isNaN_div_float ?_ (by decide +kernel)
    exact isNaN_add_float (isFinite_successRate known) (isNaN_speed _)

end Promptuary.Recorder
