import Promptuary.Proofs.Analysis.Shelves
import Promptuary.Proofs.Calendar.Window
import Promptuary.Proofs.Execution.Recording

/-!
What recording an execution leaves behind. A call that returns has put the execution into the
recorder and into the snapshot of its minute, and has dropped what is no longer kept; a call whose
execution is not stored leaves everything as it was.
-/

namespace Promptuary

open Calendar (Interval Moment)
open Operation

/-- A snapshot with some custom metrics. -/
def Snapshot.customized {α : Type} (custom : Entries String α) (s : Snapshot α) : Snapshot α :=
  s.withMetrics { s.metrics with custom }

namespace Analysis

variable {α : Type} {a : Analysis α} {d : Desk (Analysis α)} {id : String} {key : WindowKey}
  {s : Snapshot α}

/-! ### Anomalies -/

/-- The anomalies of a template. -/
def anomaliesOf (a : Analysis α) (id : String) : List (Anomaly α) := (a.anomalies.get? id).getD []

theorem keepAnomalies_runs {found : List (Anomaly α)} {cutoff : Moment}
    (known : d.shared.clock.current.daysBefore? d.own.policy.anomalyDays = .ok cutoff)
    (answers : ∀ x ∈ d.own.anomaliesOf id ++ found, ∃ b, cutoff.lt? x.time = .ok b) :
    (keepAnomalies id found).on d = (.ok (), { d.ticked with own :=
      { d.own with anomalies := d.own.anomalies.put id ((d.own.anomaliesOf id ++ found).filter
        fun x => Outcome.holds (cutoff.lt? x.time)) } }) := by
  have chosen : ((d.own.anomaliesOf id ++ found).filterM fun x => cutoff.lt? x.time) =
      .ok ((d.own.anomaliesOf id ++ found).filter fun x => Outcome.holds (cutoff.lt? x.time)) := by
    refine Outcome.filterM_eq_filter fun x mem => ?_
    obtain ⟨b, answer⟩ := answers x mem
    rw [answer]
    rfl
  unfold keepAnomalies
  rw [on_bind_ok (on_own _), on_bind_ok ((on_daysAgo ..).trans (by rw [known]; rfl)),
    on_bind_ok (on_own _)]
  change (attempt (((d.own.anomaliesOf id ++ found).filterM fun x => cutoff.lt? x.time).mapError
    .calendar) >>= _).on d.ticked = _
  rw [chosen, Outcome.mapError_ok, on_bind_ok (on_attempt ..)]
  rfl

theorem keepAnomalies_spec {found : List (Anomaly α)} {d' : Desk (Analysis α)}
    (ran : (keepAnomalies id found).on d = (.ok (), d')) :
    ∃ anomalies, d' = { d.ticked with own := { d.own with anomalies } } := by
  unfold keepAnomalies at ran
  rw [on_bind_ok (on_own _)] at ran
  rcases on_bind_cases ran with ⟨f, -, failed⟩ | ⟨cutoff, d₁, first, rest⟩
  · cases failed
  rw [on_daysAgo] at first
  obtain rfl := (Prod.mk.inj first).2
  rw [on_bind_ok (on_own _)] at rest
  rcases on_bind_cases rest with ⟨f, -, failed⟩ | ⟨recent, d₂, second, last⟩
  · cases failed
  obtain ⟨rfl, -⟩ := attempt_spec second
  cases last
  exact ⟨_, rfl⟩

variable [Scalar α]

/-! ### Steps of a recording -/

theorem on_openMinute (start : Moment) (d : Desk (Analysis α)) : (openMinute id start).on d =
    (.ok (), ⟨d.own.withSnapshot id ⟨.minute, start⟩
      (((d.own.shelf id).get? ⟨.minute, start⟩).getD (.empty id .minute start)), d.shared⟩) := by
  unfold openMinute
  rw [on_change]
  simp only [Entries.has_eq_isSome]
  cases found : (d.own.shelf id).get? ⟨.minute, start⟩ with
  | none => rfl
  | some s => simp [withSnapshot_of_get? found]

theorem on_countExecution {m : Metrics α} {e : Execution α}
    (counted : (s.metrics.addOutcome e).addAmounts e = .ok m) (a : Analysis α) (shared : Shared) :
    (countExecution key e).on ⟨a.withSnapshot e.templateId key s, shared⟩ =
      (.ok (), ⟨a.withSnapshot e.templateId key ((s.withMetrics m).addProvider e), shared⟩) := by
  unfold countExecution
  rw [on_bind_ok (on_changeSnapshot ..), on_bind_ok (on_own _)]
  simp only [shelf_withSnapshot, Entries.get?_put_self]
  have amounts : ((s.withMetrics (s.metrics.addOutcome e)).metrics.addAmounts e).mapError
      Failure.number = .ok m := by
    change ((s.metrics.addOutcome e).addAmounts e).mapError _ = _
    rw [counted]
    rfl
  rw [amounts]
  exact on_changeSnapshot ..

/-- If the executions in a minute can be told from the others, their response times give the
percentiles. -/
theorem updateSpread_runs {stop : Moment} {inWindow : List (Execution α)}
    (ended : Interval.minute.endOf? key.start = .ok stop)
    (chosen : ((a.recorder.executions id).filterM fun e => key.start.isIn? stop e.executedAt) =
      .ok inWindow) (shared : Shared) (s : Snapshot α) :
    (updateSpread id key).on ⟨a.withSnapshot id key s, shared⟩ =
      (.ok (), ⟨a.withSnapshot id key (s.withSpread (inWindow.map (·.responseTime))), shared⟩) := by
  unfold updateSpread
  rw [ended, Outcome.mapError_ok, on_bind_ok (on_attempt ..), on_bind_ok (on_own _),
    recorder_withSnapshot, chosen, Outcome.mapError_ok, on_bind_ok (on_attempt ..)]
  exact on_changeSnapshot ..

theorem updateSpread_spec {shared : Shared} {d' : Desk (Analysis α)}
    (ran : (updateSpread id key).on ⟨a.withSnapshot id key s, shared⟩ = (.ok (), d')) :
    ∃ stop inWindow, Interval.minute.endOf? key.start = .ok stop ∧
      ((a.recorder.executions id).filterM fun e => key.start.isIn? stop e.executedAt) =
        .ok inWindow ∧
      d' = ⟨a.withSnapshot id key (s.withSpread (inWindow.map (·.responseTime))), shared⟩ := by
  have known := ran
  unfold updateSpread at known
  rcases on_bind_cases known with ⟨f, -, failed⟩ | ⟨stop, d₁, first, rest⟩
  · cases failed
  obtain ⟨rfl, ended⟩ := attempt_spec first
  rw [on_bind_ok (on_own _), recorder_withSnapshot] at rest
  rcases on_bind_cases rest with ⟨f, -, failed⟩ | ⟨inWindow, d₂, second, -⟩
  · cases failed
  obtain ⟨-, chosen⟩ := attempt_spec second
  rw [updateSpread_runs (mapError_eq_ok ended) (mapError_eq_ok chosen)] at ran
  exact ⟨stop, inWindow, mapError_eq_ok ended, mapError_eq_ok chosen,
    (Prod.mk.inj ran).2.symm⟩

theorem on_updateCustom (a : Analysis α) (shared : Shared) (s : Snapshot α) :
    ∃ custom, (updateCustom id key).on ⟨a.withSnapshot id key s, shared⟩ =
      (.ok (), ⟨a.withSnapshot id key (s.customized custom), shared⟩) := by
  unfold updateCustom
  rw [on_bind_ok (on_own _)]
  dsimp only
  split
  · exact ⟨_, on_changeSnapshot ..⟩
  · exact ⟨s.metrics.custom, rfl⟩

/-! ### The snapshot of a minute -/

/-- The window of the minute in which an execution is counted. -/
def minuteOf (e : Execution α) : WindowKey := ⟨.minute, Interval.minute.startOf e.executedAt⟩

/-- The snapshot of the minute of an execution, or one of no executions. -/
def minuteSnapshot (a : Analysis α) (e : Execution α) : Snapshot α :=
  ((a.shelf e.templateId).get? (minuteOf e)).getD
    (.empty e.templateId .minute (minuteOf e).start)

/-- A snapshot after an execution was added, with percentiles of some times and some custom
metrics. -/
def grown (s : Snapshot α) (m : Metrics α) (e : Execution α) (times : List α)
    (custom : Entries String α) : Snapshot α :=
  (((s.withMetrics m).addProvider e).withSpread times).customized custom

variable {e : Execution α} {m : Metrics α}

/-- Counting an execution of a minute succeeds if its amounts can be added. -/
theorem on_updateMinute (d : Desk (Analysis α))
    (counted : ((d.own.minuteSnapshot e).metrics.addOutcome e).addAmounts e = .ok m) :
    (updateMinute e).on d =
      (updateSpread e.templateId (minuteOf e) >>= fun _ =>
        updateCustom e.templateId (minuteOf e) >>= fun _ => prune e.templateId).on
        ⟨d.own.withSnapshot e.templateId (minuteOf e)
          (((d.own.minuteSnapshot e).withMetrics m).addProvider e), d.shared⟩ := by
  have steps : updateMinute e = (openMinute e.templateId (minuteOf e).start >>= fun _ =>
      countExecution (minuteOf e) e >>= fun _ => updateSpread e.templateId (minuteOf e) >>= fun _ =>
        updateCustom e.templateId (minuteOf e) >>= fun _ => prune e.templateId) := rfl
  rw [steps, on_bind_ok (on_openMinute ..)]
  exact on_bind_ok (on_countExecution counted ..) _

/-- Where the executions of the minute can be told from others, and what is kept from what is not,
the snapshot of the minute grows and what is not kept is dropped. -/
theorem updateMinute_runs {stop cutoff : Moment} {inWindow : List (Execution α)}
    (counted : ((d.own.minuteSnapshot e).metrics.addOutcome e).addAmounts e = .ok m)
    (ended : Interval.minute.endOf? (minuteOf e).start = .ok stop)
    (chosen : ((d.own.recorder.executions e.templateId).filterM fun x =>
      (minuteOf e).start.isIn? stop x.executedAt) = .ok inWindow)
    (known : d.shared.clock.current.daysBefore? d.own.policy.snapshotDays = .ok cutoff)
    (answers : ∀ entry ∈ d.own.shelf e.templateId, ∃ b, entry.2.start.le? cutoff = .ok b)
    (answer : ∃ b, (d.own.minuteSnapshot e).start.le? cutoff = .ok b) :
    ∃ d', (updateMinute e).on d = (.ok (), d') := by
  obtain ⟨custom, customized⟩ := on_updateCustom d.own d.shared (((((d.own.minuteSnapshot
    e).withMetrics m).addProvider e).withSpread (inWindow.map (·.responseTime))))
  rw [on_updateMinute d counted, on_bind_ok (updateSpread_runs ended chosen ..),
    on_bind_ok customized]
  change ∃ d', (prune e.templateId).on ⟨d.own.withSnapshot e.templateId (minuteOf e)
    (grown (d.own.minuteSnapshot e) m e (inWindow.map (·.responseTime)) custom), d.shared⟩ = _
  obtain ⟨d', ran, -⟩ := prune_runs (d := ⟨d.own.withSnapshot e.templateId (minuteOf e)
    (grown (d.own.minuteSnapshot e) m e (inWindow.map (·.responseTime)) custom), d.shared⟩)
    (shelf_withSnapshot_ne_nil _ _ _ _) known fun entry mem => by
      have put := shelf_withSnapshot ▸ mem
      rcases Entries.mem_put put with ⟨new, -⟩ | old
      · rw [new]
        exact answer
      · exact answers entry old
  exact ⟨d', ran⟩

theorem updateMinute_spec {d' : Desk (Analysis α)}
    (counted : ((d.own.minuteSnapshot e).metrics.addOutcome e).addAmounts e = .ok m)
    (ran : (updateMinute e).on d = (.ok (), d')) :
    ∃ stop inWindow custom cutoff, Interval.minute.endOf? (minuteOf e).start = .ok stop ∧
      ((d.own.recorder.executions e.templateId).filterM fun x =>
        (minuteOf e).start.isIn? stop x.executedAt) = .ok inWindow ∧
      d.shared.clock.current.daysBefore? d.own.policy.snapshotDays = .ok cutoff ∧
      d.own.Reshelves d'.own e.templateId
        (((d.own.shelf e.templateId).put (minuteOf e) (grown (d.own.minuteSnapshot e) m e
          (inWindow.map (·.responseTime)) custom)).filter (isKept cutoff)) ∧
      d'.shared.clock.readings <:+ d.shared.clock.readings := by
  rw [on_updateMinute d counted] at ran
  rcases on_bind_cases ran with ⟨f, -, failed⟩ | ⟨⟨⟩, d₁, spread, rest⟩
  · cases failed
  obtain ⟨stop, inWindow, ended, chosen, rfl⟩ := updateSpread_spec spread
  obtain ⟨custom, customized⟩ := on_updateCustom d.own d.shared (((((d.own.minuteSnapshot
    e).withMetrics m).addProvider e).withSpread (inWindow.map (·.responseTime))))
  rw [on_bind_ok customized] at rest
  obtain ⟨cutoff, known, reshelves, clock⟩ := prune_spec (shelf_withSnapshot_ne_nil _ _ _ _) rest
  refine ⟨stop, inWindow, custom, cutoff, ended, chosen, known, ?_, clock⟩
  rw [shelf_withSnapshot] at reshelves
  exact (reshelves_putShelf ..).trans reshelves

/-- Looking for anomalies changes nothing but the anomalies that are kept. -/
theorem detect_spec {baseline : List (Execution α)} {found : List (Anomaly α)}
    {d' : Desk (Analysis α)} (ran : (detect id e baseline).on d = (.ok found, d')) :
    (∃ anomalies, d'.own = { d.own with anomalies }) ∧
      d'.shared.clock.readings <:+ d.shared.clock.readings := by
  unfold detect at ran
  rw [on_bind_ok (on_own _)] at ran
  rcases on_bind_cases ran with ⟨f, -, failed⟩ | ⟨found', d₁, first, rest⟩
  · cases failed
  obtain ⟨rfl, -⟩ := attempt_spec first
  split at rest
  · rcases on_bind_cases rest with ⟨f, -, failed⟩ | ⟨⟨⟩, d₂, kept, last⟩
    · cases failed
    obtain ⟨anomalies, rfl⟩ := keepAnomalies_spec kept
    cases last
    exact ⟨⟨anomalies, rfl⟩, d.shared.clock.rest_suffix⟩
  · cases rest
    exact ⟨⟨d.own.anomalies, rfl⟩, List.suffix_refl _⟩

/-! ### One call -/

/-- The recorder records an execution, or it fails and leaves the state as it was. -/
theorem onRecorder_cases (e : Execution α) (d : Desk (Analysis α)) :
    ∃ r d', (onRecorder (Recorder.record e)).on d = (r, d') ∧
      d'.shared.clock.readings <:+ d.shared.clock.readings ∧
      ((∃ f, r = .error f ∧ d'.own = d.own) ∨
        r = .ok () ∧ d'.own = { d.own with recorder := d.own.recorder.keep e }) := by
  obtain ⟨r, d₁, ran, clock, outcome⟩ := Recorder.record_cases e ⟨d.own.recorder, d.shared⟩
  have within : (onRecorder (Recorder.record e)).on d =
      (r, ⟨{ d.own with recorder := d₁.own }, d₁.shared⟩) := by
    rw [onRecorder, on_within, ran]
  refine ⟨r, _, within, clock, ?_⟩
  rcases outcome with ⟨f, failed, same⟩ | ⟨ok, kept⟩
  · refine .inl ⟨f, failed, ?_⟩
    rw [same]
  · refine .inr ⟨ok, ?_⟩
    rw [kept]

/-- Whether the recorder records an execution. -/
def stores (e : Execution α) (d : Desk (Analysis α)) : Bool :=
  ((onRecorder (Recorder.record e)).on d).1 matches .ok _

/-- A call whose execution is not stored fails and leaves the state as it was. -/
theorem record_of_not_stores (not : stores e d = false) :
    ∃ f d', (record e).on d = (.error f, d') ∧ d'.own = d.own ∧
      d'.shared.clock.readings <:+ d.shared.clock.readings := by
  obtain ⟨r, d', ran, clock, ⟨f, rfl, own⟩ | ⟨rfl, -⟩⟩ := onRecorder_cases e d
  · refine ⟨f, d', ?_, own, clock⟩
    unfold record
    rw [on_bind_ok (on_own _)]
    exact on_bind_error ran _
  · rw [stores, ran] at not
    cases not

/-- A desk after an execution was recorded. -/
structure Recorded (e : Execution α) (m : Metrics α) (d d' : Desk (Analysis α))
    (stop cutoff : Moment) (inWindow : List (Execution α)) (custom : Entries String α) : Prop where
  ended : Interval.minute.endOf? (minuteOf e).start = .ok stop
  chosen : (((d.own.recorder.keep e).executions e.templateId).filterM fun x =>
    (minuteOf e).start.isIn? stop x.executedAt) = .ok inWindow
  since : ∃ t ∈ d.shared.clock.readings,
    t.daysBefore? d.own.policy.snapshotDays = .ok cutoff
  policy : d'.own.policy = d.own.policy
  recorder : d'.own.recorder = d.own.recorder.keep e
  shelf : ∀ other, d'.own.shelf other = if e.templateId = other
    then ((d.own.shelf e.templateId).put (minuteOf e) (grown (d.own.minuteSnapshot e) m e
      (inWindow.map (·.responseTime)) custom)).filter (isKept cutoff)
    else d.own.shelf other
  clock : d'.shared.clock.readings <:+ d.shared.clock.readings

/-- A call that returns has recorded its execution. -/
theorem record_spec {found : List (Anomaly α)} {d' : Desk (Analysis α)}
    (realTime : d.own.policy.realTime = true)
    (counted : ((d.own.minuteSnapshot e).metrics.addOutcome e).addAmounts e = .ok m)
    (ran : (record e).on d = (.ok found, d')) :
    stores e d = true ∧ ∃ stop cutoff inWindow custom,
      Recorded e m d d' stop cutoff inWindow custom := by
  unfold record at ran
  rw [on_bind_ok (on_own _)] at ran
  dsimp only at ran
  obtain ⟨r, d₁, stored, clock₁, ⟨f, rfl, -⟩ | ⟨rfl, own₁⟩⟩ := onRecorder_cases e d
  · rw [on_bind_error stored] at ran
    cases ran
  have stores : stores e d = true := by
    rw [stores, stored]
  rw [on_bind_ok stored, on_bind_ok (on_own _), own₁] at ran
  dsimp only at ran
  rw [if_pos realTime] at ran
  rcases on_bind_cases ran with ⟨f, -, failed⟩ | ⟨found', d₂, detected, rest⟩
  · cases failed
  obtain ⟨⟨anomalies, own₂⟩, clock₂⟩ := detect_spec detected
  obtain ⟨d₃, updated, own₃, clock₃⟩ : ∃ d₃, (updateMinute e).on d₃ = (.ok (), d') ∧
      d₃.own = d₂.own ∧ d₃.shared.clock.readings <:+ d₂.shared.clock.readings := by
    split at rest
    · obtain ⟨d₃, announced, leads⟩ := announce_leads
        (.anomaliesDetected e.templateId (found'.map (·.toDatum .stored))) d₂
      rw [on_bind_ok announced] at rest
      rcases on_bind_cases rest with ⟨f, -, failed⟩ | ⟨⟨⟩, d₄, updated, last⟩
      · cases failed
      cases last
      exact ⟨d₃, updated, leads.own, leads.clock⟩
    · rcases on_bind_cases rest with ⟨f, -, failed⟩ | ⟨⟨⟩, d₄, updated, last⟩
      · cases failed
      cases last
      exact ⟨d₂, updated, rfl, List.suffix_refl _⟩
  have own : d₃.own = { d.own with recorder := d.own.recorder.keep e, anomalies } := by
    rw [own₃, own₂, own₁]
  have clock : d₃.shared.clock.readings <:+ d.shared.clock.readings :=
    clock₃.trans (clock₂.trans clock₁)
  obtain ⟨stop, inWindow, custom, cutoff, ended, chosen, known, reshelves, clock₄⟩ :=
    updateMinute_spec (m := m) (by rw [own]; exact counted) updated
  rw [own] at chosen known reshelves
  refine ⟨stores, stop, cutoff, inWindow, custom, ?_⟩
  exact {
    ended, chosen
    since := ⟨_, clock.mem d₃.shared.clock.current_mem, known⟩
    policy := reshelves.policy
    recorder := reshelves.recorder
    shelf := reshelves.shelf
    clock := clock₄.trans clock }

/-! ### What a call leaves alone -/

section

variable {P : Analysis α → Prop}

theorem keeps_updateSpread
    (changes : ∀ times, Keeps P (changeSnapshot id key (Snapshot.withSpread times))) :
    Keeps P (updateSpread id key) := by
  unfold updateSpread
  refine (keeps_attempt _).bind fun stop => keeps_own.bind fun _ => ?_
  exact (keeps_attempt _).bind fun inWindow => changes _

theorem keeps_updateCustom
    (changes : ∀ values, Keeps P (changeSnapshot id key (withCustom values))) :
    Keeps P (updateCustom id key) := by
  unfold updateCustom
  refine keeps_own.bind fun _ => ?_
  dsimp only
  split
  · exact changes _
  · exact keeps_pure _

/-- What does not depend on the anomalies is kept when they are looked for. -/
theorem keeps_detect (ignores : ∀ a anomalies, P a → P { a with anomalies }) (id : String)
    (e : Execution α) (baseline : List (Execution α)) : Keeps P (detect id e baseline) := by
  unfold detect keepAnomalies daysAgo
  refine keeps_own.bind fun _ => (keeps_attempt _).bind fun found => ?_
  dsimp only
  split
  · refine (keeps_own.bind fun _ => ?_).bind fun _ => keeps_pure _
    refine (keeps_now.bind fun _ => keeps_attempt _).bind fun _ => keeps_own.bind fun _ => ?_
    exact (keeps_attempt _).bind fun _ => keeps_change fun a holds => ignores a _ holds
  · exact keeps_pure _

/-- What a call does after the execution is stored: it may fail before the snapshot of the minute is
updated. -/
theorem brings_assess {Q : Analysis α → Prop}
    (ignores : ∀ a anomalies, P a → P { a with anomalies }) (early : ∀ a, P a → Q a)
    (updates : Brings P Q (updateMinute e)) (baseline : List (Execution α)) :
    Brings P Q (own >>= fun a => if a.policy.realTime then do
      let found ← detect e.templateId e baseline
      if !found.isEmpty then
        announce (.anomaliesDetected e.templateId (found.map (·.toDatum .stored)))
      updateMinute e
      return found
    else return [] : Operation (Analysis α) (List (Anomaly α))) := by
  refine Brings.bind keeps_own early fun a => ?_
  have updated (found : List (Anomaly α)) :
      Brings P Q (updateMinute e >>= fun _ => pure found) :=
    Brings.bind updates (fun _ holds => holds) fun _ => keeps_pure _
  split
  · refine Brings.bind (keeps_detect ignores _ _ _) early fun found => ?_
    dsimp only
    split
    · exact Brings.bind (keeps_announce _) early fun _ => updated found
    · exact updated found
  · exact fun d holds => early _ holds

end

theorem keeps_countExecution (a : Analysis α) (e : Execution α) :
    Keeps (Spares e.templateId key a) (countExecution key e) := by
  unfold countExecution
  refine (keeps_changeSnapshot _ _).bind fun _ => keeps_own.bind fun _ => ?_
  split
  · exact keeps_pure _
  · exact (keeps_attempt _).bind fun _ => keeps_changeSnapshot _ _

theorem keeps_updateMinute (a : Analysis α) (e : Execution α) :
    Keeps (Spares e.templateId (minuteOf e) a) (updateMinute e) := by
  have opened : Keeps (Spares e.templateId (minuteOf e) a)
      (openMinute e.templateId (minuteOf e).start) := by
    intro d spares
    rw [on_openMinute]
    exact spares.trans (spares_withSnapshot ..)
  unfold updateMinute
  refine opened.bind fun _ => (keeps_countExecution a e).bind fun _ => ?_
  refine (keeps_updateSpread fun _ => keeps_changeSnapshot a _).bind fun _ => ?_
  exact (keeps_updateCustom fun _ => keeps_changeSnapshot a _).bind fun _ => keeps_prune a

/-- What a call brings whose execution is stored, whether or not it returns: it may fail before the
snapshot of the minute is updated. -/
theorem record_brings {P Q : Analysis α → Prop} (stored : stores e d = true)
    (ignores : ∀ a anomalies, P a → P { a with anomalies }) (early : ∀ a, P a → Q a)
    (updates : Brings P Q (updateMinute e))
    (holds : P { d.own with recorder := d.own.recorder.keep e }) :
    Q ((record e).on d).2.own := by
  obtain ⟨r, d₁, ran, -, ⟨f, rfl, -⟩ | ⟨rfl, own₁⟩⟩ := onRecorder_cases e d
  · rw [stores, ran] at stored
    cases stored
  have rest := brings_assess ignores early updates (d.own.recorder.executions e.templateId)
  unfold record
  rw [on_bind_ok (on_own _)]
  dsimp only
  rw [on_bind_ok ran]
  rw [← own₁] at holds
  exact rest d₁ holds

/-- A call whose execution is stored, whether or not it returns, leaves the snapshots of all other
minutes and templates as they were, as far as they are still there. -/
theorem record_spares (stored : stores e d = true) :
    Spares e.templateId (minuteOf e) { d.own with recorder := d.own.recorder.keep e }
      ((record e).on d).2.own :=
  record_brings stored (fun _ _ spares => { spares with }) (fun _ spares => spares)
    (keeps_updateMinute _ e) (.refl ..)

end Analysis

end Promptuary
