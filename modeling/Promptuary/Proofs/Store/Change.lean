import Promptuary.Proofs.Store.Storing

/-!
What each change of the store can do. A change first draws up a record without leaving anything
behind, and then stores it. Whatever fails is announced, and nothing else is announced with it.
-/

namespace Promptuary

open Operation
open Storage (Repository)

namespace Store

variable {α : Type} {d d' : Desk Store}

/-! ### Drawing up a record -/

/-- Whether a template passes the check that every change makes. -/
def Accepts (s : Store) (t : Template) : Prop :=
  ∃ verdict, t.validateSelf s.options = .ok verdict ∧ verdict.isValid = true

/-- Making sure that a template is valid fails if its check is cut short or finds something. -/
theorem ensureValid_cases (t : Template) (d : Desk Store) :
    (∃ cause, t.validateSelf d.own.options = .error cause ∧
        (ensureValid t).on d = (.error (.check cause), d)) ∨
      (∃ verdict, t.validateSelf d.own.options = .ok verdict ∧ verdict.isValid = false ∧
        (ensureValid t).on d = (.error (invalid t.id verdict.errors), d)) ∨
      d.own.Accepts t ∧ (ensureValid t).on d = (.ok (), d) := by
  unfold ensureValid
  rw [on_bind_ok (on_own d)]
  cases checked : t.validateSelf d.own.options with
  | error cause => exact .inl ⟨cause, rfl, rfl⟩
  | ok verdict =>
    cases valid : verdict.isValid with
    | false =>
      refine .inr (.inl ⟨verdict, rfl, valid, ?_⟩)
      simp only [valid]
      rfl
    | true =>
      refine .inr (.inr ⟨⟨verdict, checked, valid⟩, ?_⟩)
      simp only [valid]
      rfl

theorem ensureValid_spec {t : Template} {r : Except Failure Unit}
    (ran : (ensureValid t).on d = (r, d')) : d = d' ∧ (r = .ok () ↔ d.own.Accepts t) := by
  rcases ensureValid_cases t d with
    ⟨cause, checked, failed⟩ | ⟨verdict, checked, invalid, failed⟩ | ⟨accepts, valid⟩
  · cases failed.symm.trans ran
    refine ⟨rfl, nofun, ?_⟩
    rintro ⟨verdict, accepted, -⟩
    cases checked.symm.trans accepted
  · cases failed.symm.trans ran
    refine ⟨rfl, nofun, ?_⟩
    rintro ⟨other, accepted, valid⟩
    cases checked.symm.trans accepted
    cases invalid.symm.trans valid
  · cases valid.symm.trans ran
    exact ⟨rfl, fun _ => accepts, fun _ => rfl⟩

theorem readAs_on (id : String) (shape : Schema.Shape α) (x : Datum) (d : Desk Store) :
    (readAs id shape x).on d =
      (match shape x with
        | .valid a => .ok a
        | .faulty issues => .error (invalid id (issues.map Schema.Issue.message)), d) := by
  unfold readAs
  cases shape x <;> rfl

theorem readAs_spec {id : String} {shape : Schema.Shape α} {x : Datum} {r : Except Failure α}
    (ran : (readAs id shape x).on d = (r, d')) : d = d' ∧ ∀ a, r = .ok a ↔ shape x = .valid a := by
  rw [readAs_on] at ran
  cases ran
  refine ⟨rfl, fun a => ?_⟩
  cases shape x <;> simp

theorem require_on (id : String) (d : Desk Store) :
    (require id).on d =
      (match d.own.live.get? id with
        | some t => .ok t
        | none => .error (.notFound id none), d) := by
  unfold require
  rw [on_bind_ok (on_own d)]
  cases d.own.live.get? id <;> rfl

theorem require_spec {id : String} {r : Except Failure Template}
    (ran : (require id).on d = (r, d')) :
    d = d' ∧ ∀ t, r = .ok t ↔ d.own.live.get? id = some t := by
  rw [require_on] at ran
  cases ran
  refine ⟨rfl, fun t => ?_⟩
  cases d.own.live.get? id <;> simp

/-- A record was drawn up and found valid, and nothing else happened before it is stored. -/
structure Drawn (t : Template) (d d₁ : Desk Store) : Prop where
  passes : d.Passes d₁
  accepted : d.own.Accepts t

/-! ### Reporting failures -/

/-- How an operation that reports its failures can end: as it ends without the reports, and if it
fails, the failure is announced, and nothing else is. -/
theorem report_cases {op : Operation Store α} {id operation : String} {particulars : Fields}
    {r : Except Failure α}
    (ran : (onFailure (announceFailure id operation particulars) op).on d = (r, d')) :
    (∃ a, r = .ok a ∧ op.on d = (.ok a, d')) ∨
      ∃ e d₁, r = .error e ∧ op.on d = (.error e, d₁) ∧
        d₁.Leads d' d₁.own d₁.shared.repository [.failed id operation e.message particulars] := by
  rw [on_onFailure] at ran
  rcases first : op.on d with ⟨e | a, d₁⟩
  · obtain ⟨d₂, announced, leads⟩ := announce_leads (.failed id operation e.message particulars) d₁
    rw [first] at ran
    cases (on_bind_ok announced _).symm.trans ran
    exact .inr ⟨e, d₁, rfl, rfl, leads⟩
  · rw [first] at ran
    cases ran
    exact .inl ⟨a, rfl, rfl⟩

/-- An operation that reports its failures succeeds as it does without the reports. -/
theorem of_report {op : Operation Store α} {id operation : String} {particulars : Fields} {a : α}
    (ran : (onFailure (announceFailure id operation particulars) op).on d = (.ok a, d')) :
    op.on d = (.ok a, d') := by
  rcases report_cases ran with ⟨b, same, succeeded⟩ | ⟨e, d₁, failed, -⟩
  · cases same
    exact succeeded
  · cases failed

/-! ### Creating -/

theorem createFrom_cases {id : String} {definition : Definition} {r : Except Failure Template}
    (ran : (createFrom id definition).on d = (r, d')) :
    let t := firstRecord id d.shared.clock.current definition
    (∃ e, r = .error e ∧ d.Passes d' ∧ ¬ d.own.Accepts t) ∨
      ∃ d₁, Drawn t d d₁ ∧
        Committed t "Initial version" (.templateCreated t.id t.name t.version) d₁ r d' := by
  intro t
  have first : (createFrom id definition).on d =
      (ensureValid t >>= fun _ =>
        commit t "Initial version" (.templateCreated t.id t.name t.version)).on d.ticked :=
    on_bind_ok (on_now d) _
  rcases on_bind_cases (first.symm.trans ran) with ⟨e, failed, rfl⟩ | ⟨_, d₁, valid, ran⟩
  · obtain ⟨rfl, accepted⟩ := ensureValid_spec failed
    exact .inl ⟨e, rfl, d.passes_ticked, fun accepts => nomatch accepted.2 accepts⟩
  · obtain ⟨rfl, accepted⟩ := ensureValid_spec valid
    have committed := commit_committed t "Initial version"
      (.templateCreated t.id t.name t.version) d.ticked
    rw [ran] at committed
    exact .inr ⟨d.ticked, ⟨d.passes_ticked, accepted.1 rfl⟩, committed⟩

/-! ### Updating -/

/-- Updates a template without reporting failures. -/
def revise (id : String) (updates : Fields) (changelog : Option String) :
    Operation Store Template := do
  let t ← require id
  let label ← attempt ((Label.nextFree ((← own).history id).labels t.version).mapError .integer)
  let time ← now
  let updated ← readAs id (Template.shape id time) (.object (merge t label time updates))
  ensureValid updated
  let changelog := changelog.getD ""
  commit updated (if changelog.isEmpty then "Template updated" else changelog)
    (.templateUpdated id t.version label)

/-- A record drawn up from the live one: the fields of an update in the place of its own, under the
next free label and at the moment of the clock. -/
structure Revision (s : Store) (time : Calendar.Moment) (id : String) (updates : Fields)
    (old t : Template) (label : String) : Prop where
  live : s.live.get? id = some old
  free : Label.nextFree (s.history id).labels old.version = .ok label
  read : Template.shape id time (.object (merge old label time updates)) = .valid t

theorem Revision.unique {s : Store} {time : Calendar.Moment} {id label label' : String}
    {updates : Fields} {old old' t t' : Template}
    (revision : Revision s time id updates old t label)
    (other : Revision s time id updates old' t' label') : t' = t := by
  obtain rfl : old' = old := Option.some.inj (other.live.symm.trans revision.live)
  obtain rfl : label' = label := Except.ok.inj (other.free.symm.trans revision.free)
  exact Schema.Checked.valid.inj (other.read.symm.trans revision.read)

/-- Why an update draws up no record that could be stored. -/
inductive Undrawn (s : Store) (time : Calendar.Moment) (id : String) (updates : Fields) :
    Failure → Prop where
  | missing : s.live.get? id = none → Undrawn s time id updates (.notFound id none)
  | unlabelled {old : Template} {cause : Number.IntegerError} : s.live.get? id = some old →
      Label.nextFree (s.history id).labels old.version = .error cause →
      Undrawn s time id updates (.integer cause)
  | faulty {old : Template} {label : String} {issues : List Schema.Issue} :
      s.live.get? id = some old → Label.nextFree (s.history id).labels old.version = .ok label →
      Template.shape id time (.object (merge old label time updates)) = .faulty issues →
      Undrawn s time id updates (invalid id (issues.map Schema.Issue.message))
  | unchecked {old t : Template} {label : String} {cause : CheckError} :
      Revision s time id updates old t label → t.validateSelf s.options = .error cause →
      Undrawn s time id updates (.check cause)
  | refused {old t : Template} {label : String} {verdict : Verdict} :
      Revision s time id updates old t label → t.validateSelf s.options = .ok verdict →
      verdict.isValid = false → Undrawn s time id updates (invalid t.id verdict.errors)

/-- Where no record could be stored, none that is drawn up is accepted. -/
theorem Undrawn.rejects {s : Store} {time : Calendar.Moment} {id label : String} {updates : Fields}
    {e : Failure} {old t : Template} (undrawn : Undrawn s time id updates e)
    (revision : Revision s time id updates old t label) : ¬ s.Accepts t := by
  rintro ⟨accepted, checked, valid⟩
  cases undrawn with
  | missing none => cases none.symm.trans revision.live
  | unlabelled live stuck =>
    cases live.symm.trans revision.live
    cases stuck.symm.trans revision.free
  | faulty live free faulty =>
    cases live.symm.trans revision.live
    cases free.symm.trans revision.free
    cases faulty.symm.trans revision.read
  | unchecked other failed =>
    obtain rfl := revision.unique other
    cases failed.symm.trans checked
  | refused other refused invalid =>
    obtain rfl := revision.unique other
    cases refused.symm.trans checked
    cases invalid.symm.trans valid

theorem revise_cases {id : String} {updates : Fields} {changelog : Option String}
    {r : Except Failure Template} (ran : (revise id updates changelog).on d = (r, d')) :
    (∃ e, r = .error e ∧ d.Passes d' ∧ Undrawn d.own d.shared.clock.current id updates e) ∨
      ∃ old t label text d₁, Revision d.own d.shared.clock.current id updates old t label ∧
        Drawn t d d₁ ∧ Committed t text (.templateUpdated id old.version label) d₁ r d' := by
  unfold revise at ran
  have found := require_on id d
  cases live : d.own.live.get? id with
  | none =>
    rw [live] at found
    cases (on_bind_error found _).symm.trans ran
    exact .inl ⟨_, rfl, .refl d, .missing live⟩
  | some old =>
  rw [live] at found
  rw [on_bind_ok found, on_bind_ok (on_own d)] at ran
  cases free : Label.nextFree (d.own.history id).labels old.version with
  | error cause =>
    rw [free] at ran
    cases (on_bind_error (on_attempt _ d) _).symm.trans ran
    exact .inl ⟨_, rfl, .refl d, .unlabelled live free⟩
  | ok label =>
  rw [free] at ran
  have drawn := (on_bind_ok (on_attempt (.ok label) d) _).symm.trans ran
  rw [on_bind_ok (on_now d)] at drawn
  have reads := readAs_on id (Template.shape id d.shared.clock.current)
    (.object (merge old label d.shared.clock.current updates)) d.ticked
  cases read : Template.shape id d.shared.clock.current
      (.object (merge old label d.shared.clock.current updates)) with
  | faulty issues =>
    rw [read] at reads
    cases (on_bind_error reads _).symm.trans drawn
    exact .inl ⟨_, rfl, d.passes_ticked, .faulty live free read⟩
  | valid t =>
  rw [read] at reads
  rw [on_bind_ok reads] at drawn
  have revision : Revision d.own d.shared.clock.current id updates old t label := ⟨live, free, read⟩
  rcases ensureValid_cases t d.ticked with
    ⟨cause, checked, failed⟩ | ⟨verdict, checked, invalid, failed⟩ | ⟨accepts, valid⟩
  · cases (on_bind_error failed _).symm.trans drawn
    exact .inl ⟨_, rfl, d.passes_ticked, .unchecked revision checked⟩
  · cases (on_bind_error failed _).symm.trans drawn
    exact .inl ⟨_, rfl, d.passes_ticked, .refused revision checked invalid⟩
  · have committed := commit_committed t
      (if (changelog.getD "").isEmpty then "Template updated" else changelog.getD "")
      (.templateUpdated id old.version label) d.ticked
    have ends : (commit t _ _).on d.ticked = (r, d') := (on_bind_ok valid _).symm.trans drawn
    rw [ends] at committed
    exact .inr ⟨old, t, label, _, d.ticked, revision, ⟨d.passes_ticked, accepts⟩, committed⟩

/-- How an update can end: it draws up no record, or it draws one up and stores it. What is
announced at the end changes nothing. -/
theorem update_cases {id : String} {updates : Fields} {changelog : Option String}
    {r : Except Failure Template} (ran : (update id updates changelog).on d = (r, d')) :
    (∃ e notices, r = .error e ∧ d.Leads d' d.own d.shared.repository notices ∧
        Undrawn d.own d.shared.clock.current id updates e) ∨
      ∃ old t label text d₁ d₂ notices,
        Revision d.own d.shared.clock.current id updates old t label ∧ Drawn t d d₁ ∧
        Committed t text (.templateUpdated id old.version label) d₁ r d₂ ∧
        d₂.Leads d' d₂.own d₂.shared.repository notices := by
  rcases report_cases ran with ⟨t, rfl, succeeded⟩ | ⟨e, d₂, rfl, failed, leads⟩
  · rcases revise_cases succeeded with
      ⟨_, impossible, -⟩ | ⟨old, t', label, text, d₁, revision, drawn, committed⟩
    · cases impossible
    · exact .inr ⟨old, t', label, text, d₁, d', [], revision, drawn, committed,
        Desk.Passes.refl d'⟩
  · rcases revise_cases failed with
      ⟨_, same, passes, undrawn⟩ | ⟨old, t, label, text, d₁, revision, drawn, committed⟩
    · cases same
      rw [passes.own, passes.repository] at leads
      exact .inl ⟨e, _, rfl, passes.andLeads leads, undrawn⟩
    · exact .inr ⟨old, t, label, text, d₁, d₂, _, revision, drawn, committed, leads⟩

/-! ### Deleting -/

/-- Deletes a template without reporting failures. -/
def retire (id : String) : Operation Store Bool := do
  match (← own).live.get? id with
  | none => return false
  | some t =>
    save { t with isActive := false, updatedAt := ← now }
    announce (.templateDeleted id)
    return true

/-- A template that is deleted at a moment. -/
def retired (t : Template) (time : Calendar.Moment) : Template :=
  { t with isActive := false, updatedAt := time }

theorem retire_cases {id : String} {r : Except Failure Bool}
    (ran : (retire id).on d = (r, d')) :
    d.Passes d' ∨
      ∃ old repository d₁, d.own.live.get? id = some old ∧
        Saved (retired old d.shared.clock.current) repository d.ticked d₁ ∧ r = .ok true ∧
        d₁.Leads d' d₁.own d₁.shared.repository [.templateDeleted id] := by
  unfold retire at ran
  rw [on_bind_ok (on_own d)] at ran
  cases live : d.own.live.get? id with
  | none =>
    rw [live] at ran
    cases ran
    exact .inl (.refl d)
  | some old =>
    rw [live] at ran
    have first : (save (retired old d.shared.clock.current) >>= fun _ =>
        announce (.templateDeleted id) >>= fun _ => pure true : Operation Store Bool).on d.ticked =
        (r, d') := (on_bind_ok (on_now d) _).symm.trans ran
    rcases save_cases (retired old d.shared.clock.current) d.ticked with
      ⟨e, d₁, failed, -, passes⟩ | ⟨repository, d₁, succeeded, saved⟩
    · cases (on_bind_error failed _).symm.trans first
      exact .inl (d.passes_ticked.trans passes)
    · obtain ⟨d₂, announced, leads⟩ := announce_leads (.templateDeleted id) d₁
      have ends : (save (retired old d.shared.clock.current) >>= fun _ =>
          announce (.templateDeleted id) >>= fun _ => pure true : Operation Store Bool).on
          d.ticked = (.ok true, d₂) := (on_bind_ok succeeded _).trans (on_bind_ok announced _)
      cases ends.symm.trans first
      exact .inr ⟨old, repository, d₁, rfl, saved, rfl, leads⟩

end Store

end Promptuary
