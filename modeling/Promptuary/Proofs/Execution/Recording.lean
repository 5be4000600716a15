import Promptuary.Execution.Recorder
import Promptuary.Proofs.Entries
import Promptuary.Proofs.Operation

/-!
What a call to record an execution does. An execution joins those of its template, of which the last
ones up to the bound are stored and kept, or it cannot be stored, and nothing changes but that the
failure is announced.
-/

namespace Promptuary

open Operation

/-! ### The last items -/

section

variable {β : Type}

theorem lastItems_suffix (count : Nat) (xs : List β) : lastItems count xs <:+ xs :=
  List.drop_suffix ..

theorem length_lastItems (count : Nat) (xs : List β) :
    (lastItems count xs).length = min xs.length count := by
  rw [lastItems, List.length_drop]
  omega

/-- Dropping the oldest items before a new one comes in makes no difference. -/
theorem lastItems_concat (count : Nat) (xs : List β) (x : β) :
    lastItems count (lastItems count xs ++ [x]) = lastItems count (xs ++ [x]) := by
  rcases Nat.eq_zero_or_pos count with rfl | positive
  · simp [lastItems]
  · have kept := length_lastItems count xs
    unfold lastItems at kept ⊢
    rw [List.length_append, List.length_append, kept, List.length_singleton,
      List.drop_append_of_le_length (by omega), List.drop_append_of_le_length (by omega),
      List.drop_drop]
    congr 2
    omega

theorem lastItems_eq_self {count : Nat} {xs : List β} (few : xs.length ≤ count) :
    lastItems count xs = xs := by
  rw [lastItems, Nat.sub_eq_zero_of_le few, List.drop_zero]

end

namespace Recorder

variable {α : Type}

/-! ### Keeping an execution -/

/-- The executions that are kept of a template when one more is recorded. -/
def grown (e : Execution α) (r : Recorder α) : List (Execution α) :=
  lastItems r.bound (r.executions e.templateId ++ [e])

/-- A recorder after it has recorded an execution. -/
def keep (e : Execution α) (r : Recorder α) : Recorder α :=
  if r.enabled then r.put e.templateId (lastItems r.bound (r.executions e.templateId ++ [e])) else r

theorem executions_keep (e : Execution α) (r : Recorder α) (id : String) :
    (r.keep e).executions id = if r.enabled ∧ e.templateId = id
      then lastItems r.bound (r.executions id ++ [e]) else r.executions id := by
  unfold keep executions put
  split
  · next enabled =>
    by_cases here : e.templateId = id
    · subst here
      simp [enabled]
    · simp [Entries.get?_put, here]
  · next disabled => simp [disabled]

theorem enabled_keep (e : Execution α) (r : Recorder α) : (r.keep e).enabled = r.enabled := by
  unfold keep
  split <;> rfl

/-! ### One call -/

variable [Scalar α] {e : Execution α} {d : Desk (Recorder α)}

/-- What is announced of an execution that was recorded. -/
def recordedNotice (e : Execution α) : Notice :=
  .executionRecorded e.templateId e.label e.success (Scalar.toDatum e.responseTime)

/-- What is announced of an execution that could not be recorded. -/
def failedNotice (e : Execution α) (f : Failure) : Notice :=
  .failed e.templateId "record_execution" f.message []

/-- An execution can be stored with those that are kept of its template: they have a document, and
the repository takes it. -/
def Storable (e : Execution α) (d : Desk (Recorder α)) : Prop :=
  ∃ written r, document (d.own.grown e) = .ok written ∧
    d.shared.repository.set .executions e.templateId written = .ok r

/-- A desk after a call that has recorded an execution: its template's executions are stored and
kept. -/
structure Recorded (e : Execution α) (d d' : Desk (Recorder α)) (written : Datum)
    (repository : Storage.Repository) : Prop where
  dumped : document (d.own.grown e) = .ok written
  stored : d.shared.repository.set .executions e.templateId written = .ok repository
  leads : d.Leads d' (d.own.put e.templateId (d.own.grown e)) repository [recordedNotice e]

/-- Storing executions changes the repository at most. -/
theorem storing_cases (id : String) (buffer : List (Execution α)) (d : Desk (Recorder α)) :
    (∃ f d', (attempt (document buffer) >>= store .executions id).on d = (.error f, d') ∧
        d.Passes d' ∧ ∀ written r, document buffer = .ok written →
          d.shared.repository.set .executions id written ≠ .ok r) ∨
      ∃ written r d', document buffer = .ok written ∧
        d.shared.repository.set .executions id written = .ok r ∧
        (attempt (document buffer) >>= store .executions id).on d = (.ok (), d') ∧
        d.Leads d' d.own r [] := by
  rw [on_attempt_bind]
  cases document buffer with
  | error f => exact .inl ⟨f, d, rfl, .refl d, nofun⟩
  | ok written =>
    rcases store_cases .executions id written d with
      ⟨f, d', refused, ran, passes⟩ | ⟨r, d', set, ran, leads⟩
    · refine .inl ⟨f, d', ran, passes, fun _ _ same taken => ?_⟩
      cases same
      cases refused.symm.trans taken
    · exact .inr ⟨written, r, d', rfl, set, ran, leads⟩

/-- A call of an enabled recorder records its execution, or that cannot be stored, and the call
fails and only announces that. -/
theorem record_enabled (enabled : d.own.enabled = true) (e : Execution α) :
    (∃ f d', (record e).on d = (.error f, d') ∧
        d.Leads d' d.own d.shared.repository [failedNotice e f] ∧ ¬ Storable e d) ∨
      ∃ written r d', (record e).on d = (.ok (), d') ∧ Recorded e d d' written r := by
  unfold record
  rw [on_bind_ok (on_own _)]
  dsimp only
  rw [if_pos enabled, on_bind, on_onFailure]
  rcases storing_cases e.templateId (d.own.grown e) d with
    ⟨f, d₁, ran, passes, refused⟩ | ⟨written, r, d₁, dumped, set, ran, leads⟩
  · obtain ⟨d₂, announced, leads⟩ := announce_leads (failedNotice e f) d₁
    rw [passes.own, passes.repository] at leads
    refine .inl ⟨f, d₂, ?_, passes.andLeads leads,
      fun ⟨written, r, dumped, taken⟩ => refused written r dumped taken⟩
    unfold grown at ran
    unfold failedNotice at announced
    rw [ran]
    dsimp only
    rw [on_bind_ok announced]
    rfl
  · have changed : d.Leads { d₁ with own := d₁.own.put e.templateId (d.own.grown e) }
        (d.own.put e.templateId (d.own.grown e)) r [] :=
      { leads with own := by rw [leads.own] }
    obtain ⟨d₂, announced, leads'⟩ := announce_leads (recordedNotice e)
      { d₁ with own := d₁.own.put e.templateId (d.own.grown e) }
    rw [changed.own, changed.repository] at leads'
    refine .inr ⟨written, r, d₂, ?_, dumped, set, changed.trans leads'⟩
    unfold grown at ran
    rw [ran]
    dsimp only
    rw [on_bind_ok (on_change ..)]
    exact announced

/-- A recorder records an execution, or it fails and stays as it was. -/
theorem record_cases (e : Execution α) (d : Desk (Recorder α)) :
    ∃ r d', (record e).on d = (r, d') ∧ d'.shared.clock.readings <:+ d.shared.clock.readings ∧
      ((∃ f, r = .error f ∧ d'.own = d.own) ∨ r = .ok () ∧ d'.own = d.own.keep e) := by
  by_cases enabled : d.own.enabled = true
  · rcases record_enabled enabled e with ⟨f, d', ran, leads, -⟩ | ⟨written, r, d', ran, recorded⟩
    · exact ⟨.error f, d', ran, leads.clock, .inl ⟨f, rfl, leads.own⟩⟩
    · refine ⟨.ok (), d', ran, recorded.leads.clock, .inr ⟨rfl, ?_⟩⟩
      rw [recorded.leads.own, keep, if_pos enabled]
      rfl
  · refine ⟨.ok (), d, ?_, List.suffix_refl _, .inr ⟨rfl, ?_⟩⟩
    · unfold record
      rw [on_bind_ok (on_own _)]
      dsimp only
      rw [if_neg enabled]
      rfl
    · rw [keep, if_neg enabled]

end Recorder

end Promptuary
