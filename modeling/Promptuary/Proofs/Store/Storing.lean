import Promptuary.Proofs.Operation
import Promptuary.Proofs.Store.History
import Promptuary.Store.Change

/-!
What storing leaves behind. Storing a record, and adding a version to a history, each succeed as a
whole or leave nothing behind; a change does the one after the other, so the second one can fail
after the first one.
-/

namespace Promptuary

open Operation
open Storage (Repository)

namespace Store

variable {d d' : Desk Store} {t : Template} {e : Failure}

/-! ### Records and histories after they are put -/

theorem live_putLive (s : Store) (t : Template) (id : String) :
    (s.putLive t).live.get? id = if t.id = id then some t else s.live.get? id := by
  unfold putLive
  rw [Entries.get?_put]
  by_cases same : t.id = id
  · simp [same]
  · simp [same]

theorem history_putHistory (s : Store) (id other : String) (h : History) :
    (s.putHistory other h).history id = if other = id then h else s.history id := by
  unfold history putHistory
  rw [Entries.get?_put]
  by_cases same : other = id
  · simp [same]
  · simp [same]

@[simp] theorem history_putLive (s : Store) (t : Template) (id : String) :
    (s.putLive t).history id = s.history id := rfl

/-! ### Storing a record -/

/-- A record was written as a document and into the store's state. -/
structure Saved (t : Template) (r : Repository) (d d' : Desk Store) : Prop where
  stored : ∃ document, t.document = .ok document ∧
    d.shared.repository.set .templates t.id document = .ok r
  leads : d.Leads d' (d.own.putLive t) r []

/-- Why a record cannot be stored. -/
inductive Unsaved (t : Template) (r : Repository) : Failure → Prop where
  | unwritable {e : Failure} : t.document = .error e → Unsaved t r e
  | refused {document : Datum} {e : Failure} : t.document = .ok document →
      r.set .templates t.id document = .error e → Unsaved t r e

theorem save_cases (t : Template) (d : Desk Store) :
    (∃ e d', (save t).on d = (.error e, d') ∧ Unsaved t d.shared.repository e ∧ d.Passes d') ∨
      ∃ r d', (save t).on d = (.ok (), d') ∧ Saved t r d d' := by
  unfold save
  cases written : t.document with
  | error e =>
    refine .inl ⟨e, d, ?_, .unwritable written, .refl d⟩
    rw [on_bind_error (on_attempt (.error e) d)]
  | ok document =>
    rw [on_bind_ok (on_attempt (.ok document) d)]
    rcases store_cases .templates t.id document d with
      ⟨e, d', refused, ran, passes⟩ | ⟨r, d', stored, ran, leads⟩
    · refine .inl ⟨e, d', ?_, .refused written refused, passes⟩
      rw [on_bind_error ran]
    · refine .inr ⟨r, { d' with own := putLive t d'.own }, ?_, ⟨document, written, stored⟩, ?_⟩
      · exact (on_bind_ok ran _).trans (on_change _ d')
      · exact { leads with own := congrArg (putLive t) leads.own }

/-! ### Storing a version -/

/-- The version that is made of a template at a moment. An empty label stands for the template's
own. -/
def snapshot (t : Template) (label changelog : String) (time : Calendar.Moment) : Version where
  templateId := t.id
  label := if label.isEmpty then t.version else label
  body := t.body
  declarations := t.declarations
  changelog := changelog
  createdAt := time
  createdBy := t.createdBy

/-- What is announced when versions are dropped. -/
def pruning (id : String) (dropped : History) : List Notice :=
  if dropped.isEmpty then [] else [.versionsPruned id dropped.labels]

/-- A version was added to the history of its template, in the store's state and as a document. -/
structure Versioned (v : Version) (trimmed : History.Trimmed) (r : Repository)
    (d d' : Desk Store) : Prop where
  free : v.label ∉ (d.own.history v.templateId).labels
  added : (d.own.history v.templateId).add d.own.bound v = .ok trimmed
  stored : ∃ document, historyDocument trimmed.kept = .ok document ∧
    d.shared.repository.set .versions v.templateId document = .ok r
  leads : d.Leads d' (d.own.putHistory v.templateId trimmed.kept) r
    (pruning v.templateId trimmed.dropped ++ [.versionCreated v.templateId v.label v.changelog])
  clock : d'.shared.clock.readings <:+ d.shared.clock.rest.readings

/-- Why a version cannot be added to a history with a bound and stored. -/
inductive Hindered (h : History) (bound : Nat) (r : Repository) (v : Version) : Failure → Prop where
  | taken : v.label ∈ h.labels → Hindered h bound r v (.conflict v.templateId v.label)
  | unordered {cause : Calendar.CalendarError} : h.add bound v = .error cause →
      Hindered h bound r v (.calendar cause)
  | unwritable {trimmed : History.Trimmed} {e : Failure} : h.add bound v = .ok trimmed →
      historyDocument trimmed.kept = .error e → Hindered h bound r v e
  | refused {trimmed : History.Trimmed} {document : Datum} {e : Failure} :
      h.add bound v = .ok trimmed → historyDocument trimmed.kept = .ok document →
      r.set .versions v.templateId document = .error e → Hindered h bound r v e

/-- Announces a version, and before it the versions that were dropped for it. -/
def announceVersion (v : Version) (dropped : History) : Operation Store Version := do
  if !dropped.isEmpty then
    announce (.versionsPruned v.templateId (dropped.map (·.label)))
  announce (.versionCreated v.templateId v.label v.changelog)
  return v

theorem announceVersion_leads (v : Version) (dropped : History) (d : Desk Store) :
    ∃ d', (announceVersion v dropped).on d = (.ok v, d') ∧
      d.Leads d' d.own d.shared.repository
        (pruning v.templateId dropped ++ [.versionCreated v.templateId v.label v.changelog]) := by
  unfold announceVersion pruning
  cases dropped.isEmpty with
  | true =>
    obtain ⟨d₁, created, leads⟩ :=
      announce_leads (.versionCreated v.templateId v.label v.changelog) d
    exact ⟨d₁, on_bind_ok created _, leads⟩
  | false =>
    obtain ⟨d₁, pruned, first⟩ :=
      announce_leads (.versionsPruned v.templateId (dropped.map (·.label))) d
    obtain ⟨d₂, created, second⟩ :=
      announce_leads (.versionCreated v.templateId v.label v.changelog) d₁
    refine ⟨d₂, ?_, ?_⟩
    · exact (on_bind_ok pruned _).trans (on_bind_ok created _)
    · rw [first.own, first.repository] at second
      exact first.trans second

/-- Adds a version to a history with a bound and stores the history. -/
def keep (h : History) (bound : Nat) (v : Version) : Operation Store Version := do
  let trimmed ← attempt ((h.add bound v).mapError .calendar)
  store .versions v.templateId (← attempt (historyDocument trimmed.kept))
  change (putHistory v.templateId trimmed.kept)
  announceVersion v trimmed.dropped

/-- Adding a version fails if the label is taken, and otherwise reads the clock and keeps the
version that it makes. -/
theorem addVersion_on (t : Template) (label changelog : String) (d : Desk Store) :
    let v := snapshot t label changelog d.shared.clock.current
    let h := d.own.history v.templateId
    (addVersion t label changelog).on d =
      if h.labels.contains v.label then (.error (.conflict v.templateId v.label), d)
      else (keep h d.own.bound v).on d.ticked := by
  intro v h
  unfold addVersion
  rw [on_bind_ok (on_own d)]
  cases taken : h.labels.contains v.label with
  | true =>
    exact congrArg (Operation.on · d) (if_pos taken)
  | false =>
    exact congrArg (Operation.on · d) (if_neg (Bool.not_eq_true _ ▸ taken))

theorem keep_cases (h : History) (bound : Nat) (v : Version) (d : Desk Store) :
    (∃ e d', (keep h bound v).on d = (.error e, d') ∧ Hindered h bound d.shared.repository v e ∧
        d.Passes d') ∨
      ∃ trimmed document r d', (keep h bound v).on d = (.ok v, d') ∧
        h.add bound v = .ok trimmed ∧ historyDocument trimmed.kept = .ok document ∧
        d.shared.repository.set .versions v.templateId document = .ok r ∧
        d.Leads d' (d.own.putHistory v.templateId trimmed.kept) r
          (pruning v.templateId trimmed.dropped ++
            [.versionCreated v.templateId v.label v.changelog]) := by
  unfold keep
  cases added : h.add bound v with
  | error cause =>
    exact .inl ⟨.calendar cause, d, on_bind_error (on_attempt _ d) _, .unordered added, .refl d⟩
  | ok trimmed =>
    have ran := on_attempt (.ok trimmed) d
    cases written : historyDocument trimmed.kept with
    | error e =>
      refine .inl ⟨e, d, ?_, .unwritable added written, .refl d⟩
      refine (on_bind_ok ran _).trans ?_
      rw [written]
      exact on_bind_error (on_attempt (.error e) d) _
    | ok document =>
      have wrote := on_attempt (.ok document) d
      rcases store_cases .versions v.templateId document d with
        ⟨e, d₁, refused, failed, passes⟩ | ⟨r, d₁, stored, succeeded, first⟩
      · refine .inl ⟨e, d₁, ?_, .refused added written refused, passes⟩
        refine (on_bind_ok ran _).trans ?_
        rw [written]
        exact (on_bind_ok wrote _).trans (on_bind_error failed _)
      · have changed := on_change (putHistory v.templateId trimmed.kept) d₁
        obtain ⟨d₂, announced, second⟩ := announceVersion_leads v trimmed.dropped
          { d₁ with own := d₁.own.putHistory v.templateId trimmed.kept }
        refine .inr ⟨trimmed, document, r, d₂, ?_, rfl, written, stored, ?_⟩
        · refine (on_bind_ok ran _).trans ?_
          rw [written]
          refine (on_bind_ok wrote _).trans ((on_bind_ok succeeded _).trans ?_)
          exact (on_bind_ok changed _).trans announced
        · have third : d.Leads { d₁ with own := d₁.own.putHistory v.templateId trimmed.kept }
              (d.own.putHistory v.templateId trimmed.kept) r [] :=
            { first with own := congrArg (putHistory v.templateId trimmed.kept) first.own }
          have all := third.trans second
          rw [first.own, first.repository] at all
          exact all

theorem addVersion_cases (t : Template) (label changelog : String) (d : Desk Store) :
    let v := snapshot t label changelog d.shared.clock.current
    (∃ e d', (addVersion t label changelog).on d = (.error e, d') ∧
        Hindered (d.own.history v.templateId) d.own.bound d.shared.repository v e ∧ d.Passes d') ∨
      ∃ trimmed r d', (addVersion t label changelog).on d = (.ok v, d') ∧
        Versioned v trimmed r d d' := by
  intro v
  have same : (addVersion t label changelog).on d =
      if (d.own.history v.templateId).labels.contains v.label then
        (.error (.conflict v.templateId v.label), d)
      else (keep (d.own.history v.templateId) d.own.bound v).on d.ticked :=
    addVersion_on t label changelog d
  by_cases taken : (d.own.history v.templateId).labels.contains v.label = true
  · rw [if_pos taken] at same
    exact .inl ⟨_, d, same, .taken (List.contains_iff_mem.1 taken), .refl d⟩
  · rw [if_neg taken] at same
    rcases keep_cases (d.own.history v.templateId) d.own.bound v d.ticked with
      ⟨e, d', ran, hindered, passes⟩ |
        ⟨trimmed, document, r, d', ran, added, written, stored, leads⟩
    · exact .inl ⟨e, d', same.trans ran, hindered, d.passes_ticked.trans passes⟩
    · refine .inr ⟨trimmed, r, d', same.trans ran, ?_⟩
      exact {
        free := fun mem => taken (List.contains_iff_mem.2 mem)
        added := added
        stored := ⟨document, written, stored⟩
        leads := d.passes_ticked.andLeads leads
        clock := leads.clock }

/-! ### Storing a record with its version -/

/-- Stores a record, a version of it if every change makes one, and announces that. -/
def commit (t : Template) (changelog : String) (notice : Notice) : Operation Store Template := do
  save t
  addVersionOfChange t changelog
  announce notice
  return t

/-- A version was added if every change makes one, and otherwise nothing happened. -/
def Followed (v : Version) (d d' : Desk Store) : Prop :=
  (d.own.versioning = false ∧ d' = d) ∨
    (d.own.versioning = true ∧ ∃ trimmed r, Versioned v trimmed r d d')

/-- The version that a change makes of a template at a moment. -/
def snapshotOfChange (t : Template) (changelog : String) (time : Calendar.Moment) : Version :=
  snapshot t t.version changelog time

/-- How storing a record with its version can end: neither is stored, the record alone is, because
the version is hindered, or all is done. -/
inductive Committed (t : Template) (changelog : String) (notice : Notice) (d : Desk Store) :
    Except Failure Template → Desk Store → Prop where
  | unsaved {e : Failure} {d' : Desk Store} : Unsaved t d.shared.repository e → d.Passes d' →
      Committed t changelog notice d (.error e) d'
  | halfway {e : Failure} {r : Repository} {d₁ d' : Desk Store} : Saved t r d d₁ →
      d₁.own.versioning = true →
      Hindered (d₁.own.history t.id) d₁.own.bound d₁.shared.repository
        (snapshotOfChange t changelog d₁.shared.clock.current) e →
      d₁.Passes d' → Committed t changelog notice d (.error e) d'
  | whole {r : Repository} {d₁ d₂ d' : Desk Store} : Saved t r d d₁ →
      Followed (snapshotOfChange t changelog d₁.shared.clock.current) d₁ d₂ →
      d₂.Leads d' d₂.own d₂.shared.repository [notice] →
      Committed t changelog notice d (.ok t) d'

theorem commit_committed (t : Template) (changelog : String) (notice : Notice) (d : Desk Store) :
    Committed t changelog notice d ((commit t changelog notice).on d).1
      ((commit t changelog notice).on d).2 := by
  have finish : ∀ d₂ : Desk Store, ∃ d',
      (announce notice >>= fun _ => pure t : Operation Store Template).on d₂ = (.ok t, d') ∧
        d₂.Leads d' d₂.own d₂.shared.repository [notice] := by
    intro d₂
    obtain ⟨d', announced, leads⟩ := announce_leads notice d₂
    exact ⟨d', on_bind_ok announced _, leads⟩
  rcases save_cases t d with ⟨e, d', failed, unsaved, passes⟩ | ⟨r, d₁, succeeded, saved⟩
  · have ran : (commit t changelog notice).on d = (.error e, d') := on_bind_error failed _
    rw [ran]
    exact .unsaved unsaved passes
  have first : (commit t changelog notice).on d =
      (addVersionOfChange t changelog >>= fun _ => announce notice >>= fun _ => pure t).on d₁ :=
    on_bind_ok succeeded _
  cases versioning : d₁.own.versioning with
  | false =>
    have skipped : (addVersionOfChange t changelog).on d₁ = (.ok (), d₁) := by
      unfold addVersionOfChange
      rw [on_bind_ok (on_own d₁), versioning]
      rfl
    obtain ⟨d', finished, leads⟩ := finish d₁
    have ran := first.trans ((on_bind_ok skipped _).trans finished)
    rw [ran]
    exact .whole saved (.inl ⟨versioning, rfl⟩) leads
  | true =>
    have added : (addVersionOfChange t changelog).on d₁ =
        (addVersion t t.version changelog >>= fun _ => pure ()).on d₁ := by
      unfold addVersionOfChange
      rw [on_bind_ok (on_own d₁), versioning]
      rfl
    rcases addVersion_cases t t.version changelog d₁ with
      ⟨e, d', failed, hindered, passes⟩ | ⟨trimmed, r', d₂, done, versioned⟩
    · have fails := added.trans (on_bind_error failed _)
      have ran := first.trans (on_bind_error fails _)
      rw [ran]
      exact .halfway saved versioning hindered passes
    · have succeeds := added.trans (on_bind_ok done _)
      obtain ⟨d', finished, leads⟩ := finish d₂
      have ran := first.trans ((on_bind_ok succeeds _).trans finished)
      rw [ran]
      exact .whole saved (.inr ⟨versioning, trimmed, r', versioned⟩) leads

end Store

end Promptuary
