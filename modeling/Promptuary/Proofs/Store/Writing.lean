import Promptuary.Proofs.Store.Run

/-!
What a change writes. Whether it succeeds or not, a change first stores one record or none, then
adds one version to the history of its template or none, and then announces something.
-/

namespace Promptuary

open Operation
open Storage (Repository)

namespace Store

variable {c : Change} {d d₁ d₂ d' : Desk Store} {t t' : Template}

/-- The record that a change draws up. Deleting draws up none that is checked or versioned. -/
inductive Change.Drafts (d : Desk Store) : Change → Template → Prop where
  | create {definition : Definition} : Drafts d (.create definition)
      (firstRecord (identifier (d.shared.issued + 1)) d.shared.clock.current definition)
  | createFromData {data : Datum} {definition : Definition} :
      Definition.shape data = .valid definition → Drafts d (.createFromData data)
        (firstRecord (identifier (d.shared.issued + 1)) d.shared.clock.current definition)
  | update {id : String} {updates : Fields} {changelog : Option String} {old t : Template}
      {label : String} : Revision d.own d.shared.clock.current id updates old t label →
      Drafts d (.update id updates changelog) t

theorem Change.Drafts.unique (drafted : c.Drafts d t) (other : c.Drafts d t') : t' = t := by
  cases drafted with
  | create =>
    cases other
    rfl
  | createFromData read =>
    cases other with
    | createFromData read' =>
      cases read.symm.trans read'
      rfl
  | update revision =>
    cases other with
    | update revision' => exact revision.unique revision'

/-- The record that a change stores: the one that it draws up, or the deleted one. -/
inductive Change.Stores (c : Change) (d : Desk Store) (t : Template) : Prop where
  | drafted : c.Drafts d t → Stores c d t
  | deleted {id : String} {old : Template} : d.own.live.get? id = some old →
      t = retired old d.shared.clock.current → Stores c d t

/-- A change stored a record, or nothing yet. -/
inductive StoresRecord (c : Change) (d d' : Desk Store) : Prop where
  | nothing : d.Passes d' → StoresRecord c d d'
  | record {t : Template} {r : Repository} : c.Stores d t → Saved t r d d' → StoresRecord c d d'

/-- A version of a live record was added to the history of its template, or nothing happened. -/
inductive AddsVersion (d d' : Desk Store) : Prop where
  | nothing : d.Passes d' → AddsVersion d d'
  | version {id label changelog : String} {t : Template} {trimmed : History.Trimmed}
      {r : Repository} : d.own.live.get? id = some t →
      Versioned (snapshot t label changelog d.shared.clock.current) trimmed r d d' →
      AddsVersion d d'

/-- What a change leaves behind: a record, a version and announcements, each of them or none. -/
def Writes (c : Change) (d d' : Desk Store) : Prop :=
  ∃ d₁ d₂ notices, StoresRecord c d d₁ ∧ AddsVersion d₁ d₂ ∧
    d₂.Leads d' d₂.own d₂.shared.repository notices

/-- Adding versions leaves the live records. -/
theorem AddsVersion.live (versions : AddsVersion d d') : d'.own.live = d.own.live := by
  cases versions with
  | nothing passes => rw [passes.own]
  | version _ versioned => rw [versioned.leads.own]; rfl

/-! ### Each change -/

theorem writes_of_passes (passes : d.Passes d') : Writes c d d' :=
  ⟨d', d', [], .nothing passes, .nothing (.refl d'), Desk.Passes.refl d'⟩

theorem Writes.andLeads {notices : List Notice} (writes : Writes c d d₁)
    (leads : d₁.Leads d' d₁.own d₁.shared.repository notices) : Writes c d d' := by
  obtain ⟨d₂, d₃, before, records, versions, first⟩ := writes
  rw [first.own, first.repository] at leads
  exact ⟨d₂, d₃, before ++ notices, records, versions, first.trans leads⟩

/-- Storing a record with its version is a write, whichever of the two fails. -/
theorem Committed.writes {text : String} {notice : Notice} {result : Except Failure Template}
    (passes : d.Passes d₁) (stores : c.Stores d t)
    (committed : Committed t text notice d₁ result d') : Writes c d d' := by
  cases committed with
  | unsaved _ unsaved => exact writes_of_passes (passes.trans unsaved)
  | @halfway e r d₂ _ saved _ _ after =>
    exact ⟨d₂, d', [], .record stores (saved.after passes), .nothing after,
      Desk.Passes.refl d'⟩
  | @whole r d₂ d₃ _ saved followed leads =>
    refine ⟨d₂, d₃, [notice], .record stores (saved.after passes), ?_, leads⟩
    rcases followed with ⟨-, rfl⟩ | ⟨-, trimmed, r', versioned⟩
    · exact .nothing (.refl _)
    · exact .version saved.live versioned

theorem writes_createFrom {definition : Definition} {id : String} {result : Except Failure Template}
    (passes : d.Passes d₁) (clock : d₁.shared.clock = d.shared.clock)
    (drafted : c.Drafts d (firstRecord id d.shared.clock.current definition))
    (ran : (createFrom id definition).on d₁ = (result, d')) : Writes c d d' := by
  rw [← clock] at drafted
  rcases createFrom_cases ran with ⟨e, -, after, -⟩ | ⟨d₂, drawn, committed⟩
  · exact writes_of_passes (passes.trans after)
  · exact committed.writes (passes.trans drawn.passes) (.drafted drafted)

theorem writes_revise {id : String} {updates : Fields} {changelog : Option String}
    {result : Except Failure Template} (ran : (revise id updates changelog).on d = (result, d')) :
    Writes (.update id updates changelog) d d' := by
  rcases revise_cases ran with
    ⟨e, -, after, -⟩ | ⟨old, t, label, text, d₁, revision, drawn, committed⟩
  · exact writes_of_passes after
  · exact committed.writes drawn.passes (.drafted (.update revision))

theorem writes_retire {id : String} {result : Except Failure Bool}
    (ran : (retire id).on d = (result, d')) : Writes (.delete id) d d' := by
  rcases retire_cases ran with after | ⟨old, r, d₁, live, saved, -, leads⟩
  · exact writes_of_passes after
  · exact ⟨d₁, d₁, [.templateDeleted id], .record (.deleted live rfl) (saved.after d.passes_ticked),
      .nothing (.refl d₁), leads⟩

theorem writes_version {id label changelog : String} {result : Except Failure Version}
    (ran : (require id >>= fun t => addVersion t label changelog).on d = (result, d')) :
    Writes (.createVersion id label changelog) d d' := by
  rcases on_bind_cases ran with ⟨e, missing, -⟩ | ⟨t, d₁, found, rest⟩
  · obtain ⟨rfl, -⟩ := require_spec missing
    exact writes_of_passes (.refl d)
  · obtain ⟨rfl, live⟩ := require_spec found
    rcases addVersion_cases t label changelog d with
      ⟨e, d₁, failed, -, passes⟩ | ⟨trimmed, r, d₁, succeeded, versioned⟩
    · cases failed.symm.trans rest
      exact writes_of_passes passes
    · cases succeeded.symm.trans rest
      exact ⟨d, d', [], .nothing (.refl d), .version ((live t).1 rfl) versioned,
        Desk.Passes.refl d'⟩

/-- Reporting failures is no write. -/
theorem writes_report {α : Type} {op : Operation Store α} {id operation : String}
    {particulars : Fields} {result : Except Failure α}
    (writes : ∀ {result d'}, op.on d₁ = (result, d') → Writes c d d')
    (ran : (onFailure (announceFailure id operation particulars) op).on d₁ = (result, d')) :
    Writes c d d' := by
  rcases report_cases ran with ⟨a, -, succeeded⟩ | ⟨e, d₂, -, failed, leads⟩
  · exact writes succeeded
  · exact (writes failed).andLeads leads

/-- Every change stores one record or none, and then one version or none. -/
theorem Change.writes (c : Change) (d : Desk Store) : Writes c d (c.run.on d).2 := by
  obtain ⟨d₁, issued, passes, -, clock⟩ := issue_passes d
  cases c with
  | create definition =>
    rw [run, on_discard, Store.create, on_bind_ok issued]
    exact writes_report (writes_createFrom passes clock .create) rfl
  | createFromData data =>
    rw [run, on_discard, Store.createFromData, on_bind_ok issued]
    refine writes_report ?_ rfl
    intro result d₂ ran
    rcases on_bind_cases ran with ⟨e, faulty, -⟩ | ⟨definition, d₃, read, rest⟩
    · obtain ⟨rfl, -⟩ := readAs_spec faulty
      exact writes_of_passes passes
    · obtain ⟨rfl, reads⟩ := readAs_spec read
      exact writes_createFrom passes clock (.createFromData ((reads definition).1 rfl)) rest
  | update id updates changelog =>
    rw [run, on_discard]
    exact writes_report writes_revise rfl
  | delete id =>
    rw [run, on_discard]
    exact writes_report writes_retire rfl
  | createVersion id label changelog =>
    rw [run, on_discard]
    exact writes_report writes_version rfl

end Store

end Promptuary
