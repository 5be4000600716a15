import Promptuary.Proofs.Store.Labels

/-!
What a failed change leaves behind. The failure is announced, and nothing else is. The records, the
histories and the documents are as before, unless the change had drawn up a record and stored it,
and then could not add the version of it: such a record stays, live and as a document.
-/

namespace Promptuary

open Operation
open Storage (Repository)

namespace Store

variable {c : Change} {d d₁ d' : Desk Store} {e : Failure} {t t' : Template} {r : Repository}

/-! ### Half-done changes -/

/-- A change drew up a valid record and stored it, but the version of it is hindered. -/
structure HalfDone (c : Change) (d : Desk Store) (e : Failure) (t : Template) (r : Repository) :
    Prop where
  drafted : c.Drafts d t
  accepted : d.own.Accepts t
  written : ∃ document, t.document = .ok document ∧
    d.shared.repository.set .templates t.id document = .ok r
  versioning : d.own.versioning = true
  hindered : ∃ changelog time, Hindered (d.own.history t.id) d.own.bound r
    (snapshotOfChange t changelog time) e

theorem HalfDone.unique {r' : Repository} (half : HalfDone c d e t r)
    (other : HalfDone c d e t' r') : t' = t ∧ r' = r := by
  obtain rfl := half.drafted.unique other.drafted
  obtain ⟨document, written, stored⟩ := half.written
  obtain ⟨document', written', stored'⟩ := other.written
  cases written.symm.trans written'
  cases stored.symm.trans stored'
  exact ⟨rfl, rfl⟩

/-- What a change that fails leaves behind before the failure is announced: nothing, or the record
if it is half done. -/
inductive Leaves (c : Change) (d : Desk Store) (e : Failure) (d' : Desk Store) : Prop where
  | nothing : d.Passes d' → (∀ t r, ¬ HalfDone c d e t r) → Leaves c d e d'
  | record {t : Template} {r : Repository} : HalfDone c d e t r →
      d.Leads d' (d.own.putLive t) r [] → Leaves c d e d'

/-! ### Changes that fail -/

theorem Committed.leaves {text : String} {notice : Notice} (passes : d.Passes d₁)
    (drafted : c.Drafts d t) (accepted : d.own.Accepts t)
    (committed : Committed t text notice d₁ (.error e) d') : Leaves c d e d' := by
  cases committed with
  | unsaved unsaved after =>
    refine .nothing (passes.trans after) ?_
    intro t' r half
    obtain rfl := drafted.unique half.drafted
    obtain ⟨document, written, stored⟩ := half.written
    rw [passes.repository] at unsaved
    cases unsaved with
    | unwritable failed => cases failed.symm.trans written
    | refused written' refused =>
      cases written.symm.trans written'
      cases refused.symm.trans stored
  | @halfway _ r d₂ _ saved versioning hindered after =>
    have stored := saved.after passes
    have own : d₂.own = d.own.putLive t := stored.leads.own
    have repository : d₂.shared.repository = r := stored.leads.repository
    rw [own] at versioning
    rw [own, repository] at hindered
    exact .record ⟨drafted, accepted, stored.stored, versioning, _, _, hindered⟩
      (stored.leads.andPasses after)

theorem leaves_createFrom {definition : Definition} {id : String} {result : Except Failure Template}
    (passes : d.Passes d₁) (clock : d₁.shared.clock = d.shared.clock)
    (drafted : c.Drafts d (firstRecord id d.shared.clock.current definition))
    (ran : (createFrom id definition).on d₁ = (result, d')) (failed : result = .error e) :
    Leaves c d e d' := by
  rw [← clock] at drafted
  rcases createFrom_cases ran with ⟨_, -, after, rejected⟩ | ⟨d₂, drawn, committed⟩
  · refine .nothing (passes.trans after) ?_
    intro t r half
    have accepted := half.accepted
    rw [drafted.unique half.drafted, ← passes.own] at accepted
    exact rejected accepted
  · subst failed
    have accepted := drawn.accepted
    rw [passes.own] at accepted
    exact committed.leaves (passes.trans drawn.passes) drafted accepted

theorem leaves_revise {id : String} {updates : Fields} {changelog : Option String}
    {result : Except Failure Template} (ran : (revise id updates changelog).on d = (result, d'))
    (failed : result = .error e) : Leaves (.update id updates changelog) d e d' := by
  rcases revise_cases ran with
    ⟨_, -, after, undrawn⟩ | ⟨old, t, label, text, d₁, revision, drawn, committed⟩
  · refine .nothing after ?_
    intro t r half
    cases half.drafted with
    | update revision => exact undrawn.rejects revision half.accepted
  · subst failed
    exact committed.leaves drawn.passes (.update revision) drawn.accepted

theorem leaves_retire {id : String} {result : Except Failure Bool}
    (ran : (retire id).on d = (result, d')) (failed : result = .error e) :
    Leaves (.delete id) d e d' := by
  rcases retire_cases ran with after | ⟨old, repository, d₁, -, -, succeeded, -⟩
  · exact .nothing after fun _ _ half => nomatch half.drafted
  · cases succeeded.symm.trans failed

theorem leaves_version {id label changelog : String} {result : Except Failure Version}
    (ran : (require id >>= fun t => addVersion t label changelog).on d = (result, d'))
    (failed : result = .error e) : Leaves (.createVersion id label changelog) d e d' := by
  have nothing : d.Passes d' → Leaves (.createVersion id label changelog) d e d' := fun after =>
    .nothing after fun _ _ half => nomatch half.drafted
  rcases on_bind_cases ran with ⟨e, missing, -⟩ | ⟨t, d₁, found, rest⟩
  · obtain ⟨rfl, -⟩ := require_spec missing
    exact nothing (.refl d)
  · obtain ⟨rfl, -⟩ := require_spec found
    rcases addVersion_cases t label changelog d with
      ⟨e, d₁, hindered, -, passes⟩ | ⟨trimmed, repository, d₁, succeeded, -⟩
    · cases hindered.symm.trans rest
      exact nothing passes
    · cases succeeded.symm.trans rest
      cases failed

/-! ### The announcement of a failure -/

/-- What is announced when a change fails. -/
def Change.failure (d : Desk Store) (e : Failure) : Change → Notice
  | .create _ => .failed (identifier (d.shared.issued + 1)) "create" e.message []
  | .createFromData _ => .failed (identifier (d.shared.issued + 1)) "create" e.message []
  | .update id _ _ => .failed id "update" e.message []
  | .delete id => .failed id "delete" e.message []
  | .createVersion id label _ => .failed id "create_version" e.message [("version", .text label)]

/-- An operation that reports its failures leaves what it left before the report. -/
theorem leaves_report {α : Type} {op : Operation Store α} {id operation : String}
    {particulars : Fields} {result : Except Failure α}
    (leaves : ∀ {result d'}, op.on d₁ = (result, d') → result = .error e → Leaves c d e d')
    (ran : (onFailure (announceFailure id operation particulars) op).on d₁ = (result, d'))
    (failed : result = .error e) :
    ∃ d₂, Leaves c d e d₂ ∧
      d₂.Leads d' d₂.own d₂.shared.repository [.failed id operation e.message particulars] := by
  rcases report_cases ran with ⟨a, succeeded, -⟩ | ⟨e', d₂, failed', first, leads⟩
  · cases succeeded.symm.trans failed
  · cases failed'.symm.trans failed
    exact ⟨d₂, leaves first rfl, leads⟩

/-- A change that fails leaves nothing or a record of its own, and then announces the failure. -/
theorem Change.leaves (ran : c.run.on d = (.error e, d')) :
    ∃ d₂, Leaves c d e d₂ ∧ d₂.Leads d' d₂.own d₂.shared.repository [c.failure d e] := by
  obtain ⟨d₁, issued, passes, -, clock⟩ := issue_passes d
  cases c with
  | create definition =>
    have ran₁ := on_of_discard ran
    rw [Store.create, on_bind_ok issued] at ran₁
    exact leaves_report (leaves_createFrom passes clock .create) ran₁ rfl
  | createFromData data =>
    have ran₁ := on_of_discard ran
    rw [Store.createFromData, on_bind_ok issued] at ran₁
    refine leaves_report ?_ ran₁ rfl
    intro result d₂ ran₂ failed
    rcases on_bind_cases ran₂ with ⟨e', faulty, -⟩ | ⟨definition, d₃, read, rest⟩
    · obtain ⟨rfl, reads⟩ := readAs_spec faulty
      refine .nothing passes ?_
      intro t r half
      cases half.drafted with
      | createFromData read => cases (reads _).2 read
    · obtain ⟨rfl, reads⟩ := readAs_spec read
      exact leaves_createFrom passes clock (.createFromData ((reads definition).1 rfl)) rest failed
  | update id updates changelog => exact leaves_report leaves_revise (on_of_discard ran) rfl
  | delete id => exact leaves_report leaves_retire (on_of_discard ran) rfl
  | createVersion id label changelog => exact leaves_report leaves_version (on_of_discard ran) rfl

/-! ### When a failed change leaves everything as it was -/

/-- A desk that a run can reach from nothing, reloading only what its repository can give back. -/
def Reached (d : Desk Store) : Prop :=
  ∃ turns start, Fresh start ∧ Recoverable turns start ∧ d = run turns start

theorem Reached.sound (reached : Reached d) : Sound d := by
  obtain ⟨turns, start, fresh, recoverable, rfl⟩ := reached
  exact run_sound fresh recoverable

/-- The record that a change draws up is not the live one. -/
theorem Sound.drafts_ne (sound : Sound d) (drafted : c.Drafts d t) :
    d.own.live.get? t.id ≠ some t := by
  have unused := (sound.unused (Nat.lt_succ_self d.shared.issued)).1
  cases drafted with
  | create =>
    intro live
    cases unused.symm.trans live
  | createFromData _ =>
    intro live
    cases unused.symm.trans live
  | @update id _ _ old _ _ revision =>
    have key : t.id = id := revision.kept.1.trans (sound.keyed revision.live)
    rw [key, revision.live]
    intro same
    exact revision.version_free.2 (congrArg Template.version (Option.some.inj same).symm)

/-- A change that fails announces the failure and nothing else. If it is half done, its record
stays, live and as a document; otherwise the state and the repository are as they were. In a state
that a run can reach these exclude each other: everything is as it was just if the change is not half
done. -/
theorem failed_change (ran : c.run.on d = (.error e, d')) :
    (c.failure d e).type = .error ∧ d'.notices = d.notices ++ [c.failure d e] ∧
      (∀ t r, HalfDone c d e t r → d'.own = d.own.putLive t ∧ d'.shared.repository = r) ∧
      ((¬ ∃ t r, HalfDone c d e t r) →
        d'.own = d.own ∧ d'.shared.repository = d.shared.repository) ∧
      (Reached d → (d'.own = d.own ∧ d'.shared.repository = d.shared.repository ↔
        ¬ ∃ t r, HalfDone c d e t r)) := by
  obtain ⟨d₂, leaves, report⟩ := Change.leaves ran
  have type : (c.failure d e).type = .error := by
    cases c <;> rfl
  cases leaves with
  | nothing passes whole =>
    have all := passes.andLeads report
    rw [passes.own, passes.repository] at all
    have same : d'.own = d.own ∧ d'.shared.repository = d.shared.repository :=
      ⟨all.own, all.repository⟩
    have none : ¬ ∃ t r, HalfDone c d e t r := fun ⟨t, r, half⟩ => whole t r half
    exact ⟨type, all.notices, fun t r half => absurd half (whole t r), fun _ => same,
      fun _ => ⟨fun _ => none, fun _ => same⟩⟩
  | @record t r half leads =>
    have all := leads.trans report
    rw [leads.own, leads.repository] at all
    have left : ∃ t r, HalfDone c d e t r := ⟨t, r, half⟩
    refine ⟨type, all.notices, ?_, fun none => absurd left none, ?_⟩
    · intro t' r' half'
      obtain ⟨rfl, rfl⟩ := half.unique half'
      exact ⟨all.own, all.repository⟩
    · intro reached
      refine ⟨?_, fun none => absurd left none⟩
      rintro ⟨own, -⟩
      have stored : d.own.live.get? t.id = some t := by
        rw [← own, all.own]
        exact Entries.get?_put_self ..
      exact absurd stored (reached.sound.drafts_ne half.drafted)

/-- A desk at which nothing has happened but that the medium refuses to write histories. -/
def hinderedDesk : Desk Store := run [.disturb (· = .versions) false] emptyDesk

theorem hinderedDesk_reached : Reached hinderedDesk :=
  ⟨_, emptyDesk, emptyDesk_fresh, emptyDesk_blank.recoverable, rfl⟩

/-- Creating a template there fails, and the record stays in the state of the store. -/
theorem failed_change_hinderedDesk :
    ∃ e d', (Change.create greeting).run.on hinderedDesk = (.error e, d') ∧
      (∃ t r, HalfDone (.create greeting) hinderedDesk e t r) ∧ d'.own ≠ hinderedDesk.own := by
  have fails : ((Change.create greeting).run.on hinderedDesk).1.isOk = false := by decide +kernel
  have stays : (((Change.create greeting).run.on hinderedDesk).2.own.live.get? "tpl-1").isSome =
      true := by decide +kernel
  rcases ran : (Change.create greeting).run.on hinderedDesk with ⟨e | _, d'⟩
  · rw [ran] at stays
    have changed : d'.own ≠ hinderedDesk.own := by
      intro same
      rw [same] at stays
      exact absurd stays (by decide)
    refine ⟨e, d', rfl, ?_, changed⟩
    obtain ⟨-, -, -, -, unchanged⟩ := failed_change ran
    refine Classical.byContradiction fun whole => ?_
    exact changed ((unchanged hinderedDesk_reached).2 whole).1
  · rw [ran] at fails
    cases fails

end Store

end Promptuary
