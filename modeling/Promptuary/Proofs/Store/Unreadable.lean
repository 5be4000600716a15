import Promptuary.Proofs.Store.Labels
import Promptuary.Proofs.Store.Loading

/-!
What an unreadable document costs. Loading ends at the first document that cannot be read, and
reports nothing. Records and histories that are listed later are not served, however sound their own
documents are; and as an update writes the whole history that is served, a stored history that was
not reached is replaced by the new version alone.
-/

namespace Promptuary

open Operation
open Storage (Repository Space)

namespace Store

variable {d d' : Desk Store} {t u : Template} {h : History} {names ids : List String}

/-! ### Updates of what is served -/

/-- An update stored a history with one version more: a version of the updated record, added to
that history within the bound of the store. -/
structure Extends (h : History) (u : Template) (d d' : Desk Store) (trimmed : History.Trimmed) :
    Prop where
  added : ∃ text time, h.add d.own.bound (snapshotOfChange u text time) = .ok trimmed
  served : d'.own.history u.id = trimmed.kept
  stored : ∃ record document r, d.shared.repository.set .templates u.id record = .ok r ∧
    historyDocument trimmed.kept = .ok document ∧
    r.set .versions u.id document = .ok d'.shared.repository

theorem update_extends {id : String} {updates : Fields} {changelog : Option String} {u : Template}
    {d' : Desk Store} (versioning : d.own.versioning = true)
    (ran : (update id updates changelog).on d = (.ok u, d')) :
    ∃ old trimmed, d.own.live.get? id = some old ∧ u.id = old.id ∧
      Extends (d.own.history u.id) u d d' trimmed := by
  rcases revise_cases (of_report ran) with
    ⟨e, failed, -⟩ | ⟨old, t, label, text, d₁, revision, drawn, committed⟩
  · cases failed
  · cases committed with
    | @whole r d₂ d₃ _ saved followed leads =>
      have same : d₂.own = d.own.putLive u := by
        rw [saved.leads.own, drawn.passes.own]
      rcases followed with ⟨off, -⟩ | ⟨-, trimmed, r', versioned⟩
      · rw [same] at off
        cases versioning.symm.trans off
      · obtain ⟨document, written, stored⟩ := versioned.stored
        obtain ⟨record, -, saved'⟩ := saved.stored
        rw [drawn.passes.repository] at saved'
        rw [saved.leads.repository] at stored
        refine ⟨old, trimmed, revision.live, revision.kept.1, ?_, ?_, record, document, r, saved',
          written, ?_⟩
        · have added := versioned.added
          rw [same] at added
          exact ⟨text, _, added⟩
        · rw [leads.own, versioned.leads.own]
          exact (history_putHistory _ _ _ _).trans (if_pos rfl)
        · rw [leads.repository, versioned.leads.repository]
          exact stored

/-- A version that is added to no history is the whole history. -/
theorem kept_of_nil {v : Version} {bound : Nat} {trimmed : History.Trimmed} (positive : 1 ≤ bound)
    (added : History.add bound v [] = .ok trimmed) : trimmed.kept = [v] := by
  rcases History.trim_cases added with ⟨-, rfl⟩ | ⟨ordered, beyond, -⟩
  · rfl
  · change bound < 1 at beyond
    omega

/-! ### What is reached -/

/-- Every document that is read before the record can be read. -/
def ReachesRecord (d : Desk Store) (names : List String) (id : String) : Prop :=
  ∀ key ∈ before id names, ReadableRecord d.shared.repository d.shared.clock.current key

/-- Every document that is read before the history can be read. -/
def ReachesHistory (d : Desk Store) (names ids : List String) (id : String) : Prop :=
  (∀ key ∈ names, ReadableRecord d.shared.repository d.shared.clock.current key) ∧
    ∀ key ∈ before id ids, ReadableHistory d.shared.repository d.shared.clock.current key

section

variable (new : d.own.live = [] ∧ d.own.histories = [])
  (templates : d.shared.repository.keys .templates = .ok names)
  (versions : d.shared.repository.keys .versions = .ok ids)

include new templates versions

/-- A new store that loads a repository serves a stored record if and only if it is reached. -/
theorem StoredRecord.find?_load (stored : StoredRecord d names t) :
    (ReachesRecord d names t.id → (load.on d).2.own.find? t.id = some t) ∧
      (¬ ReachesRecord d names t.id → (load.on d).2.own.find? t.id = none) := by
  obtain ⟨d₀, reads, own, ends⟩ := load_cases templates versions
  have absent : d₀.own.live.get? t.id = none := by
    rw [own, new.1]
    rfl
  have settles := forM_settles (fun key mem => stored.settles mem) reads
    ⟨some t, stored.read "" (.inl rfl)⟩ stored.listed
  rw [absent] at settles
  have same : (load.on d).2.own.live.get? t.id =
      ((forM names loadTemplate).on d₀).2.own.live.get? t.id := by
    rcases ends with ⟨e, d₁, ran, loaded⟩ | ⟨d₁, d₂, ran, -, own₂, loaded⟩
    · rw [loaded, ran]
    · rw [loaded, ran]
      refine histories_preserve (Q := fun s => s.live.get? t.id = d₁.own.live.get? t.id)
        (fun holds => holds) ids d₂ ?_
      rw [own₂]
  rw [find?_live, same]
  exact settles

/-- A new store that loads a repository serves a stored history if and only if it is reached. -/
theorem StoredHistory.history_load {id : String} (stored : StoredHistory d ids id h) :
    (ReachesHistory d names ids id → (load.on d).2.own.history id = h) ∧
      (¬ ReachesHistory d names ids id → (load.on d).2.own.history id = []) := by
  obtain ⟨d₀, reads, own, ends⟩ := load_cases templates versions
  have readable := records_ok_iff names d₀
  rw [reads.repository, reads.clock] at readable
  have untouched : ((forM names loadTemplate).on d₀).2.own.history id = [] := by
    refine records_preserve (Q := fun s => s.history id = []) (fun _ holds => holds) names d₀ ?_
    rw [own]
    exact history_eq_nil (by rw [new.2]; rfl)
  rcases ends with ⟨e, d₁, ran, loaded⟩ | ⟨d₁, d₂, ran, reads₂, own₂, loaded⟩
  · rw [ran] at readable untouched
    rw [loaded]
    refine ⟨fun reached => ?_, fun _ => untouched⟩
    cases readable.2 reached.1
  · have along := records_read names d₀
    rw [ran] at readable untouched along
    have settles := forM_settles (fun key _ => stored.settles key)
      ((reads.trans along).trans reads₂) ⟨some h, stored.read⟩ stored.listed
    rw [own₂, untouched] at settles
    rw [loaded]
    refine ⟨fun reached => settles.1 reached.2, fun unreached => settles.2 fun all => ?_⟩
    exact unreached ⟨readable.1 rfl, all⟩

end

/-- A new store loads a repository without reporting anything, whatever the repository holds. Of a
template whose own documents are sound it serves the record if and only if all documents read before
it can be read, and the history likewise. The next update stores the history that is served with one
version more: the stored history if that was reached, and otherwise the new version alone. -/
theorem load_serves_what_is_reached (new : d.own.live = [] ∧ d.own.histories = [])
    (versioning : d.own.versioning = true) (positive : 1 ≤ d.own.bound)
    (templates : d.shared.repository.keys .templates = .ok names)
    (versions : d.shared.repository.keys .versions = .ok ids)
    (record : StoredRecord d names t) (history : StoredHistory d ids t.id h) :
    let d₁ := (load.on d).2
    (load.on d).1 = .ok () ∧ d.Reads d₁ ∧
      (ReachesRecord d names t.id → d₁.own.find? t.id = some t) ∧
      (¬ ReachesRecord d names t.id → d₁.own.find? t.id = none) ∧
      (ReachesHistory d names ids t.id → d₁.own.history t.id = h) ∧
      (¬ ReachesHistory d names ids t.id → d₁.own.history t.id = []) ∧
      ∀ updates changelog u d₂, (update t.id updates changelog).on d₁ = (.ok u, d₂) →
        ∃ trimmed, u.id = t.id ∧ Extends (d₁.own.history t.id) u d₁ d₂ trimmed ∧
          (¬ ReachesHistory d names ids t.id →
            ∃ text time, trimmed.kept = [snapshotOfChange u text time]) := by
  intro d₁
  obtain ⟨ok, reads⟩ := load_reads templates versions
  obtain ⟨served, missing⟩ := record.find?_load new templates versions
  obtain ⟨whole, lost⟩ := history.history_load new templates versions
  refine ⟨ok, reads, served, missing, whole, lost, ?_⟩
  have settings : d₁.own.versioning = true ∧ 1 ≤ d₁.own.bound :=
    load_preserves (Q := fun s => s.versioning = true ∧ 1 ≤ s.bound) (fun _ holds => holds)
      (fun holds => holds) d ⟨versioning, positive⟩
  intro updates changelog u d₂ ran
  obtain ⟨old, trimmed, live, key, extends_⟩ := update_extends settings.1 ran
  have same : old.id = t.id := by
    rw [← find?_live] at live
    by_cases reached : ReachesRecord d names t.id
    · cases live.symm.trans (served reached)
      rfl
    · cases live.symm.trans (missing reached)
  rw [key, same] at extends_
  refine ⟨trimmed, key.trans same, extends_, fun unreached => ?_⟩
  obtain ⟨text, time, added⟩ := extends_.added
  rw [lost unreached] at added
  exact ⟨text, time, kept_of_nil settings.2 added⟩

/-- The first record of the greeting. -/
def greetingRecord : Template := firstRecord "tpl-1" ⟨0, none⟩ greeting

/-- The first version of the greeting. -/
def greetingVersion : Version := snapshotOfChange greetingRecord "Initial version" ⟨0, none⟩

/-- A desk whose repository holds the greeting and, listed before its history, a document that is
no history. -/
def brokenDesk : Desk Store :=
  let documents : Storage.Spaces Datum
    | .templates => [("tpl-1", greetingRecord.toDatum .stored)]
    | .versions => [("broken", .list [.object [("version", .int 5)]]),
        ("tpl-1", .list [greetingVersion.toDatum .stored])]
    | .executions => []
  { emptyDesk with
    shared := { emptyDesk.shared with repository := .memory ⟨documents, fun _ _ => false⟩ } }

theorem brokenDesk_record : StoredRecord brokenDesk ["tpl-1"] greetingRecord where
  listed := List.mem_cons_self
  read := fun id _ =>
    .present rfl rfl (Template.shape_stored ⟨rfl, by decide⟩ ⟨rfl, by decide⟩ id _)
  alone := by
    intro key mem ne
    exact absurd (List.mem_singleton.1 mem) ne

theorem brokenDesk_history :
    StoredHistory brokenDesk ["broken", "tpl-1"] "tpl-1" [greetingVersion] where
  listed := List.mem_cons_of_mem _ List.mem_cons_self
  read := by
    refine .present rfl rfl ?_
    have reads : ∀ v ∈ [greetingVersion], Version.shape brokenDesk.shared.clock.current
        (v.toDatum .stored) = .valid v.restored := by
      intro v mem
      rw [List.mem_singleton.1 mem]
      exact Version.shape_stored ⟨rfl, by decide⟩ _
    exact Schema.list_map reads

theorem brokenDesk_unreached :
    ¬ ReachesHistory brokenDesk ["tpl-1"] ["broken", "tpl-1"] "tpl-1" := by
  intro reached
  obtain ⟨x, ⟨got, no⟩ | ⟨got, -, fits⟩⟩ := reached.2 "broken" List.mem_cons_self
  · cases got
    cases no
  · cases got
    cases fits

theorem load_serves_what_is_reached_brokenDesk :
    let d₁ := (load.on brokenDesk).2
    d₁.own.find? "tpl-1" = some greetingRecord ∧ d₁.own.history "tpl-1" = [] ∧
      ∀ updates changelog u d₂, (update "tpl-1" updates changelog).on d₁ = (.ok u, d₂) →
        ∃ trimmed text time, Extends [] u d₁ d₂ trimmed ∧
          trimmed.kept = [snapshotOfChange u text time] := by
  intro d₁
  obtain ⟨-, -, served, -, -, lost, updates⟩ :=
    load_serves_what_is_reached (d := brokenDesk) ⟨rfl, rfl⟩ rfl (by decide) rfl rfl
      brokenDesk_record brokenDesk_history
  have history : d₁.own.history "tpl-1" = [] := lost brokenDesk_unreached
  refine ⟨served fun _ mem => absurd mem List.not_mem_nil, history, ?_⟩
  intro fields changelog u d₂ ran
  obtain ⟨trimmed, -, extends_, alone⟩ := updates fields changelog u d₂ ran
  obtain ⟨text, time, kept⟩ := alone brokenDesk_unreached
  exact ⟨trimmed, text, time, history ▸ extends_, kept⟩

end Store

end Promptuary
