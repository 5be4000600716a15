import Promptuary.Proofs.Entries
import Promptuary.Proofs.Store.Returning
import Promptuary.Proofs.Store.Sound
import Promptuary.Proofs.Store.Writing
import Promptuary.Proofs.Template.Stored

/-!
A repository mirrors a store: it has a document for every live record and for every history, and
each says what the store has. If the repository gives back what is stored in it, every change of the
store keeps that so, also when the medium refuses to write.
-/

namespace Promptuary

open Operation
open Storage (Plain Repository Returns Space)

/-! ### What documents say -/

/-- A label with the text and declarations under it, as they come back from a document. -/
structure Wording where
  label : String
  body : String
  declarations : List Variable

/-- The wording of a record. -/
def Template.wording (t : Template) : Wording :=
  ⟨t.version, t.body, t.declarations.map Variable.restored⟩

/-- The wording of a version. -/
def Version.wording (v : Version) : Wording :=
  ⟨v.label, v.body, v.declarations.map Variable.restored⟩

theorem Variable.map_restored_restored (declared : List Variable) :
    (declared.map restored).map restored = declared.map restored := by
  rw [List.map_map]
  exact List.map_congr_left fun x _ => x.restored_restored

theorem Template.wording_restored (t : Template) : t.restored.wording = t.wording :=
  congrArg (Wording.mk t.version t.body) (Variable.map_restored_restored t.declarations)

theorem Version.wording_restored (v : Version) : v.restored.wording = v.wording :=
  congrArg (Wording.mk v.label v.body) (Variable.map_restored_restored v.declarations)

/-- A record whose times are readings of an ordinary clock. -/
structure Template.Timely (t : Template) : Prop where
  created : t.createdAt.Ordinary
  updated : t.updatedAt.Ordinary

/-- A history whose times are readings of an ordinary clock. -/
def History.Timely (h : History) : Prop := ∀ v ∈ h, v.createdAt.Ordinary

/-- The document of a history. -/
def History.toDatum (h : History) : Datum := .list (h.map (·.toDatum .stored))

theorem History.eq_toDatum_of_document {h : History} {document : Datum}
    (written : Store.historyDocument h = .ok document) : document = h.toDatum :=
  documentOfAll_eq_ok (fun _ _ => documentOf_eq_ok) written

/-- A document says what a record says: it is that of a record with the same identifier and
wording. -/
def Describes (document : Datum) (t : Template) : Prop :=
  ∃ written : Template, document = written.toDatum .stored ∧ written.id = t.id ∧
    written.wording = t.wording ∧ written.Timely

/-- A document says what a history says: it is that of versions with the same wordings. -/
def DescribesAll (document : Datum) (h : History) : Prop :=
  ∃ written : History, document = written.toDatum ∧ written ≠ [] ∧
    written.map Version.wording = h.map Version.wording ∧ written.Timely

/-- What documents have to say of records and histories is said by those that are written of
them. -/
structure TellsWritten (tells : Datum → Template → Prop) (tellsAll : Datum → History → Prop) :
    Prop where
  record : ∀ {t : Template}, t.Timely → tells (t.toDatum .stored) t
  history : ∀ {h : History}, h ≠ [] → h.Timely → tellsAll h.toDatum h

theorem tellsWritten_describes : TellsWritten Describes DescribesAll where
  record timely := ⟨_, rfl, rfl, rfl, timely⟩
  history nonempty timely := ⟨_, rfl, nonempty, rfl, timely⟩

namespace Store

/-- All documents of a store are fit for something. -/
structure Fits (fit : Datum → Prop) (s : Store) : Prop where
  records : ∀ {id t}, s.live.get? id = some t → fit (t.toDatum .stored)
  histories : ∀ {id h}, s.histories.get? id = some h → fit h.toDatum

/-! ### A repository that mirrors the store -/

/-- A repository holds a map that has a document for every live record and every history, and
nothing else, and each says what it has to say; all times are those of an ordinary clock. -/
structure Mirrored (holds : Plain → Repository → Prop) (tells : Datum → Template → Prop)
    (tellsAll : Datum → History → Prop) (m : Plain) (d : Desk Store) : Prop where
  repository : holds m d.shared.repository
  records : ∀ id, Option.Rel tells (m (.templates, id)) (d.own.live.get? id)
  histories : ∀ id, Option.Rel tellsAll (m (.versions, id)) (d.own.histories.get? id)
  timely : ∀ {id t}, d.own.live.get? id = some t → t.Timely
  allTimely : ∀ id, (d.own.history id).Timely
  clock : ∀ time ∈ d.shared.clock.readings, time.Ordinary

section

variable {holds : Plain → Repository → Prop} {fit : Datum → Prop}
  {tells : Datum → Template → Prop} {tellsAll : Datum → History → Prop} {m : Plain}
  {c : Change} {d d' : Desk Store} {t : Template} {id : String}

/-- A repository that has nothing mirrors a store that has nothing. -/
theorem Fresh.mirrored (fresh : Fresh d) (repository : holds .empty d.shared.repository)
    (clock : ∀ time ∈ d.shared.clock.readings, time.Ordinary) :
    Mirrored holds tells tellsAll .empty d where
  repository := repository
  records id := by
    rw [fresh.live]
    exact .none
  histories id := by
    rw [fresh.histories]
    exact .none
  timely live := by
    rw [fresh.live] at live
    cases live
  allTimely id := by
    rw [history, fresh.histories]
    exact fun _ mem => absurd mem List.not_mem_nil
  clock := clock

theorem Mirrored.leads {notices : List Notice} (mirrored : Mirrored holds tells tellsAll m d)
    (leads : d.Leads d' d.own d.shared.repository notices) :
    Mirrored holds tells tellsAll m d' := by
  obtain ⟨repository, records, histories, timely, allTimely, clock⟩ := mirrored
  rw [← leads.repository] at repository
  rw [← leads.own] at records histories timely allTimely
  exact ⟨repository, records, histories, timely, allTimely,
    fun time mem => clock time (leads.clock.subset mem)⟩

/-- Records that are stored have times of the clock or of the live record before. -/
theorem Mirrored.stores (mirrored : Mirrored holds tells tellsAll m d) (stores : c.Stores d t) :
    t.Timely := by
  have current := mirrored.clock _ d.shared.clock.current_mem
  cases stores with
  | drafted drafts =>
    cases drafts with
    | create => exact ⟨current, current⟩
    | createFromData => exact ⟨current, current⟩
    | update revision =>
      refine ⟨?_, ?_⟩
      · rw [revision.kept.2]
        exact (mirrored.timely revision.live).created
      · rw [revision.set.2]
        exact current
  | deleted live same =>
    rw [same]
    exact ⟨(mirrored.timely live).created, current⟩

theorem Mirrored.save {r : Repository} (returns : Returns holds fit)
    (written : TellsWritten tells tellsAll) (mirrored : Mirrored holds tells tellsAll m d)
    (timely : t.Timely) (fits : fit (t.toDatum .stored)) (saved : Saved t r d d') :
    Mirrored holds tells tellsAll (m.put .templates t.id (some (t.toDatum .stored))) d' where
  repository := by
    obtain ⟨document, ok, stored⟩ := saved.stored
    obtain rfl := documentOf_eq_ok ok
    rw [saved.leads.repository]
    exact returns.set mirrored.repository fits stored
  records id := by
    rw [saved.leads.own, live_putLive, Plain.put_apply]
    by_cases same : t.id = id
    · simpa [same] using Option.Rel.some (written.record timely)
    · simpa [same, Ne.symm same] using mirrored.records id
  histories id := by
    rw [saved.leads.own, Plain.put_apply]
    exact mirrored.histories id
  timely live := by
    rw [saved.leads.own, live_putLive] at live
    split at live
    · cases live
      exact timely
    · exact mirrored.timely live
  allTimely id := by
    rw [saved.leads.own, history_putLive]
    exact mirrored.allTimely id
  clock time mem := mirrored.clock time (saved.leads.clock.subset mem)

theorem Mirrored.keep {label changelog : String} {trimmed : History.Trimmed} {r : Repository}
    (returns : Returns holds fit) (written : TellsWritten tells tellsAll)
    (mirrored : Mirrored holds tells tellsAll m d) (positive : 1 ≤ d.own.bound)
    (fits : fit (History.toDatum trimmed.kept))
    (versioned : Versioned (snapshot t label changelog d.shared.clock.current) trimmed r d d') :
    Mirrored holds tells tellsAll
      (m.put .versions t.id (some (History.toDatum trimmed.kept))) d' := by
  have own : d'.own = d.own.putHistory t.id trimmed.kept := versioned.leads.own
  have timely : History.Timely trimmed.kept := by
    intro v mem
    rcases mem_of_kept versioned.added mem with old | rfl
    · exact mirrored.allTimely _ v old
    · exact mirrored.clock _ d.shared.clock.current_mem
  refine ⟨?_, fun id => ?_, fun id => ?_, ?_, fun id => ?_,
    fun time mem => mirrored.clock time (versioned.leads.clock.subset mem)⟩
  · obtain ⟨document, ok, stored⟩ := versioned.stored
    obtain rfl := History.eq_toDatum_of_document ok
    rw [versioned.leads.repository]
    exact returns.set mirrored.repository fits stored
  · rw [own, Plain.put_apply]
    exact mirrored.records id
  · have look : d'.own.histories.get? id =
        if t.id = id then some trimmed.kept else d.own.histories.get? id := by
      rw [own, putHistory, Entries.get?_put]
      simp
    rw [look, Plain.put_apply]
    by_cases same : t.id = id
    · have nonempty := History.kept_ne_nil positive versioned.added
      simpa [same] using Option.Rel.some (written.history nonempty timely)
    · simpa [same, Ne.symm same] using mirrored.histories id
  · rw [own]
    exact mirrored.timely
  · rw [own, history_putHistory]
    split
    · exact timely
    · exact mirrored.allTimely id

/-- Every change keeps the mirror, whether it succeeds or not, if what it leaves behind is fit for
the repository. -/
theorem Mirrored.change (returns : Returns holds fit) (written : TellsWritten tells tellsAll)
    (mirrored : Mirrored holds tells tellsAll m d) (positive : 1 ≤ d.own.bound) (c : Change)
    (fits : (c.run.on d).2.own.Fits fit) :
    ∃ m', Mirrored holds tells tellsAll m' (c.run.on d).2 := by
  obtain ⟨d₁, d₂, notices, records, versions, leads⟩ := c.writes d
  rw [leads.own] at fits
  -- A change stores one record at most, so the record is still live when the change has ended.
  obtain ⟨m₁, first, bound⟩ : ∃ m₁, Mirrored holds tells tellsAll m₁ d₁ ∧
      d₁.own.bound = d.own.bound := by
    cases records with
    | nothing passes => exact ⟨m, mirrored.leads passes, by rw [passes.own]⟩
    | @record t r stores saved =>
      have live := (congrArg (Entries.get? · t.id) versions.live).trans saved.live
      exact ⟨_, mirrored.save returns written (mirrored.stores stores) (fits.records live) saved,
        by rw [saved.leads.own]; rfl⟩
  obtain ⟨m₂, second⟩ : ∃ m₂, Mirrored holds tells tellsAll m₂ d₂ := by
    cases versions with
    | nothing passes => exact ⟨m₁, first.leads passes⟩
    | @version id label changelog t trimmed r live versioned =>
      have kept : d₂.own.histories.get? t.id = some trimmed.kept := by
        rw [versioned.leads.own]
        exact Entries.get?_put_self ..
      exact ⟨_, first.keep returns written (bound ▸ positive) (fits.histories kept) versioned⟩
  exact ⟨m₂, second.leads leads⟩

/-- A medium that refuses to write, but answers, can still be read. -/
theorem Mirrored.disturb (returns : Returns holds fit) (mirrored : Mirrored holds tells tellsAll m d)
    (writes : Space → Bool) {silent : Bool}
    (answers : disturbed writes silent d.shared.repository =
      disturbed writes false d.shared.repository) :
    Mirrored holds tells tellsAll m (Turn.after (.disturb writes silent) d) := by
  refine ⟨?_, mirrored.records, mirrored.histories, mirrored.timely, mirrored.allTimely,
    mirrored.clock⟩
  change holds m (disturbed writes silent d.shared.repository)
  rw [answers]
  exact returns.refuse writes mirrored.repository

end

end Store

end Promptuary
