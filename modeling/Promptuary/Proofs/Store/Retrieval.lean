import Promptuary.Proofs.Distinct
import Promptuary.Proofs.Outcome
import Promptuary.Proofs.Store.Labels

/-!
Whether a version that was just stored can be retrieved. A history over its bound keeps the versions
that are latest by their times, so after the clock has gone back the new one can be among those that
are dropped for it. Main statement: it is retrievable just if fewer versions than the bound are
later than it (`stored_version_is_retrievable`).
-/

namespace Promptuary

open Operation (identifier issue_passes on_bind_ok on_bind_cases)
open Storage (Repository)

namespace Store

variable {c : Change} {d d₁ d' : Desk Store} {t : Template} {v : Version} {id : String}

/-! ### Versions that are there and versions that are not -/

/-- A version is in its history, and looking its template up by its label gives its text and its
declarations. -/
structure Retrievable (v : Version) (s : Store) : Prop where
  listed : v ∈ s.history v.templateId
  found : ∃ t, s.find? v.templateId (some v.label) = some t ∧ t.body = v.body ∧
    t.declarations = v.declarations

/-- The history of a version's template has not got its label, and looking the template up by it
finds nothing. -/
structure Gone (v : Version) (s : Store) : Prop where
  unlisted : v.label ∉ (s.history v.templateId).labels
  missing : s.find? v.templateId (some v.label) = none

/-- A version of a live template was added to its history, at a moment of the clock. -/
structure Archived (v : Version) (d d' : Desk Store) : Prop where
  live : ∃ t, d'.own.live.get? v.templateId = some t
  free : v.label ∉ (d.own.history v.templateId).labels
  added : ∃ trimmed, (d.own.history v.templateId).add d.own.bound v = .ok trimmed ∧
    d'.own.history v.templateId = trimmed.kept
  reading : v.createdAt ∈ d.shared.clock.readings

/-- The versions that were in the history before and are later than a version that was added. -/
def laterThan (v : Version) (s : Store) : History :=
  History.later v.createdAt (s.history v.templateId)

theorem Archived.retrievable (archived : Archived v d d')
    (distinct : (d.own.history v.templateId).labels.Nodup)
    (few : (laterThan v d.own).length < d.own.bound) : Retrievable v d'.own := by
  obtain ⟨trimmed, added, kept⟩ := archived.added
  obtain ⟨t, live⟩ := archived.live
  have mem : v ∈ trimmed.kept := (History.mem_kept_iff distinct archived.free added).2 few
  have first := Distinct.find?_of_nodup (nodup_kept distinct archived.free added) mem
  refine ⟨kept ▸ mem, overlay t v, ?_, rfl, rfl⟩
  unfold find?
  rw [live, kept]
  exact congrArg (Option.map (overlay t)) first

theorem Archived.gone (archived : Archived v d d')
    (distinct : (d.own.history v.templateId).labels.Nodup)
    (many : d.own.bound ≤ (laterThan v d.own).length) : Gone v d'.own := by
  obtain ⟨trimmed, added, kept⟩ := archived.added
  obtain ⟨t, live⟩ := archived.live
  have out : v ∉ trimmed.kept := fun mem =>
    Nat.not_lt.2 many ((History.mem_kept_iff distinct archived.free added).1 mem)
  have unlisted : v.label ∉ History.labels trimmed.kept := by
    intro listed
    obtain ⟨w, mem, same⟩ := List.mem_map.1 listed
    rcases mem_of_kept added mem with old | rfl
    · exact archived.free (List.mem_map.2 ⟨w, old, same⟩)
    · exact out mem
  refine ⟨kept ▸ unlisted, ?_⟩
  have none : History.find? trimmed.kept v.label = none := by
    refine List.find?_eq_none.2 fun w mem same => ?_
    exact unlisted (List.mem_map.2 ⟨w, mem, by simpa using same⟩)
  unfold find?
  rw [live, kept]
  exact congrArg (Option.map (overlay t)) none

/-! ### Changes that store a version -/

/-- A record that was stored with a version of it, after some time passed. -/
theorem Committed.archived {text : String} {notice : Notice} {t' : Template}
    (passes : d.Passes d₁) (versioning : d.own.versioning = true)
    (committed : Committed t text notice d₁ (.ok t') d') :
    t' = t ∧ ∃ time, Archived (snapshotOfChange t text time) d d' := by
  cases committed with
  | @whole r d₂ d₃ _ saved followed leads =>
    have own : d₂.own = d.own.putLive t := by rw [saved.leads.own, passes.own]
    refine ⟨rfl, d₂.shared.clock.current, ?_⟩
    rcases followed with ⟨off, -⟩ | ⟨-, trimmed, r', versioned⟩
    · rw [own] at off
      cases versioning.symm.trans off
    · have final : d'.own = d₂.own.putHistory t.id trimmed.kept :=
        leads.own.trans versioned.leads.own
      have free := versioned.free
      have added := versioned.added
      rw [own, history_putLive] at free added
      refine ⟨⟨t, ?_⟩, free, ⟨trimmed, added, ?_⟩, ?_⟩
      · rw [final]
        exact saved.live
      · rw [final, history_putHistory]
        exact if_pos rfl
      · exact (saved.leads.clock.trans passes.clock).subset d₂.shared.clock.current_mem

/-- The version that a change stored, by what the change gives back: the version itself, or the
template that the version was made of at some moment. -/
inductive Change.Stored (d d' : Desk Store) : Change → Version → Prop where
  | create {definition : Definition} {t : Template} {time : Calendar.Moment} :
      (Store.create definition).on d = (.ok t, d') →
      Stored d d' (.create definition) (snapshotOfChange t "Initial version" time)
  | createFromData {data : Datum} {t : Template} {time : Calendar.Moment} :
      (Store.createFromData data).on d = (.ok t, d') →
      Stored d d' (.createFromData data) (snapshotOfChange t "Initial version" time)
  | update {id : String} {updates : Fields} {changelog : Option String} {t : Template}
      {text : String} {time : Calendar.Moment} :
      (Store.update id updates changelog).on d = (.ok t, d') →
      Stored d d' (.update id updates changelog) (snapshotOfChange t text time)
  | createVersion {id label changelog : String} {v : Version} :
      (Store.createVersion id label changelog).on d = (.ok v, d') →
      Stored d d' (.createVersion id label changelog) v

theorem archived_createFrom {definition : Definition} (passes : d.Passes d₁)
    (versioning : d.own.versioning = true)
    (ran : (createFrom id definition).on d₁ = (.ok t, d')) :
    t.id = id ∧ ∃ time, Archived (snapshotOfChange t "Initial version" time) d d' := by
  rcases createFrom_cases ran with ⟨e, failed, -⟩ | ⟨d₂, drawn, committed⟩
  · cases failed
  · obtain ⟨rfl, time, archived⟩ :=
      committed.archived (passes.trans drawn.passes) versioning
    exact ⟨rfl, time, archived⟩

/-- A version of a live template that was added to its history. -/
theorem archived_addVersion {label changelog : String} {v : Version}
    (live : d.own.live.get? t.id = some t)
    (ran : (addVersion t label changelog).on d = (.ok v, d')) :
    v.templateId = t.id ∧ Archived v d d' := by
  rcases addVersion_cases t label changelog d with
    ⟨e, d₁, failed, -⟩ | ⟨trimmed, r, d₁, succeeded, versioned⟩
  · cases failed.symm.trans ran
  · cases succeeded.symm.trans ran
    have own := versioned.leads.own
    refine ⟨rfl, ⟨t, ?_⟩, versioned.free, ⟨trimmed, versioned.added, ?_⟩,
      d.shared.clock.current_mem⟩
    · rw [own]
      exact live
    · rw [own, history_putHistory]
      exact if_pos rfl

/-- A successful change that is no deletion stores a version, and a template that it creates has no
other one before. -/
theorem Change.archived (sound : Sound d) (versioning : d.own.versioning = true)
    (stores : ∀ id, c ≠ .delete id) (ran : c.run.on d = (.ok (), d')) :
    ∃ v, c.Stored d d' v ∧ Archived v d d' ∧
      (d.own.live.get? v.templateId = none → d.own.history v.templateId = []) := by
  obtain ⟨d₁, issued, passes, -⟩ := issue_passes d
  have unused := history_eq_nil (sound.unused (Nat.lt_succ_self d.shared.issued)).2
  cases c with
  | create definition =>
    obtain ⟨t, created⟩ := exists_of_discard ran
    have issuing := created
    rw [Store.create, on_bind_ok issued] at issuing
    obtain ⟨id, time, archived⟩ := archived_createFrom passes versioning (of_report issuing)
    exact ⟨_, .create created, archived, fun _ => (congrArg d.own.history id).trans unused⟩
  | createFromData data =>
    obtain ⟨t, created⟩ := exists_of_discard ran
    have issuing := created
    rw [Store.createFromData, on_bind_ok issued] at issuing
    rcases on_bind_cases (of_report issuing) with ⟨e, -, failed⟩ | ⟨definition, d₂, read, rest⟩
    · cases failed
    · obtain ⟨rfl, -⟩ := readAs_spec read
      obtain ⟨id, time, archived⟩ := archived_createFrom passes versioning rest
      exact ⟨_, .createFromData created, archived,
        fun _ => (congrArg d.own.history id).trans unused⟩
  | update id updates changelog =>
    obtain ⟨t, updated⟩ := exists_of_discard ran
    rcases revise_cases (of_report updated) with
      ⟨e, failed, -⟩ | ⟨old, t', label, text, d₂, revision, drawn, committed⟩
    · cases failed
    · obtain ⟨rfl, time, archived⟩ := committed.archived drawn.passes versioning
      have key : t.id = id := revision.kept.1.trans (sound.keyed revision.live)
      refine ⟨_, .update updated, archived, fun none => ?_⟩
      cases ((congrArg d.own.live.get? key).trans revision.live).symm.trans none
  | delete id => exact absurd rfl (stores id)
  | createVersion id label changelog =>
    obtain ⟨v, made⟩ := exists_of_discard ran
    rcases on_bind_cases (of_report made) with ⟨e, -, failed⟩ | ⟨t, d₂, found, rest⟩
    · cases failed
    · obtain ⟨rfl, live⟩ := require_spec found
      have live := (live t).1 rfl
      have key : t.id = id := sound.keyed live
      obtain ⟨same, archived⟩ :=
        archived_addVersion ((congrArg d.own.live.get? key).trans live) rest
      refine ⟨_, .createVersion made, archived, fun none => ?_⟩
      cases ((congrArg d.own.live.get? (same.trans key)).trans live).symm.trans none

/-! ### Runs -/

/-- In every state that a run can reach, a change that makes versions and succeeds has stored one,
and that one is retrievable just if fewer versions than the bound are later than it; otherwise its
label is not there. So the first version of a template is retrievable, and every one is while the
clock does not go back. -/
theorem stored_version_is_retrievable {turns : List Turn} {start : Desk Store}
    (fresh : Fresh start) (recoverable : Recoverable turns start)
    (versioning : (run turns start).own.versioning = true) (stores : ∀ id, c ≠ .delete id)
    (ran : c.run.on (run turns start) = (.ok (), d')) :
    let d := run turns start
    ∃ v, c.Stored d d' v ∧ v.createdAt ∈ d.shared.clock.readings ∧
      ((laterThan v d.own).length < d.own.bound → Retrievable v d'.own) ∧
      (d.own.bound ≤ (laterThan v d.own).length → Gone v d'.own) ∧
      (d.own.live.get? v.templateId = none → Retrievable v d'.own) ∧
      ((∀ turn ∈ turns, turn.isReload = false) → goesForward start.shared.clock →
        Retrievable v d'.own) := by
  intro d
  have sound : Sound d := run_sound fresh recoverable
  obtain ⟨v, stored, archived, first⟩ := Change.archived sound versioning stores ran
  have distinct := (sound.agrees v.templateId).distinct
  have none (nil : laterThan v d.own = []) : Retrievable v d'.own :=
    archived.retrievable distinct (by rw [nil]; exact sound.positive)
  refine ⟨v, stored, archived.reading, archived.retrievable distinct, archived.gone distinct,
    fun new => none ?_, fun changes forward => none ?_⟩
  · rw [laterThan, first new]
    rfl
  · have times := (run_inOrder fresh changes forward v.templateId).times
    obtain ⟨-, -, across⟩ := List.pairwise_append.1 times
    refine List.filter_eq_nil_iff.2 fun w mem => ?_
    have le := across w.createdAt (List.mem_map_of_mem mem) v.createdAt archived.reading
    simpa [Calendar.Moment.isBefore] using le

/-- A version of a live template is stored unless it is hindered. -/
theorem createVersion_ok {label changelog : String} (live : d.own.live.get? id = some t)
    (free : ∀ e, ¬ Hindered (d.own.history t.id) d.own.bound d.shared.repository
      (snapshot t label changelog d.shared.clock.current) e) :
    ∃ d', (Store.createVersion id label changelog).on d =
      (.ok (snapshot t label changelog d.shared.clock.current), d') := by
  have required : (require id).on d = (.ok t, d) := by
    unfold require
    rw [on_bind_ok (Operation.on_own d), live]
    rfl
  rcases addVersion_cases t label changelog d with
    ⟨e, -, -, hindered, -⟩ | ⟨trimmed, r, d', ran, -⟩
  · exact absurd hindered (free e)
  · have both := (on_bind_ok required fun t => addVersion t label changelog).trans ran
    refine ⟨d', ?_⟩
    rw [Store.createVersion, Operation.on_onFailure, both]

/-- There is room to copy a history of versions without declarations. -/
theorem copyCalls_le_of_bare {h : History} (bare : ∀ v ∈ h, v.declarations = []) :
    h.toDatum.copyCalls ≤ Datum.callLimit := by
  have each : ∀ document ∈ h.map (·.toDatum .stored), document.copyCalls ≤ 4 := by
    intro document mem
    obtain ⟨v, mem', rfl⟩ := List.mem_map.1 mem
    have author : (Schema.orNull Datum.text v.createdBy).copyCalls = 0 := by
      cases v.createdBy <;> rfl
    have moment : (Schema.Form.stored.moment v.createdAt).copyCalls = 0 := rfl
    simp [Version.toDatum, variablesDatum, bare v mem', Datum.copyCalls, Datum.copyCallsOfFields,
      Datum.copyCallsOfItems, author, moment]
  have whole := Datum.copyCallsOfItems_le each
  rw [History.toDatum, Datum.copyCalls]
  exact Nat.le_trans (Nat.add_le_add_right whole 2) (by decide)

/-- Whether a repository is one in memory that does not refuse to write histories. -/
def keepsHistories : Repository → Bool
  | .memory m => !m.refuses .set .versions
  | _ => false

/-- What can hinder a version of a template without declarations there: that its label is taken, or
that its time does not compare with those of the history. -/
theorem not_hindered {h : History} {bound : Nat} {r : Repository} {e : Failure}
    (free : v.label ∉ h.labels)
    (comparable : Calendar.Moment.agree ((h ++ [v]).map Version.createdAt) = true)
    (bare : ∀ w ∈ h ++ [v], w.declarations = []) (keeps : keepsHistories r = true) :
    ¬ Hindered h bound r v e := by
  intro hindered
  have keptBare {trimmed : History.Trimmed} (added : h.add bound v = .ok trimmed) :
      ∀ w ∈ trimmed.kept, w.declarations = [] := fun w mem =>
    bare w ((History.trim_perm added).subset (List.mem_append_right _ mem))
  cases hindered with
  | taken taken => exact free taken
  | unordered failed =>
    obtain ⟨trimmed, added⟩ := History.exists_trim bound comparable
    cases added.symm.trans failed
  | unwritable added failed =>
    obtain ⟨documents, written⟩ := Outcome.mapM_ok (f := Version.document) fun w mem => by
      unfold Version.document
      rw [keptBare added w mem]
      exact ⟨_, rfl⟩
    rw [historyDocument, documentOfAll, written] at failed
    cases failed
  | refused added written refused =>
    obtain rfl := History.eq_toDatum_of_document written
    cases r with
    | memory m =>
      have allowed : m.refuses .set .versions = false := by simpa [keepsHistories] using keeps
      rw [Repository.set, Storage.Memory.set, Storage.Memory.allow_eq_ok allowed, Outcome.ok_bind,
        Storage.Memory.copy_eq_ok (copyCalls_le_of_bare (keptBare added))] at refused
      cases refused
    | folder => cases keeps
    | redis => cases keeps

/-- A desk whose histories have room for one version, and whose clock goes back after it was read
for creating a template. -/
def turnedBackDesk : Desk Store where
  own := { options := {}, versioning := true, bound := 1 }
  shared :=
    { repository := .memory .empty, clock := ⟨List.replicate 4 ⟨1, none⟩, ⟨0, none⟩⟩ }

/-- The version that is pinned there after creating a template is gone at once. -/
theorem stored_version_is_retrievable_turnedBackDesk :
    let d := run [.change (.create greeting)] turnedBackDesk
    ∃ v d', (Store.createVersion "tpl-1" "pinned" "").on d = (.ok v, d') ∧ Gone v d'.own := by
  intro d
  have fresh : Fresh turnedBackDesk := ⟨rfl, rfl, rfl, by decide⟩
  obtain ⟨t, live⟩ : ∃ t, d.own.live.get? "tpl-1" = some t :=
    Option.isSome_iff_exists.1 (by decide +kernel)
  have record : (d.own.live.get? "tpl-1").all
      (fun t => t.id = "tpl-1" && t.declarations.isEmpty) = true := by
    decide +kernel
  have versions : (d.own.history "tpl-1").all
      (fun w => w.label ≠ "pinned" && w.declarations.isEmpty) = true := by
    decide +kernel
  have times : Calendar.Moment.agree
      ((d.own.history "tpl-1").map Version.createdAt ++ [d.shared.clock.current]) = true := by
    decide +kernel
  have keeps : keepsHistories d.shared.repository = true := by decide +kernel
  have readings : d.shared.clock.readings = [⟨0, none⟩] := by decide +kernel
  have crowded : d.own.bound ≤ (History.later ⟨0, none⟩ (d.own.history "tpl-1")).length := by
    decide +kernel
  have versioning : d.own.versioning = true := by decide +kernel
  rw [live, Option.all_some, Bool.and_eq_true, decide_eq_true_eq] at record
  obtain ⟨key, bare⟩ := record
  simp only [List.all_eq_true, Bool.and_eq_true, decide_eq_true_eq] at versions
  have free (e : Failure) : ¬ Hindered (d.own.history t.id) d.own.bound d.shared.repository
      (snapshot t "pinned" "" d.shared.clock.current) e := by
    rw [key]
    refine not_hindered ?_ ?_ ?_ keeps
    · intro mem
      obtain ⟨w, mem, same⟩ := List.mem_map.1 mem
      exact (versions w mem).1 same
    · rw [List.map_append]
      exact times
    · intro w mem
      rcases List.mem_append.1 mem with old | new
      · exact List.isEmpty_iff.1 (versions w old).2
      · rw [List.mem_singleton.1 new]
        exact List.isEmpty_iff.1 bare
  obtain ⟨d', made⟩ := createVersion_ok live free
  have ran : (Change.createVersion "tpl-1" "pinned" "").run.on d = (.ok (), d') := by
    rw [Change.run, on_discard, made]
    rfl
  obtain ⟨v, stored, reading, -, gone, -⟩ := stored_version_is_retrievable fresh
    (.inl (by simp [Turn.isReload])) versioning (fun _ => Change.noConfusion) ran
  cases stored with
  | createVersion made' =>
    refine ⟨v, d', made', gone ?_⟩
    have time : v.createdAt = ⟨0, none⟩ := List.mem_singleton.1 (readings ▸ reading)
    obtain rfl : _ = v := Except.ok.inj (congrArg Prod.fst (made.symm.trans made'))
    rw [laterThan, time]
    exact (congrArg (fun id => d.own.bound ≤ (History.later ⟨0, none⟩ (d.own.history id)).length)
      key).mpr crowded

end Store

end Promptuary
