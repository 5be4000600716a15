import Promptuary.Proofs.Storage.Refinement
import Promptuary.Proofs.Store.Loading
import Promptuary.Proofs.Store.Numbering
import Promptuary.Proofs.Store.Revision
import Promptuary.Proofs.Template.Plain

/-!
Updates as patches. What an update draws up from a live record is that record with the fields that
the update names read anew, under the next free label and at the moment of the clock; all other
fields stay. The live record goes through the form for merging on the way, which gives it back as it
was, if the data of the callers' own in it are JSON.

Main statement: in every state that a run can reach, over any repository, an update that succeeds
stores such a record, one whose record would be faulty leaves everything as it was, names that a
record does not have make no difference, and no other template is touched
(`update_patches_record`).
-/

namespace Promptuary

open Operation

/-! ### What an update leaves alone -/

section

open Storage (Repository)

namespace Store

variable {d d₁ d₂ d' : Desk Store} {id other text : String} {t : Template} {notice : Notice}
  {result : Except Failure Template}

/-- The live record, the history and the documents of a template are as they were. -/
structure Untouched (id : String) (d d' : Desk Store) : Prop where
  live : d'.own.live.get? id = d.own.live.get? id
  history : d'.own.history id = d.own.history id
  documents : ∀ space, d'.shared.repository.get space id = d.shared.repository.get space id

theorem Untouched.trans (first : Untouched id d d₁) (second : Untouched id d₁ d') :
    Untouched id d d' where
  live := second.live.trans first.live
  history := second.history.trans first.history
  documents space := (second.documents space).trans (first.documents space)

/-- Where the state and the repository are as they were, no template was touched. -/
theorem untouched_of_leads {notices : List Notice}
    (leads : d.Leads d' d.own d.shared.repository notices) (id : String) : Untouched id d d' where
  live := by rw [leads.own]
  history := by rw [leads.own]
  documents space := by rw [leads.repository]

theorem Saved.untouched {r : Repository} (saved : Saved t r d d') (ne : other ≠ t.id) :
    Untouched other d d' where
  live := by
    rw [saved.leads.own, live_putLive, if_neg ne.symm]
  history := by
    rw [saved.leads.own, history_putLive]
  documents space := by
    obtain ⟨document, -, stored⟩ := saved.stored
    rw [saved.leads.repository]
    exact Repository.get_of_set stored fun same => ne (congrArg Prod.snd same)

theorem Versioned.untouched {v : Version} {trimmed : History.Trimmed} {r : Repository}
    (versioned : Versioned v trimmed r d d') (ne : other ≠ v.templateId) :
    Untouched other d d' where
  live := by
    rw [versioned.leads.own]
    rfl
  history := by
    rw [versioned.leads.own, history_putHistory, if_neg ne.symm]
  documents space := by
    obtain ⟨document, -, stored⟩ := versioned.stored
    rw [versioned.leads.repository]
    exact Repository.get_of_set stored fun same => ne (congrArg Prod.snd same)

/-- Storing a record with its version touches no other template, whichever of the two fails. -/
theorem Committed.untouched (committed : Committed t text notice d result d') (ne : other ≠ t.id) :
    Untouched other d d' := by
  cases committed with
  | unsaved _ passes => exact untouched_of_leads passes other
  | halfway saved _ _ passes => exact (saved.untouched ne).trans (untouched_of_leads passes other)
  | whole saved followed leads =>
    refine (saved.untouched ne).trans ?_
    rcases followed with ⟨-, rfl⟩ | ⟨-, trimmed, r, versioned⟩
    · exact untouched_of_leads leads other
    · exact (versioned.untouched ne).trans (untouched_of_leads leads other)

/-- An update of a record that stands under its identifier touches no other template. -/
theorem update_untouched {updates : Fields} {changelog : Option String}
    (keyed : ∀ t, d.own.live.get? id = some t → t.id = id)
    (ran : (update id updates changelog).on d = (result, d')) (ne : other ≠ id) :
    Untouched other d d' := by
  rcases update_cases ran with
    ⟨e, notices, -, leads, -⟩ |
      ⟨old, t, label, text, d₁, d₂, notices, revision, drawn, committed, leads⟩
  · exact untouched_of_leads leads other
  · have key : t.id = id := revision.kept.1.trans (keyed old revision.live)
    have stored := committed.untouched (key ▸ ne)
    exact (untouched_of_leads drawn.passes other).trans
      (stored.trans (untouched_of_leads leads other))

end Store

end

open Schema (Shape text list nullable truth mapping anything texts)

/-! ### Patches -/

/-- What a field becomes: what a shape reads from an object that has the field, and what the field
was before otherwise. -/
def Schema.Becomes {α : Type} (updates : Fields) (name : String) (shape : Shape α)
    (before after : α) : Prop :=
  match (Entries.ofPairs updates).get? name with
  | some d => shape d = .valid after
  | none => after = before

open Schema (Becomes)

/-- The names of the fields that an update can change. -/
def Template.patchable : List String :=
  ["name", "description", "category", "template", "variables", "is_active", "created_by", "tags",
    "metadata"]

/-- A record is an old one with the fields of an update in it, updated at a moment. Its label is
left open. -/
structure Template.PatchOf (t old : Template) (updates : Fields) (time : Calendar.Moment) :
    Prop where
  id : t.id = old.id
  createdAt : t.createdAt = old.createdAt
  updatedAt : t.updatedAt = time
  name : Becomes updates "name" text old.name t.name
  description : Becomes updates "description" text old.description t.description
  category : Becomes updates "category" text old.category t.category
  body : Becomes updates "template" text old.body t.body
  declarations : Becomes updates "variables" (list Variable.shape) old.declarations t.declarations
  isActive : Becomes updates "is_active" truth old.isActive t.isActive
  createdBy : Becomes updates "created_by" (nullable text) old.createdBy t.createdBy
  tags : Becomes updates "tags" tagsShape old.tags t.tags
  metadata : Becomes updates "metadata" (mapping anything) old.metadata t.metadata

/-- Objects whose fields agree are read as the same record. -/
theorem Template.shape_congr {id : String} {now : Calendar.Moment} {fields fields' : Fields}
    (same : ∀ name ∈ Store.protectedFields ++ patchable, fields'.get? name = fields.get? name) :
    Template.shape id now (.object fields') = Template.shape id now (.object fields) := by
  have all := same
  simp only [Store.protectedFields, patchable, List.cons_append, List.nil_append,
    List.forall_mem_cons] at all
  unfold Template.shape Schema.record Schema.field Schema.fieldOr
  simp only [all]

namespace Store

section

variable {α : Type} {shape : Shape α} {default before after : α} {name label id : String}
  {updates updates' : Fields} {time now : Calendar.Moment} {old t : Template} {x : Datum}

/-! ### Reading what was merged -/

/-- A merged field is read as what it becomes, if it is read from the old record as it was. -/
theorem exists_merged (free : name ∉ protectedFields)
    (own : Entries.get? (old.fields .merged) name = some x) (reads : shape x = .valid before) :
    ∃ d, (merge old label time updates).get? name = some d ∧
      (shape d = .valid after ↔ Becomes updates name shape before after) := by
  rw [get?_merge_free free, own]
  unfold Becomes
  cases (Entries.ofPairs updates).get? name with
  | some d => exact ⟨d, rfl, Iff.rfl⟩
  | none =>
    refine ⟨x, rfl, ?_⟩
    rw [reads, Schema.Checked.valid.injEq, eq_comm]

theorem field_merge (own : Entries.get? (old.fields .merged) name = some x)
    (reads : shape x = .valid before) (free : name ∉ protectedFields) :
    Schema.field name shape (merge old label time updates) = .valid after ↔
      Becomes updates name shape before after := by
  obtain ⟨d, present, becomes⟩ := exists_merged free own reads
  exact (Schema.field_eq_valid present).trans becomes

theorem fieldOr_merge (own : Entries.get? (old.fields .merged) name = some x)
    (reads : shape x = .valid before) (free : name ∉ protectedFields) :
    Schema.fieldOr name shape default (merge old label time updates) = .valid after ↔
      Becomes updates name shape before after := by
  obtain ⟨d, present, becomes⟩ := exists_merged free own reads
  exact (Schema.fieldOr_eq_valid present).trans becomes

/-- What is read from the merged fields is a patch of the old record, under the label of the
update. -/
theorem shape_merge_iff (json : old.OwnJson) (once : old.tags.eraseDups = old.tags) :
    Template.shape id now (.object (merge old label time updates)) = .valid t ↔
      t.version = label ∧ t.PatchOf old updates time := by
  obtain ⟨ownId, ownVersion, ownCreatedAt, ownUpdatedAt⟩ := get?_merge old label time updates
  have readTags : tagsShape (texts old.tags) = .valid old.tags := by
    rw [tags_stored, once]
  have readVariables := variables_merged json.declarations
  have readAuthor := Schema.nullable_ofText old.createdBy
  have readMetadata := mapping_merged json.metadata
  rw [Template.shape_eq_valid]
  constructor
  · intro read
    have id := (Schema.fieldOr_eq_valid ownId).1 read.id
    have version := (Schema.fieldOr_eq_valid ownVersion).1 read.version
    have createdAt := (Schema.fieldOr_eq_valid ownCreatedAt).1 read.createdAt
    have updatedAt := (Schema.fieldOr_eq_valid ownUpdatedAt).1 read.updatedAt
    refine ⟨(Schema.Checked.valid.inj version).symm, ?_⟩
    exact {
      id := (Schema.Checked.valid.inj id).symm
      createdAt := (Schema.Checked.valid.inj createdAt).symm
      updatedAt := (Schema.Checked.valid.inj updatedAt).symm
      name := Iff.mp (field_merge rfl rfl (by decide)) read.name
      description := Iff.mp (fieldOr_merge rfl rfl (by decide)) read.description
      category := Iff.mp (field_merge rfl rfl (by decide)) read.category
      body := Iff.mp (field_merge rfl rfl (by decide)) read.body
      declarations := Iff.mp (fieldOr_merge rfl readVariables (by decide)) read.declarations
      isActive := Iff.mp (fieldOr_merge rfl rfl (by decide)) read.isActive
      createdBy := Iff.mp (fieldOr_merge rfl readAuthor (by decide)) read.createdBy
      tags := Iff.mp (fieldOr_merge rfl readTags (by decide)) read.tags
      metadata := Iff.mp (fieldOr_merge rfl readMetadata (by decide)) read.metadata }
  · rintro ⟨version, patch⟩
    exact {
      id := (Schema.fieldOr_eq_valid ownId).2 (congrArg _ patch.id.symm)
      version := (Schema.fieldOr_eq_valid ownVersion).2 (congrArg _ version.symm)
      createdAt := (Schema.fieldOr_eq_valid ownCreatedAt).2 (congrArg _ patch.createdAt.symm)
      updatedAt := (Schema.fieldOr_eq_valid ownUpdatedAt).2 (congrArg _ patch.updatedAt.symm)
      name := Iff.mpr (field_merge rfl rfl (by decide)) patch.name
      description := Iff.mpr (fieldOr_merge rfl rfl (by decide)) patch.description
      category := Iff.mpr (field_merge rfl rfl (by decide)) patch.category
      body := Iff.mpr (field_merge rfl rfl (by decide)) patch.body
      declarations := Iff.mpr (fieldOr_merge rfl readVariables (by decide)) patch.declarations
      isActive := Iff.mpr (fieldOr_merge rfl rfl (by decide)) patch.isActive
      createdBy := Iff.mpr (fieldOr_merge rfl readAuthor (by decide)) patch.createdBy
      tags := Iff.mpr (fieldOr_merge rfl readTags (by decide)) patch.tags
      metadata := Iff.mpr (fieldOr_merge rfl readMetadata (by decide)) patch.metadata }

/-- Updates that agree on the fields that they can change are the same. -/
theorem update_congr
    (agree : ∀ name ∈ Template.patchable,
      (Entries.ofPairs updates').get? name = (Entries.ofPairs updates).get? name)
    (id : String) (changelog : Option String) :
    update id updates' changelog = update id updates changelog := by
  have same : ∀ old label time, Template.shape id time (.object (merge old label time updates')) =
      Template.shape id time (.object (merge old label time updates)) := by
    intro old label time
    refine Template.shape_congr fun name mem => ?_
    by_cases own : name ∈ protectedFields
    · obtain ⟨id, version, createdAt, updatedAt⟩ := get?_merge old label time updates
      obtain ⟨id', version', createdAt', updatedAt'⟩ := get?_merge old label time updates'
      simp only [protectedFields, List.mem_cons, List.not_mem_nil, or_false] at own
      rcases own with rfl | rfl | rfl | rfl
      · exact id'.trans id.symm
      · exact version'.trans version.symm
      · exact createdAt'.trans createdAt.symm
      · exact updatedAt'.trans updatedAt.symm
    · have free : name ∈ Template.patchable := (List.mem_append.1 mem).resolve_left own
      rw [get?_merge_free own, get?_merge_free own, agree name free]
  unfold update readAs
  simp only [same]

end

/-! ### Records in runs -/

/-- The live records of a store stand under their identifiers and have each tag once. -/
structure Tidy (s : Store) : Prop where
  keyed : ∀ {id t}, s.live.get? id = some t → t.id = id
  once : ∀ {id t}, s.live.get? id = some t → t.tags.eraseDups = t.tags

variable {s : Store} {t : Template} {d d' : Desk Store} {id : String}

theorem tidy_of_empty (empty : s.live = []) : Tidy s where
  keyed live := by
    rw [empty] at live
    cases live
  once live := by
    rw [empty] at live
    cases live

theorem Tidy.putLive (tidy : Tidy s) (once : t.tags.eraseDups = t.tags) : Tidy (s.putLive t) := by
  constructor
  · intro id u live
    rw [live_putLive] at live
    split at live
    · next here =>
      cases live
      exact here
    · exact tidy.keyed live
  · intro id u live
    rw [live_putLive] at live
    split at live
    · cases live
      exact once
    · exact tidy.once live

theorem Tidy.move (move : Move d d') (tidy : Tidy d.own) : Tidy d'.own := by
  cases move with
  | pass leads _ =>
    rw [leads.own]
    exact tidy
  | keep _ versioned =>
    rw [versioned.leads.own]
    exact ⟨tidy.keyed, tidy.once⟩
  | save admitted saved =>
    rw [saved.leads.own]
    refine tidy.putLive ?_
    cases admitted with
    | @new _ definition _ _ same _ =>
      rw [same]
      exact Distinct.eraseDups_eraseDups definition.tags
    | revised revision _ => exact Template.eraseDups_of_shape revision.read
    | @retired _ old live same =>
      rw [same]
      change old.tags.eraseDups = old.tags
      exact tidy.once live

theorem keeps_tidy_load : Keeps Tidy load :=
  load_preserves (fun read tidy => tidy.putLive (Template.eraseDups_of_shape read))
    fun tidy => ⟨tidy.keyed, tidy.once⟩

/-- A desk that a run can reach from a store without records, over any repository. -/
def Begun (d : Desk Store) : Prop := ∃ turns start, start.own.live = [] ∧ d = run turns start

theorem Begun.tidy (begun : Begun d) : Tidy d.own := by
  obtain ⟨turns, start, empty, rfl⟩ := begun
  refine run_preserves (P := fun d => Tidy d.own) Tidy.move (fun tidy => tidy) ?_
    (tidy_of_empty empty)
  intro turn _ reload d tidy
  cases turn with
  | load => exact keeps_tidy_load d tidy
  | reload options versioning bound positive =>
    exact keeps_tidy_load { d with own := { options, versioning, bound } } (tidy_of_empty rfl)
  | change => cases reload
  | disturb => cases reload

/-! ### Updates -/

open Label (LeastFree Written spell)

variable {updates : Fields} {old : Template} {changelog : Option String}
  {result : Except Failure Template}

/-- What an update asks for: a patch of the live record under the next free label. -/
structure Asks (d : Desk Store) (id : String) (updates : Fields) (old t : Template) : Prop where
  live : d.own.live.get? id = some old
  free : Label.nextFree (d.own.history id).labels old.version = .ok t.version
  patch : t.PatchOf old updates d.shared.clock.current

/-- An update draws up exactly what it asks for. -/
theorem exists_revision_iff (tidy : Tidy d.own)
    (json : ∀ old, d.own.live.get? id = some old → old.OwnJson) :
    (∃ label, Revision d.own d.shared.clock.current id updates old t label) ↔
      Asks d id updates old t := by
  constructor
  · rintro ⟨label, live, free, read⟩
    obtain ⟨rfl, patch⟩ := (shape_merge_iff (json old live) (tidy.once live)).1 read
    exact ⟨live, free, patch⟩
  · rintro ⟨live, free, patch⟩
    exact ⟨t.version, live, free,
      (shape_merge_iff (json old live) (tidy.once live)).2 ⟨rfl, patch⟩⟩

/-- Where nothing that an update asks for is accepted, the update fails and leaves everything as it
was. -/
theorem update_of_not_accepts (tidy : Tidy d.own)
    (json : ∀ old, d.own.live.get? id = some old → old.OwnJson)
    (rejected : ¬ ∃ old t, Asks d id updates old t ∧ d.own.Accepts t)
    (ran : (update id updates changelog).on d = (result, d')) :
    (∃ e, result = .error e) ∧ d'.own = d.own ∧ d'.shared.repository = d.shared.repository := by
  rcases update_cases ran with
    ⟨e, notices, failed, leads, -⟩ | ⟨old, t, label, text, d₁, d₂, notices, revision, drawn, -⟩
  · exact ⟨⟨e, failed⟩, leads.own, leads.repository⟩
  · have asks := (exists_revision_iff tidy json).1 ⟨label, revision⟩
    exact absurd ⟨old, t, asks, drawn.accepted⟩ rejected

/-- In every state that a run can reach from a store without records, over any repository, an update
of a record in which the callers' own data are JSON is a patch. If it succeeds, the live record is
the old one with the fields that are named read from the update and all others as they were, under
the least free label and at the moment of the clock. If no such record is accepted, everything stays
as it was. What is named besides the fields that can be changed makes no difference, and no other
template is touched. -/
theorem update_patches_record (begun : Begun d)
    (json : ∀ old, d.own.live.get? id = some old → old.OwnJson)
    (ran : (update id updates changelog).on d = (result, d')) :
    (∀ t, result = .ok t → ∃ old, Asks d id updates old t ∧ d.own.Accepts t ∧
        d'.own.live.get? id = some t ∧
        ∀ major minor patch, old.version = spell major minor patch → Written major minor patch →
          ∃ step, LeastFree (d.own.history id).labels major minor patch step ∧
            t.version = spell major minor (patch + step)) ∧
      ((¬ ∃ old t, Asks d id updates old t ∧ d.own.Accepts t) →
        (∃ e, result = .error e) ∧ d'.own = d.own ∧
          d'.shared.repository = d.shared.repository) ∧
      (∀ updates' : Fields,
        (∀ name ∈ Template.patchable,
          (Entries.ofPairs updates').get? name = (Entries.ofPairs updates).get? name) →
        (update id updates' changelog).on d = (result, d')) ∧
      ∀ other, other ≠ id → Untouched other d d' := by
  have tidy := begun.tidy
  refine ⟨?_, fun rejected => update_of_not_accepts tidy json rejected ran, ?_, ?_⟩
  · rintro t rfl
    rcases update_cases ran with
      ⟨_, notices, failed, -⟩ |
        ⟨old, t', label, text, d₁, d₂, notices, revision, drawn, committed, leads⟩
    · cases failed
    · obtain ⟨rfl, live⟩ := committed.live
      have key : t.id = id := revision.kept.1.trans (tidy.keyed revision.live)
      rw [key, ← leads.own] at live
      refine ⟨old, (exists_revision_iff tidy json).1 ⟨label, revision⟩, drawn.accepted, live, ?_⟩
      intro major minor patch version written
      obtain ⟨step, least, version', -⟩ := revision.leastFree version written
      exact ⟨step, least, version'⟩
  · intro updates' agree
    rw [update_congr agree]
    exact ran
  · intro other ne
    exact update_untouched (fun _ => tidy.keyed) ran ne

/-- A definition with a default, metadata, and a tag given twice. -/
def warmGreeting : Definition where
  name := "Greeting"
  category := "test"
  body := "Hi {{name}}"
  declarations := [{ name := "name", default := some (.text "you") }]
  tags := ["kind", "kind"]
  metadata := [("tone", .text "warm")]

/-- Its first record. -/
def warmRecord : Template := firstRecord "tpl-1" ⟨0, none⟩ warmGreeting

/-- A desk with that record. -/
def warmDesk : Desk Store := run [.change (.create warmGreeting)] emptyDesk

theorem warmDesk_begun : Begun warmDesk := ⟨_, emptyDesk, rfl, rfl⟩

/-- An update that names a field, two that it cannot change, and one that records do not have. -/
def mixedUpdate : Fields :=
  [("id", .text "other"), ("version", .text "9.9.9"), ("name", .text "Hi"), ("mood", .null)]

theorem warmRecord_ownJson : warmRecord.OwnJson := by
  have plain : warmGreeting.Plain := by
    refine ⟨?_, rfl⟩
    intro x mem
    cases List.mem_singleton.1 mem
    refine ⟨?_, nofun⟩
    intro x given
    cases given
    exact ⟨rfl, nofun⟩
  exact (plain.firstRecord "tpl-1" ⟨0, none⟩).ownJson

theorem warmDesk_live : warmDesk.own.live.get? "tpl-1" = some warmRecord := by
  with_unfolding_all rfl

/-- There the update changes the name and nothing else of its own. -/
theorem update_patches_record_warmDesk :
    ∃ t d', (update "tpl-1" mixedUpdate).on warmDesk = (.ok t, d') ∧ t.id = "tpl-1" ∧
      t.name = "Hi" ∧ t.tags = ["kind"] ∧ t.metadata = warmRecord.metadata ∧
      t.version = "1.0.1" ∧ d'.own.live.get? "tpl-1" = some t := by
  have succeeds : ((update "tpl-1" mixedUpdate).on warmDesk).1.isOk = true := by decide +kernel
  have json : ∀ old, warmDesk.own.live.get? "tpl-1" = some old → old.OwnJson := by
    intro old live
    cases live.symm.trans warmDesk_live
    exact warmRecord_ownJson
  rcases ran : (update "tpl-1" mixedUpdate).on warmDesk with ⟨e | t, d'⟩
  · rw [ran] at succeeds
    cases succeeds
  · obtain ⟨patches, -⟩ := update_patches_record warmDesk_begun json ran
    obtain ⟨old, asks, -, live, -⟩ := patches t rfl
    cases asks.live.symm.trans warmDesk_live
    have name := Schema.Checked.valid.inj asks.patch.name
    have label : (Label.nextFree (warmDesk.own.history "tpl-1").labels
        warmRecord.version).toOption = some "1.0.1" := by
      decide +kernel
    rw [asks.free] at label
    exact ⟨t, d', rfl, asks.patch.id, name.symm, asks.patch.tags, asks.patch.metadata,
      Option.some.inj label, live⟩

end Store

end Promptuary
