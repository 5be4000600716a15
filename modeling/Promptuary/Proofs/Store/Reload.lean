import Mathlib.Tactic.Choose
import Promptuary.Proofs.Store.Loading
import Promptuary.Proofs.Store.Mirror

/-!
Reloading a store from a repository that mirrors another one. A store that reads the documents has
the same texts and declarations under the same labels, up to the form that documents give to
callers' own data; so what holds of the labels in every run of changes holds in runs with reloads,
too.
-/

namespace Promptuary

open Operation
open Schema (list)
open Storage (Plain Repository Returns Space)

namespace Store

variable {holds : Plain → Repository → Prop} {fit : Datum → Prop} {m : Plain} {d d₁ : Desk Store}
  {id key : String} {document : Datum}

/-! ### Reading documents -/

/-- A record that a document was read as. -/
def ReadAs (document : Datum) (t : Template) : Prop :=
  ∃ written : Template, document = written.toDatum .stored ∧ t = written.restored ∧ written.Timely

/-- A history that a document was read as. -/
def AllReadAs (document : Datum) (h : History) : Prop :=
  ∃ written : History, document = written.toDatum ∧ written ≠ [] ∧
    h = written.map Version.restored ∧ written.Timely

theorem ReadAs.shape_eq_valid {t : Template} (read : ReadAs document t) (id : String)
    (now : Calendar.Moment) : Template.shape id now document = .valid t := by
  obtain ⟨written, rfl, rfl, timely⟩ := read
  exact Template.shape_stored timely.created timely.updated ..

theorem AllReadAs.shape_eq_valid {h : History} (read : AllReadAs document h)
    (now : Calendar.Moment) : list (Version.shape now) document = .valid h := by
  obtain ⟨written, rfl, -, rfl, timely⟩ := read
  exact Schema.list_map fun v mem => Version.shape_stored (timely v mem) now

theorem ReadAs.isPresent {t : Template} (read : ReadAs document t) : document.isPresent = true := by
  obtain ⟨written, rfl, -⟩ := read
  rfl

theorem AllReadAs.isPresent {h : History} (read : AllReadAs document h) :
    document.isPresent = true := by
  obtain ⟨written, rfl, nonempty, -⟩ := read
  cases written with
  | nil => exact absurd rfl nonempty
  | cons v rest => rfl

/-- A document is read in one way only. -/
theorem ReadAs.unique {t t' : Template} (read : ReadAs document t) (read' : ReadAs document t') :
    t' = t :=
  Schema.Checked.valid.inj
    ((read'.shape_eq_valid "" ⟨0, none⟩).symm.trans (read.shape_eq_valid "" ⟨0, none⟩))

theorem AllReadAs.unique {h h' : History} (read : AllReadAs document h)
    (read' : AllReadAs document h') : h' = h :=
  Schema.Checked.valid.inj
    ((read'.shape_eq_valid ⟨0, none⟩).symm.trans (read.shape_eq_valid ⟨0, none⟩))

/-! ### Loading -/

/-- A store that has what the documents of a map were read as, and nothing else. -/
structure Loaded (m : Plain) (s : Store) : Prop where
  records : ∀ id, Option.Rel ReadAs (m (.templates, id)) (s.live.get? id)
  histories : ∀ id, Option.Rel AllReadAs (m (.versions, id)) (s.histories.get? id)

/-- Rounds over the keys of documents that each put what the document of their key is read as put
what every document is read as. -/
theorem forM_reads {β : Type} {round : String → Operation Store Unit} {R : Datum → β → Prop}
    {documents : String → Option Datum} {names : List String} {P : Desk Store → Prop}
    (listed : ∀ key, key ∈ names ↔ (documents key).isSome = true)
    (look : Store → String → Option β)
    (rounds : ∀ key document, documents key = some document → ∃ b, R document b ∧
      ∀ d, P d → ∃ d', (round key).on d = (.ok (), d') ∧ P d' ∧
        ∀ id, look d'.own id = if key = id then some b else look d.own id)
    (empty : ∀ id, documents id = none → look d.own id = none) (start : P d) :
    ∃ d', (forM names round).on d = (.ok (), d') ∧ P d' ∧
      ∀ id, Option.Rel R (documents id) (look d'.own id) := by
  have each : ∀ key, ∃ v, Option.Rel R (documents key) v ∧ (key ∈ names → ∀ d, P d →
      ∃ d', (round key).on d = (.ok (), d') ∧ P d' ∧
        ∀ id, look d'.own id = if key = id then v else look d.own id) := by
    intro key
    cases found : documents key with
    | none =>
      refine ⟨none, .none, fun mem => ?_⟩
      rw [listed, found] at mem
      cases mem
    | some document =>
      obtain ⟨b, read, ran⟩ := rounds key document found
      exact ⟨some b, .some read, fun _ => ran⟩
  choose value read ran using each
  obtain ⟨d', done, holds, looks⟩ := forM_looks look value ran start
  refine ⟨d', done, holds, fun id => ?_⟩
  rw [looks]
  split
  · exact read id
  · next unlisted =>
    rw [listed, Option.not_isSome_iff_eq_none] at unlisted
    rw [unlisted, empty id unlisted]
    exact .none

/-- The document of a live record is read, and put under its own identifier. -/
theorem Mirrored.round_record (returns : Returns holds fit)
    (mirrored : Mirrored holds Describes DescribesAll m d) (sound : Sound d)
    (found : m (.templates, key) = some document) :
    ∃ t, ReadAs document t ∧ ∀ d₁, d.Reads d₁ → ∃ d₂, (loadTemplate key).on d₁ = (.ok (), d₂) ∧
      d.Reads d₂ ∧ d₂.own = d₁.own.putLive t ∧
        ∀ id, d₂.own.live.get? id = if key = id then some t else d₁.own.live.get? id := by
  have described := mirrored.records key
  rw [found] at described
  obtain ⟨t, live, written, same, ident, -, timely⟩ := exists_right_of_rel described
  have read : ReadAs document written.restored := ⟨written, same, rfl, timely⟩
  refine ⟨written.restored, read, fun d₁ reads => ?_⟩
  have readable : ∀ id, ReadsAs (Template.shape id d.shared.clock.current) d.shared.repository
      .templates key (some written.restored) := fun id =>
    .present (returns.get mirrored.repository found) read.isPresent (read.shape_eq_valid id _)
  rcases loadTemplate_cases key d₁ with
    ⟨e, d₂, -, -, -, bad⟩ | ⟨id, x, d₂, ran, reads₂, -, as, own⟩
  · rw [reads.clock, reads.repository] at bad
    exact absurd ⟨_, readable ""⟩ bad
  · rw [reads.clock, reads.repository] at as
    obtain rfl := (readable id).unique as
    have put : d₂.own = d₁.own.putLive written.restored := own
    have own_key : written.restored.id = key := ident.trans (sound.keyed live)
    exact ⟨d₂, ran, reads.trans reads₂, put, fun id => by rw [put, live_putLive, own_key]⟩

/-- The document of a history is read. -/
theorem Mirrored.round_history (returns : Returns holds fit)
    (mirrored : Mirrored holds Describes DescribesAll m d)
    (found : m (.versions, key) = some document) :
    ∃ h, AllReadAs document h ∧ ∀ d₁, d.Reads d₁ → ∃ d₂, (loadHistory key).on d₁ = (.ok (), d₂) ∧
      d.Reads d₂ ∧ d₂.own = d₁.own.putHistory key h ∧
        ∀ id, d₂.own.histories.get? id = if key = id then some h else d₁.own.histories.get? id := by
  have described := mirrored.histories key
  rw [found] at described
  obtain ⟨h, -, written, same, nonempty, -, timely⟩ := exists_right_of_rel described
  have read : AllReadAs document (written.map Version.restored) :=
    ⟨written, same, nonempty, rfl, timely⟩
  refine ⟨_, read, fun d₁ reads => ?_⟩
  have readable : ReadsAs (list (Version.shape d.shared.clock.current)) d.shared.repository
      .versions key (some (written.map Version.restored)) :=
    .present (returns.get mirrored.repository found) read.isPresent (read.shape_eq_valid _)
  rcases loadHistory_cases key d₁ with ⟨e, d₂, -, -, -, bad⟩ | ⟨x, d₂, ran, reads₂, as, own⟩
  · rw [reads.clock, reads.repository] at bad
    exact absurd ⟨_, readable⟩ bad
  · rw [reads.clock, reads.repository] at as
    obtain rfl := readable.unique as
    have put : d₂.own = d₁.own.putHistory key (written.map Version.restored) := own
    refine ⟨d₂, ran, reads.trans reads₂, put, fun id => ?_⟩
    rw [put, putHistory, Entries.get?_put]
    simp

/-- Loading from a repository that mirrors a store succeeds, and reads every document. What has no
document must not be there before. -/
theorem Mirrored.loads {s : Store} (returns : Returns holds fit)
    (mirrored : Mirrored holds Describes DescribesAll m d) (sound : Sound d)
    (noLive : ∀ id, m (.templates, id) = none → s.live.get? id = none)
    (noHistories : ∀ id, m (.versions, id) = none → s.histories.get? id = none) :
    ∃ d', load.on ⟨s, d.shared⟩ = (.ok (), d') ∧ d.Reads d' ∧ Loaded m d'.own ∧
      d'.own.bound = s.bound := by
  obtain ⟨names, templates, isName⟩ := returns.keys mirrored.repository .templates
  obtain ⟨ids, versions, isId⟩ := returns.keys mirrored.repository .versions
  obtain ⟨d₀, reads₀, own₀, ends⟩ := load_cases (d := ⟨s, d.shared⟩) templates versions
  have start : d.Reads d₀ := { reads₀ with }
  obtain ⟨d₁, ran₁, ⟨reads₁, histories₁, bound₁⟩, records⟩ := forM_reads
    (P := fun d₁ => d.Reads d₁ ∧ d₁.own.histories = s.histories ∧ d₁.own.bound = s.bound) isName
    (fun s id => s.live.get? id)
    (fun key document found => by
      obtain ⟨t, read, ran⟩ := mirrored.round_record returns sound found
      refine ⟨t, read, fun d₁ ⟨reads, histories, bound⟩ => ?_⟩
      obtain ⟨d₂, ran, reads₂, own, looks⟩ := ran d₁ reads
      exact ⟨d₂, ran, ⟨reads₂, own ▸ histories, own ▸ bound⟩, looks⟩)
    (by rw [own₀]; exact noLive) ⟨start, by rw [own₀], by rw [own₀]⟩
  rcases ends with ⟨e, d₂, failed, -⟩ | ⟨d₂, d₃, ran₂, reads₃, own₃, ended⟩
  · cases failed.symm.trans ran₁
  cases ran₁.symm.trans ran₂
  obtain ⟨d₄, ran₄, ⟨reads₄, live₄, bound₄⟩, histories⟩ := forM_reads
    (P := fun d₄ => d.Reads d₄ ∧ d₄.own.live = d₁.own.live ∧ d₄.own.bound = s.bound) isId
    (fun s id => s.histories.get? id)
    (fun key document found => by
      obtain ⟨h, read, ran⟩ := mirrored.round_history returns found
      refine ⟨h, read, fun d₁ ⟨reads, live, bound⟩ => ?_⟩
      obtain ⟨d₂, ran, reads₂, own, looks⟩ := ran d₁ reads
      exact ⟨d₂, ran, ⟨reads₂, own ▸ live, own ▸ bound⟩, looks⟩)
    (by rw [own₃, histories₁]; exact noHistories)
    ⟨reads₁.trans reads₃, by rw [own₃], by rw [own₃]; exact bound₁⟩
  refine ⟨d₄, ended.trans ?_, reads₄, ⟨?_, histories⟩, bound₄⟩
  · rw [ran₄]
  · rw [live₄]
    exact records

/-! ### What was read -/

/-- A record with the same wording, as one reads it from a document. -/
structure Rereads (t t' : Template) : Prop where
  id : t'.id = t.id
  wording : t'.wording = t.wording
  declarations : t'.declarations = t'.wording.declarations

/-- A history with the same wordings, as one reads it from a document. -/
structure RereadsAll (h h' : History) : Prop where
  wordings : h'.map Version.wording = h.map Version.wording
  declarations : ∀ v ∈ h', v.declarations = v.wording.declarations

/-- A store with the same wordings, as one reads them from documents. -/
structure Rewords (s s' : Store) : Prop where
  records : ∀ id, Option.Rel Rereads (s.live.get? id) (s'.live.get? id)
  histories : ∀ id, Option.Rel RereadsAll (s.histories.get? id) (s'.histories.get? id)

theorem ReadAs.rereads {t t' : Template} (read : ReadAs document t')
    (describes : Describes document t) :
    Rereads t t' ∧ Describes document t' ∧ t'.Timely := by
  obtain ⟨written, rfl, ident, wording, timely⟩ := describes
  obtain rfl := ReadAs.unique ⟨written, rfl, rfl, timely⟩ read
  refine ⟨⟨ident, written.wording_restored.trans wording, ?_⟩, ?_, timely.created, timely.updated⟩
  · exact (Variable.map_restored_restored written.declarations).symm
  · exact ⟨written, rfl, rfl, written.wording_restored.symm, timely⟩

theorem AllReadAs.rereads {h h' : History} (read : AllReadAs document h')
    (describes : DescribesAll document h) :
    RereadsAll h h' ∧ DescribesAll document h' ∧ h'.Timely := by
  obtain ⟨written, rfl, nonempty, wordings, timely⟩ := describes
  obtain rfl := AllReadAs.unique ⟨written, rfl, nonempty, rfl, timely⟩ read
  have restored : (written.map Version.restored).map Version.wording =
      written.map Version.wording := by
    rw [List.map_map]
    exact List.map_congr_left fun v _ => v.wording_restored
  refine ⟨⟨restored.trans wordings, ?_⟩, ⟨written, rfl, nonempty, restored.symm, timely⟩, ?_⟩
  · rintro _ mem
    obtain ⟨v, -, rfl⟩ := List.mem_map.1 mem
    exact (Variable.map_restored_restored v.declarations).symm
  · rintro _ mem
    obtain ⟨v, mem', rfl⟩ := List.mem_map.1 mem
    exact timely v mem'

/-- What relates two values to the same one, if there is one, relates the second to both. -/
theorem rel_of_common {α β γ : Type} {R : α → β → Prop} {S U : α → γ → Prop} {T : β → γ → Prop}
    {x : Option α} {y : Option β} {z : Option γ} (first : Option.Rel R x y)
    (second : Option.Rel S x z) (both : ∀ a b c, S a c → R a b → T b c ∧ U a c) :
    Option.Rel T y z ∧ Option.Rel U x z := by
  cases first with
  | none =>
    cases second
    exact ⟨.none, .none⟩
  | some related =>
    cases second with
    | some related' =>
      obtain ⟨across, again⟩ := both _ _ _ related' related
      exact ⟨.some across, .some again⟩

/-- A store that has what it read from a repository that mirrors another one has the same wordings,
and the repository mirrors it. -/
theorem Loaded.rewords (loaded : Loaded m d₁.own) (reads : d.Reads d₁)
    (mirrored : Mirrored holds Describes DescribesAll m d) :
    Rewords d.own d₁.own ∧ Mirrored holds Describes DescribesAll m d₁ := by
  have records : ∀ id, Option.Rel Rereads (d.own.live.get? id) (d₁.own.live.get? id) ∧
      Option.Rel (fun document t => Describes document t ∧ t.Timely) (m (.templates, id))
        (d₁.own.live.get? id) := fun id =>
    rel_of_common (mirrored.records id) (loaded.records id) fun _ _ _ => ReadAs.rereads
  have versions : ∀ id, Option.Rel RereadsAll (d.own.histories.get? id)
        (d₁.own.histories.get? id) ∧
      Option.Rel (fun document h => DescribesAll document h ∧ h.Timely) (m (.versions, id))
        (d₁.own.histories.get? id) := fun id =>
    rel_of_common (mirrored.histories id) (loaded.histories id) fun _ _ _ => AllReadAs.rereads
  refine ⟨⟨fun id => (records id).1, fun id => (versions id).1⟩, ?_, ?_, ?_, ?_, ?_, ?_⟩
  · rw [reads.repository]
    exact mirrored.repository
  · exact fun id => rel_imp (fun _ _ => And.left) (records id).2
  · exact fun id => rel_imp (fun _ _ => And.left) (versions id).2
  · intro id t live
    have described := (records id).2
    rw [live] at described
    obtain ⟨_, -, -, timely⟩ := exists_left_of_rel described
    exact timely
  · intro id
    have described := (versions id).2
    rw [history]
    cases found : d₁.own.histories.get? id with
    | none => exact fun _ mem => absurd mem List.not_mem_nil
    | some h =>
      rw [found] at described
      obtain ⟨_, -, -, timely⟩ := exists_left_of_rel described
      exact timely
  · rw [reads.clock]
    exact mirrored.clock

theorem rereadsAll_history {s s' : Store}
    (related : Option.Rel RereadsAll (s.histories.get? id) (s'.histories.get? id)) :
    RereadsAll (s.history id) (s'.history id) := by
  unfold history
  generalize s.histories.get? id = before at related ⊢
  generalize s'.histories.get? id = after at related ⊢
  cases related with
  | none => exact ⟨rfl, fun _ mem => absurd mem List.not_mem_nil⟩
  | some rereads => exact rereads

/-- Reading every document again leaves labels, texts and declarations as they agree. -/
theorem Agrees.rereads {live live' : Option Template} {h h' : History} (agrees : Agrees live h)
    (records : Option.Rel Rereads live live') (versions : RereadsAll h h') : Agrees live' h' where
  distinct := by
    have labels := congrArg (List.map Wording.label) versions.wordings
    rw [List.map_map, List.map_map] at labels
    have same : h'.labels = h.labels := labels
    rw [same]
    exact agrees.distinct
  same := by
    rintro t' rfl v' mem label
    obtain ⟨t, rfl, reads⟩ := exists_left_of_rel records
    have wordings : v'.wording ∈ h.map Version.wording := by
      rw [← versions.wordings]
      exact List.mem_map_of_mem mem
    obtain ⟨v, mem', same⟩ := List.mem_map.1 wordings
    have labels : v.label = t.version :=
      (congrArg Wording.label same).trans (label.trans (congrArg Wording.label reads.wording))
    obtain ⟨body, declarations⟩ := agrees.same t rfl v mem' labels
    have whole : v'.wording = t'.wording := by
      rw [← same, reads.wording, Version.wording, Template.wording, labels, body, declarations]
    refine ⟨congrArg Wording.body whole, ?_⟩
    rw [versions.declarations v' mem, reads.declarations, whole]

/-- A store with the same wordings as a sound one is sound, if it has room for a version. -/
theorem Rewords.sound (rewords : Rewords d.own d₁.own) (sound : Sound d)
    (issued : d.shared.issued ≤ d₁.shared.issued) (positive : 1 ≤ d₁.own.bound) : Sound d₁ where
  keyed := by
    intro id t' live
    have related := rewords.records id
    rw [live] at related
    obtain ⟨t, found, reads⟩ := exists_left_of_rel related
    exact reads.id.trans (sound.keyed found)
  unused := by
    intro n later
    obtain ⟨noLive, noHistory⟩ := sound.unused (Nat.lt_of_le_of_lt issued later)
    have record := rewords.records (identifier n)
    have history := rewords.histories (identifier n)
    rw [noLive] at record
    rw [noHistory] at history
    exact ⟨eq_none_of_rel record, eq_none_of_rel history⟩
  agrees id := (sound.agrees id).rereads (rewords.records id)
    (rereadsAll_history (rewords.histories id))
  positive := positive

/-- What a store is after loading from a repository that mirrors a sound one: it has the same
wordings, it is sound, and the repository mirrors it. -/
structure Reloaded (holds : Plain → Repository → Prop) (m : Plain) (d d' : Desk Store) : Prop where
  rewords : Rewords d.own d'.own
  sound : Sound d'
  mirrored : Mirrored holds Describes DescribesAll m d'

/-- A sound store that loads on top of what it has. -/
theorem Mirrored.load (returns : Returns holds fit)
    (mirrored : Mirrored holds Describes DescribesAll m d) (sound : Sound d) :
    Reloaded holds m d (Turn.after .load d) := by
  obtain ⟨d', ran, reads, loaded, bound⟩ := mirrored.loads (s := d.own) returns sound
    (fun id none => eq_none_of_rel (none ▸ mirrored.records id))
    (fun id none => eq_none_of_rel (none ▸ mirrored.histories id))
  have after : Turn.after .load d = d' := congrArg Prod.snd ran
  rw [after]
  obtain ⟨rewords, mirrored'⟩ := loaded.rewords reads mirrored
  exact ⟨rewords, rewords.sound sound reads.issued (bound ▸ sound.positive), mirrored'⟩

/-- A new store that loads what a sound one has stored. -/
theorem Mirrored.reload {options : CompileOptions} {versioning : Bool} {bound : Nat}
    (positive : 1 ≤ bound) (returns : Returns holds fit)
    (mirrored : Mirrored holds Describes DescribesAll m d) (sound : Sound d) :
    Reloaded holds m d (Turn.after (.reload options versioning bound positive) d) := by
  obtain ⟨d', ran, reads, loaded, same⟩ := mirrored.loads (s := { options, versioning, bound })
    returns sound (fun _ _ => rfl) fun _ _ => rfl
  have after : Turn.after (.reload options versioning bound positive) d = d' :=
    congrArg Prod.snd ran
  rw [after]
  obtain ⟨rewords, mirrored'⟩ := loaded.rewords reads mirrored
  exact ⟨rewords, rewords.sound sound reads.issued (same ▸ positive), mirrored'⟩

end Store

end Promptuary
