import Promptuary.Proofs.Store.Labels
import Promptuary.Proofs.Template.Plain

/-!
Restarting a store. If the callers' own data are JSON, and the repository gives back what was stored
in it, then a new store that loads the repository serves what the running one serves, after every
run of changes, whichever writes were refused on the way.
-/

namespace Promptuary

open Operation
open Schema (list mapping anything)
open Storage (InMemory Plain Repository Returns)

/-! ### Plain changes -/

/-- The callers' own data in a change are JSON. -/
def Store.Change.Plain : Store.Change → Prop
  | .create definition => definition.Plain
  | .createFromData data => ∀ definition, Definition.shape data = .valid definition →
      definition.Plain
  | .update _ updates _ =>
    (∀ x, ("variables", x) ∈ updates → ∀ declared, list Variable.shape x = .valid declared →
        PlainVariables declared) ∧
      ∀ x, ("metadata", x) ∈ updates → ∀ fields, mapping anything x = .valid fields →
        Datum.fieldsAreJson fields = true
  | .delete _ => True
  | .createVersion .. => True

/-- A plain change, or a medium that refuses to write but answers. -/
def Store.Turn.Plain : Store.Turn → Prop
  | .change c => c.Plain
  | .disturb _ silent => silent = false
  | .load => False
  | .reload .. => False

namespace Store

variable {s : Store} {time : Calendar.Moment} {id label : String} {updates : Fields}
  {old t : Template}

/-- A field that an update does not set by itself comes from the update or from the old record. -/
theorem mem_or_get?_of_merge {key : String} {x : Datum} (free : key ∉ protectedFields)
    (found : (merge old label time updates).get? key = some x) :
    (key, x) ∈ updates ∨ Entries.get? (old.fields .merged) key = some x := by
  rw [get?_merge_free free, Option.or_eq_some_iff] at found
  exact found.imp Entries.mem_of_get?_ofPairs And.right

/-- An update of a plain record by plain fields draws up a plain record. -/
theorem Revision.plain {changelog : Option String}
    (revision : Revision s time id updates old t label) (plain : old.Plain)
    (given : (Change.update id updates changelog).Plain) : t.Plain := by
  have read := Template.shape_eq_valid.1 revision.read
  refine ⟨?_, ?_, Template.eraseDups_of_shape revision.read⟩
  · rcases Schema.fieldOr_cases read.declarations with empty | ⟨x, found, declared⟩
    · rw [empty]
      exact fun _ mem => absurd mem List.not_mem_nil
    · rcases mem_or_get?_of_merge (by decide) found with mem | before
      · exact given.1 x mem _ declared
      · cases before
        rw [variables_merged plain.ownJson.declarations] at declared
        rw [← Schema.Checked.valid.inj declared]
        exact plain.declarations
  · rcases Schema.fieldOr_cases read.metadata with empty | ⟨x, found, fields⟩
    · rw [empty]
      rfl
    · rcases mem_or_get?_of_merge (by decide) found with mem | before
      · exact given.2 x mem _ fields
      · cases before
        rw [mapping_merged plain.metadata] at fields
        rw [← Schema.Checked.valid.inj fields]
        exact plain.metadata

/-- A plain change stores plain records, if the live ones are plain. -/
theorem Change.Stores.plain {c : Change} {d : Desk Store} (given : c.Plain)
    (live : ∀ id t, d.own.live.get? id = some t → t.Plain) (stores : c.Stores d t) : t.Plain := by
  cases stores with
  | drafted drafts =>
    cases drafts with
    | create => exact given.firstRecord ..
    | createFromData read => exact (given _ read).firstRecord ..
    | update revision => exact revision.plain (live _ _ revision.live) given
  | deleted found same =>
    have plain := live _ _ found
    rw [same]
    exact ⟨plain.declarations, plain.metadata, plain.tags⟩

/-! ### Stores of plain records -/

/-- All that callers gave to a store is JSON. -/
structure HoldsPlain (s : Store) : Prop where
  records : ∀ {id t}, s.live.get? id = some t → t.Plain
  versions : ∀ id, ∀ v ∈ s.history id, v.Plain

variable {c : Change} {d d' : Desk Store}

theorem Fresh.holdsPlain (fresh : Fresh d) : HoldsPlain d.own where
  records live := by
    rw [fresh.live] at live
    cases live
  versions id := by
    rw [history, fresh.histories]
    exact fun _ mem => absurd mem List.not_mem_nil

/-- A plain change leaves plain records and versions, whether it succeeds or not. -/
theorem HoldsPlain.change (plain : HoldsPlain d.own) (given : c.Plain) :
    HoldsPlain (c.run.on d).2.own := by
  obtain ⟨d₁, d₂, notices, records, versions, leads⟩ := c.writes d
  have first : HoldsPlain d₁.own := by
    cases records with
    | nothing passes =>
      rw [passes.own]
      exact plain
    | @record t r stores saved =>
      rw [saved.leads.own]
      refine ⟨fun {id u} live => ?_, plain.versions⟩
      rw [live_putLive] at live
      split at live
      · cases live
        exact stores.plain given fun _ _ => plain.records
      · exact plain.records live
  rw [leads.own]
  cases versions with
  | nothing passes =>
    rw [passes.own]
    exact first
  | @version id label changelog t trimmed r live versioned =>
    rw [versioned.leads.own]
    refine ⟨first.records, fun id v mem => ?_⟩
    rw [history_putHistory] at mem
    split at mem
    · rcases mem_of_kept versioned.added mem with old | rfl
      · exact first.versions _ v old
      · exact (first.records live).declarations
    · exact first.versions id v mem

theorem HoldsPlain.of_histories {h : History} (plain : HoldsPlain s)
    (found : s.histories.get? id = some h) : ∀ v ∈ h, v.Plain := by
  have same : s.history id = h := by rw [history, found]; rfl
  exact same ▸ plain.versions id

/-- The documents of plain records and histories are fit if they are so as JSON. -/
theorem HoldsPlain.fits {fit : Datum → Prop} (plain : HoldsPlain s)
    (fits : s.Fits fun document => document.isJson = true → fit document) : s.Fits fit where
  records live := fits.records live (plain.records live).isJson
  histories found :=
    fits.histories found (areJson_map fun v mem => (plain.of_histories found v mem).isJson)

/-! ### Repositories that have a copy of the store -/

/-- A document of a record. -/
def Copies (document : Datum) (t : Template) : Prop := document = t.toDatum .stored ∧ t.Timely

/-- A document of a history. -/
def CopiesAll (document : Datum) (h : History) : Prop :=
  document = h.toDatum ∧ h ≠ [] ∧ h.Timely

theorem tellsWritten_copies : TellsWritten Copies CopiesAll where
  record timely := ⟨rfl, timely⟩
  history nonempty timely := ⟨rfl, nonempty, timely⟩

/-- A plain and sound store whose repository has a copy of it. -/
structure Copied (holds : Plain → Repository → Prop) (d : Desk Store) : Prop where
  plain : HoldsPlain d.own
  sound : Sound d
  mirrored : ∃ m, Mirrored holds Copies CopiesAll m d

section

variable {holds : Plain → Repository → Prop} {fit : Datum → Prop} {m : Plain} {turn : Turn}
  {turns : List Turn}

theorem Blank.copied (blank : Blank holds d) : Copied holds d where
  plain := blank.holdsPlain
  sound := blank.sound
  mirrored := ⟨_, blank.mirrored blank.repository blank.clock⟩

/-- A plain turn keeps the copy complete, whether it succeeds or not. -/
theorem Copied.after (returns : Returns holds fit) (copied : Copied holds d) (plain : turn.Plain)
    (fits : (turn.after d).own.Fits fun document => document.isJson = true → fit document) :
    Copied holds (turn.after d) := by
  obtain ⟨isPlain, sound, m, mirrored⟩ := copied
  cases turn with
  | change c =>
    have after : HoldsPlain (c.run.on d).2.own := isPlain.change plain
    exact ⟨after, sound.moves (c.moves d),
      mirrored.change returns tellsWritten_copies sound.positive c (after.fits fits)⟩
  | disturb writes silent =>
    obtain rfl : silent = false := plain
    exact ⟨isPlain, sound.disturb, m, mirrored.disturb returns writes rfl⟩
  | load => exact plain.elim
  | reload => exact plain.elim

/-- Every run of plain turns keeps the copy complete. -/
theorem Copied.run (returns : Returns holds fit) (copied : Copied holds d)
    (plain : ∀ turn ∈ turns, turn.Plain)
    (fits : ∀ before, before <+: turns →
      (run before d).own.Fits fun document => document.isJson = true → fit document) :
    Copied holds (run turns d) :=
  turns_preserve (fun turn mem _ fits copied => copied.after returns (plain turn mem) fits) fits
    copied

/-- A copy describes what it is a copy of. -/
theorem Mirrored.describes (mirrored : Mirrored holds Copies CopiesAll m d) :
    Mirrored holds Describes DescribesAll m d :=
  { mirrored with
    records := fun id => rel_imp
      (fun _ t ⟨same, timely⟩ => ⟨t, same, rfl, rfl, timely⟩) (mirrored.records id)
    histories := fun id => rel_imp
      (fun _ h ⟨same, nonempty, timely⟩ => ⟨h, same, nonempty, rfl, timely⟩)
      (mirrored.histories id) }

/-- What is read from a copy of a plain store is what the store has. -/
theorem Loaded.eq_of_copied {s : Store} (loaded : Loaded m s)
    (mirrored : Mirrored holds Copies CopiesAll m d) (plain : HoldsPlain d.own) (id : String) :
    s.live.get? id = d.own.live.get? id ∧ s.histories.get? id = d.own.histories.get? id := by
  constructor
  · have copy := mirrored.records id
    have read := loaded.records id
    cases live : d.own.live.get? id with
    | none =>
      rw [live] at copy
      rw [eq_none_of_rel_none copy] at read
      exact eq_none_of_rel read
    | some t =>
      rw [live] at copy
      obtain ⟨document, found, same, timely⟩ := exists_left_of_rel copy
      rw [found] at read
      obtain ⟨t', live', readAs⟩ := exists_right_of_rel read
      rw [live', ReadAs.unique ⟨t, same, rfl, timely⟩ readAs, (plain.records live).restored]
  · have copy := mirrored.histories id
    have read := loaded.histories id
    cases kept : d.own.histories.get? id with
    | none =>
      rw [kept] at copy
      rw [eq_none_of_rel_none copy] at read
      exact eq_none_of_rel read
    | some h =>
      rw [kept] at copy
      obtain ⟨document, found, same, nonempty, timely⟩ := exists_left_of_rel copy
      rw [found] at read
      obtain ⟨h', kept', readAs⟩ := exists_right_of_rel read
      have restored : h.map Version.restored = h :=
        map_eq_self fun v mem => (plain.of_histories kept v mem).restored
      rw [kept', AllReadAs.unique ⟨h, same, nonempty, rfl, timely⟩ readAs, restored]

end

/-- A new store that loads the repository after a run of plain changes, with any settings of its
own, finds every template and every version and has every history that the running store has. The
repository is of any kind that gives back what is stored in it, as far as this is fit for it; then
all JSON that the store has during the run must be fit. -/
theorem restart_serves_the_same {holds : Plain → Repository → Prop} {fit : Datum → Prop}
    {turns : List Turn} {d : Desk Store} (returns : Returns holds fit) (blank : Blank holds d)
    (plain : ∀ turn ∈ turns, turn.Plain)
    (fits : ∀ before, before <+: turns →
      (run before d).own.Fits fun document => document.isJson = true → fit document)
    (options : CompileOptions) (versioning : Bool) (bound : Nat) :
    let running := run turns d
    let restarted := (load.on ⟨{ options, versioning, bound }, running.shared⟩).2
    ∀ id, (∀ label, restarted.own.find? id label = running.own.find? id label) ∧
      restarted.own.history id = running.own.history id := by
  intro running restarted id
  obtain ⟨isPlain, sound, m, mirrored⟩ := blank.copied.run returns plain fits
  obtain ⟨d', ran, -, loaded, -⟩ := mirrored.describes.loads
    (s := { options, versioning, bound }) returns sound (fun _ _ => rfl) fun _ _ => rfl
  have after : restarted = d' := congrArg Prod.snd ran
  obtain ⟨live, histories⟩ := loaded.eq_of_copied mirrored isPlain id
  rw [← after] at live histories
  have history : restarted.own.history id = running.own.history id :=
    congrArg (·.getD []) histories
  refine ⟨fun label => ?_, history⟩
  unfold find?
  rw [history, live]

/-- A run in which a version cannot be stored, and later a deletion, before all is stored again. -/
def hinderedTurns : List Turn :=
  [.change (.create greeting), .disturb (· = .versions) false,
    .change (.update "tpl-1" [("metadata", .object [("tone", .text "warm")])] none),
    .disturb (· = .templates) false, .change (.delete "tpl-1"), .disturb (fun _ => false) false,
    .change (.createVersion "tpl-1" "2.0.0" "archived")]

theorem plain_hinderedTurns : ∀ turn ∈ hinderedTurns, turn.Plain := by
  have create : greeting.Plain := ⟨fun _ mem => absurd mem List.not_mem_nil, rfl⟩
  have update :
      (Change.update "tpl-1" [("metadata", .object [("tone", .text "warm")])] none).Plain := by
    constructor
    · intro x mem
      have name : "variables" = "metadata" := congrArg Prod.fst (List.mem_singleton.1 mem)
      exact absurd name (by decide)
    · intro x mem fields read
      cases List.mem_singleton.1 mem
      cases read
      rfl
  have delete : (Change.delete "tpl-1").Plain := trivial
  have version : (Change.createVersion "tpl-1" "2.0.0" "archived").Plain := trivial
  simp only [hinderedTurns, List.forall_mem_cons, Turn.Plain]
  exact ⟨create, trivial, update, trivial, delete, trivial, version,
    fun _ mem => absurd mem List.not_mem_nil⟩

theorem restart_serves_the_same_hinderedTurns :
    let running := run hinderedTurns emptyDesk
    let restarted := (load.on ⟨{ options := {}, versioning := true, bound := 2 }, running.shared⟩).2
    ∀ id, (∀ label, restarted.own.find? id label = running.own.find? id label) ∧
      restarted.own.history id = running.own.history id :=
  restart_serves_the_same Storage.returns_inMemory emptyDesk_blank plain_hinderedTurns
    (fun _ _ => ⟨fun _ _ => trivial, fun _ _ => trivial⟩) {} true 2

end Store

end Promptuary
