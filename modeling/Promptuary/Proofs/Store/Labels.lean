import Promptuary.Proofs.Store.Reload

/-!
Labels of versions. In every run of changes and reloads, whatever the medium refuses to write, the
labels of a history differ, and a template looked up by the label of its live record is the live
record.
-/

namespace Promptuary

open Storage (InMemory Plain Repository Returns)

namespace Store

variable {holds : Plain → Repository → Prop} {fit : Datum → Prop} {turn : Turn}
  {turns : List Turn} {d : Desk Store} {Q : Store → Prop}

/-! ### Runs that reload -/

/-- A desk at which nothing has happened yet, with an empty repository of a kind and an ordinary
clock. -/
structure Blank (holds : Plain → Repository → Prop) (d : Desk Store) : Prop extends Fresh d where
  repository : holds .empty d.shared.repository
  clock : ∀ time ∈ d.shared.clock.readings, time.Ordinary

/-- A run from nothing in which the repository can give back, at any time, what the store has: all
documents are fit for it, and it goes on to answer while it refuses to write. -/
structure Reloadable (holds : Plain → Repository → Prop) (fit : Datum → Prop) (turns : List Turn)
    (d : Desk Store) : Prop extends Blank holds d where
  returns : Returns holds fit
  answers : ∀ writes, .disturb writes true ∈ turns → ∀ {m r}, holds m r →
    disturbed writes true r = disturbed writes false r
  fits : ∀ before, before <+: turns → (run before d).own.Fits fit

/-- A run that never reloads, or that reloads only what its repository can give back. -/
def Recoverable (turns : List Turn) (d : Desk Store) : Prop :=
  (∀ turn ∈ turns, turn.isReload = false) ∨ ∃ holds fit, Reloadable holds fit turns d

/-- A repository in memory can give back everything. -/
theorem Blank.recoverable (blank : Blank InMemory d) : Recoverable turns d := by
  refine .inr ⟨InMemory, fun _ => True, blank, Storage.returns_inMemory, ?_, ?_⟩
  · rintro writes - m _ ⟨memory, rfl, -⟩
    rfl
  · exact fun _ _ => ⟨fun _ => trivial, fun _ => trivial⟩

theorem Sound.disturb {writes : Storage.Space → Bool} {silent : Bool} (sound : Sound d) :
    Sound (Turn.after (.disturb writes silent) d) :=
  ⟨sound.keyed, sound.unused, sound.agrees, sound.positive⟩

/-- A sound store with a property of its own, whose repository mirrors it. -/
structure Recovered (holds : Plain → Repository → Prop) (Q : Store → Prop) (d : Desk Store) :
    Prop where
  sound : Sound d
  mirrored : ∃ m, Mirrored holds Describes DescribesAll m d
  own : Q d.own

/-- A property that moves and rereading preserve is preserved by every turn. -/
theorem Recovered.after (returns : Returns holds fit)
    (moves : ∀ {d d'}, Move d d' → Q d.own → Q d'.own)
    (rereads : ∀ {s s'}, Rewords s s' → Q s → Q s')
    (answers : ∀ writes, turn = .disturb writes true → ∀ {m r}, holds m r →
      disturbed writes true r = disturbed writes false r)
    (fits : (turn.after d).own.Fits fit) (recovered : Recovered holds Q d) :
    Recovered holds Q (turn.after d) := by
  obtain ⟨sound, ⟨m, mirrored⟩, own⟩ := recovered
  cases turn with
  | change c =>
    have row := c.moves d
    refine ⟨sound.moves row,
      mirrored.change returns tellsWritten_describes sound.positive c fits, ?_⟩
    exact moves_preserve moves row own
  | disturb writes silent =>
    refine ⟨sound.disturb, ⟨m, mirrored.disturb returns writes ?_⟩, own⟩
    cases silent with
    | false => rfl
    | true => exact answers writes rfl mirrored.repository
  | load =>
    obtain ⟨rewords, sound', mirrored'⟩ := mirrored.load returns sound
    exact ⟨sound', ⟨m, mirrored'⟩, rereads rewords own⟩
  | reload options versioning bound positive =>
    obtain ⟨rewords, sound', mirrored'⟩ := mirrored.reload positive returns sound
    exact ⟨sound', ⟨m, mirrored'⟩, rereads rewords own⟩

/-- A property that moves and rereading preserve is preserved by every run in which the repository
can give back what the store has. -/
theorem Recovered.run (returns : Returns holds fit)
    (moves : ∀ {d d'}, Move d d' → Q d.own → Q d'.own)
    (rereads : ∀ {s s'}, Rewords s s' → Q s → Q s')
    (answers : ∀ writes, .disturb writes true ∈ turns → ∀ {m r}, holds m r →
      disturbed writes true r = disturbed writes false r)
    (fits : ∀ before, before <+: turns → (run before d).own.Fits fit)
    (recovered : Recovered holds Q d) : Recovered holds Q (run turns d) := by
  refine turns_preserve (fun turn mem d fits recovered => ?_) fits recovered
  refine recovered.after returns moves rereads ?_ fits
  rintro writes rfl
  exact answers writes mem

/-- A property that moves and rereading preserve is preserved by every run that reloads only what
its repository can give back, and so is soundness. -/
theorem run_keeps (fresh : Fresh d) (recoverable : Recoverable turns d)
    (moves : ∀ {d d'}, Move d d' → Q d.own → Q d'.own)
    (rereads : ∀ {s s'}, Rewords s s' → Q s → Q s') (start : Q d.own) :
    Sound (run turns d) ∧ Q (run turns d).own := by
  rcases recoverable with never | ⟨holds, fit, reloadable⟩
  · refine run_preserves (P := fun d => Sound d ∧ Q d.own) ?_ ?_ ?_ ⟨fresh.sound, start⟩
    · exact fun move ⟨sound, own⟩ => ⟨sound.move move, moves move own⟩
    · exact fun ⟨sound, own⟩ => ⟨sound.disturb, own⟩
    · intro turn mem reload
      rw [never turn mem] at reload
      cases reload
  · have mirrored : Mirrored holds Describes DescribesAll .empty d :=
      fresh.mirrored reloadable.repository reloadable.clock
    have recovered := Recovered.run reloadable.returns moves rereads reloadable.answers
      reloadable.fits ⟨fresh.sound, ⟨_, mirrored⟩, start⟩
    exact ⟨recovered.sound, recovered.own⟩

/-- Every run leaves records and histories that agree, if it reloads only what its repository can
give back. -/
theorem run_sound (fresh : Fresh d) (recoverable : Recoverable turns d) : Sound (run turns d) :=
  (run_keeps (Q := fun _ => True) fresh recoverable (fun _ _ => trivial) (fun _ _ => trivial)
    trivial).1

/-! ### Look-ups by label -/

theorem find?_live (s : Store) (id : String) : s.find? id = s.live.get? id := by
  unfold find?
  cases s.live.get? id <;> rfl

/-- A version that has a template's label, text and declarations changes nothing of it. -/
theorem overlay_eq {t : Template} {v : Version} (label : v.label = t.version)
    (body : v.body = t.body) (declarations : v.declarations = t.declarations) :
    overlay t v = t := by
  rw [overlay, label, body, declarations]

/-- In every state that a run can reach, the labels of a history differ, the version with the label
of the live record has its text and declarations, and looking the template up by that label gives
nothing but the live record. -/
theorem live_label_names_live_record (fresh : Fresh d)
    (recoverable : Recoverable turns d) (id : String) :
    let s := (run turns d).own
    (s.history id).labels.Nodup ∧
      ∀ t, s.find? id = some t →
        (∀ v ∈ s.history id, v.label = t.version →
          v.body = t.body ∧ v.declarations = t.declarations) ∧
        ∀ t', s.find? id (some t.version) = some t' → t' = t := by
  intro s
  have agrees : Agrees (s.live.get? id) (s.history id) := (run_sound fresh recoverable).agrees id
  refine ⟨agrees.distinct, ?_⟩
  intro t found
  rw [find?_live] at found
  refine ⟨agrees.same t found, ?_⟩
  intro t' byLabel
  unfold find? at byLabel
  rw [found] at byLabel
  obtain ⟨v, first, rfl⟩ := Option.map_eq_some_iff.1 byLabel
  have mem : v ∈ s.history id := List.mem_of_find?_eq_some first
  have label : v.label = t.version := by simpa using List.find?_some first
  obtain ⟨body, declarations⟩ := agrees.same t found v mem label
  exact overlay_eq label body declarations

theorem emptyDesk_blank : Blank InMemory emptyDesk where
  toFresh := emptyDesk_fresh
  repository := Storage.inMemory_empty fun _ => ⟨rfl, rfl⟩
  clock := by
    intro time mem
    obtain rfl : time = ⟨0, none⟩ := List.mem_singleton.1 mem
    exact ⟨rfl, by decide⟩

/-- A run in which the caller takes the next label, an update is stored without its version, and the
store is loaded again before the next update. -/
def archivedRun : List Turn :=
  [.change (.create greeting), .change (.createVersion "tpl-1" "1.0.1" "archived"),
    .disturb (· = .versions) false, .change (.update "tpl-1" [("template", .text "Hello")] none),
    .disturb (fun _ => false) false, .load, .reload {} true 2 (by decide),
    .change (.update "tpl-1" [("template", .text "Hello again")] none)]

theorem live_label_names_live_record_archivedRun :
    let s := (run archivedRun emptyDesk).own
    (s.history "tpl-1").labels.Nodup ∧
      ∀ t, s.find? "tpl-1" = some t →
        (∀ v ∈ s.history "tpl-1", v.label = t.version →
          v.body = t.body ∧ v.declarations = t.declarations) ∧
        ∀ t', s.find? "tpl-1" (some t.version) = some t' → t' = t :=
  live_label_names_live_record emptyDesk_fresh emptyDesk_blank.recoverable "tpl-1"

end Store

end Promptuary
