import Promptuary.Proofs.Store.Conservation
import Promptuary.Proofs.Template.Valid

/-!
Templates that a store gives. A record is checked before it is stored and a version is taken from a
live record, so that a live record is valid, and so is a version of it: its name and category are
those of the live record, its text and declarations those of a record that was live. Main statement:
in every state that a run of changes can reach, whatever the medium refuses to write, every template
that can be looked up is valid (`find?_valid`).
-/

namespace Promptuary

namespace Store

variable {turns : List Turn} {d d' : Desk Store} {o : CompileOptions} {s : Store} {t : Template}
  {v : Version} {id : String}

/-! ### Records -/

theorem accepts_iff : s.Accepts t ↔ t.Valid s.options := exists_valid_verdict_iff

theorem retired_valid (valid : t.Valid o) (time : Calendar.Moment) : (retired t time).Valid o :=
  { valid with }

/-- Whether a version has the text and the declarations of a valid template. -/
def FromValid (o : CompileOptions) (v : Version) : Prop :=
  ∃ t : Template, t.Valid o ∧ v.body = t.body ∧ v.declarations = t.declarations

/-- The text and declarations of a valid template stay valid under the name and category of
another one. -/
theorem overlay_valid (live : t.Valid o) (valid : FromValid o v) : (overlay t v).Valid o := by
  obtain ⟨u, valid, body, declarations⟩ := valid
  refine ⟨live.name, ?_, live.category, ?_, ?_, ?_, ?_⟩
  · change Text.isAllBlank v.body = false
    rw [body]
    exact valid.body
  all_goals
    simp only [overlay, body, declarations]
  · exact valid.named
  · exact valid.distinct
  · exact valid.defaults
  · exact valid.compiles

/-- A store whose records are valid, and whose versions come from valid records. -/
structure AllValid (o : CompileOptions) (s : Store) : Prop where
  options : s.options = o
  live : ∀ {id t}, s.live.get? id = some t → t.Valid o
  versions : ∀ id, ∀ v ∈ s.history id, FromValid o v

/-- Every template that such a store gives is valid. -/
theorem AllValid.find? (all : AllValid o s) {label : Option String}
    (found : s.find? id label = some t) : t.Valid o := by
  unfold Store.find? at found
  cases live : s.live.get? id with
  | none =>
    rw [live] at found
    cases found
  | some u =>
    rw [live] at found
    cases label with
    | none =>
      cases found
      exact all.live live
    | some label =>
      obtain ⟨v, first, rfl⟩ := Option.map_eq_some_iff.1 found
      exact overlay_valid (all.live live) (all.versions id v (List.mem_of_find?_eq_some first))

/-! ### Moves -/

theorem Fresh.allValid (fresh : Fresh d) : AllValid d.own.options d.own where
  options := rfl
  live := by
    intro id t live
    rw [fresh.live] at live
    cases live
  versions := by
    intro id v mem
    rw [history, fresh.histories] at mem
    exact absurd mem List.not_mem_nil

/-- A record that may be stored is valid. -/
theorem Admitted.valid (admitted : Admitted t d d') (all : AllValid o d.own) : t.Valid o := by
  cases admitted with
  | new _ _ _ accepted => exact all.options ▸ accepts_iff.1 accepted
  | revised _ accepted => exact all.options ▸ accepts_iff.1 accepted
  | retired live same =>
    subst same
    exact retired_valid (all.live live) _

theorem AllValid.putLive (all : AllValid o s) (valid : t.Valid o) : AllValid o (s.putLive t) where
  options := all.options
  live := by
    intro id u live
    rw [live_putLive] at live
    split at live
    · cases live
      exact valid
    · exact all.live live
  versions := all.versions

theorem AllValid.putHistory {h : History} (all : AllValid o s) (valid : ∀ v ∈ h, FromValid o v) :
    AllValid o (s.putHistory id h) where
  options := all.options
  live := all.live
  versions := by
    intro id' v mem
    rw [history_putHistory] at mem
    split at mem
    · exact valid v mem
    · exact all.versions id' v mem

theorem AllValid.move (move : Move d d') (all : AllValid o d.own) : AllValid o d'.own := by
  cases move with
  | pass leads _ =>
    rw [leads.own]
    exact all
  | save admitted saved =>
    rw [saved.leads.own]
    exact all.putLive (admitted.valid all)
  | keep live versioned =>
    rw [versioned.leads.own]
    refine all.putHistory ?_
    intro v mem
    have added := (History.trim_perm versioned.added).subset (List.mem_append_right _ mem)
    rcases List.mem_append.1 added with old | new
    · exact all.versions _ v old
    · cases List.mem_singleton.1 new
      exact ⟨_, all.live live, rfl, rfl⟩

/-! ### Runs -/

/-- In every state that a run of changes can reach from an empty store, whatever the medium refuses
to write, every template that can be looked up, by its identifier alone or with the label of a
version, is valid. -/
theorem find?_valid (fresh : Fresh d) (changes : ∀ turn ∈ turns, turn.isReload = false)
    (id : String) (label : Option String) (t : Template)
    (found : (run turns d).own.find? id label = some t) : t.Valid d.own.options := by
  have all : AllValid d.own.options (run turns d).own := by
    refine run_preserves (P := fun e => AllValid d.own.options e.own) ?_ ?_ ?_ fresh.allValid
    · intro e e' move all
      exact all.move move
    · intro writes silent e all
      exact all
    · intro turn mem reload
      rw [changes turn mem] at reload
      cases reload
  exact all.find? found

theorem find?_valid_hinderedRun :
    (∃ t, (run hinderedRun emptyDesk).own.find? "tpl-1" (some "pinned") = some t) ∧
      ∀ t, (run hinderedRun emptyDesk).own.find? "tpl-1" (some "pinned") = some t → t.Valid {} := by
  constructor
  · refine Option.isSome_iff_exists.1 ?_
    decide +kernel
  · have changes : ∀ turn ∈ hinderedRun, turn.isReload = false := by
      simp [hinderedRun, Turn.isReload]
    intro t found
    exact find?_valid emptyDesk_fresh changes "tpl-1" (some "pinned") t found

end Store

end Promptuary
