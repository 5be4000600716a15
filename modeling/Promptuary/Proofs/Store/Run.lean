import Mathlib.Logic.Relation
import Promptuary.Proofs.Store.Change
import Promptuary.Store.Load

/-!
Runs of the store. A run is a list of turns: changes by callers, changes of the medium's mood, and
reloads. Every change is a row of moves, and a move does one of three things: it lets time pass, it
stores a record, or it adds a version of a live record to its history. What each move preserves,
every run preserves.
-/

namespace Promptuary

open Operation
open Storage (Repository Space)

namespace Store

/-! ### Changes and turns -/

/-- A change that a caller asks for. -/
inductive Change where
  | create (definition : Definition)
  | createFromData (data : Datum)
  | update (id : String) (updates : Fields) (changelog : Option String)
  | delete (id : String)
  | createVersion (id label changelog : String)

/-- Makes a change. -/
def Change.run : Change → Operation Store Unit
  | .create definition => discard (Store.create definition)
  | .createFromData data => discard (Store.createFromData data)
  | .update id updates changelog => discard (Store.update id updates changelog)
  | .delete id => discard (Store.delete id)
  | .createVersion id label changelog => discard (Store.createVersion id label changelog)

/-- A repository whose medium refuses to write to some spaces from now on, or does not answer. -/
def disturbed (writes : Space → Bool) (silent : Bool) (r : Repository) : Repository :=
  (r.refuse fun access space => access = .set && writes space).refuseAll silent

/-- What happens to a store from outside. -/
inductive Turn where
  | change (c : Change)
  /-- The medium refuses to write from now on, or writes again. -/
  | disturb (writes : Space → Bool) (silent : Bool)
  /-- The store loads what the repository has, on top of what it has itself. -/
  | load
  /-- A new store with settings of its own loads what the repository has. -/
  | reload (options : CompileOptions) (versioning : Bool) (bound : Nat) (positive : 1 ≤ bound)

/-- Whether a turn leaves the store's own state to the changes. -/
def Turn.isReload : Turn → Bool
  | .load => true
  | .reload .. => true
  | _ => false

/-- The desk after a turn. -/
def Turn.after : Turn → Desk Store → Desk Store
  | .change c, d => (c.run.on d).2
  | .disturb writes silent, d =>
    { d with shared := { d.shared with repository := disturbed writes silent d.shared.repository } }
  | .load, d => (Store.load.on d).2
  | .reload options versioning bound _, d =>
    (Store.load.on { d with own := { options, versioning, bound } }).2

/-- The desk after a run. -/
def run (turns : List Turn) (d : Desk Store) : Desk Store :=
  turns.foldl (fun d turn => turn.after d) d

/-- A desk at which nothing has happened yet. -/
structure Fresh (d : Desk Store) : Prop where
  live : d.own.live = []
  histories : d.own.histories = []
  announced : d.shared.announced = []
  positive : 1 ≤ d.own.bound

/-- A desk with an empty repository in memory and a clock that stands still. -/
def emptyDesk : Desk Store where
  own := { options := {}, versioning := true, bound := 2 }
  shared := { repository := .memory .empty, clock := .always ⟨0, none⟩ }

theorem emptyDesk_fresh : Fresh emptyDesk := ⟨rfl, rfl, rfl, by decide⟩

/-- A definition that can be stored. -/
def greeting : Definition where
  name := "Greeting"
  category := "test"
  body := "Hi"

/-! ### Moves -/

/-- Why a record is stored: it is new, or it comes from a live one. -/
inductive Admitted (t : Template) (d d' : Desk Store) : Prop where
  | new {time : Calendar.Moment} {definition : Definition} :
      time ∈ d.shared.clock.readings → d.shared.issued < d'.shared.issued →
      t = firstRecord (identifier (d.shared.issued + 1)) time definition → d.own.Accepts t →
      Admitted t d d'
  | revised {id : String} {updates : Fields} {old : Template} {label : String} :
      Revision d.own d.shared.clock.current id updates old t label → d.own.Accepts t →
      Admitted t d d'
  | retired {id : String} {old : Template} : d.own.live.get? id = some old →
      t = retired old d.shared.clock.current → Admitted t d d'

/-- What is announced of a version that is added. -/
def ofVersion : Notice → Bool
  | .versionCreated .. => true
  | .versionsPruned .. => true
  | _ => false

/-- What a change does, one thing after another. -/
inductive Move : Desk Store → Desk Store → Prop where
  | pass {d d' : Desk Store} {notices : List Notice} :
      d.Leads d' d.own d.shared.repository notices → (∀ n ∈ notices, ofVersion n = false) →
      Move d d'
  | save {d d' : Desk Store} {t : Template} {r : Repository} :
      Admitted t d d' → Saved t r d d' → Move d d'
  | keep {d d' : Desk Store} {id label changelog : String} {t : Template}
      {trimmed : History.Trimmed} {r : Repository} : d.own.live.get? id = some t →
      Versioned (snapshot t label changelog d.shared.clock.current) trimmed r d d' → Move d d'

/-- Moves one after another. -/
abbrev Moves : Desk Store → Desk Store → Prop := Relation.ReflTransGen Move

/-! ### Changes as moves -/

section

variable {α : Type} {d d₁ d' : Desk Store} {t : Template}

theorem moves_of_passes (passes : d.Passes d') : Moves d d' :=
  .single (.pass passes (by simp))

/-- A record that is stored after some time passed. -/
theorem Saved.after {r : Repository} (passes : d.Passes d₁) (saved : Saved t r d₁ d') :
    Saved t r d d' := by
  obtain ⟨stored, leads⟩ := saved
  rw [passes.repository] at stored
  rw [passes.own] at leads
  exact ⟨stored, passes.andLeads leads⟩

theorem Saved.live {r : Repository} (saved : Saved t r d d') : d'.own.live.get? t.id = some t := by
  rw [saved.leads.own]
  exact Entries.get?_put_self ..

/-- Storing a record with its version takes moves, if the record may be stored. -/
theorem Committed.moves {text : String} {notice : Notice} {result : Except Failure Template}
    (passes : d.Passes d₁) (admitted : ∀ {r d₂}, Saved t r d₁ d₂ → Admitted t d d₂)
    (plain : ofVersion notice = false) (committed : Committed t text notice d₁ result d') :
    Moves d d' := by
  cases committed with
  | unsaved _ unsaved => exact moves_of_passes (passes.trans unsaved)
  | halfway saved _ _ after =>
    have first : Moves d _ := .single (.save (admitted saved) (saved.after passes))
    exact first.trans (moves_of_passes after)
  | @whole r d₂ d₃ _ saved followed leads =>
    have first : Moves d d₂ := .single (.save (admitted saved) (saved.after passes))
    have last : Move d₃ d' := .pass leads (by simpa using plain)
    rcases followed with ⟨-, rfl⟩ | ⟨-, trimmed, r', versioned⟩
    · exact first.tail last
    · exact (first.tail (.keep saved.live versioned)).tail last

/-- Reporting failures adds a move at most. -/
theorem moves_report {op : Operation Store α} {id operation : String} {particulars : Fields}
    {r : Except Failure α} (moves : ∀ {r d'}, op.on d₁ = (r, d') → Moves d d')
    (ran : (onFailure (announceFailure id operation particulars) op).on d₁ = (r, d')) :
    Moves d d' := by
  rcases report_cases ran with ⟨a, -, succeeded⟩ | ⟨e, d₂, -, failed, leads⟩
  · exact moves succeeded
  · exact (moves failed).tail (.pass leads (by simp [ofVersion]))

theorem moves_createFrom {definition : Definition} (passes : d.Passes d₁)
    (issued : d₁.shared.issued = d.shared.issued + 1) {r : Except Failure Template}
    (ran : (createFrom (identifier (d.shared.issued + 1)) definition).on d₁ = (r, d')) :
    Moves d d' := by
  rcases createFrom_cases ran with ⟨e, -, after, -⟩ | ⟨d₂, drawn, committed⟩
  · exact moves_of_passes (passes.trans after)
  · have accepted := drawn.accepted
    rw [passes.own] at accepted
    refine committed.moves (passes.trans drawn.passes) ?_ rfl
    intro repository d₃ saved
    have reading := passes.clock.subset d₁.shared.clock.current_mem
    have later := Nat.le_trans drawn.passes.issued saved.leads.issued
    exact .new reading (by omega) rfl accepted

theorem moves_revise {id : String} {updates : Fields} {changelog : Option String}
    {r : Except Failure Template} (ran : (revise id updates changelog).on d = (r, d')) :
    Moves d d' := by
  rcases revise_cases ran with
    ⟨e, -, after, -⟩ | ⟨old, t, label, text, d₁, revision, drawn, committed⟩
  · exact moves_of_passes after
  · exact committed.moves drawn.passes (fun _ => .revised revision drawn.accepted) rfl

theorem moves_retire {id : String} {r : Except Failure Bool}
    (ran : (retire id).on d = (r, d')) : Moves d d' := by
  rcases retire_cases ran with after | ⟨old, repository, d₁, live, saved, -, leads⟩
  · exact moves_of_passes after
  · have first : Moves d d₁ := .single (.save (.retired live rfl) (saved.after d.passes_ticked))
    exact first.tail (.pass leads (by simp [ofVersion]))

theorem moves_version {id label changelog : String} {r : Except Failure Version}
    (ran : (require id >>= fun t => addVersion t label changelog).on d = (r, d')) : Moves d d' := by
  rcases on_bind_cases ran with ⟨e, failed, -⟩ | ⟨t, d₁, found, rest⟩
  · obtain ⟨rfl, -⟩ := require_spec failed
    exact .refl
  · obtain ⟨rfl, live⟩ := require_spec found
    rcases addVersion_cases t label changelog d with
      ⟨e, d₁, failed, -, passes⟩ | ⟨trimmed, repository, d₁, succeeded, versioned⟩
    · cases failed.symm.trans rest
      exact moves_of_passes passes
    · cases succeeded.symm.trans rest
      exact .single (.keep ((live t).1 rfl) versioned)

end

/-- An operation whose result is dropped leaves what it leaves, and fails as it fails. -/
theorem on_discard {α : Type} (op : Operation Store α) (d : Desk Store) :
    (discard op).on d = ((op.on d).1.map fun _ => (), (op.on d).2) := by
  have same : (discard op).on d = (op >>= fun _ => pure ()).on d := rfl
  rw [same, on_bind]
  rcases op.on d with ⟨e | a, d'⟩ <;> rfl

/-- An operation whose result is dropped fails only if it fails itself. -/
theorem on_of_discard {α : Type} {op : Operation Store α} {d d' : Desk Store} {e : Failure}
    (ran : (discard op).on d = (.error e, d')) : op.on d = (.error e, d') := by
  rw [on_discard] at ran
  rcases ended : op.on d with ⟨e' | a, d₂⟩
  · rw [ended] at ran
    cases ran
    rfl
  · rw [ended] at ran
    cases ran

/-- An operation whose result is dropped succeeds only if it does so itself. -/
theorem exists_of_discard {α : Type} {op : Operation Store α} {d d' : Desk Store}
    (ran : (discard op).on d = (.ok (), d')) : ∃ a, op.on d = (.ok a, d') := by
  rw [on_discard] at ran
  rcases ended : op.on d with ⟨e | a, d₂⟩
  · rw [ended] at ran
    cases ran
  · rw [ended] at ran
    cases ran
    exact ⟨a, rfl⟩

/-- Every change is a row of moves. -/
theorem Change.moves (c : Change) (d : Desk Store) : Moves d (c.run.on d).2 := by
  obtain ⟨d₁, issued, passes, count, -⟩ := issue_passes d
  cases c with
  | create definition =>
    rw [run, on_discard, Store.create, on_bind_ok issued]
    exact moves_report (moves_createFrom passes count) rfl
  | createFromData data =>
    rw [run, on_discard, Store.createFromData, on_bind_ok issued]
    refine moves_report ?_ rfl
    intro r d' ran
    rcases on_bind_cases ran with ⟨e, failed, -⟩ | ⟨definition, d₂, read, rest⟩
    · obtain ⟨rfl, -⟩ := readAs_spec failed
      exact moves_of_passes passes
    · obtain ⟨rfl, -⟩ := readAs_spec read
      exact moves_createFrom passes count rest
  | update id updates changelog =>
    rw [run, on_discard]
    exact moves_report moves_revise rfl
  | delete id =>
    rw [run, on_discard]
    exact moves_report moves_retire rfl
  | createVersion id label changelog =>
    rw [run, on_discard]
    exact moves_report moves_version rfl

/-! ### What runs preserve -/

/-- What every move preserves, a row of moves preserves. -/
theorem moves_preserve {P : Desk Store → Prop} {d d' : Desk Store}
    (moves : ∀ {d d'}, Move d d' → P d → P d') (row : Moves d d') (start : P d) : P d' := by
  induction row with
  | refl => exact start
  | tail _ move holds => exact moves move holds

/-- What each turn preserves after which the store is as it should be, a run preserves during which
it always is. -/
theorem turns_preserve {P : Desk Store → Prop} {Q : Store → Prop} {turns : List Turn}
    {d : Desk Store} (each : ∀ turn ∈ turns, ∀ d, Q (turn.after d).own → P d → P (turn.after d))
    (always : ∀ before, before <+: turns → Q (run before d).own) (start : P d) :
    P (run turns d) := by
  induction turns generalizing d with
  | nil => exact start
  | cons turn turns ih =>
    have first : Q (turn.after d).own :=
      always [turn] (List.cons_prefix_cons.2 ⟨rfl, List.nil_prefix⟩)
    refine ih (fun other mem => each other (List.mem_cons_of_mem _ mem)) ?_ ?_
    · exact fun before within => always (turn :: before) (List.cons_prefix_cons.2 ⟨rfl, within⟩)
    · exact each turn List.mem_cons_self d first start

/-- What every move, every mood of the medium and every reload preserves, every run preserves. -/
theorem run_preserves {P : Desk Store → Prop} {turns : List Turn} {d : Desk Store}
    (moves : ∀ {d d'}, Move d d' → P d → P d')
    (disturbs : ∀ {writes silent d}, P d → P (Turn.after (.disturb writes silent) d))
    (reloads : ∀ turn ∈ turns, turn.isReload = true → ∀ d, P d → P (turn.after d))
    (start : P d) : P (run turns d) := by
  refine turns_preserve (Q := fun _ => True) ?_ (fun _ _ => trivial) start
  intro turn mem d _ holds
  cases turn with
  | change c => exact moves_preserve moves (c.moves d) holds
  | disturb writes silent => exact disturbs holds
  | load => exact reloads _ mem rfl d holds
  | reload options versioning bound positive => exact reloads _ mem rfl d holds

end Store

end Promptuary
