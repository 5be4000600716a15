import Promptuary.Event.Notice
import Promptuary.Failure
import Promptuary.Script
import Promptuary.Storage.Repository

/-!
Operations of the parts of an engine. An operation changes the state of its part and of what all
parts share, and what it changed before it failed stays changed.
-/

namespace Promptuary

open Calendar (Moment)
open Storage (Repository Space)

/-- An announcement with the time at which it was made. -/
structure Announcement where
  notice : Notice
  time : Moment

/-- What the parts of an engine share. -/
structure Shared where
  repository : Repository
  /-- The readings of the clock. -/
  clock : Script Moment
  /-- What was announced so far, the first announcement first. -/
  announced : List Announcement := []
  /-- How many identifiers of templates were given out. -/
  issued : Nat := 0
  /-- How often an operation had to wait for files. -/
  waits : Nat := 0

/-- The state of a part and what it shares with the others. -/
structure Desk (σ : Type) where
  own : σ
  shared : Shared

/-- An operation of a part. -/
abbrev Operation (σ α : Type) := ExceptT Failure (StateM (Desk σ)) α

namespace Operation

variable {σ α : Type}

/-- Runs an operation. -/
def on (op : Operation σ α) (d : Desk σ) : Except Failure α × Desk σ := op.run.run d

/-- The state of the part. -/
def own : Operation σ σ := return (← get).own

/-- Changes the state of the part. -/
def change (f : σ → σ) : Operation σ Unit := modify fun d => { d with own := f d.own }

/-- Reads the clock. -/
def now : Operation σ Moment := do
  let d ← get
  set { d with shared := { d.shared with clock := d.shared.clock.rest } }
  return d.shared.clock.current

/-- Announces something. -/
def announce (notice : Notice) : Operation σ Unit := do
  let time ← now
  modify fun d =>
    { d with shared := { d.shared with announced := d.shared.announced ++ [⟨notice, time⟩] } }

/-- Gives out an identifier. -/
def issue : Operation σ String := do
  modify fun d => { d with shared := { d.shared with issued := d.shared.issued + 1 } }
  return s!"tpl-{(← get).shared.issued}"

/-- A result or a failure. -/
def attempt (r : Except Failure α) : Operation σ α := ExceptT.mk (pure r)

/-! ### Documents -/

/-- Counts the wait for an access to a key, or to all keys, if there is one. -/
def await (key : Option String) : Operation σ Unit :=
  modify fun d =>
    if d.shared.repository.isWaitedFor key then
      { d with shared := { d.shared with waits := d.shared.waits + 1 } }
    else d

/-- Puts a repository in the place of the one before. -/
def useRepository (repository : Repository) : Operation σ Unit :=
  modify fun d => { d with shared := { d.shared with repository } }

/-- The document of a key; null if there is none. -/
def fetch (space : Space) (key : String) : Operation σ Datum := do
  await key
  attempt ((← get).shared.repository.get space key)

/-- Stores a document. -/
def store (space : Space) (key : String) (document : Datum) : Operation σ Unit := do
  await key
  useRepository (← attempt ((← get).shared.repository.set space key document))

/-- Removes a document, and says whether there was one. -/
def remove (space : Space) (key : String) : Operation σ Bool := do
  await key
  let (found, repository) ← attempt ((← get).shared.repository.delete space key)
  useRepository repository
  return found

/-- The keys of a space. -/
def keys (space : Space) : Operation σ (List String) := do
  await none
  attempt ((← get).shared.repository.keys space)

/-! ### Failures and parts -/

/-- Does something about the failure of an operation and lets it pass on. -/
def onFailure (react : Failure → Operation σ Unit) (op : Operation σ α) : Operation σ α :=
  tryCatch op fun e => do
    react e
    throw e

/-- An operation of a part as one of a whole that holds it. -/
def within {τ : Type} (get : τ → σ) (set : σ → τ → τ) (op : Operation σ α) : Operation τ α :=
  ExceptT.mk fun d =>
    let (r, d') := op.on ⟨get d.own, d.shared⟩
    (r, ⟨set d'.own d.own, d'.shared⟩)

end Operation

end Promptuary
