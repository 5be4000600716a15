import Promptuary.Document
import Promptuary.Operation
import Promptuary.Store.History

/-!
The store of templates: the live record of each template and the history of its versions. Both are
kept in the store's own state and as documents in the repository.
-/

namespace Promptuary

open Storage (Space)

/-- A store of templates. -/
structure Store where
  /-- How templates are compiled. -/
  options : CompileOptions
  /-- Whether every change makes a version. -/
  versioning : Bool
  /-- How many versions of a template are kept. -/
  bound : Nat
  /-- The live records. -/
  live : Entries String Template := []
  histories : Entries String History := []

namespace Store

/-- The history of a template. -/
def history (s : Store) (id : String) : History := (s.histories.get? id).getD []

/-- A template with the text and declarations of one of its versions. -/
def overlay (t : Template) (v : Version) : Template :=
  { t with body := v.body, declarations := v.declarations, version := v.label }

/-- A template by its identifier: the live record, or with a label its text at that version. -/
def find? (s : Store) (id : String) (label : Option String := none) : Option Template :=
  match s.live.get? id, label with
  | none, _ => none
  | some t, none => some t
  | some t, some label => ((s.history id).find? label).map (overlay t)

/-- A store without its records. -/
def cleared (s : Store) : Store := { s with live := [], histories := [] }

/-- Puts a live record into the store's state. -/
def putLive (t : Template) (s : Store) : Store := { s with live := s.live.put t.id t }

/-- Puts a history into the store's state. -/
def putHistory (id : String) (h : History) (s : Store) : Store :=
  { s with histories := s.histories.put id h }

/-- A history as a document. -/
def historyDocument (h : History) : Except Failure Datum := documentOfAll Version.document h

open Operation

/-- The live record of a template, or a failure. -/
def require (id : String) : Operation Store Template := do
  match (← own).live.get? id with
  | some t => return t
  | none => throw (.notFound id none)

/-- Announces that an operation on a template failed. -/
def announceFailure (id operation : String) (particulars : Fields := []) (e : Failure) :
    Operation Store Unit :=
  announce (.failed id operation e.message particulars)

/-- Writes a live record as a document and into the store's state. -/
def save (t : Template) : Operation Store Unit := do
  store .templates t.id (← attempt t.document)
  change (putLive t)

end Store

end Promptuary
