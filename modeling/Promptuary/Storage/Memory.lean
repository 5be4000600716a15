import Promptuary.Failure
import Promptuary.Storage.Space

/-!
A repository in memory. Documents are copied on their way in and on their way out, which takes calls
that lie in one another; keys are listed in the order of entry. The medium can refuse any kind of
access to any space.
-/

namespace Promptuary.Storage

/-- The kinds of access that a medium can refuse. -/
inductive Access where
  | get | set | list
deriving DecidableEq, Repr

/-- A repository in memory. -/
structure Memory where
  documents : Spaces Datum
  /-- Which access to which space the medium refuses. -/
  refuses : Access → Space → Bool

namespace Memory

/-- An empty repository that refuses nothing. -/
def empty : Memory := ⟨.empty, fun _ _ => false⟩

/-- Fails if the medium refuses an access. -/
def allow (m : Memory) (access : Access) (space : Space) : Except Failure Unit :=
  if m.refuses access space then .error .disk else .ok ()

/-- The copy of a document, if there is room for the calls that it takes. -/
def copy (limit : Nat) (document : Datum) : Except Failure Datum :=
  if document.copyCalls ≤ limit then .ok document else .error .tooManyCalls

/-- The document of a key; null if there is none. Copying it takes calls up to a limit. -/
def get (m : Memory) (space : Space) (key : String) (limit : Nat := Datum.callLimit) :
    Except Failure Datum := do
  m.allow .get space
  copy limit (((m.documents space).get? key).getD .null)

/-- Stores a document in the place of an earlier one. Copying it takes calls up to a limit. -/
def set (m : Memory) (space : Space) (key : String) (document : Datum)
    (limit : Nat := Datum.callLimit) : Except Failure Memory := do
  m.allow .set space
  let document ← copy limit document
  return { m with documents := m.documents.modify space (·.put key document) }

/-- Removes the document of a key, and says whether there was one that is not null. -/
def delete (m : Memory) (space : Space) (key : String) : Bool × Memory :=
  let found := match (m.documents space).get? key with
    | some .null => false
    | some _ => true
    | none => false
  (found, { m with documents := m.documents.modify space (·.erase key) })

/-- The keys of a space. -/
def keys (m : Memory) (space : Space) : Except Failure (List String) := do
  m.allow .list space
  return (m.documents space).keys

end Memory

end Promptuary.Storage
