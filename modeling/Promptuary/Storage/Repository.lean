import Promptuary.Storage.Folder
import Promptuary.Storage.Memory
import Promptuary.Storage.Redis

/-!
Repositories: one way to keep documents, in memory, in files or on a server. An access that fails
leaves the repository as it was.
-/

namespace Promptuary.Storage

/-- A repository. -/
inductive Repository where
  | memory (m : Memory)
  | folder (f : Folder)
  | redis (r : Redis)

namespace Repository

/-- The document of a key; null if there is none. The calls that it takes may lie in one another up
to a limit. -/
def get (r : Repository) (space : Space) (key : String) (limit : Nat := Datum.callLimit) :
    Except Failure Datum :=
  match r with
  | .memory m => m.get space key limit
  | .folder f => f.get space key limit
  | .redis r => r.get space key limit

/-- Stores a document in the place of an earlier one. The calls that it takes may lie in one another
up to a limit. -/
def set (r : Repository) (space : Space) (key : String) (document : Datum)
    (limit : Nat := Datum.callLimit) : Except Failure Repository :=
  match r with
  | .memory m => (m.set space key document limit).map .memory
  | .folder f => (f.set space key document limit).map .folder
  | .redis r => (r.set space key document limit).map .redis

/-- Removes the document of a key, and says whether there was one. -/
def delete (r : Repository) (space : Space) (key : String) : Except Failure (Bool × Repository) :=
  match r with
  | .memory m =>
    let (found, m) := m.delete space key
    .ok (found, .memory m)
  | .folder f => (f.delete space key).map fun (found, f) => (found, .folder f)
  | .redis r => (r.delete space key).map fun (found, r) => (found, .redis r)

/-- The keys of a space. -/
def keys (r : Repository) (space : Space) : Except Failure (List String) :=
  match r with
  | .memory m => m.keys space
  | .folder f => .ok (f.keys space)
  | .redis r => r.keys space

/-- Whether an access to a key, or to all keys, has to be waited for. Files have to be, unless the
key is not fit for the name of one. -/
def isWaitedFor (r : Repository) (key : Option String) : Bool :=
  match r, key with
  | .folder _, some key => Folder.isValidKey key
  | .folder _, none => true
  | _, _ => false

/-- Makes sure that the repository can be reached. -/
def connect : Repository → Except Failure Unit
  | .memory _ => .ok ()
  | .folder _ => .ok ()
  | .redis r => r.connect

/-- Lets go of the repository. -/
def close : Repository → Repository
  | .memory m => .memory m
  | .folder f => .folder f
  | .redis r => .redis { r with connected := false }

/-- The same documents behind a new client. -/
def reopen : Repository → Repository
  | .redis r => .redis { r with connected := true }
  | r => r

/-! ### The medium -/

/-- The stored text of a key, where documents are kept as text. -/
def text? (r : Repository) (space : Space) (key : String) : Option String :=
  match r with
  | .memory _ => none
  | .folder f => f.text? space key
  | .redis r => r.texts.get? (Redis.fullKey space key)

/-- Puts a text in the place of a document, where documents are kept as text. -/
def putText (r : Repository) (space : Space) (key text : String) : Repository :=
  match r with
  | .memory m => .memory m
  | .folder f => .folder { f with files := f.files.modify space (·.put key text) }
  | .redis r => .redis { r with texts := r.texts.put (Redis.fullKey space key) text }

/-- Makes the medium refuse access from now on. -/
def refuse (r : Repository) (refuses : Access → Space → Bool) : Repository :=
  match r with
  | .memory m => .memory { m with refuses }
  | r => r

/-- Makes a server refuse to answer, or answer again. -/
def refuseAll (r : Repository) (refuses : Bool) : Repository :=
  match r with
  | .redis r => .redis { r with refuses }
  | r => r

end Repository

end Promptuary.Storage
