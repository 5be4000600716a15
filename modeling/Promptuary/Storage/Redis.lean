import Promptuary.Failure
import Promptuary.Json.Writer
import Promptuary.Storage.Space

/-!
A repository in a Redis server, where every document is JSON text under a key that names its space.
Keys are listed in sorted order. The client can be gone, and the server can refuse to answer.
-/

namespace Promptuary.Storage

/-- A repository in a Redis server. -/
structure Redis where
  /-- The texts on the server. -/
  texts : Entries String String
  /-- Whether there is a client. -/
  connected : Bool
  /-- Whether the server refuses to answer. -/
  refuses : Bool

namespace Redis

/-- What the keys of a space start with. -/
def keyStart (space : Space) : String := "promptops:" ++ space.name ++ ":"

/-- The key on the server. -/
def fullKey (space : Space) (key : String) : String := keyStart space ++ key

/-- Fails without a client. -/
def require (r : Redis) : Except Failure Unit :=
  if r.connected then .ok ()
  else .error (.storage "Redis repository is not connected" none none)

/-- Fails if the server refuses to answer. -/
def call (r : Redis) (what : String) (space key : Option String) : Except Failure Unit :=
  if r.refuses then .error (.storage s!"Redis {what} failed: refused" space key) else .ok ()

/-- Makes sure that the server answers. -/
def connect (r : Redis) : Except Failure Unit :=
  if r.connected then r.call "connection" none none
  else .error (.storage "Redis connection failed: refused" none none)

/-- The document of a key; null if there is none. Its containers may lie in one another up to a
limit. -/
def get (r : Redis) (space : Space) (key : String) (limit : Nat := Datum.callLimit) :
    Except Failure Datum := do
  r.require
  r.call "get" (some space.name) (some key)
  match r.texts.get? (fullKey space key) with
  | none => return .null
  | some text => (Json.parse text limit).mapError .document

/-- Stores a document in the place of an earlier one. Its containers may lie in one another up to a
limit. -/
def set (r : Redis) (space : Space) (key : String) (document : Datum)
    (limit : Nat := Datum.callLimit) : Except Failure Redis := do
  r.require
  match Json.print .line document limit with
  | .error e =>
    throw (.storage s!"Redis set failed: {e.message}" (some space.name) (some key))
  | .ok text =>
    r.call "set" (some space.name) (some key)
    return { r with texts := r.texts.put (fullKey space key) text }

/-- Removes the document of a key, and says whether there was one. -/
def delete (r : Redis) (space : Space) (key : String) : Except Failure (Bool × Redis) := do
  r.require
  r.call "delete" (some space.name) (some key)
  let full := fullKey space key
  return (r.texts.has full, { r with texts := r.texts.erase full })

/-- The part of a key on the server that follows the name of a space. -/
def keyIn? (space : Space) (full : String) : Option String :=
  let start := (keyStart space).toList
  if start.isPrefixOf full.toList then some (String.ofList (full.toList.drop start.length))
  else none

/-- The keys of a space. -/
def keys (r : Redis) (space : Space) : Except Failure (List String) := do
  r.require
  r.call "scan" (some space.name) none
  return (r.texts.keys.filterMap (keyIn? space)).mergeSort fun a b => !(b < a)

end Redis

end Promptuary.Storage
