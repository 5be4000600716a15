import Promptuary.Failure
import Promptuary.Json.Writer
import Promptuary.Storage.Space

/-!
A repository in files: a directory for each space, and in it a file of JSON text for each key. A key
has to be fit for the name of a file; of a key with a null character no file can be made. Keys are
listed in sorted order.
-/

namespace Promptuary.Storage

/-- A repository in files. -/
structure Folder where
  /-- The directory that holds everything, as messages name it. -/
  directory : String
  /-- The texts of the files. -/
  files : Spaces String

namespace Folder

/-- Whether a key is fit for the name of a file. -/
def isValidKey (key : String) : Bool :=
  !key.isEmpty && !key.contains '/' && !key.contains '\\' && !key.startsWith "."

/-- The path of a space. -/
def spacePath (f : Folder) (space : Space) : String := f.directory ++ "/" ++ space.name

/-- The path of a key. -/
def path (f : Folder) (space : Space) (key : String) : String :=
  f.spacePath space ++ "/" ++ key ++ ".json"

/-- A failure that concerns a key. -/
def failure (space : Space) (key message : String) : Failure :=
  .storage message (some space.name) (some key)

/-- Fails if a key is not fit for the name of a file. -/
def checkKey (space : Space) (key : String) : Except Failure Unit :=
  if isValidKey key then .ok ()
  else .error (failure space key ("Invalid key: " ++ Text.quoted key))

/-- A text with one kind of line end. -/
def unifyLineEnds : List Char → List Char
  | '\r' :: '\n' :: rest => '\n' :: unifyLineEnds rest
  | '\r' :: rest => '\n' :: unifyLineEnds rest
  | c :: rest => c :: unifyLineEnds rest
  | [] => []

/-- The text of a file as it is read. -/
def text? (f : Folder) (space : Space) (key : String) : Option String :=
  ((f.files space).get? key).map fun text => String.ofList (unifyLineEnds text.toList)

/-- The document of a key; null if there is none. Its containers may lie in one another up to a
limit. -/
def get (f : Folder) (space : Space) (key : String) (limit : Nat := Datum.callLimit) :
    Except Failure Datum := do
  checkKey space key
  match f.text? space key with
  | none => return .null
  | some text =>
    match Json.parse text limit with
    | .ok document => return document
    | .error (.tooDeep container) => throw (.document (.tooDeep container))
    | .error e =>
      throw (failure space key s!"Failed to read {f.path space key}: {e.message}")

/-- Stores a document in the place of an earlier one. Its containers may lie in one another up to a
limit. -/
def set (f : Folder) (space : Space) (key : String) (document : Datum)
    (limit : Nat := Datum.callLimit) : Except Failure Folder := do
  checkKey space key
  let refused (reason : String) : Failure :=
    failure space key s!"Failed to write {f.path space key}: {reason}"
  if key.contains '\x00' then throw (refused "embedded null byte")
  match Json.print .page document limit with
  | .ok text => return { f with files := f.files.modify space (·.put key text) }
  | .error .tooDeep => throw .tooManyCalls
  | .error e => throw (refused e.message)

/-- Removes the document of a key, and says whether there was one. -/
def delete (f : Folder) (space : Space) (key : String) : Except Failure (Bool × Folder) := do
  checkKey space key
  return ((f.files space).has key, { f with files := f.files.modify space (·.erase key) })

/-- The key that a file is listed under. A file with nothing but an ending is listed by its whole
name. -/
def listed (key : String) : String := if key.isEmpty then ".json" else key

/-- The keys of a space. -/
def keys (f : Folder) (space : Space) : List String :=
  ((f.files space).keys.map listed).mergeSort fun a b => !(b < a)

end Folder

end Promptuary.Storage
