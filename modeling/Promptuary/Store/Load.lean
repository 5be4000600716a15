import Promptuary.Store.Basic

/-!
Loading the store from its repository. Documents are read one after another, templates first; the
first one that cannot be read ends the loading, and what was read before it stays.
-/

namespace Promptuary

open Operation

namespace Store

/-- Reads data by a shape. -/
def readStored {α : Type} (shape : Schema.Shape α) (d : Datum) : Operation Store α :=
  attempt ((shape d).toExcept.mapError .schema)

/-- The identifier for a record that has none of its own. -/
def freshId (document : Datum) : Operation Store String :=
  match document with
  | .object fields => if Entries.has fields "id" then pure "" else issue
  | _ => pure ""

/-- Loads the live record of a key. -/
def loadTemplate (key : String) : Operation Store Unit := do
  let document ← fetch .templates key
  if document.isPresent then
    let id ← freshId document
    let t ← readStored (Template.shape id (← get).shared.clock.current) document
    change (putLive t)

/-- Loads the history of a key. -/
def loadHistory (key : String) : Operation Store Unit := do
  let document ← fetch .versions key
  if document.isPresent then
    let shape := Schema.list (Version.shape (← get).shared.clock.current)
    change (putHistory key (← readStored shape document))

/-- Loads everything, as far as it can be read. -/
def load : Operation Store Unit :=
  tryCatch
    (do
      for key in ← keys .templates do
        loadTemplate key
      for key in ← keys .versions do
        loadHistory key)
    fun _ => pure ()

end Store

end Promptuary
