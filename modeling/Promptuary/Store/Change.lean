import Promptuary.Store.Basic

/-!
Changes of the store: creating, updating and deleting templates, and making versions of them. Every
change checks the whole template first; a change that fails is announced as such.
-/

namespace Promptuary

open Storage (Space)
open Operation

namespace Store

/-! ### Validity -/

/-- The failure that lists what is wrong. -/
def invalid (id : String) (problems : List String) : Failure :=
  .validation ("Template validation failed: " ++ ", ".intercalate problems) problems (some id)

/-- Reads data by a shape; issues become a failure to validate. -/
def readAs {α : Type} (id : String) (shape : Schema.Shape α) (d : Datum) : Operation Store α :=
  match shape d with
  | .valid a => pure a
  | .faulty issues => throw (invalid id (issues.map Schema.Issue.message))

/-- Makes sure that a template is valid. -/
def ensureValid (t : Template) : Operation Store Unit := do
  match t.validateSelf (← own).options with
  | .error e => throw (.check e)
  | .ok verdict => if verdict.isValid then pure () else throw (invalid t.id verdict.errors)

/-! ### Versions -/

/-- Makes a version of a template and adds it to the history. An empty label stands for the
template's own. -/
def addVersion (t : Template) (label changelog : String) : Operation Store Version := do
  let label := if label.isEmpty then t.version else label
  let history := (← own).history t.id
  if history.labels.contains label then throw (.conflict t.id label)
  let version : Version :=
    { templateId := t.id, label, body := t.body, declarations := t.declarations, changelog,
      createdAt := ← now, createdBy := t.createdBy }
  let trimmed ← attempt ((history.add (← own).bound version).mapError .calendar)
  store .versions t.id (← attempt (historyDocument trimmed.kept))
  change (putHistory t.id trimmed.kept)
  if !trimmed.dropped.isEmpty then
    announce (.versionsPruned t.id (trimmed.dropped.map (·.label)))
  announce (.versionCreated t.id label changelog)
  return version

/-- Makes a version of a template if the store does so with every change. -/
def addVersionOfChange (t : Template) (changelog : String) : Operation Store Unit := do
  if (← own).versioning then discard (addVersion t t.version changelog)

/-- Makes a version of a live template under a label of the caller's. -/
def createVersion (id label changelog : String) : Operation Store Version :=
  onFailure (announceFailure id "create_version" [("version", .text label)]) do
    addVersion (← require id) label changelog

/-! ### Templates -/

/-- A declaration whose data of the caller's own are in the form for merging. -/
def plainVariable (x : Variable) : Variable :=
  { x with
    default := x.default.map Datum.unfolded
    constraints := x.constraints.map fun c =>
      { c with options := c.options.map (·.map Datum.unfolded) } }

/-- The first record of a template. -/
def firstRecord (id : String) (now : Calendar.Moment) (d : Definition) : Template :=
  { id, name := d.name, description := d.description, category := d.category, body := d.body,
    declarations := d.declarations.map plainVariable, version := Label.initial, isActive := true,
    createdAt := now, updatedAt := now, createdBy := d.createdBy, tags := d.tags.eraseDups,
    metadata := d.metadata.map fun (key, x) => (key, x.unfolded) }

/-- Creates a template from a definition. -/
def createFrom (id : String) (d : Definition) : Operation Store Template := do
  let t := firstRecord id (← now) d
  ensureValid t
  save t
  addVersionOfChange t "Initial version"
  announce (.templateCreated t.id t.name t.version)
  return t

/-- Creates a template from a definition. -/
def create (d : Definition) : Operation Store Template := do
  let id ← issue
  onFailure (announceFailure id "create") (createFrom id d)

/-- Creates a template from the data of a definition. -/
def createFromData (d : Datum) : Operation Store Template := do
  let id ← issue
  onFailure (announceFailure id "create") do
    createFrom id (← readAs id Definition.shape d)

/-- The fields that an update cannot change. -/
def protectedFields : List String := ["id", "version", "created_at", "updated_at"]

/-- The fields of a record with those of an update in their place. -/
def merge (t : Template) (label : String) (now : Calendar.Moment) (updates : Fields) : Fields :=
  let free := updates.filter fun (key, _) => !protectedFields.contains key
  let own : Fields :=
    [("id", .text t.id), ("version", .text label), ("created_at", .moment t.createdAt),
     ("updated_at", .moment now)]
  (free ++ own).foldl (fun fields (key, d) => fields.put key d) (t.fields .merged)

/-- Updates a template with the fields of an object. The new label is the first successor of the
old one that the history does not have. -/
def update (id : String) (updates : Fields) (changelog : Option String := none) :
    Operation Store Template :=
  onFailure (announceFailure id "update") do
    let t ← require id
    let label ← attempt
      ((Label.nextFree ((← own).history id).labels t.version).mapError .integer)
    let time ← now
    let updated ← readAs id (Template.shape id time) (.object (merge t label time updates))
    ensureValid updated
    save updated
    let changelog := changelog.getD ""
    addVersionOfChange updated (if changelog.isEmpty then "Template updated" else changelog)
    announce (.templateUpdated id t.version label)
    return updated

/-- Deletes a template: its record stays but is no longer active. -/
def delete (id : String) : Operation Store Bool :=
  onFailure (announceFailure id "delete") do
    match (← own).live.get? id with
    | none => return false
    | some t =>
      save { t with isActive := false, updatedAt := ← now }
      announce (.templateDeleted id)
      return true

end Store

end Promptuary
