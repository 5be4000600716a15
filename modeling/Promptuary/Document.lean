import Promptuary.Execution.Basic
import Promptuary.Failure
import Promptuary.Template.Record

/-!
Documents: records as they are stored and as callers see them. A record may hold data of the
callers' own; in its document these may be nested only up to a depth.
-/

namespace Promptuary

/-- The document of a record, unless data of the callers' own in it are nested too deeply. -/
def documentOf (own : List Datum) (record : Datum) : Except Failure Datum :=
  if own.all Schema.isShallow then .ok record else .error .tooNested

/-- The documents of several records as one. -/
def documentOfAll {α : Type} (document : α → Except Failure Datum) (records : List α) :
    Except Failure Datum :=
  (records.mapM document).map .list

/-! ### Data of the callers' own -/

/-- The callers' own data in a declaration: its default and its options. -/
def Variable.ownData (x : Variable) : List Datum :=
  x.default.toList ++ (x.constraints.bind (·.options)).getD []

/-- The callers' own data in declarations and in fields. -/
def ownDataOf (declared : List Variable) (fields : Fields) : List Datum :=
  declared.flatMap Variable.ownData ++ fields.map (·.2)

/-! ### Documents of records -/

/-- The document of a declaration. -/
def Variable.document (x : Variable) : Except Failure Datum :=
  documentOf x.ownData (x.toDatum .stored)

/-- The document of a definition. -/
def Definition.document (d : Definition) : Except Failure Datum :=
  documentOf (ownDataOf d.declarations d.metadata) (d.toDatum .stored)

/-- The document of a template. -/
def Template.document (t : Template) : Except Failure Datum :=
  documentOf (ownDataOf t.declarations t.metadata) (t.toDatum .stored)

/-- The document of a version. -/
def Version.document (v : Version) : Except Failure Datum :=
  documentOf (ownDataOf v.declarations []) (v.toDatum .stored)

/-- The document of an execution. -/
def Execution.document {α : Type} [Scalar α] (e : Execution α) : Except Failure Datum :=
  documentOf (e.bindings.map (·.2)) (e.toDatum .stored)

end Promptuary
