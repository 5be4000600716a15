import Promptuary.Datum.Basic

/-!
The two forms in which records become data again: the form in which they are merged with changes,
which keeps moments and the callers' own data, and the form in which they are stored, which has
nothing but the kinds of JSON.
-/

namespace Promptuary.Schema

/-- What becomes of moments and of the callers' own data when a record becomes a datum. -/
structure Form where
  moment : Calendar.Moment → Datum
  free : Datum → Datum

/-- The form in which records are merged with changes. -/
def Form.merged : Form := ⟨.moment, Datum.unfolded⟩

/-- The form in which records are stored. -/
def Form.stored : Form := ⟨fun t => .text t.iso, Datum.stored⟩

namespace Form

/-- The callers' own fields. -/
def freeFields (form : Form) (fields : Fields) : Datum :=
  .object (fields.map fun (key, d) => (key, form.free d))

end Form

/-- How deep a datum of the callers' own may be nested in what is stored or sent. -/
def nestingLimit : Nat := 255

/-- Whether a datum of the callers' own can be stored and sent. -/
def isShallow (d : Datum) : Bool := d.depth ≤ nestingLimit

/-- A value that may be absent. -/
def orNull {α : Type} (write : α → Datum) : Option α → Datum
  | some a => write a
  | none => .null

/-- Texts as a list. -/
def texts (items : List String) : Datum := .list (items.map .text)

end Promptuary.Schema
