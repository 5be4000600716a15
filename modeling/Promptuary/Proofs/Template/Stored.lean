import Promptuary.Document
import Promptuary.Proofs.Calendar.Iso
import Promptuary.Proofs.Datum.Stored
import Promptuary.Proofs.Outcome
import Promptuary.Proofs.Template.Record

/-!
Records as they are read from their documents. The stored form of a record is read without fault,
and gives the record back but for the callers' own data, which come back in the stored form.
-/

namespace Promptuary

open Schema

/-! ### Documents that could be written -/

theorem documentOf_eq_ok {own : List Datum} {record document : Datum}
    (written : documentOf own record = .ok document) : document = record := by
  unfold documentOf at written
  split at written
  · cases written
    rfl
  · cases written

theorem documentOfAll_eq_ok {α : Type} {document : α → Except Failure Datum} {write : α → Datum}
    {records : List α} {written : Datum} (each : ∀ a d, document a = .ok d → d = write a)
    (ok : documentOfAll document records = .ok written) : written = .list (records.map write) := by
  obtain ⟨documents, all, rfl⟩ := Outcome.exists_of_map_eq_ok ok
  have same := Outcome.map_of_mapM (g := id) (h := write) all each
  rw [List.map_id] at same
  rw [same]

/-! ### Shapes of what was written -/

namespace Schema

variable {α : Type}

theorem nullable_orNull {shape : Shape α} {write : α → Datum} {f : α → α}
    (reads : ∀ a, shape (write a) = .valid (f a)) (present : ∀ a, write a ≠ .null)
    (x : Option α) : nullable shape (orNull write x) = .valid (x.map f) := by
  cases x with
  | none => rfl
  | some a =>
    have read : nullable shape (write a) = (shape (write a)).map some := by
      cases written : write a with
      | null => exact absurd written (present a)
      | _ => rfl
    rw [orNull, read, reads]
    rfl

theorem nullable_ofText (s : Option String) : nullable text (orNull .text s) = .valid s := by
  have reads : ∀ s, text (.text s) = .valid (id s) := fun _ => rfl
  have read := nullable_orNull reads (by simp) s
  rwa [Option.map_id] at read

theorem items_map {shape : Shape α} {write : α → Datum} {f : α → α} {xs : List α}
    (reads : ∀ a ∈ xs, shape (write a) = .valid (f a)) (position : Nat) :
    items shape position (xs.map write) = .valid (xs.map f) := by
  induction xs generalizing position with
  | nil => rfl
  | cons a xs ih =>
    rw [List.map_cons, items, reads a List.mem_cons_self,
      ih (fun b mem => reads b (List.mem_cons_of_mem _ mem))]
    rfl

theorem list_map {shape : Shape α} {write : α → Datum} {f : α → α} {xs : List α}
    (reads : ∀ a ∈ xs, shape (write a) = .valid (f a)) :
    list shape (.list (xs.map write)) = .valid (xs.map f) :=
  items_map reads 0

theorem list_anything (ds : List Datum) : list anything (.list ds) = .valid ds := by
  have reads : ∀ d ∈ ds, anything (id d) = .valid (id d) := fun _ _ => rfl
  have read := list_map reads
  rwa [List.map_id] at read

theorem mapping_anything (fields : Fields) : mapping anything (.object fields) = .valid fields := by
  have read : ∀ fields : Fields, fieldsOf anything fields = .valid fields := by
    intro fields
    induction fields with
    | nil => rfl
    | cons entry fields ih =>
      obtain ⟨key, d⟩ := entry
      rw [fieldsOf, ih]
      rfl
  exact read fields

/-- A datum that is not null. -/
def present? : Datum → Option Datum
  | .null => none
  | d => some d

theorem nullable_anything (d : Datum) : nullable anything d = .valid (present? d) := by
  cases d <;> rfl

theorem present?_stored {d d' : Datum} (present : present? d.stored = some d') :
    d'.stored = d' := by
  unfold present? at present
  split at present
  · cases present
  · cases present
    exact Datum.stored_stored d

end Schema

/-! ### Declarations -/

/-- Constraints as they are read from a document. -/
def Constraints.restored (c : Constraints) : Constraints :=
  { c with options := c.options.map (·.map Datum.stored) }

/-- A declaration as it is read from a document. -/
def Variable.restored (x : Variable) : Variable :=
  { x with
    default := x.default.bind fun d => present? d.stored
    constraints := x.constraints.map Constraints.restored }

theorem Constraints.restored_restored (c : Constraints) : c.restored.restored = c.restored := by
  have twice : Datum.stored ∘ Datum.stored = Datum.stored := funext Datum.stored_stored
  cases options : c.options with
  | none => simp [restored, options]
  | some ds => simp [restored, options, twice]

theorem Variable.restored_restored (x : Variable) : x.restored.restored = x.restored := by
  have default : (x.default.bind fun d => present? d.stored).bind (fun d => present? d.stored) =
      x.default.bind fun d => present? d.stored := by
    cases x.default with
    | none => rfl
    | some d =>
      cases present : present? d.stored with
      | none => simp [present]
      | some d' =>
        have same := present?_stored present
        have again : present? d' = some d' := by
          cases d' with
          | null => cases stored : d.stored <;> rw [stored] at present <;> cases present
          | _ => rfl
        simp [present, same, again]
  have constraints : (x.constraints.map Constraints.restored).map Constraints.restored =
      x.constraints.map Constraints.restored := by
    cases x.constraints with
    | none => rfl
    | some c => exact congrArg some c.restored_restored
  simp only [restored, default, constraints]

theorem Constraints.shape_stored (c : Constraints) :
    Constraints.shape (c.toDatum .stored) = .valid c.restored := by
  have free : Form.stored.free = Datum.stored := rfl
  have integers : ∀ n, integer (.int n) = .valid (id n) := fun _ => rfl
  have numbers : ∀ x, number (.float x) = .valid (id x) := fun _ => rfl
  have minLength := nullable_orNull integers (by simp) c.minLength
  have maxLength := nullable_orNull integers (by simp) c.maxLength
  have min := nullable_orNull numbers (by simp) c.min
  have max := nullable_orNull numbers (by simp) c.max
  have lists : ∀ ds : List Datum, list anything (.list (ds.map Datum.stored)) =
      .valid (ds.map Datum.stored) := fun ds => list_anything _
  have options := nullable_orNull lists (by simp) c.options
  rw [Option.map_id] at minLength maxLength min max
  unfold Constraints.shape Constraints.toDatum record
  simp [fieldOr, Entries.get?_cons, nullable_ofText, minLength, maxLength, min, max, options, free,
    Checked.within]
  rfl

theorem Variable.shape_stored (x : Variable) :
    Variable.shape (x.toDatum .stored) = .valid x.restored := by
  have free : Form.stored.free = Datum.stored := rfl
  have type : VariableType.shape (.text x.type.name) = .valid x.type := by
    cases x.type <;> rfl
  have default : nullable anything (orNull Datum.stored x.default) =
      .valid (x.default.bind fun d => present? d.stored) := by
    cases x.default with
    | none => rfl
    | some d => exact nullable_anything d.stored
  have constraints := nullable_orNull Constraints.shape_stored
    (fun c => by simp [Constraints.toDatum]) x.constraints
  unfold Variable.shape Variable.toDatum record
  simp [fieldOr, field, Entries.get?_cons, text, type, truth, nullable_ofText, default,
    constraints, free, Checked.within]
  rfl

theorem variables_stored (declared : List Variable) :
    list Variable.shape (variablesDatum .stored declared) =
      .valid (declared.map Variable.restored) :=
  list_map fun x _ => x.shape_stored

/-! ### Templates and versions -/

theorem moment_stored {t : Calendar.Moment} (shown : t.Shown) (whole : t.WholeMinutes) :
    moment (.text t.iso) = .valid t := by
  rw [moment, Calendar.readMoment_iso shown whole]
  rfl

theorem list_texts (ss : List String) : list text (texts ss) = .valid ss := by
  have read : list text (.list (ss.map .text)) = .valid (ss.map id) := list_map fun _ _ => rfl
  rwa [List.map_id] at read

/-- A template as it is read from a document. -/
def Template.restored (t : Template) : Template :=
  { t with
    declarations := t.declarations.map Variable.restored
    tags := t.tags.eraseDups
    metadata := t.metadata.map fun (key, d) => (key, d.stored) }

/-- A version as it is read from a document. -/
def Version.restored (v : Version) : Version :=
  { v with declarations := v.declarations.map Variable.restored }

theorem tags_stored (tags : List String) : tagsShape (texts tags) = .valid tags.eraseDups := by
  rw [tagsShape, refined, list_texts]
  rfl

theorem Template.shape_stored {t : Template} (created : t.createdAt.Ordinary)
    (updated : t.updatedAt.Ordinary) (id : String) (now : Calendar.Moment) :
    Template.shape id now (t.toDatum .stored) = .valid t.restored :=
  Template.shape_eq_valid.2
    { id := (fieldOr_eq_valid rfl).2 rfl
      name := (field_eq_valid rfl).2 rfl
      description := (fieldOr_eq_valid rfl).2 rfl
      category := (field_eq_valid rfl).2 rfl
      body := (field_eq_valid rfl).2 rfl
      declarations := (fieldOr_eq_valid rfl).2 (variables_stored t.declarations)
      version := (fieldOr_eq_valid rfl).2 rfl
      isActive := (fieldOr_eq_valid rfl).2 rfl
      createdAt := (fieldOr_eq_valid rfl).2 (moment_stored created.shown created.wholeMinutes)
      updatedAt := (fieldOr_eq_valid rfl).2 (moment_stored updated.shown updated.wholeMinutes)
      createdBy := (fieldOr_eq_valid rfl).2 (nullable_ofText t.createdBy)
      tags := (fieldOr_eq_valid rfl).2 (tags_stored t.tags)
      metadata := (fieldOr_eq_valid rfl).2 (mapping_anything _) }

theorem Version.shape_stored {v : Version} (created : v.createdAt.Ordinary)
    (now : Calendar.Moment) : Version.shape now (v.toDatum .stored) = .valid v.restored := by
  have moments : Form.stored.moment v.createdAt = .text v.createdAt.iso := rfl
  unfold Version.shape Version.toDatum record
  simp [fieldOr, field, Entries.get?_cons, text, variables_stored, nullable_ofText,
    moment_stored created.shown created.wholeMinutes, moments, Checked.within]
  rfl

end Promptuary
