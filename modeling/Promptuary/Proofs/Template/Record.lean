import Promptuary.Proofs.Schema.Shape
import Promptuary.Template.Record

/-!
Reading templates: what a record read from an object has, field by field.
-/

namespace Promptuary

open Schema

variable {id : String} {now : Calendar.Moment} {fields : Fields}

/-- A record that was read has what its fields are read as. -/
structure Template.ReadFrom (id : String) (now : Calendar.Moment) (fields : Fields)
    (t : Template) : Prop where
  id : fieldOr "id" text id fields = .valid t.id
  name : field "name" text fields = .valid t.name
  description : fieldOr "description" text "" fields = .valid t.description
  category : field "category" text fields = .valid t.category
  body : field "template" text fields = .valid t.body
  declarations : fieldOr "variables" (list Variable.shape) [] fields = .valid t.declarations
  version : fieldOr "version" text Label.initial fields = .valid t.version
  isActive : fieldOr "is_active" truth true fields = .valid t.isActive
  createdAt : fieldOr "created_at" moment now fields = .valid t.createdAt
  updatedAt : fieldOr "updated_at" moment now fields = .valid t.updatedAt
  createdBy : fieldOr "created_by" (nullable text) none fields = .valid t.createdBy
  tags : fieldOr "tags" tagsShape [] fields = .valid t.tags
  metadata : fieldOr "metadata" (mapping anything) [] fields = .valid t.metadata

theorem Template.shape_eq_valid {t : Template} :
    Template.shape id now (.object fields) = .valid t ↔ t.ReadFrom id now fields := by
  constructor
  · intro read
    obtain ⟨_, _, read₁, metadata, rfl⟩ := Checked.seq_eq_valid.1 read
    obtain ⟨_, _, read₂, tags, rfl⟩ := Checked.seq_eq_valid.1 read₁
    obtain ⟨_, _, read₃, createdBy, rfl⟩ := Checked.seq_eq_valid.1 read₂
    obtain ⟨_, _, read₄, updatedAt, rfl⟩ := Checked.seq_eq_valid.1 read₃
    obtain ⟨_, _, read₅, createdAt, rfl⟩ := Checked.seq_eq_valid.1 read₄
    obtain ⟨_, _, read₆, isActive, rfl⟩ := Checked.seq_eq_valid.1 read₅
    obtain ⟨_, _, read₇, version, rfl⟩ := Checked.seq_eq_valid.1 read₆
    obtain ⟨_, _, read₈, declarations, rfl⟩ := Checked.seq_eq_valid.1 read₇
    obtain ⟨_, _, read₉, body, rfl⟩ := Checked.seq_eq_valid.1 read₈
    obtain ⟨_, _, read₁₀, category, rfl⟩ := Checked.seq_eq_valid.1 read₉
    obtain ⟨_, _, read₁₁, description, rfl⟩ := Checked.seq_eq_valid.1 read₁₀
    obtain ⟨_, _, read₁₂, name, rfl⟩ := Checked.seq_eq_valid.1 read₁₁
    obtain ⟨_, id, rfl⟩ := Checked.map_eq_valid.1 read₁₂
    exact ⟨id, name, description, category, body, declarations, version, isActive, createdAt,
      updatedAt, createdBy, tags, metadata⟩
  · rintro ⟨id, name, description, category, body, declarations, version, isActive, createdAt,
      updatedAt, createdBy, tags, metadata⟩
    unfold Template.shape record
    simp only [id, name, description, category, body, declarations, version, isActive, createdAt,
      updatedAt, createdBy, tags, metadata]
    rfl

end Promptuary
