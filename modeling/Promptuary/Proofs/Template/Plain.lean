import Promptuary.Proofs.Distinct
import Promptuary.Proofs.Template.Stored
import Promptuary.Store.Change

/-!
Records whose data of the callers' own are JSON. They are read as they were from the form for
merging and from their documents. Plain ones have finite bounds, too, so that their documents are
JSON. The first record of a plain definition is plain, and so is a plain record that is merged with
plain fields.
-/

namespace Promptuary

open Schema

/-! ### Data of the callers' own -/

/-- A declaration in which the data of the caller's own are JSON. Null is no default. -/
structure Variable.OwnJson (x : Variable) : Prop where
  default : ∀ d, x.default = some d → d.isJson = true ∧ d ≠ .null
  options : ∀ c, x.constraints = some c → ∀ ds, c.options = some ds → Datum.areJson ds = true

/-- A record in which the data of the callers' own are JSON. -/
structure Template.OwnJson (t : Template) : Prop where
  declarations : ∀ x ∈ t.declarations, x.OwnJson
  metadata : Datum.fieldsAreJson t.metadata = true

/-! ### Plain records -/

/-- Constraints with finite bounds and options of JSON. -/
structure Constraints.Plain (c : Constraints) : Prop where
  min : ∀ x, c.min = some x → x.isFinite = true
  max : ∀ x, c.max = some x → x.isFinite = true
  options : ∀ ds, c.options = some ds → Datum.areJson ds = true

/-- A declaration whose default and constraints are JSON. Null is no default. -/
structure Variable.Plain (x : Variable) : Prop where
  default : ∀ d, x.default = some d → d.isJson = true ∧ d ≠ .null
  constraints : ∀ c, x.constraints = some c → c.Plain

/-- Declarations that are plain, one by one. -/
def PlainVariables (declared : List Variable) : Prop := ∀ x ∈ declared, x.Plain

/-- A definition with plain declarations and metadata of JSON. -/
structure Definition.Plain (d : Definition) : Prop where
  declarations : PlainVariables d.declarations
  metadata : Datum.fieldsAreJson d.metadata = true

/-- A record with plain declarations, metadata of JSON, and each tag once. -/
structure Template.Plain (t : Template) : Prop where
  declarations : PlainVariables t.declarations
  metadata : Datum.fieldsAreJson t.metadata = true
  tags : t.tags.eraseDups = t.tags

/-- A version with plain declarations. -/
def Version.Plain (v : Version) : Prop := PlainVariables v.declarations

theorem Variable.Plain.ownJson {x : Variable} (plain : x.Plain) : x.OwnJson :=
  ⟨plain.default, fun c given => (plain.constraints c given).options⟩

theorem Template.Plain.ownJson {t : Template} (plain : t.Plain) : t.OwnJson :=
  ⟨fun x mem => (plain.declarations x mem).ownJson, plain.metadata⟩

/-! ### Reading back -/

theorem map_eq_self {α : Type} {f : α → α} {xs : List α} (same : ∀ x ∈ xs, f x = x) :
    xs.map f = xs := by
  rw [List.map_congr_left same, List.map_id']

theorem map_stored_of_areJson {ds : List Datum} (json : Datum.areJson ds = true) :
    ds.map Datum.stored = ds :=
  map_eq_self fun d mem => d.stored_of_isJson (Datum.areJson_eq_true.1 json d mem)

theorem map_stored_of_fieldsAreJson {fields : Fields} (json : Datum.fieldsAreJson fields = true) :
    (fields.map fun (key, d) => (key, d.stored)) = fields := by
  refine map_eq_self fun field mem => ?_
  have same := field.2.stored_of_isJson (Datum.fieldsAreJson_eq_true.1 json field mem)
  exact Prod.ext rfl same

theorem Constraints.restored_eq_self {c : Constraints}
    (json : ∀ ds, c.options = some ds → Datum.areJson ds = true) : c.restored = c := by
  obtain ⟨pattern, minLength, maxLength, min, max, options⟩ := c
  cases options with
  | none => rfl
  | some ds =>
    have same := map_stored_of_areJson (json ds rfl)
    simp only [Constraints.restored, Option.map_some, same]

theorem present?_of_ne_null {d : Datum} (present : d ≠ .null) : present? d = some d := by
  cases d with
  | null => exact absurd rfl present
  | _ => rfl

theorem Variable.OwnJson.restored {x : Variable} (json : x.OwnJson) : x.restored = x := by
  obtain ⟨name, type, required, description, default, constraints⟩ := x
  have sameDefault : (default.bind fun d => present? d.stored) = default := by
    cases default with
    | none => rfl
    | some d =>
      obtain ⟨stored, present⟩ := json.default d rfl
      rw [Option.bind_some, d.stored_of_isJson stored, present?_of_ne_null present]
  have sameConstraints : constraints.map Constraints.restored = constraints := by
    cases constraints with
    | none => rfl
    | some c => exact congrArg some (Constraints.restored_eq_self (json.options c rfl))
  simp only [Variable.restored, sameDefault, sameConstraints]

theorem PlainVariables.restored {declared : List Variable} (plain : PlainVariables declared) :
    declared.map Variable.restored = declared :=
  map_eq_self fun x mem => (plain x mem).ownJson.restored

/-- A plain template is read from its document as it was. -/
theorem Template.Plain.restored {t : Template} (plain : t.Plain) : t.restored = t := by
  have metadata := map_stored_of_fieldsAreJson plain.metadata
  simp only [Template.restored, plain.declarations.restored, plain.tags, metadata]

theorem Version.Plain.restored {v : Version} (plain : v.Plain) : v.restored = v := by
  have declarations : v.declarations.map Variable.restored = v.declarations :=
    PlainVariables.restored plain
  simp only [Version.restored, declarations]

/-! ### Documents -/

theorem isJson_orNull {α : Type} {write : α → Datum} {x : Option α}
    (json : ∀ a, x = some a → (write a).isJson = true) : (orNull write x).isJson = true := by
  cases x with
  | none => rfl
  | some a => exact json a rfl

theorem areJson_map {α : Type} {write : α → Datum} {xs : List α}
    (json : ∀ a ∈ xs, (write a).isJson = true) : Datum.areJson (xs.map write) = true := by
  refine Datum.areJson_eq_true.2 fun d mem => ?_
  obtain ⟨a, mem', rfl⟩ := List.mem_map.1 mem
  exact json a mem'

theorem isJson_ofText (s : Option String) : (orNull Datum.text s).isJson = true :=
  isJson_orNull fun _ _ => rfl

theorem Constraints.Plain.isJson {c : Constraints} (plain : c.Plain) :
    (c.toDatum .stored).isJson = true := by
  have min : (orNull Datum.float c.min).isJson = true := isJson_orNull plain.min
  have max : (orNull Datum.float c.max).isJson = true := isJson_orNull plain.max
  have minLength : (orNull Datum.int c.minLength).isJson = true := isJson_orNull fun _ _ => rfl
  have maxLength : (orNull Datum.int c.maxLength).isJson = true := isJson_orNull fun _ _ => rfl
  have options : (orNull (fun ds => .list (ds.map Datum.stored)) c.options).isJson = true := by
    refine isJson_orNull fun ds given => ?_
    rw [map_stored_of_areJson (plain.options ds given)]
    exact plain.options ds given
  have free : Form.stored.free = Datum.stored := rfl
  simp only [Constraints.toDatum, Datum.isJson, Datum.fieldsAreJson, isJson_ofText, minLength,
    maxLength, min, max, free, options, Bool.and_true]

theorem Variable.Plain.isJson {x : Variable} (plain : x.Plain) :
    (x.toDatum .stored).isJson = true := by
  have default : (orNull Datum.stored x.default).isJson = true := by
    refine isJson_orNull fun d given => ?_
    obtain ⟨json, -⟩ := plain.default d given
    rwa [d.stored_of_isJson json]
  have constraints : (orNull (·.toDatum .stored) x.constraints).isJson = true :=
    isJson_orNull fun c given => (plain.constraints c given).isJson
  have free : Form.stored.free = Datum.stored := rfl
  simp only [Variable.toDatum, Datum.isJson, Datum.fieldsAreJson, isJson_ofText, free, default,
    constraints, Bool.and_true]

theorem PlainVariables.isJson {declared : List Variable} (plain : PlainVariables declared) :
    (variablesDatum .stored declared).isJson = true :=
  areJson_map fun x mem => (plain x mem).isJson

theorem isJson_texts (ss : List String) : (texts ss).isJson = true := areJson_map fun _ _ => rfl

/-- The document of a plain template is JSON. -/
theorem Template.Plain.isJson {t : Template} (plain : t.Plain) :
    (t.toDatum .stored).isJson = true := by
  have metadata : (Form.stored.freeFields t.metadata).isJson = true := by
    have same : Form.stored.freeFields t.metadata = .object t.metadata :=
      congrArg Datum.object (map_stored_of_fieldsAreJson plain.metadata)
    rw [same]
    exact plain.metadata
  have moment : ∀ time, Form.stored.moment time = .text time.iso := fun _ => rfl
  simp only [Template.toDatum, Template.fields, Datum.isJson, Datum.fieldsAreJson,
    plain.declarations.isJson, moment, isJson_ofText, isJson_texts, metadata, Bool.and_true]

theorem Version.Plain.isJson {v : Version} (plain : v.Plain) :
    (v.toDatum .stored).isJson = true := by
  have declarations : (variablesDatum .stored v.declarations).isJson = true :=
    PlainVariables.isJson plain
  have moment : ∀ time, Form.stored.moment time = .text time.iso := fun _ => rfl
  simp only [Version.toDatum, Datum.isJson, Datum.fieldsAreJson, declarations, moment,
    isJson_ofText, Bool.and_true]

/-! ### Drawing up plain records -/

theorem Variable.OwnJson.unfolded {x : Variable} (json : x.OwnJson) :
    Store.plainVariable x = x := by
  obtain ⟨name, type, required, description, default, constraints⟩ := x
  have sameDefault : default.map Datum.unfolded = default := by
    cases default with
    | none => rfl
    | some d => exact congrArg some (d.unfolded_of_isJson (json.default d rfl).1)
  have sameConstraints : (constraints.map fun c =>
      { c with options := c.options.map (·.map Datum.unfolded) }) = constraints := by
    cases constraints with
    | none => rfl
    | some c =>
      obtain ⟨pattern, minLength, maxLength, min, max, options⟩ := c
      cases options with
      | none => rfl
      | some ds =>
        have each := Datum.areJson_eq_true.1 (json.options _ rfl ds rfl)
        have same : ds.map Datum.unfolded = ds :=
          map_eq_self fun d mem => d.unfolded_of_isJson (each d mem)
        simp only [Option.map_some, same]
  simp only [Store.plainVariable, sameDefault, sameConstraints]

theorem map_unfolded_of_fieldsAreJson {fields : Fields}
    (json : Datum.fieldsAreJson fields = true) :
    (fields.map fun (key, d) => (key, d.unfolded)) = fields := by
  refine map_eq_self fun field mem => ?_
  have same := field.2.unfolded_of_isJson (Datum.fieldsAreJson_eq_true.1 json field mem)
  exact Prod.ext rfl same

/-- Constraints whose options are JSON have one form. -/
theorem Constraints.toDatum_merged {c : Constraints}
    (json : ∀ ds, c.options = some ds → Datum.areJson ds = true) :
    c.toDatum .merged = c.toDatum .stored := by
  have options : (orNull (fun ds => .list (ds.map Datum.unfolded)) c.options) =
      orNull (fun ds => .list (ds.map Datum.stored)) c.options := by
    cases given : c.options with
    | none => rfl
    | some ds =>
      have each := Datum.areJson_eq_true.1 (json ds given)
      have same : ds.map Datum.unfolded = ds.map Datum.stored := List.map_congr_left
        fun d mem =>
          (d.unfolded_of_isJson (each d mem)).trans (d.stored_of_isJson (each d mem)).symm
      exact congrArg Datum.list same
  have merged : Form.merged.free = Datum.unfolded := rfl
  have stored : Form.stored.free = Datum.stored := rfl
  simp only [Constraints.toDatum, merged, stored, options]

theorem Variable.OwnJson.toDatum_merged {x : Variable} (json : x.OwnJson) :
    x.toDatum .merged = x.toDatum .stored := by
  have default : orNull Datum.unfolded x.default = orNull Datum.stored x.default := by
    cases given : x.default with
    | none => rfl
    | some d =>
      have own := (json.default d given).1
      exact (d.unfolded_of_isJson own).trans (d.stored_of_isJson own).symm
  have constraints : orNull (·.toDatum .merged) x.constraints =
      orNull (·.toDatum .stored) x.constraints := by
    cases given : x.constraints with
    | none => rfl
    | some c => exact Constraints.toDatum_merged (json.options c given)
  have merged : Form.merged.free = Datum.unfolded := rfl
  have stored : Form.stored.free = Datum.stored := rfl
  simp only [Variable.toDatum, merged, stored, default, constraints]

/-- Declarations are read as they were from the form for merging, too. -/
theorem variables_merged {declared : List Variable} (json : ∀ x ∈ declared, x.OwnJson) :
    list Variable.shape (variablesDatum .merged declared) = .valid declared := by
  have same : variablesDatum .merged declared = variablesDatum .stored declared :=
    congrArg Datum.list (List.map_congr_left fun x mem => (json x mem).toDatum_merged)
  rw [same, variables_stored, map_eq_self fun x mem => (json x mem).restored]

theorem mapping_merged {fields : Fields} (json : Datum.fieldsAreJson fields = true) :
    mapping anything (Form.merged.freeFields fields) = .valid fields := by
  have same : Form.merged.freeFields fields = .object fields :=
    congrArg Datum.object (map_unfolded_of_fieldsAreJson json)
  rw [same, mapping_anything]

/-- The first record of a plain definition is plain. -/
theorem Definition.Plain.firstRecord {d : Definition} (plain : d.Plain) (id : String)
    (time : Calendar.Moment) : (Store.firstRecord id time d).Plain := by
  have declarations : d.declarations.map Store.plainVariable = d.declarations :=
    map_eq_self fun x mem => (plain.declarations x mem).ownJson.unfolded
  refine ⟨?_, ?_, Distinct.eraseDups_eraseDups d.tags⟩
  · change PlainVariables (d.declarations.map Store.plainVariable)
    rw [declarations]
    exact plain.declarations
  · change Datum.fieldsAreJson (d.metadata.map fun (key, x) => (key, x.unfolded)) = true
    rw [map_unfolded_of_fieldsAreJson plain.metadata]
    exact plain.metadata

/-- Tags that were read are each there once. -/
theorem eraseDups_of_tagsShape {d : Datum} {tags : List String} (read : tagsShape d = .valid tags) :
    tags.eraseDups = tags := by
  unfold tagsShape refined at read
  cases listed : list text d with
  | faulty issues =>
    rw [listed] at read
    cases read
  | valid ss =>
    rw [listed] at read
    cases read
    exact Distinct.eraseDups_eraseDups ss

/-- A record that was read has each tag once. -/
theorem Template.eraseDups_of_shape {id : String} {now : Calendar.Moment} {document : Datum}
    {t : Template} (read : Template.shape id now document = .valid t) :
    t.tags.eraseDups = t.tags := by
  cases document with
  | object fields =>
    rcases fieldOr_cases (Template.shape_eq_valid.1 read).tags with empty | ⟨x, -, tags⟩
    · rw [empty]
      rfl
    · exact eraseDups_of_tagsShape tags
  | _ => cases read

end Promptuary
