import Promptuary.Schema.Shape

/-!
When a shape reads a value: a record is read if each of its fields is, and a list if each of its
items is.
-/

namespace Promptuary.Schema

variable {α β : Type}

namespace Checked

theorem map_eq_valid {f : α → β} {x : Checked α} {b : β} :
    f <$> x = .valid b ↔ ∃ a, x = .valid a ∧ f a = b := by
  cases x with
  | valid a =>
    constructor
    · intro same
      exact ⟨a, rfl, Checked.valid.inj same⟩
    · rintro ⟨a', same, rfl⟩
      cases same
      rfl
  | faulty issues =>
    constructor
    · intro same
      cases same
    · rintro ⟨a, same, -⟩
      cases same

theorem seq_eq_valid {f : Checked (α → β)} {x : Checked α} {b : β} :
    f <*> x = .valid b ↔ ∃ g a, f = .valid g ∧ x = .valid a ∧ g a = b := by
  change Checked.seq f (fun _ => x) = .valid b ↔ _
  cases f with
  | valid g =>
    have pass : (Checked.seq (.valid g) fun _ => x) = g <$> x := rfl
    rw [pass, map_eq_valid]
    constructor
    · rintro ⟨a, read, same⟩
      exact ⟨g, a, rfl, read, same⟩
    · rintro ⟨g', a, same, read, rfl⟩
      cases same
      exact ⟨a, read, rfl⟩
  | faulty issues =>
    constructor
    · intro same
      cases x <;> cases same
    · rintro ⟨g, a, same, -⟩
      cases same

theorem within_eq_valid {step : String} {x : Checked α} {a : α} :
    x.within step = .valid a ↔ x = .valid a := by
  cases x with
  | valid b => rfl
  | faulty issues =>
    constructor
    · intro same
      cases same
    · intro same
      cases same

end Checked

/-- A field that is present is read by its shape, whether or not it has a default. -/
theorem fieldOr_eq_valid {name : String} {shape : Shape α} {default a : α} {fields : Fields}
    {d : Datum} (present : fields.get? name = some d) :
    fieldOr name shape default fields = .valid a ↔ shape d = .valid a := by
  rw [fieldOr, present]
  exact Checked.within_eq_valid

/-- A field with a default is the default, or is present and read by its shape. -/
theorem fieldOr_cases {name : String} {shape : Shape α} {default a : α} {fields : Fields}
    (read : fieldOr name shape default fields = .valid a) :
    a = default ∨ ∃ d, fields.get? name = some d ∧ shape d = .valid a := by
  cases present : fields.get? name with
  | none =>
    rw [fieldOr, present] at read
    cases read
    exact .inl rfl
  | some d => exact .inr ⟨d, rfl, (fieldOr_eq_valid present).1 read⟩

theorem field_eq_valid {name : String} {shape : Shape α} {a : α} {fields : Fields} {d : Datum}
    (present : fields.get? name = some d) :
    field name shape fields = .valid a ↔ shape d = .valid a := by
  rw [field, present]
  exact Checked.within_eq_valid

end Promptuary.Schema
