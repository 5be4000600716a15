import Promptuary.Datum.Basic

/-!
The stored form of data. What is in it already is not changed by it, and what consists of nothing
but the kinds of JSON is in it already, as it is in the form for merging.
-/

namespace Promptuary.Datum

/-! ### The stored form -/

mutual

/-- The stored form of the stored form is the stored form. -/
theorem stored_stored : (d : Datum) → d.stored.stored = d.stored
  | .null => rfl
  | .bool _ => rfl
  | .int _ => rfl
  | .float x => by
    cases finite : x.isFinite with
    | true => simp [stored, finite]
    | false => simp [stored, finite]
  | .nan => rfl
  | .text _ => rfl
  | .list items => by rw [stored, stored, storedItems_storedItems items]
  | .tuple items => by rw [stored, stored, storedItems_storedItems items]
  | .object fields => by rw [stored, stored, storedFields_storedFields fields]
  | .moment _ => rfl
  | .usage _ => rfl

theorem storedItems_storedItems : (items : List Datum) →
    storedItems (storedItems items) = storedItems items
  | [] => rfl
  | d :: items => by
    rw [storedItems, storedItems, stored_stored d, storedItems_storedItems items]

theorem storedFields_storedFields : (fields : List (String × Datum)) →
    storedFields (storedFields fields) = storedFields fields
  | [] => rfl
  | (key, d) :: fields => by
    rw [storedFields, storedFields, stored_stored d, storedFields_storedFields fields]

end

/-! ### JSON -/

mutual

/-- Whether a datum consists of the kinds of JSON, with finite numbers. -/
def isJson : Datum → Bool
  | .null => true
  | .bool _ => true
  | .int _ => true
  | .float x => x.isFinite
  | .nan => false
  | .text _ => true
  | .list items => areJson items
  | .object fields => fieldsAreJson fields
  | .tuple _ => false
  | .moment _ => false
  | .usage _ => false

/-- Whether all items consist of the kinds of JSON. -/
def areJson : List Datum → Bool
  | [] => true
  | d :: items => d.isJson && areJson items

/-- Whether the values of all fields consist of the kinds of JSON. -/
def fieldsAreJson : List (String × Datum) → Bool
  | [] => true
  | (_, d) :: fields => d.isJson && fieldsAreJson fields

end

theorem areJson_eq_true {items : List Datum} :
    areJson items = true ↔ ∀ d ∈ items, d.isJson = true := by
  induction items with
  | nil => simp [areJson]
  | cons d items ih => simp [areJson, ih]

theorem fieldsAreJson_eq_true {fields : List (String × Datum)} :
    fieldsAreJson fields = true ↔ ∀ field ∈ fields, field.2.isJson = true := by
  induction fields with
  | nil => simp [fieldsAreJson]
  | cons field fields ih =>
    obtain ⟨key, d⟩ := field
    simp [fieldsAreJson, ih]

mutual

/-- JSON is in the stored form. -/
theorem stored_of_isJson : (d : Datum) → d.isJson = true → d.stored = d
  | .null, _ => rfl
  | .bool _, _ => rfl
  | .int _, _ => rfl
  | .float x, json => by
    have finite : x.isFinite = true := json
    simp [stored, finite]
  | .text _, _ => rfl
  | .list items, json => by rw [stored, storedItems_of_areJson items json]
  | .object fields, json => by rw [stored, storedFields_of_areJson fields json]

theorem storedItems_of_areJson : (items : List Datum) → areJson items = true →
    storedItems items = items
  | [], _ => rfl
  | d :: items, json => by
    obtain ⟨first, rest⟩ := (Bool.and_eq_true _ _).mp json
    rw [storedItems, stored_of_isJson d first, storedItems_of_areJson items rest]

theorem storedFields_of_areJson : (fields : List (String × Datum)) → fieldsAreJson fields = true →
    storedFields fields = fields
  | [], _ => rfl
  | (key, d) :: fields, json => by
    obtain ⟨first, rest⟩ := (Bool.and_eq_true _ _).mp json
    rw [storedFields, stored_of_isJson d first, storedFields_of_areJson fields rest]

end

mutual

/-- JSON is in the form for merging. -/
theorem unfolded_of_isJson : (d : Datum) → d.isJson = true → d.unfolded = d
  | .null, _ => rfl
  | .bool _, _ => rfl
  | .int _, _ => rfl
  | .float _, _ => rfl
  | .text _, _ => rfl
  | .list items, json => by rw [unfolded, unfoldedItems_of_areJson items json]
  | .object fields, json => by rw [unfolded, unfoldedFields_of_areJson fields json]

theorem unfoldedItems_of_areJson : (items : List Datum) → areJson items = true →
    unfoldedItems items = items
  | [], _ => rfl
  | d :: items, json => by
    obtain ⟨first, rest⟩ := (Bool.and_eq_true _ _).mp json
    rw [unfoldedItems, unfolded_of_isJson d first, unfoldedItems_of_areJson items rest]

theorem unfoldedFields_of_areJson : (fields : List (String × Datum)) →
    fieldsAreJson fields = true → unfoldedFields fields = fields
  | [], _ => rfl
  | (key, d) :: fields, json => by
    obtain ⟨first, rest⟩ := (Bool.and_eq_true _ _).mp json
    rw [unfoldedFields, unfolded_of_isJson d first, unfoldedFields_of_areJson fields rest]

end

end Promptuary.Datum
