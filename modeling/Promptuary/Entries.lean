/-!
Maps that keep the order in which their keys were first entered. Main statements: what a key is
mapped to after an entry or an erasure, and that the keys keep their order.
-/

namespace Promptuary

/-- A map as the list of its entries, in the order of entry. -/
abbrev Entries (κ α : Type) := List (κ × α)

namespace Entries

variable {κ α : Type} [BEq κ]

/-- What a key is mapped to. -/
def get? (m : Entries κ α) (key : κ) : Option α := (m.find? (·.1 == key)).map (·.2)

/-- Whether a key is present. -/
def has (m : Entries κ α) (key : κ) : Bool := m.any (·.1 == key)

/-- Maps a key to a value: in the place of its entry if it has one, at the end otherwise. -/
def put (m : Entries κ α) (key : κ) (value : α) : Entries κ α :=
  match m with
  | [] => [(key, value)]
  | entry :: rest =>
    if entry.1 == key then (entry.1, value) :: rest else entry :: put rest key value

/-- Removes the entry of a key. -/
def erase (m : Entries κ α) (key : κ) : Entries κ α := m.filter fun entry => !(entry.1 == key)

/-- The keys, in the order of entry. -/
def keys (m : Entries κ α) : List κ := m.map (·.1)

/-- The values, in the order of entry. -/
def values (m : Entries κ α) : List α := m.map (·.2)

/-- The map of a list of pairs in which a later pair overrides an earlier one with its key. -/
def ofPairs (pairs : List (κ × α)) : Entries κ α := pairs.foldl (fun m p => m.put p.1 p.2) []

@[simp] theorem get?_nil (key : κ) : get? ([] : Entries κ α) key = none := rfl

theorem get?_cons (entry : κ × α) (m : Entries κ α) (key : κ) :
    get? (entry :: m) key = if entry.1 == key then some entry.2 else get? m key := by
  unfold get?
  rw [List.find?_cons]
  cases entry.1 == key <;> rfl

section

variable [EquivBEq κ]

theorem get?_put (m : Entries κ α) (key other : κ) (value : α) :
    (m.put key value).get? other = if key == other then some value else m.get? other := by
  induction m with
  | nil => rw [put, get?_cons]
  | cons entry m ih =>
    rw [put]
    split
    · next h =>
      -- The key of the entry stays, and is the same as the one that is put.
      have same : (entry.1 == other) = (key == other) := BEq.congr_left h
      rw [get?_cons, get?_cons, same]
      by_cases found : (key == other) = true <;> simp [found]
    · next h =>
      rw [get?_cons, get?_cons, ih]
      by_cases found : (key == other) = true
      · have apart : (entry.1 == other) = false := by
          rw [← BEq.congr_right found]
          exact Bool.not_eq_true _ ▸ h
        simp [found, apart]
      · simp [found]

@[simp] theorem get?_put_self (m : Entries κ α) (key : κ) (value : α) :
    (m.put key value).get? key = some value := by
  rw [get?_put, BEq.rfl, if_pos rfl]

end

variable [LawfulBEq κ]

theorem get?_put_of_ne (m : Entries κ α) {key other : κ} (value : α) (ne : key ≠ other) :
    (m.put key value).get? other = m.get? other := by
  rw [get?_put, if_neg (by simpa using ne)]

/-- A new key comes last; a known one stays where it was. -/
theorem keys_put (m : Entries κ α) (key : κ) (value : α) :
    (m.put key value).keys = if key ∈ m.keys then m.keys else m.keys ++ [key] := by
  induction m with
  | nil => simp [put, keys]
  | cons entry m ih =>
    rw [put]
    split
    · next h =>
      have : entry.1 = key := eq_of_beq h
      simp [keys, this]
    · next h =>
      have hne : key ≠ entry.1 := fun e => h (by simp [e])
      simp only [keys, List.map_cons] at ih ⊢
      rw [ih]
      by_cases hk : key ∈ m.map (·.1) <;> simp [hk, hne]

theorem get?_isSome_iff (m : Entries κ α) (key : κ) : (m.get? key).isSome ↔ key ∈ m.keys := by
  induction m with
  | nil => simp [keys]
  | cons entry m ih =>
    rw [get?_cons]
    split
    · next h => simp [keys, eq_of_beq h]
    · next h =>
      have hne : key ≠ entry.1 := fun e => h (by simp [e])
      rw [ih]
      simp [keys, hne]

end Entries

end Promptuary
