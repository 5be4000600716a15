import Promptuary.Proofs.Storage.Plain

/-!
Entries that keep what a plain map has. Each document stands under a name of its own, in a form that
is read as it: as it is, or as JSON text. What is put and what is removed changes the map at one
place, and the names that are entered tell what the map has.
-/

namespace Promptuary.Storage

variable {ι α : Type} {reads : α → Datum → Prop} {name : ι → String} {entries : Entries String α}
  {m : ι → Option Datum} {i : ι} {a : α} {d : Datum}

/-- Entries that have, under different names, exactly what a map has. -/
structure Keeps (reads : α → Datum → Prop) (name : ι → String) (entries : Entries String α)
    (m : ι → Option Datum) : Prop where
  distinct : entries.Distinct
  same : ∀ i, Option.Rel reads (entries.get? (name i)) (m i)

theorem keeps_nil : Keeps reads name [] fun _ => none := ⟨Entries.distinct_nil, fun _ => .none⟩

theorem Keeps.get?_of_some (keeps : Keeps reads name entries m) (found : m i = some d) :
    ∃ a, entries.get? (name i) = some a ∧ reads a d :=
  exists_left_of_rel (found ▸ keeps.same i)

theorem Keeps.isSome (keeps : Keeps reads name entries m) (i : ι) :
    (entries.get? (name i)).isSome = (m i).isSome := isSome_eq_of_rel (keeps.same i)

theorem Keeps.get?_of_none (keeps : Keeps reads name entries m) (absent : m i = none) :
    entries.get? (name i) = none := by
  rw [← Option.isNone_iff_eq_none, ← Option.not_isSome, keeps.isSome, absent]
  rfl

theorem Keeps.mem_keys (keeps : Keeps reads name entries m) (i : ι) :
    name i ∈ entries.keys ↔ (m i).isSome = true := by
  rw [← Entries.get?_isSome_iff, keeps.isSome]

theorem Keeps.has (keeps : Keeps reads name entries m) (i : ι) :
    entries.has (name i) = (m i).isSome := by
  rw [Entries.has_eq_isSome, keeps.isSome]

theorem Keeps.nodup (keeps : Keeps reads name entries m) : entries.keys.Nodup :=
  Entries.distinct_iff_nodup.1 keeps.distinct

section

variable [DecidableEq ι]

theorem Keeps.put (keeps : Keeps reads name entries m) (injective : Function.Injective name)
    (read : reads a d) :
    Keeps reads name (entries.put (name i) a) (Function.update m i (some d)) where
  distinct := keeps.distinct.put _ _
  same := by
    intro j
    rw [Entries.get?_put]
    by_cases here : j = i
    · subst here
      rw [BEq.rfl, if_pos rfl, Function.update_self]
      exact .some read
    · have other : (name i == name j) = false := by simpa using injective.ne (Ne.symm here)
      rw [other, Function.update_of_ne here]
      exact keeps.same j

theorem Keeps.erase (keeps : Keeps reads name entries m) (injective : Function.Injective name) :
    Keeps reads name (entries.erase (name i)) (Function.update m i none) where
  distinct := keeps.distinct.filter _
  same := by
    intro j
    rw [Entries.get?_erase]
    by_cases here : j = i
    · subst here
      rw [BEq.rfl, if_pos rfl, Function.update_self]
      exact .none
    · have other : (name i == name j) = false := by simpa using injective.ne (Ne.symm here)
      rw [other, Function.update_of_ne here]
      exact keeps.same j

end

/-! ### Spaces -/

/-- Spaces that have, under the keys themselves, exactly what a map has. -/
def KeepsAll (reads : α → Datum → Prop) (spaces : Spaces α) (m : Plain) : Prop :=
  ∀ space, Keeps reads id (spaces space) (m.inSpace space)

theorem KeepsAll.modify {spaces : Spaces α} {m : Plain} {space : Space} {key : String}
    {d? : Option Datum} {f : Entries String α → Entries String α} (keeps : KeepsAll reads spaces m)
    (here : Keeps reads id (f (spaces space)) (Function.update (m.inSpace space) key d?)) :
    KeepsAll reads (spaces.modify space f) (m.put space key d?) := by
  intro other
  by_cases same : other = space
  · subst same
    rw [Spaces.modify_self, Plain.inSpace_put_self]
    exact here
  · rw [Spaces.modify_of_ne _ same, Plain.inSpace_put_of_ne m key d? same]
    exact keeps other

/-! ### Sorted names -/

/-- Different names are sorted without ties. -/
theorem pairwise_sorted {names : List String} (distinct : names.Nodup) :
    (names.mergeSort fun a b => !(b < a)).Pairwise (· < ·) := by
  have trans : ∀ a b c : String, (!decide (b < a)) = true → (!decide (c < b)) = true →
      (!decide (c < a)) = true := by
    simp only [Bool.not_eq_true', decide_eq_false_iff_not, String.not_lt]
    exact fun _ _ _ => String.le_trans
  have total : ∀ a b : String, (!decide (b < a) || !decide (a < b)) = true := by
    intro a b
    simp only [Bool.or_eq_true, Bool.not_eq_true', decide_eq_false_iff_not, String.not_lt]
    exact String.le_total a b
  have ordered := List.pairwise_mergeSort trans total names
  have apart : (names.mergeSort fun a b => !(b < a)).Nodup :=
    (List.mergeSort_perm names _).nodup_iff.2 distinct
  refine (ordered.and apart).imp ?_
  rintro a b ⟨le, ne⟩
  simp only [Bool.not_eq_true', decide_eq_false_iff_not] at le
  exact Std.lt_of_le_of_ne (String.not_lt.1 le) ne

/-- Sorted keys are what a map tells of a space, if they are different and those that it has. -/
theorem Plain.Tells.sortedKeys {m : Plain} {space : Space} {names : List String}
    (distinct : names.Nodup) (has : ∀ key, key ∈ names ↔ (m (space, key)).isSome = true) :
    m.Tells true (.keys space) (.keys (names.mergeSort fun a b => !(b < a))) := by
  refine .keys ?_ ?_ fun _ => pairwise_sorted distinct
  · exact (List.mergeSort_perm names _).nodup_iff.2 distinct
  · intro key
    rw [List.mem_mergeSort]
    exact has key

end Promptuary.Storage
