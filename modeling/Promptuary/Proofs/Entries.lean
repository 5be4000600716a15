import Promptuary.Entries

/-!
Maps whose keys are all different. What such a map gives for a key is what its one entry with that
key holds, whatever else is entered, replaced or left out.
-/

namespace Promptuary

/-! ### Values that may be missing -/

section

variable {α β : Type} {R : α → β → Prop}

/-- A related value on the right has one on the left. -/
theorem exists_left_of_rel {x : Option α} {b : β} (related : Option.Rel R x (some b)) :
    ∃ a, x = some a ∧ R a b := by
  cases related with
  | some holds => exact ⟨_, rfl, holds⟩

/-- A related value on the left has one on the right. -/
theorem exists_right_of_rel {a : α} {y : Option β} (related : Option.Rel R (some a) y) :
    ∃ b, y = some b ∧ R a b := by
  cases related with
  | some holds => exact ⟨_, rfl, holds⟩

theorem rel_imp {S : α → β → Prop} {x : Option α} {y : Option β} (weaker : ∀ a b, R a b → S a b)
    (related : Option.Rel R x y) : Option.Rel S x y := by
  cases related with
  | none => exact .none
  | some holds => exact .some (weaker _ _ holds)

theorem eq_none_of_rel {y : Option β} (related : Option.Rel R none y) : y = none := by
  cases related
  rfl

theorem eq_none_of_rel_none {x : Option α} (related : Option.Rel R x none) : x = none := by
  cases related
  rfl

theorem isSome_eq_of_rel {x : Option α} {y : Option β} (related : Option.Rel R x y) :
    x.isSome = y.isSome := by
  cases related with
  | none => rfl
  | some => rfl

end

namespace Entries

variable {κ α : Type} [BEq κ] {m : Entries κ α} {key : κ} {value : α}

/-! ### Entries and what they map to -/

theorem has_eq_isSome (m : Entries κ α) (key : κ) : m.has key = (m.get? key).isSome := by
  induction m with
  | nil => rfl
  | cons entry m ih =>
    rw [get?_cons, has, List.any_cons]
    cases entry.1 == key with
    | true => rfl
    | false => exact ih

theorem has_of_mem [ReflBEq κ] {entry : κ × α} (mem : entry ∈ m) : m.has entry.1 = true :=
  List.any_eq_true.2 ⟨entry, mem, BEq.rfl⟩

theorem has_append (m m' : Entries κ α) (key : κ) :
    has (m ++ m') key = (m.has key || m'.has key) := List.any_append

theorem get?_append (m m' : Entries κ α) (key : κ) :
    get? (m ++ m') key = (m.get? key).or (m'.get? key) := by
  unfold get?
  rw [List.find?_append]
  cases m.find? (·.1 == key) <;> rfl

/-- A key that is mapped to what it was mapped to before changes nothing. -/
theorem put_of_get? (found : m.get? key = some value) : m.put key value = m := by
  induction m with
  | nil => cases found
  | cons entry m ih =>
    rw [get?_cons] at found
    rw [put]
    split
    · next here =>
      rw [if_pos here] at found
      cases found
      rfl
    · next other =>
      rw [if_neg other] at found
      rw [ih found]

/-- A new key comes last. -/
theorem put_of_not_has (absent : m.has key = false) : m.put key value = m ++ [(key, value)] := by
  induction m with
  | nil => rfl
  | cons entry m ih =>
    obtain ⟨other, absent⟩ := Bool.or_eq_false_iff.1 absent
    have other : (entry.1 == key) = false := other
    rw [put, other, if_neg (by decide), ih absent]
    rfl

theorem put_put (m : Entries κ α) [ReflBEq κ] (key : κ) (value value' : α) :
    (m.put key value).put key value' = m.put key value' := by
  induction m with
  | nil =>
    rw [put, put, put, if_pos BEq.rfl]
  | cons entry m ih =>
    by_cases here : (entry.1 == key) = true
    · simp only [put, here, if_true]
    · simp only [put, here, if_false, ih, Bool.false_eq_true]

theorem exists_mem_of_get? (found : m.get? key = some value) :
    ∃ k, (k == key) = true ∧ (k, value) ∈ m := by
  induction m with
  | nil => cases found
  | cons entry m ih =>
    rw [get?_cons] at found
    split at found
    · next here =>
      cases found
      exact ⟨entry.1, here, List.mem_cons_self⟩
    · obtain ⟨k, same, mem⟩ := ih found
      exact ⟨k, same, List.mem_cons_of_mem _ mem⟩

/-- An entry after a key was mapped to a value is the new one, perhaps under an earlier key that is
the same, or an earlier one. -/
theorem mem_put {entry : κ × α} (mem : entry ∈ m.put key value) :
    (entry.2 = value ∧ ((entry.1 = key) ∨ (entry.1 == key) = true ∧ entry.1 ∈ m.keys)) ∨
      entry ∈ m := by
  induction m with
  | nil =>
    cases List.mem_singleton.1 mem
    exact .inl ⟨rfl, .inl rfl⟩
  | cons first m ih =>
    rw [put] at mem
    split at mem
    · next here =>
      rcases List.mem_cons.1 mem with rfl | mem
      · exact .inl ⟨rfl, .inr ⟨here, List.mem_cons_self⟩⟩
      · exact .inr (List.mem_cons_of_mem _ mem)
    · rcases List.mem_cons.1 mem with rfl | mem
      · exact .inr List.mem_cons_self
      · rcases ih mem with ⟨new, rfl | ⟨same, known⟩⟩ | old
        · exact .inl ⟨new, .inl rfl⟩
        · exact .inl ⟨new, .inr ⟨same, List.mem_cons_of_mem _ known⟩⟩
        · exact .inr (List.mem_cons_of_mem _ old)

/-! ### Entries chosen by their keys -/

section

variable {p : κ → Bool}

theorem get?_filter_key (respects : ∀ a b, (a == b) = true → p a = p b) (m : Entries κ α)
    (chosen : p key = true) : get? (m.filter fun entry => p entry.1) key = m.get? key := by
  induction m with
  | nil => rfl
  | cons entry m ih =>
    rw [List.filter_cons, get?_cons]
    by_cases here : (entry.1 == key) = true
    · rw [respects _ _ here, if_pos chosen, get?_cons, if_pos here, if_pos here]
    · rw [if_neg here]
      split
      · rw [get?_cons, if_neg here, ih]
      · exact ih

theorem put_filter_key (respects : ∀ a b, (a == b) = true → p a = p b) (m : Entries κ α) (key : κ)
    (value : α) : (m.put key value).filter (fun entry => p entry.1) =
      if p key then put (m.filter fun entry => p entry.1) key value
      else m.filter fun entry => p entry.1 := by
  induction m with
  | nil => cases chosen : p key <;> simp [put, chosen]
  | cons entry m ih =>
    rw [put]
    by_cases here : (entry.1 == key) = true
    · have same := respects _ _ here
      cases chosen : p key <;> simp [put, here, same, chosen]
    · cases chosen : p key <;> cases kept : p entry.1 <;> simp [put, here, ih, chosen, kept]

end

/-! ### Different keys -/

/-- No key is entered twice. -/
def Distinct (m : Entries κ α) : Prop := m.Pairwise fun a b => (a.1 == b.1) = false

theorem distinct_nil : Distinct ([] : Entries κ α) := .nil

theorem Distinct.append {m' : Entries κ α} (distinct : m.Distinct) (distinct' : m'.Distinct)
    (absent : ∀ entry ∈ m', m.has entry.1 = false) : Distinct (m ++ m') := by
  refine List.pairwise_append.2 ⟨distinct, distinct', fun entry mem other mem' => ?_⟩
  exact Bool.not_eq_true _ ▸ List.any_eq_false.1 (absent other mem') entry mem

theorem Distinct.filter (distinct : m.Distinct) (p : κ × α → Bool) : Distinct (m.filter p) :=
  List.Pairwise.filter p distinct

section

variable [EquivBEq κ]

theorem has_put (m : Entries κ α) (key other : κ) (value : α) :
    (m.put key value).has other = (key == other || m.has other) := by
  rw [has_eq_isSome, has_eq_isSome, get?_put]
  cases key == other <;> rfl

theorem get?_congr (m : Entries κ α) {other : κ} (same : (key == other) = true) :
    m.get? key = m.get? other := by
  induction m with
  | nil => rfl
  | cons entry m ih => rw [get?_cons, get?_cons, ih, BEq.congr_right same]

theorem has_congr (m : Entries κ α) {other : κ} (same : (key == other) = true) :
    m.has key = m.has other := by
  rw [has_eq_isSome, has_eq_isSome, get?_congr m same]

/-- An entry is the first one under its key. -/
theorem Distinct.find?_of_mem (distinct : m.Distinct) {entry : κ × α} (mem : entry ∈ m)
    (same : (entry.1 == key) = true) : m.find? (·.1 == key) = some entry := by
  induction m with
  | nil => exact absurd mem List.not_mem_nil
  | cons first m ih =>
    obtain ⟨apart, rest⟩ := List.pairwise_cons.1 distinct
    rw [List.find?_cons]
    rcases List.mem_cons.1 mem with rfl | mem
    · rw [same]
    · have other : (first.1 == key) = false := by
        rw [← BEq.congr_right same]
        exact apart entry mem
      rw [other]
      exact ih rest mem

theorem Distinct.get?_of_mem (distinct : m.Distinct) {entry : κ × α} (mem : entry ∈ m)
    (same : (entry.1 == key) = true) : m.get? key = some entry.2 := by
  rw [get?, distinct.find?_of_mem mem same]
  rfl

theorem Distinct.put (distinct : m.Distinct) (key : κ) (value : α) :
    (m.put key value).Distinct := by
  induction m with
  | nil => exact List.pairwise_singleton ..
  | cons first m ih =>
    obtain ⟨apart, rest⟩ := List.pairwise_cons.1 distinct
    rw [Entries.put]
    split
    · exact List.pairwise_cons.2 ⟨apart, rest⟩
    · next other =>
      refine List.pairwise_cons.2 ⟨fun entry mem => ?_, ih rest⟩
      rcases mem_put mem with ⟨-, rfl | ⟨same, -⟩⟩ | old
      · exact Bool.not_eq_true _ ▸ other
      · rw [BEq.congr_right same]
        exact Bool.not_eq_true _ ▸ other
      · exact apart entry old

/-- What a key is mapped to where some entries are left out: nothing if its entry is. -/
theorem Distinct.get?_filter (distinct : m.Distinct) (p : κ × α → Bool) :
    Entries.get? (m.filter p) key = some value ↔
      ∃ k, (k == key) = true ∧ (k, value) ∈ m ∧ p (k, value) = true := by
  constructor
  · intro found
    obtain ⟨k, same, mem⟩ := exists_mem_of_get? found
    obtain ⟨mem, kept⟩ := List.mem_filter.1 mem
    exact ⟨k, same, mem, kept⟩
  · rintro ⟨k, same, mem, kept⟩
    exact (distinct.filter p).get?_of_mem (List.mem_filter.2 ⟨mem, kept⟩) same

end

/-! ### Entries that are removed -/

section

variable [LawfulBEq κ]

theorem erase_eq_self (absent : key ∉ m.keys) : m.erase key = m := by
  refine List.filter_eq_self.2 fun entry mem => ?_
  have other : entry.1 ≠ key := fun same => absent (same ▸ List.mem_map_of_mem mem)
  simpa using other

theorem erase_cons_self (absent : key ∉ m.keys) : erase ((key, value) :: m) key = m := by
  refine Eq.trans ?_ (erase_eq_self absent)
  simp [erase]

theorem erase_cons_of_ne {other : κ} (ne : other ≠ key) :
    erase ((other, value) :: m) key = (other, value) :: erase m key := by
  simp [erase, ne]

theorem get?_erase (m : Entries κ α) (key other : κ) :
    (m.erase key).get? other = if key == other then none else m.get? other := by
  unfold erase
  split
  · next here =>
    have absent : ∀ entry ∈ m.filter fun entry => !(entry.1 == key),
        ¬ (entry.1 == other) = true := by
      intro entry mem
      rw [← eq_of_beq here]
      simpa using (List.mem_filter.1 mem).2
    rw [get?, List.find?_eq_none.2 absent]
    rfl
  · next ne =>
    refine get?_filter_key (p := fun k => !(k == key)) ?_ m ?_
    · intro a b same
      rw [eq_of_beq same]
    · rw [BEq.comm]
      simpa using ne

end

/-! ### Pairs put one after another -/

section

variable [EquivBEq κ]

/-- Pairs that are put override what is there. -/
theorem get?_foldl_put (pairs : List (κ × α)) (m : Entries κ α) (key : κ) :
    get? (pairs.foldl (fun m p => m.put p.1 p.2) m) key =
      ((ofPairs pairs).get? key).or (m.get? key) := by
  induction pairs generalizing m with
  | nil => rfl
  | cons pair pairs ih =>
    have first : (ofPairs (pair :: pairs)).get? key = _ := ih (put [] pair.1 pair.2)
    rw [List.foldl_cons, ih, first, Option.or_assoc, get?_put, get?_put]
    cases pair.1 == key <;> rfl

theorem get?_ofPairs_append (pairs pairs' : List (κ × α)) (key : κ) :
    (ofPairs (pairs ++ pairs')).get? key =
      ((ofPairs pairs').get? key).or ((ofPairs pairs).get? key) := by
  rw [ofPairs, List.foldl_append, get?_foldl_put]
  rfl

theorem get?_ofPairs_cons (pair : κ × α) (pairs : List (κ × α)) (key : κ) :
    (ofPairs (pair :: pairs)).get? key =
      ((ofPairs pairs).get? key).or (if pair.1 == key then some pair.2 else none) := by
  rw [← get?_nil (α := α) key, ← get?_cons]
  exact get?_foldl_put pairs [pair] key

end

section

variable [LawfulBEq κ]

theorem mem_of_get?_ofPairs {pairs : List (κ × α)}
    (found : (ofPairs pairs).get? key = some value) : (key, value) ∈ pairs := by
  induction pairs with
  | nil => cases found
  | cons pair pairs ih =>
    rw [get?_ofPairs_cons, Option.or_eq_some_iff] at found
    rcases found with later | ⟨-, first⟩
    · exact List.mem_cons_of_mem _ (ih later)
    · obtain ⟨here, same⟩ := Option.ite_none_right_eq_some.1 first
      cases same
      rw [← eq_of_beq here]
      exact List.mem_cons_self

/-- Pairs that are chosen by their keys give for such a key what all pairs give. -/
theorem get?_ofPairs_filter {p : κ → Bool} (pairs : List (κ × α)) (chosen : p key = true) :
    (ofPairs (pairs.filter fun pair => p pair.1)).get? key = (ofPairs pairs).get? key := by
  induction pairs with
  | nil => rfl
  | cons pair pairs ih =>
    rw [List.filter_cons, get?_ofPairs_cons, ← ih]
    split
    · rw [get?_ofPairs_cons]
    · next dropped =>
      have other : pair.1 ≠ key := fun same => dropped (same ▸ chosen)
      simp [other]

end

/-! ### Pairs with different keys -/

theorem foldl_put_of_distinct {pairs : List (κ × α)} (distinct : Distinct (m ++ pairs)) :
    pairs.foldl (fun m p => m.put p.1 p.2) m = m ++ pairs := by
  induction pairs generalizing m with
  | nil => exact (List.append_nil m).symm
  | cons pair pairs ih =>
    have absent : m.has pair.1 = false := by
      refine List.any_eq_false.2 ?_
      intro entry mem same
      have apart := (List.pairwise_append.1 distinct).2.2 entry mem pair List.mem_cons_self
      rw [apart] at same
      cases same
    have whole : Distinct ((m ++ [pair]) ++ pairs) := by simpa using distinct
    rw [List.foldl_cons, put_of_not_has absent, ih whole, List.append_assoc, List.singleton_append]

/-- Pairs with different keys are the entries of their map. -/
theorem ofPairs_of_distinct {pairs : List (κ × α)} (distinct : Distinct pairs) :
    ofPairs pairs = pairs :=
  foldl_put_of_distinct distinct

theorem distinct_iff_nodup [LawfulBEq κ] : m.Distinct ↔ m.keys.Nodup := by
  simp only [Distinct, keys, List.Nodup, List.pairwise_map, beq_eq_false_iff_ne]

/-! ### Other values under the same keys -/

section

variable {β : Type}

theorem Distinct.map_keys (distinct : m.Distinct) (f : κ × α → β) :
    Distinct (m.map fun entry => (entry.1, f entry)) :=
  List.pairwise_map.2 distinct

variable [LawfulBEq κ]

theorem get?_map_key (m : Entries κ α) (f : κ → β) (key : κ) :
    get? (m.map fun entry => (entry.1, f entry.1)) key = (m.get? key).map fun _ => f key := by
  induction m with
  | nil => rfl
  | cons entry m ih =>
    rw [List.map_cons, get?_cons, get?_cons, ih]
    split
    · next here => rw [eq_of_beq here, Option.map_some]
    · rfl

/-- A table of a function gives what the function gives. -/
theorem get?_map_pair (keys : List κ) (f : κ → β) (key : κ) :
    get? (keys.map fun key => (key, f key)) key = if key ∈ keys then some (f key) else none := by
  induction keys with
  | nil => rfl
  | cons first keys ih =>
    rw [List.map_cons, get?_cons, ih]
    by_cases here : first = key
    · subst here
      simp
    · have other : ¬ key = first := fun same => here same.symm
      simp [here, other]

/-! ### Values collected by key -/

/-- The values that stand with a key in a list of pairs. -/
def valuesOf (key : κ) (pairs : List (κ × α)) : List α := (pairs.filter (·.1 == key)).map (·.2)

/-- In a map at most one value stands with a key. -/
theorem Distinct.valuesOf_eq (distinct : m.Distinct) (key : κ) :
    valuesOf key m = (m.get? key).toList := by
  induction m with
  | nil => rfl
  | cons entry m ih =>
    obtain ⟨apart, rest⟩ := List.pairwise_cons.1 distinct
    rw [get?_cons, valuesOf, List.filter_cons]
    by_cases here : entry.1 = key
    · have none : m.filter (·.1 == key) = [] := by
        refine List.filter_eq_nil_iff.2 fun other mem => ?_
        rw [← here, BEq.comm, apart other mem]
        decide
      simp [here, none]
    · simp only [here, beq_iff_eq, if_false]
      exact ih rest

/-- Collects values under their keys, each after those collected earlier. -/
def collect (all : Entries κ (List α)) (pair : κ × α) : Entries κ (List α) :=
  all.put pair.1 ((all.get? pair.1).getD [] ++ [pair.2])

theorem Distinct.collect {all : Entries κ (List α)} (distinct : all.Distinct)
    (pairs : List (κ × α)) : Distinct (pairs.foldl Entries.collect all) := by
  induction pairs generalizing all with
  | nil => exact distinct
  | cons pair pairs ih => exact ih (distinct.put ..)

theorem get?_collect (pairs : List (κ × α)) (all : Entries κ (List α)) (key : κ) :
    get? (pairs.foldl Entries.collect all) key =
      if (valuesOf key pairs).isEmpty then all.get? key
      else some ((all.get? key).getD [] ++ valuesOf key pairs) := by
  induction pairs generalizing all with
  | nil => rfl
  | cons pair pairs ih =>
    rw [List.foldl_cons, ih, collect, get?_put]
    by_cases here : pair.1 = key
    · subst here
      have first : valuesOf pair.1 (pair :: pairs) = pair.2 :: valuesOf pair.1 pairs := by
        simp [valuesOf]
      rw [first, if_pos BEq.rfl]
      by_cases none : valuesOf pair.1 pairs = []
      · simp [none]
      · simp [none]
    · have others : valuesOf key (pair :: pairs) = valuesOf key pairs := by
        simp [valuesOf, here]
      have apart : (pair.1 == key) = false := beq_eq_false_iff_ne.2 here
      simp only [others, apart, Bool.false_eq_true, if_false]

end

end Entries

end Promptuary
