/-!
Passes over lists in which a step can fail. A pass succeeds if every step does, and what it gives is
told by what the steps give.
-/

namespace Promptuary.Outcome

variable {ε α β : Type}

/-! ### Single steps -/

@[simp] theorem ok_bind (a : α) (f : α → Except ε β) : (.ok a >>= f) = f a := rfl

/-- What went before a step that succeeded did so as well. -/
theorem exists_of_bind_eq_ok {x : Except ε α} {f : α → Except ε β} {b : β}
    (ok : (x >>= f) = .ok b) : ∃ a, x = .ok a ∧ f a = .ok b := by
  cases x with
  | error => cases ok
  | ok a => exact ⟨a, rfl, ok⟩

/-- A step that fails does so at its first part or after it. -/
theorem eq_error_of_bind {x : Except ε α} {f : α → Except ε β} {e : ε}
    (failed : (x >>= f) = .error e) : x = .error e ∨ ∃ a, x = .ok a ∧ f a = .error e := by
  cases x with
  | error =>
    cases failed
    exact .inl rfl
  | ok a => exact .inr ⟨a, rfl, failed⟩

theorem exists_of_map_eq_ok {x : Except ε α} {f : α → β} {b : β} (ok : x.map f = .ok b) :
    ∃ a, x = .ok a ∧ f a = b := by
  cases x with
  | error => cases ok
  | ok a => exact ⟨a, rfl, Except.ok.inj ok⟩

theorem eq_error_of_map {x : Except ε α} {f : α → β} {e : ε} (failed : x.map f = .error e) :
    x = .error e := by
  cases x with
  | error => exact congrArg _ (Except.error.inj failed)
  | ok => cases failed

theorem exists_map_iff {x : Except ε α} {f : α → β} : (∃ b, x.map f = .ok b) ↔ ∃ a, x = .ok a := by
  cases x with
  | error => exact ⟨nofun, nofun⟩
  | ok a => exact ⟨fun _ => ⟨a, rfl⟩, fun _ => ⟨f a, rfl⟩⟩

/-- Two steps that do not need one another succeed if both do. -/
theorem exists_bind_map_iff {γ : Type} {x : Except ε α} {y : Except ε β} {f : α → β → γ} :
    (∃ c, (x >>= fun a => y.map (f a)) = .ok c) ↔ (∃ a, x = .ok a) ∧ ∃ b, y = .ok b := by
  cases x with
  | error => exact ⟨nofun, nofun⟩
  | ok a =>
    rw [ok_bind, exists_map_iff]
    exact ⟨fun rest => ⟨⟨a, rfl⟩, rest⟩, And.right⟩

@[simp] theorem mapError_ok {ε' : Type} (a : α) (f : ε → ε') :
    (Except.ok a).mapError f = .ok a := rfl

theorem exists_of_isOk {x : Except ε α} (ok : x.isOk = true) : ∃ a, x = .ok a := by
  cases x with
  | error => cases ok
  | ok a => exact ⟨a, rfl⟩

/-! ### Giving every item -/

theorem mapM_ok {f : α → Except ε β} {xs : List α} (each : ∀ x ∈ xs, ∃ y, f x = .ok y) :
    ∃ ys, xs.mapM f = .ok ys := by
  induction xs with
  | nil => exact ⟨[], rfl⟩
  | cons x xs ih =>
    obtain ⟨y, first⟩ := each x List.mem_cons_self
    obtain ⟨ys, rest⟩ := ih fun z mem => each z (List.mem_cons_of_mem _ mem)
    refine ⟨y :: ys, ?_⟩
    rw [List.mapM_cons, first, rest]
    rfl

/-- A pass whose steps are a function succeeds with the map of that function. -/
theorem mapM_eq_map {f : α → Except ε β} {g : α → β} {xs : List α}
    (each : ∀ x ∈ xs, f x = .ok (g x)) : xs.mapM f = .ok (xs.map g) := by
  induction xs with
  | nil => rfl
  | cons x xs ih =>
    rw [List.mapM_cons, each x List.mem_cons_self,
      ih fun z mem => each z (List.mem_cons_of_mem _ mem)]
    rfl

/-- A pass whose steps give what those of another pass give, each brought into another form. -/
theorem mapM_map_step {γ : Type} {f : α → Except ε γ} {g : α → Except ε β} {h : β → γ}
    (xs : List α) (each : ∀ x, f x = (g x).map h) : xs.mapM f = (xs.mapM g).map (List.map h) := by
  induction xs with
  | nil => rfl
  | cons x xs ih =>
    rw [List.mapM_cons, List.mapM_cons, each, ih]
    cases g x with
    | error => rfl
    | ok y => cases xs.mapM g <;> rfl

/-- Passes whose steps give the same give the same. -/
theorem mapM_congr {f g : α → Except ε β} {xs : List α} (each : ∀ x ∈ xs, f x = g x) :
    xs.mapM f = xs.mapM g := by
  induction xs with
  | nil => rfl
  | cons x xs ih =>
    rw [List.mapM_cons, List.mapM_cons, each x List.mem_cons_self,
      ih fun y mem => each y (List.mem_cons_of_mem _ mem)]

/-- What a pass gives comes from its steps. -/
theorem exists_of_mem_mapM {f : α → Except ε β} {xs : List α} {ys : List β} {y : β}
    (ran : xs.mapM f = .ok ys) (mem : y ∈ ys) : ∃ x ∈ xs, f x = .ok y := by
  induction xs generalizing ys with
  | nil =>
    cases ran
    simp at mem
  | cons x xs ih =>
    rw [List.mapM_cons] at ran
    obtain ⟨z, first, ran⟩ := exists_of_bind_eq_ok ran
    obtain ⟨zs, rest, ran⟩ := exists_of_bind_eq_ok ran
    cases ran
    rcases List.mem_cons.1 mem with rfl | later
    · exact ⟨x, List.mem_cons_self, first⟩
    · obtain ⟨w, among, gives⟩ := ih rest later
      exact ⟨w, List.mem_cons_of_mem _ among, gives⟩

/-- What the steps give is among what a pass gives. -/
theorem exists_mem_of_mapM {f : α → Except ε β} {xs : List α} {ys : List β} {x : α}
    (ran : xs.mapM f = .ok ys) (mem : x ∈ xs) : ∃ y ∈ ys, f x = .ok y := by
  induction xs generalizing ys with
  | nil => exact absurd mem List.not_mem_nil
  | cons z zs ih =>
    rw [List.mapM_cons] at ran
    obtain ⟨y, first, ran⟩ := exists_of_bind_eq_ok ran
    obtain ⟨rest, later, ran⟩ := exists_of_bind_eq_ok ran
    cases ran
    rcases List.mem_cons.1 mem with rfl | mem
    · exact ⟨y, List.mem_cons_self, first⟩
    · obtain ⟨w, among, gives⟩ := ih later mem
      exact ⟨w, List.mem_cons_of_mem _ among, gives⟩

/-- A pass fails because one of its steps does. -/
theorem exists_mem_of_mapM_eq_error {f : α → Except ε β} {xs : List α} {e : ε}
    (failed : xs.mapM f = .error e) : ∃ x ∈ xs, f x = .error e := by
  induction xs with
  | nil => cases failed
  | cons x xs ih =>
    rw [List.mapM_cons] at failed
    rcases eq_error_of_bind failed with first | ⟨y, -, failed⟩
    · exact ⟨x, List.mem_cons_self, first⟩
    · rcases eq_error_of_bind failed with later | ⟨ys, -, failed⟩
      · obtain ⟨z, mem, failed⟩ := ih later
        exact ⟨z, List.mem_cons_of_mem _ mem, failed⟩
      · cases failed

/-- What the items that a pass gives have of the items that it went through. -/
theorem map_of_mapM {γ : Type} {f : α → Except ε β} {g : β → γ} {h : α → γ} {xs : List α}
    {ys : List β} (ran : xs.mapM f = .ok ys) (each : ∀ x y, f x = .ok y → g y = h x) :
    ys.map g = xs.map h := by
  induction xs generalizing ys with
  | nil =>
    cases ran
    rfl
  | cons x xs ih =>
    rw [List.mapM_cons] at ran
    obtain ⟨y, first, ran⟩ := exists_of_bind_eq_ok ran
    obtain ⟨rest, later, ran⟩ := exists_of_bind_eq_ok ran
    cases ran
    rw [List.map_cons, List.map_cons, each x y first, ih later]

/-- A pass gives as many items as it went through. -/
theorem length_of_mapM {f : α → Except ε β} {xs : List α} {ys : List β}
    (ran : xs.mapM f = .ok ys) : ys.length = xs.length := by
  have same := map_of_mapM (g := fun _ => ()) (h := fun _ => ()) ran fun _ _ _ => rfl
  simpa using congrArg List.length same

/-! ### Choosing items -/

/-- Whether the answer to a question is yes. -/
def holds : Except ε Bool → Bool
  | .ok b => b
  | .error _ => false

theorem filterAuxM_eq {p : α → Except ε Bool} {q : α → Bool} {xs : List α}
    (each : ∀ x ∈ xs, p x = .ok (q x)) (chosen : List α) :
    xs.filterAuxM p chosen = .ok ((xs.filter q).reverse ++ chosen) := by
  induction xs generalizing chosen with
  | nil => rfl
  | cons x xs ih =>
    rw [List.filterAuxM, each x List.mem_cons_self, List.filter_cons]
    refine (ih (fun y mem => each y (List.mem_cons_of_mem _ mem)) _).trans ?_
    cases q x with
    | true => simp
    | false => simp

/-- Choosing items succeeds if every question has an answer. -/
theorem filterM_eq_filter {p : α → Except ε Bool} {q : α → Bool} {xs : List α}
    (each : ∀ x ∈ xs, p x = .ok (q x)) : xs.filterM p = .ok (xs.filter q) := by
  rw [List.filterM, filterAuxM_eq each, List.append_nil]
  exact congrArg Except.ok (List.reverse_reverse _)

theorem answers_of_filterAuxM {p : α → Except ε Bool} {xs ys chosen : List α}
    (ran : xs.filterAuxM p chosen = .ok ys) : ∀ x ∈ xs, p x = .ok (holds (p x)) := by
  induction xs generalizing chosen with
  | nil => exact fun _ mem => absurd mem List.not_mem_nil
  | cons x xs ih =>
    rw [List.filterAuxM] at ran
    cases answer : p x with
    | error e =>
      rw [answer] at ran
      cases ran
    | ok b =>
      rw [answer] at ran
      intro y mem
      rcases List.mem_cons.1 mem with rfl | mem
      · rw [answer]
        rfl
      · exact ih ran y mem

/-- If choosing items succeeds, every question has an answer, and the items are those for which it
is yes. -/
theorem filterM_spec {p : α → Except ε Bool} {xs ys : List α} (ran : xs.filterM p = .ok ys) :
    (∀ x ∈ xs, p x = .ok (holds (p x))) ∧ ys = xs.filter fun x => holds (p x) := by
  have answers : ∀ x ∈ xs, p x = .ok (holds (p x)) := by
    rw [List.filterM] at ran
    cases chosen : xs.filterAuxM p [] with
    | error e =>
      rw [chosen] at ran
      cases ran
    | ok zs => exact answers_of_filterAuxM chosen
  have same := (filterM_eq_filter answers).symm.trans ran
  exact ⟨answers, (Except.ok.inj same).symm⟩

end Promptuary.Outcome
