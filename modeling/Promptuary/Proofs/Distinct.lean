/-!
Lists without their repeats. No item of such a list equals an earlier one, nothing new comes in, and
a list that has no repeats stays as it is. Where names of items differ, each is found by its own, and
items are split by questions that exclude each other.
-/

namespace Promptuary.Distinct

variable {α : Type} [BEq α]

theorem mem_of_mem_eraseDups (xs : List α) {x : α} (mem : x ∈ xs.eraseDups) : x ∈ xs := by
  match xs with
  | [] => simp at mem
  | y :: ys =>
    rw [List.eraseDups_cons, List.mem_cons] at mem
    rcases mem with rfl | mem
    · exact List.mem_cons_self
    · have later := mem_of_mem_eraseDups (ys.filter fun b => !b == y) mem
      exact List.mem_cons_of_mem _ (List.mem_filter.1 later).1
termination_by xs.length
decreasing_by exact Nat.lt_succ_of_le (List.length_filter_le ..)

/-- Every item is the same as one of those without repeats. -/
theorem exists_mem_eraseDups [ReflBEq α] (xs : List α) {x : α} (mem : x ∈ xs) :
    ∃ y ∈ xs.eraseDups, (x == y) = true := by
  match xs with
  | [] => exact absurd mem List.not_mem_nil
  | y :: ys =>
    rw [List.eraseDups_cons]
    by_cases same : (x == y) = true
    · exact ⟨y, List.mem_cons_self, same⟩
    · rcases List.mem_cons.1 mem with rfl | later
      · exact absurd BEq.rfl same
      · have kept : x ∈ ys.filter fun b => !b == y := by
          refine List.mem_filter.2 ⟨later, ?_⟩
          simpa using same
        obtain ⟨z, found, same⟩ := exists_mem_eraseDups (ys.filter fun b => !b == y) kept
        exact ⟨z, List.mem_cons_of_mem _ found, same⟩
termination_by xs.length
decreasing_by exact Nat.lt_succ_of_le (List.length_filter_le ..)

theorem pairwise_eraseDups (xs : List α) : xs.eraseDups.Pairwise fun a b => (b == a) = false := by
  match xs with
  | [] => exact .nil
  | x :: xs =>
    rw [List.eraseDups_cons]
    refine .cons ?_ (pairwise_eraseDups (xs.filter fun b => !b == x))
    intro b mem
    have kept := (List.mem_filter.1 (mem_of_mem_eraseDups _ mem)).2
    simpa using kept
termination_by xs.length
decreasing_by exact Nat.lt_succ_of_le (List.length_filter_le ..)

/-- A list without repeats stays as it is. -/
theorem eraseDups_eq_self {xs : List α} (distinct : xs.Pairwise fun a b => (b == a) = false) :
    xs.eraseDups = xs := by
  induction xs with
  | nil => rfl
  | cons x xs ih =>
    obtain ⟨fresh, rest⟩ := List.pairwise_cons.1 distinct
    have all : xs.filter (fun b => !b == x) = xs :=
      List.filter_eq_self.2 fun b mem => by simp [fresh b mem]
    rw [List.eraseDups_cons, all, ih rest]

theorem eraseDups_eraseDups (xs : List α) : xs.eraseDups.eraseDups = xs.eraseDups :=
  eraseDups_eq_self (pairwise_eraseDups xs)

/-- Among items of different names each one is found by its name. -/
theorem find?_of_nodup {β γ : Type} [DecidableEq γ] {name : β → γ} {xs : List β} {x : β}
    (distinct : (xs.map name).Nodup) (mem : x ∈ xs) :
    xs.find? (fun y => name y = name x) = some x := by
  induction xs with
  | nil => exact absurd mem List.not_mem_nil
  | cons y ys ih =>
    obtain ⟨apart, rest⟩ := List.nodup_cons.1 distinct
    rw [List.find?_cons]
    rcases List.mem_cons.1 mem with rfl | later
    · simp
    · have other : name y ≠ name x := fun same => apart (List.mem_map.2 ⟨x, later, same.symm⟩)
      simp only [other, decide_false]
      exact ih rest later

/-- Items that are chosen by questions, no two of which have the answer yes for one item, are
together those for which the answer to some question is yes. -/
theorem flatMap_filter_perm {κ β : Type} {ks : List κ} {xs : List β} {q : κ → β → Bool}
    (apart : ks.Pairwise fun a b => ∀ x, q a x = true → q b x = false) :
    (ks.flatMap fun k => xs.filter (q k)).Perm (xs.filter fun x => ks.any fun k => q k x) := by
  induction ks with
  | nil => simp
  | cons k ks ih =>
    obtain ⟨first, rest⟩ := List.pairwise_cons.1 apart
    have both := List.filter_append_perm (q k) (xs.filter fun x => (k :: ks).any fun k => q k x)
    rw [List.filter_filter, List.filter_filter] at both
    have here : xs.filter (fun x => q k x && (k :: ks).any fun k => q k x) = xs.filter (q k) := by
      refine List.filter_congr fun x _ => ?_
      rw [List.any_cons]
      cases q k x <;> rfl
    have later : xs.filter (fun x => (!q k x) && (k :: ks).any fun k => q k x) =
        xs.filter fun x => ks.any fun k => q k x := by
      refine List.filter_congr fun x _ => ?_
      rw [List.any_cons]
      cases chosen : q k x with
      | false => rfl
      | true =>
        have none : (ks.any fun k => q k x) = false :=
          List.any_eq_false.2 fun other among => by simp [first other among x chosen]
        rw [none]
        rfl
    rw [here, later] at both
    exact ((ih rest).append_left _).trans both

end Promptuary.Distinct
