import Mathlib.Data.List.Nodup
import Promptuary.Proofs.Calendar.Order
import Promptuary.Store.History

/-!
What becomes of a history that a version is added to: nothing is lost and nothing comes twice, the
bound holds, versions whose times never go back keep the order in which they came, and the version
that was added is kept just if fewer versions than the bound are later.
-/

namespace Promptuary

namespace Calendar.Moment

variable {β : Type} {key : β → Moment} {xs ys : List β}

/-- Items that are in order already stay as they are. -/
theorem eq_of_sortOn? (forward : xs.Pairwise fun a b => (key a).instant ≤ (key b).instant)
    (sorted : sortOn? key xs = .ok ys) : ys = xs := by
  unfold sortOn? at sorted
  split at sorted
  · cases sorted
    refine List.mergeSort_of_pairwise (forward.imp ?_)
    intro a b le
    simpa [isBefore] using le
  · cases sorted

/-- Whether two items may stand in this order. -/
def mayPrecede (key : β → Moment) (a b : β) : Bool := !(key b).isBefore (key a)

theorem mayPrecede_iff {a b : β} :
    mayPrecede key a b = true ↔ (key a).instant ≤ (key b).instant := by
  simp [mayPrecede, isBefore]

theorem mayPrecede_trans (a b c : β) (first : mayPrecede key a b = true)
    (second : mayPrecede key b c = true) : mayPrecede key a c = true :=
  mayPrecede_iff.2 (Int.le_trans (mayPrecede_iff.1 first) (mayPrecede_iff.1 second))

theorem mayPrecede_total (a b : β) : (mayPrecede key a b || mayPrecede key b a) = true := by
  rw [Bool.or_eq_true, mayPrecede_iff, mayPrecede_iff]
  exact Int.le_total _ _

theorem pairwise_of_sortOn? (sorted : sortOn? key xs = .ok ys) :
    ys.Pairwise fun a b => (key a).instant ≤ (key b).instant := by
  unfold sortOn? at sorted
  split at sorted
  · cases sorted
    exact (List.pairwise_mergeSort mayPrecede_trans mayPrecede_total xs).imp mayPrecede_iff.1
  · cases sorted

/-- Two items that stand in order keep standing so. -/
theorem sublist_of_sortOn? {a b : β} (pair : [a, b].Sublist xs)
    (le : (key a).instant ≤ (key b).instant) (sorted : sortOn? key xs = .ok ys) :
    [a, b].Sublist ys := by
  unfold sortOn? at sorted
  split at sorted
  · cases sorted
    exact List.pair_sublist_mergeSort mayPrecede_trans mayPrecede_total (mayPrecede_iff.2 le) pair
  · cases sorted

end Calendar.Moment

/-- Different items come in one order only. -/
theorem not_sublist_of_nodup {β : Type} {front back : List β} {a b : β}
    (distinct : (front ++ a :: back).Nodup) (behind : b ∈ back) :
    ¬ [b, a].Sublist (front ++ a :: back) := by
  intro pair
  obtain ⟨-, rest, apart⟩ := List.nodup_append.1 distinct
  have later := (List.nodup_cons.1 rest).1
  obtain ⟨l, r, whole, first, second⟩ := List.sublist_append_iff.1 pair
  cases l with
  | nil =>
    rw [List.nil_append] at whole
    subst whole
    cases second with
    | cons _ beyond => exact later (beyond.subset (by simp))
    | cons_cons => exact later behind
  | cons c l =>
    obtain rfl : b = c := (List.cons.inj whole).1
    exact apart b (first.subset List.mem_cons_self) b (List.mem_cons_of_mem _ behind) rfl

namespace History

variable {bound : Nat} {h : History} {v : Version} {t : Trimmed}

/-- How a history is brought down to its bound: it is within it already, or it is put in order and
cut in two. -/
theorem trim_cases (trimmed : trim bound h = .ok t) :
    (h.length ≤ bound ∧ t = { kept := h }) ∨
      ∃ ordered, bound < h.length ∧ Calendar.Moment.sortOn? Version.createdAt h = .ok ordered ∧
        t = ⟨ordered.drop (h.length - bound), ordered.take (h.length - bound)⟩ := by
  unfold trim at trimmed
  split at trimmed
  · next within =>
    cases trimmed
    exact .inl ⟨within, rfl⟩
  · next beyond =>
    cases sorted : Calendar.Moment.sortOn? Version.createdAt h with
    | error => rw [sorted] at trimmed; cases trimmed
    | ok ordered =>
      rw [sorted] at trimmed
      cases trimmed
      exact .inr ⟨ordered, Nat.lt_of_not_le beyond, rfl, rfl⟩

/-- A history whose times can be compared can be brought down to its bound. -/
theorem exists_trim (bound : Nat)
    (comparable : Calendar.Moment.agree (h.map Version.createdAt) = true) :
    ∃ t, trim bound h = .ok t := by
  unfold trim
  split
  · exact ⟨_, rfl⟩
  · rw [Calendar.Moment.sortOn?, if_pos comparable]
    exact ⟨_, rfl⟩

/-- What is dropped and what is kept make up the whole history. -/
theorem trim_perm (trimmed : trim bound h = .ok t) : (t.dropped ++ t.kept).Perm h := by
  rcases trim_cases trimmed with ⟨-, rfl⟩ | ⟨ordered, -, sorted, rfl⟩
  · exact .refl _
  · change (ordered.take _ ++ ordered.drop _).Perm h
    rw [List.take_append_drop]
    exact Calendar.Moment.perm_of_sortOn? sorted

/-- As much is kept as the bound allows. -/
theorem length_trim (trimmed : trim bound h = .ok t) : t.kept.length = min bound h.length := by
  rcases trim_cases trimmed with ⟨within, rfl⟩ | ⟨ordered, beyond, sorted, rfl⟩
  · exact (Nat.min_eq_right within).symm
  · have same := (Calendar.Moment.perm_of_sortOn? sorted).length_eq
    change (ordered.drop _).length = _
    rw [List.length_drop]
    omega

/-- A history whose times never go back is cut in two where it stands. -/
theorem trim_eq (forward : h.Pairwise fun v w => v.createdAt.instant ≤ w.createdAt.instant)
    (trimmed : trim bound h = .ok t) : t.dropped ++ t.kept = h := by
  rcases trim_cases trimmed with ⟨-, rfl⟩ | ⟨ordered, -, sorted, rfl⟩
  · rfl
  · rw [Calendar.Moment.eq_of_sortOn? forward sorted]
    exact List.take_append_drop ..

/-- A history with a version more and a positive bound is not empty. -/
theorem kept_ne_nil (positive : 1 ≤ bound) (added : h.add bound v = .ok t) : t.kept ≠ [] := by
  have length := length_trim added
  rw [List.length_append, List.length_singleton] at length
  intro nil
  rw [nil, List.length_nil] at length
  omega

/-! ### The version that was added -/

/-- The versions of a history that are later than a moment. -/
def later (time : Calendar.Moment) (h : History) : History :=
  h.filter fun w => time.isBefore w.createdAt

/-- In order, exactly the later versions come behind the one that was added last. -/
theorem perm_later {front back ordered : History} (distinct : (h ++ [v]).Nodup)
    (sorted : Calendar.Moment.sortOn? Version.createdAt (h ++ [v]) = .ok ordered)
    (split : ordered = front ++ v :: back) : back.Perm (later v.createdAt h) := by
  have perm := Calendar.Moment.perm_of_sortOn? sorted
  have pairs := Calendar.Moment.pairwise_of_sortOn? sorted
  have apart := perm.nodup_iff.2 distinct
  subst split
  obtain ⟨-, behind, across⟩ := List.pairwise_append.1 pairs
  obtain ⟨-, rest, -⟩ := List.nodup_append.1 apart
  refine (List.perm_ext_iff_of_nodup (List.nodup_cons.1 rest).2
    ((List.nodup_append.1 distinct).1.filter _)).2 fun w => ?_
  simp only [List.mem_filter, Calendar.Moment.isBefore, decide_eq_true_eq]
  constructor
  · intro mem
    have ne : w ≠ v := fun same => (List.nodup_cons.1 rest).1 (same ▸ mem)
    have old : w ∈ h := by
      have whole := perm.subset (List.mem_append_right front (List.mem_cons_of_mem v mem))
      simpa [ne] using whole
    refine ⟨old, Int.lt_of_not_ge fun le => ?_⟩
    -- Sorting keeps an older entry that is not later in front of the new one.
    have pair : [w, v].Sublist (h ++ [v]) :=
      (List.singleton_sublist.2 old).append (List.Sublist.refl [v])
    exact not_sublist_of_nodup apart mem (Calendar.Moment.sublist_of_sortOn? pair le sorted)
  · rintro ⟨old, lt⟩
    rcases List.mem_append.1 (perm.symm.subset (List.mem_append_left [v] old)) with front | here
    · have le := across w front v List.mem_cons_self
      omega
    · rcases List.mem_cons.1 here with rfl | mem
      · omega
      · exact mem

/-- The labels of a history with a version more differ, if the label that is added is a new one. -/
theorem nodup_labels_append (distinct : h.labels.Nodup) (free : v.label ∉ h.labels) :
    (labels (h ++ [v])).Nodup := by
  rw [labels, List.map_append, List.nodup_append]
  refine ⟨distinct, List.pairwise_singleton _ _, ?_⟩
  rintro label mem other single rfl
  rw [List.map_singleton, List.mem_singleton] at single
  exact free (single ▸ mem)

/-- The version that was added is kept just if the versions that are later leave a place for it. -/
theorem mem_kept_iff (distinct : h.labels.Nodup) (free : v.label ∉ h.labels)
    (added : h.add bound v = .ok t) :
    v ∈ t.kept ↔ (later v.createdAt h).length < bound := by
  have whole : (h ++ [v]).Nodup := List.Nodup.of_map _ (nodup_labels_append distinct free)
  rcases trim_cases added with ⟨within, rfl⟩ | ⟨ordered, beyond, sorted, rfl⟩
  · have fewer : (later v.createdAt h).length ≤ h.length := List.length_filter_le ..
    rw [List.length_append, List.length_singleton] at within
    exact iff_of_true (by simp) (by omega)
  · have perm := Calendar.Moment.perm_of_sortOn? sorted
    obtain ⟨front, back, split⟩ := List.append_of_mem (perm.symm.subset (by simp : v ∈ h ++ [v]))
    have behind := (perm_later whole sorted split).length_eq
    have total := perm.length_eq
    obtain ⟨-, rest, -⟩ := List.nodup_append.1 (split ▸ perm.nodup_iff.2 whole)
    subst split
    simp only [List.length_append, List.length_cons, List.length_nil] at total beyond ⊢
    rw [← behind]
    constructor
    · intro mem
      refine Nat.lt_of_not_le fun many => ?_
      rw [List.drop_append, List.drop_eq_nil_of_le (by omega), List.nil_append] at mem
      obtain ⟨n, excess⟩ : ∃ n, h.length + 1 - bound - front.length = n + 1 :=
        ⟨h.length - bound - front.length, by omega⟩
      rw [excess, List.drop_succ_cons] at mem
      exact (List.nodup_cons.1 rest).1 (List.mem_of_mem_drop mem)
    · intro few
      rw [List.drop_append_of_le_length (by omega)]
      exact List.mem_append_right _ List.mem_cons_self

end History

end Promptuary
