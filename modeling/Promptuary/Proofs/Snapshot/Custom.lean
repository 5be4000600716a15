import Mathlib.Algebra.BigOperators.Ring.Finset
import Mathlib.Algebra.BigOperators.Ring.List
import Mathlib.Algebra.Order.BigOperators.Group.List
import Mathlib.Tactic.LinearCombination
import Promptuary.Proofs.Distinct
import Promptuary.Proofs.Snapshot.Rollup

/-!
Custom metrics that are rolled up. One rollup gives the mean over the snapshots that have the metric,
with their counts of executions as weights. The snapshot it makes keeps no count of its own for the
metric, so that a second rollup weighs it with all executions of its window. Main statement: what two
rollups give, and when it is the mean over the snapshots that have the metric
(`rollUp_custom_twice`).
-/

namespace Promptuary.Snapshot

/-! ### Snapshots that have a metric -/

section

variable {α : Type} {name : String} {group sources : List (Snapshot α)}
  {groups : List (List (Snapshot α))}

/-- The snapshots that have a custom metric. -/
def carriers (name : String) (sources : List (Snapshot α)) : List (Snapshot α) :=
  sources.filter (·.metrics.custom.has name)

/-- The number of executions in snapshots. -/
def executions (sources : List (Snapshot α)) : Int := (sources.map (·.metrics.count)).sum

/-- The groups in which a snapshot has a custom metric. -/
def carrying (name : String) (groups : List (List (Snapshot α))) : List (List (Snapshot α)) :=
  groups.filter fun group => !(carriers name group).isEmpty

theorem mem_customNames : name ∈ customNames sources ↔ carriers name sources ≠ [] := by
  simp [customNames, carriers, Entries.has, Entries.keys]

theorem mem_carrying : group ∈ carrying name groups ↔ group ∈ groups ∧ carriers name group ≠ [] := by
  simp [carrying]

theorem carriers_flatten (groups : List (List (Snapshot α))) :
    carriers name groups.flatten = ((carrying name groups).map (carriers name)).flatten := by
  have parted : carriers name groups.flatten = (groups.map (carriers name)).flatten :=
    List.filter_flatten
  rw [parted, ← List.flatten_filter_not_isEmpty, List.filter_map]
  rfl

end

open Exact

variable {α : Type} [Field α] [LinearOrder α] [FloorRing α] [Numerals α]

/-- The value of a custom metric. -/
def customValue (name : String) (s : Snapshot α) : α := (s.metrics.custom.get? name).getD 0

/-- The sum of a custom metric over the executions in the snapshots that have it. -/
def customTotal (name : String) (sources : List (Snapshot α)) : α :=
  ((carriers name sources).map fun s => customValue name s * (s.metrics.count : α)).sum

/-- The mean of a custom metric over the snapshots that have it, weighted with their counts of
executions; nothing if none has it. -/
def carriedMean (name : String) (sources : List (Snapshot α)) : Option α :=
  if carriers name sources = [] then none
  else some (customTotal name sources / executions (carriers name sources))

/-- A snapshot into which others are rolled up. -/
def RolledFrom (sources : List (Snapshot α)) (s : Snapshot α) : Prop :=
  ∃ id interval start times, rollUp id interval start sources times = .ok s

/-! ### One rollup -/

section

variable {name : String} {sources : List (Snapshot α)} {s : Snapshot α}

/-- In exact arithmetic a rollup never fails. -/
theorem exists_rolledFrom (sources : List (Snapshot α)) : ∃ s, RolledFrom sources s := by
  obtain ⟨s, ok, -⟩ :=
    rollUp_ok (representable _) (Nat.le_refl (weightOf sources)) "" .minute ⟨0, none⟩ []
  exact ⟨s, _, _, _, _, ok⟩

theorem meanCustom_eq (name : String) (sources : List (Snapshot α)) :
    meanCustom sources name =
      .ok (customTotal name sources / executions (carriers name sources)) := by
  have values : (carriers name sources).filterMap (·.metrics.custom.get? name) =
      (carriers name sources).map (customValue name) := by
    rw [← List.filterMap_eq_map]
    refine List.filterMap_congr fun s mem => ?_
    have carried := (List.mem_filter.1 mem).2
    rw [Entries.has_eq_isSome, Option.isSome_iff_exists] at carried
    obtain ⟨x, found⟩ := carried
    simp [customValue, found]
  have mean : meanCustom sources name =
      Sample.countedMean ((carriers name sources).filterMap (·.metrics.custom.get? name))
        ((carriers name sources).map (·.metrics.count)) := rfl
  rw [mean, values, countedMean_map]
  rfl

/-- A rollup gives the mean of a custom metric over the snapshots that have it. -/
theorem RolledFrom.custom (rolled : RolledFrom sources s) (name : String) :
    s.metrics.custom.get? name = carriedMean name sources := by
  obtain ⟨id, interval, start, times, ok⟩ := rolled
  obtain ⟨-, -, -, merged⟩ := merged_of_rollUp ok
  obtain ⟨-, -, customs⟩ := parts_of_mergeMetrics merged
  have table : s.metrics.custom = (customNames sources).map fun name =>
      (name, customTotal name sources / executions (carriers name sources)) := by
    refine (Except.ok.inj ((Outcome.mapM_eq_map fun name _ => ?_).symm.trans customs)).symm
    rw [meanCustom_eq]
    rfl
  rw [table, Entries.get?_map_pair, carriedMean]
  simp only [mem_customNames, ne_eq, ite_not]

/-- A rollup counts all executions, also those of snapshots without the metric. -/
theorem RolledFrom.count (rolled : RolledFrom sources s) :
    s.metrics.count = executions sources := by
  obtain ⟨id, interval, start, times, ok⟩ := rolled
  obtain ⟨-, -, -, merged⟩ := merged_of_rollUp ok
  rw [(parts_of_mergeMetrics merged).1]
  exact tally_eq _

theorem RolledFrom.has (rolled : RolledFrom sources s) (name : String) :
    s.metrics.custom.has name = true ↔ carriers name sources ≠ [] := by
  rw [Entries.has_eq_isSome, rolled.custom, carriedMean]
  split <;> simp [*]

theorem RolledFrom.customValue_mul_count (rolled : RolledFrom sources s) (name : String)
    (carried : carriers name sources ≠ []) :
    customValue name s * (s.metrics.count : α) =
      customTotal name sources / executions (carriers name sources) * executions sources := by
  rw [customValue, rolled.custom, carriedMean, if_neg carried, rolled.count]
  rfl

end

/-! ### Weights that are exchanged -/

section

variable {β : Type} {weight count : β → α} {xs : List β}

/-- The weights of all are in proportion if the weight of each is in proportion to the sums. -/
theorem proportional_iff (counted : (xs.map count).sum ≠ 0) :
    (∀ x ∈ xs, weight x * (xs.map count).sum = count x * (xs.map weight).sum) ↔
      ∀ x ∈ xs, ∀ y ∈ xs, weight x * count y = weight y * count x := by
  constructor
  · intro share x memx y memy
    refine mul_right_cancel₀ counted ?_
    linear_combination count y * share x memx - count x * share y memy
  · intro alike x mem
    calc weight x * (xs.map count).sum
        = (xs.map fun y => weight x * count y).sum := (List.sum_map_mul_left ..).symm
      _ = (xs.map fun y => count x * weight y).sum := by
          refine congrArg List.sum (List.map_congr_left fun y memy => ?_)
          rw [alike x mem y memy, mul_comm]
      _ = count x * (xs.map weight).sum := List.sum_map_mul_left ..

/-- A weighted mean of means is the same with other weights if these are in proportion. -/
theorem reweighed_of_share {total : β → α} (weighed : ∀ x ∈ xs, weight x ≠ 0)
    (counted : (xs.map count).sum ≠ 0) (all : (xs.map weight).sum ≠ 0)
    (share : ∀ x ∈ xs, weight x * (xs.map count).sum = count x * (xs.map weight).sum) :
    (xs.map fun x => total x / weight x * count x).sum / (xs.map count).sum =
      (xs.map total).sum / (xs.map weight).sum := by
  have each : ∀ x ∈ xs, total x / weight x * count x =
      total x * ((xs.map count).sum / (xs.map weight).sum) := by
    intro x mem
    have nonzero := weighed x mem
    field_simp
    linear_combination -(total x) * share x mem
  rw [List.map_congr_left each, List.sum_map_mul_right]
  field_simp

variable [IsStrictOrderedRing α]

/-- If a weighted mean is the same with other weights, whatever the values are, these are in
proportion. The values that tell are the surpluses of the one weight over the other. -/
theorem share_of_reweighed (counted : (xs.map count).sum ≠ 0) (all : (xs.map weight).sum ≠ 0)
    (same : ∀ value : β → α, (xs.map fun x => value x * count x).sum / (xs.map count).sum =
      (xs.map fun x => value x * weight x).sum / (xs.map weight).sum) :
    ∀ x ∈ xs, weight x * (xs.map count).sum = count x * (xs.map weight).sum := by
  let surplus (x : β) : α := weight x * (xs.map count).sum - count x * (xs.map weight).sum
  have squares : (xs.map fun x => surplus x * surplus x).sum = 0 := by
    have cross := (div_eq_div_iff counted all).1 (same surplus)
    have split : (xs.map fun x => surplus x * surplus x).sum +
        (xs.map fun x => surplus x * count x).sum * (xs.map weight).sum =
          (xs.map fun x => surplus x * weight x).sum * (xs.map count).sum := by
      rw [← List.sum_map_mul_right, ← List.sum_map_mul_right, ← List.sum_map_add]
      refine congrArg List.sum (List.map_congr_left fun x _ => ?_)
      ring
    linear_combination split - cross
  intro x mem
  have none : surplus x * surplus x = 0 := by
    refine List.all_zero_of_le_zero_le_of_sum_eq_zero ?_ squares (List.mem_map_of_mem mem)
    intro y among
    obtain ⟨z, -, rfl⟩ := List.mem_map.1 among
    exact mul_self_nonneg _
  exact sub_eq_zero.1 (mul_self_eq_zero.1 none)

end

/-! ### Two rollups -/

/-- The mean of a custom metric over the groups that have it: the mean of each, weighted with the
count of all executions in the group; nothing if none has it. -/
def regroupedMean (name : String) (groups : List (List (Snapshot α))) : Option α :=
  if carrying name groups = [] then none
  else some (((carrying name groups).map fun group =>
      customTotal name group / executions (carriers name group) * (executions group : α)).sum /
    ((carrying name groups).map fun group => (executions group : α)).sum)

section

variable {name : String} {group : List (Snapshot α)} {groups : List (List (Snapshot α))}
  {parts : List (Snapshot α)} {whole : Snapshot α}

/-- The parts that have a metric are rolled up from the groups that carry it. -/
theorem carriers_parts (rolled : List.Forall₂ RolledFrom groups parts) (name : String) :
    List.Forall₂ RolledFrom (carrying name groups) (carriers name parts) := by
  refine List.rel_filter (fun group part first => ?_) rolled
  dsimp only
  rw [first.has]
  simp

/-- What the parts give of a metric, told by the groups they are rolled up from. -/
theorem map_parts {β : Type} {f : Snapshot α → β} {g : List (Snapshot α) → β}
    (rolled : List.Forall₂ RolledFrom groups parts)
    (each : ∀ group ∈ groups, ∀ part, RolledFrom group part → f part = g group) :
    parts.map f = groups.map g := by
  induction rolled with
  | nil => rfl
  | cons first rest ih =>
    rw [List.forall_mem_cons] at each
    rw [List.map_cons, List.map_cons, each.1 _ first, ih each.2]

/-- A rollup of parts weighs each group that carries a metric with all its executions. -/
theorem custom_of_parts (rolled : List.Forall₂ RolledFrom groups parts)
    (again : RolledFrom parts whole) :
    whole.metrics.custom.get? name = regroupedMean name groups := by
  have carried := carriers_parts rolled name
  have totals : customTotal name parts = ((carrying name groups).map fun group =>
      customTotal name group / executions (carriers name group) * (executions group : α)).sum := by
    refine congrArg List.sum (map_parts carried fun group mem part first => ?_)
    exact first.customValue_mul_count name (mem_carrying.1 mem).2
  have counts : (executions (carriers name parts) : α) =
      ((carrying name groups).map fun group => (executions group : α)).sum := by
    rw [executions, Int.cast_list_sum, List.map_map]
    refine congrArg List.sum (map_parts carried fun group _ part first => ?_)
    exact congrArg Int.cast first.count
  have filled : carriers name parts = [] ↔ carrying name groups = [] := by
    rw [← List.length_eq_zero_iff, ← List.length_eq_zero_iff, carried.length_eq]
  rw [again.custom, carriedMean, regroupedMean, totals, counts]
  simp only [filled]

/-- The mean over all snapshots that have a metric, told by the groups that carry it. -/
theorem carriedMean_flatten (groups : List (List (Snapshot α))) :
    carriedMean name groups.flatten =
      if carrying name groups = [] then none
      else some (((carrying name groups).map (customTotal name)).sum /
        ((carrying name groups).map fun group => (executions (carriers name group) : α)).sum) := by
  have totals : customTotal name groups.flatten =
      ((carrying name groups).map (customTotal name)).sum := by
    rw [customTotal, carriers_flatten, List.map_flatten, List.sum_flatten, List.map_map, List.map_map]
    rfl
  have counts : (executions (carriers name groups.flatten) : α) =
      ((carrying name groups).map fun group => (executions (carriers name group) : α)).sum := by
    rw [executions, carriers_flatten, List.map_flatten, List.sum_flatten, Int.cast_list_sum]
    simp only [List.map_map]
    rfl
  have filled : carriers name groups.flatten = [] ↔ carrying name groups = [] := by
    rw [carriers_flatten, List.flatten_eq_nil_iff]
    constructor
    · intro none
      by_contra some
      obtain ⟨group, mem⟩ := List.exists_mem_of_ne_nil _ some
      exact (mem_carrying.1 mem).2 (none _ (List.mem_map_of_mem mem))
    · intro none
      simp [none]
  rw [carriedMean, totals, counts]
  simp only [filled]

end

/-! ### Other values of a metric -/

section

variable {α : Type} {name : String} {group group' : List (Snapshot α)}
  {groups groups' : List (List (Snapshot α))}

/-- Snapshots that differ in the value of a custom metric at most: they count as many executions,
and one has the metric if the other does. -/
structure Alike (name : String) (s s' : Snapshot α) : Prop where
  count : s'.metrics.count = s.metrics.count
  carried : s'.metrics.custom.has name = s.metrics.custom.has name

/-- Groups of snapshots that differ in the values of a custom metric at most. -/
def AlikeGroups (name : String) (groups groups' : List (List (Snapshot α))) : Prop :=
  List.Forall₂ (List.Forall₂ (Alike name)) groups groups'

/-- Every snapshot of every group counts executions. -/
def Counted (groups : List (List (Snapshot α))) : Prop :=
  ∀ group ∈ groups, ∀ s ∈ group, 0 < s.metrics.count

/-- Whether all groups that carry a metric have it for the same share of their executions. -/
def SameShare (name : String) (groups : List (List (Snapshot α))) : Prop :=
  ∀ group ∈ carrying name groups, ∀ group' ∈ carrying name groups,
    executions (carriers name group) * executions group' =
      executions (carriers name group') * executions group

theorem executions_alike (alike : List.Forall₂ (Alike name) group group') :
    executions group' = executions group := by
  have counts : group'.map (·.metrics.count) = group.map (·.metrics.count) := by
    induction alike with
    | nil => rfl
    | cons first rest ih => rw [List.map_cons, List.map_cons, first.count, ih]
  exact congrArg List.sum counts

theorem carriers_alike (alike : List.Forall₂ (Alike name) group group') :
    List.Forall₂ (Alike name) (carriers name group) (carriers name group') := by
  refine List.rel_filter (fun s s' like => ?_) alike
  dsimp only
  rw [like.carried]

theorem exists_of_mem_right {β γ : Type} {R : β → γ → Prop} {xs : List β} {ys : List γ} {y : γ}
    (related : List.Forall₂ R xs ys) (mem : y ∈ ys) : ∃ x ∈ xs, R x y := by
  induction related with
  | nil => exact absurd mem List.not_mem_nil
  | cons first rest ih =>
    rcases List.mem_cons.1 mem with rfl | later
    · exact ⟨_, List.mem_cons_self, first⟩
    · obtain ⟨x, among, holds⟩ := ih later
      exact ⟨x, List.mem_cons_of_mem _ among, holds⟩

theorem Counted.alike (counted : Counted groups) (alike : AlikeGroups name groups groups') :
    Counted groups' := by
  intro group' mem s' member
  obtain ⟨group, among, same⟩ := exists_of_mem_right alike mem
  obtain ⟨s, inside, like⟩ := exists_of_mem_right same member
  rw [like.count]
  exact counted group among s inside

/-- A group that carries a metric is like one that does. -/
theorem exists_carrying_of_alike (alike : AlikeGroups name groups groups')
    (mem : group' ∈ carrying name groups') :
    ∃ group ∈ carrying name groups, List.Forall₂ (Alike name) group group' := by
  obtain ⟨member, some⟩ := mem_carrying.1 mem
  obtain ⟨group, among, same⟩ := exists_of_mem_right alike member
  refine ⟨group, mem_carrying.2 ⟨among, fun none => some ?_⟩, same⟩
  rw [← List.length_eq_zero_iff, ← (carriers_alike same).length_eq, none, List.length_nil]

theorem SameShare.alike (share : SameShare name groups) (alike : AlikeGroups name groups groups') :
    SameShare name groups' := by
  intro group₁ mem₁ group₂ mem₂
  obtain ⟨own₁, among₁, same₁⟩ := exists_carrying_of_alike alike mem₁
  obtain ⟨own₂, among₂, same₂⟩ := exists_carrying_of_alike alike mem₂
  rw [executions_alike same₁, executions_alike same₂, executions_alike (carriers_alike same₁),
    executions_alike (carriers_alike same₂)]
  exact share own₁ among₁ own₂ among₂

theorem executions_pos (counted : ∀ s ∈ group, 0 < s.metrics.count) (some : group ≠ []) :
    0 < executions group := by
  refine List.sum_pos _ (fun n mem => ?_) (by simpa using some)
  obtain ⟨s, inside, rfl⟩ := List.mem_map.1 mem
  exact counted s inside

/-- In a group that carries a metric both counts are positive. -/
theorem Counted.executions_pos (counted : Counted groups) (mem : group ∈ carrying name groups) :
    0 < executions (carriers name group) ∧ 0 < executions group := by
  obtain ⟨member, some⟩ := mem_carrying.1 mem
  have own := counted group member
  refine ⟨Snapshot.executions_pos (fun s inside => own s (List.mem_of_mem_filter inside)) some,
    Snapshot.executions_pos own ?_⟩
  rintro rfl
  exact some rfl

end

section

variable [IsStrictOrderedRing α] {name : String} {group : List (Snapshot α)}
  {groups : List (List (Snapshot α))}

/-- The sums of both counts over the groups that carry a metric are positive. -/
theorem Counted.sums_pos (counted : Counted groups) (some : carrying name groups ≠ []) :
    0 < ((carrying name groups).map fun group => (executions (carriers name group) : α)).sum ∧
      0 < ((carrying name groups).map fun group => (executions group : α)).sum := by
  constructor
  · refine List.sum_pos _ (fun x mem => ?_) (by simpa using some)
    obtain ⟨group, inside, rfl⟩ := List.mem_map.1 mem
    exact_mod_cast (counted.executions_pos inside).1
  · refine List.sum_pos _ (fun x mem => ?_) (by simpa using some)
    obtain ⟨group, inside, rfl⟩ := List.mem_map.1 mem
    exact_mod_cast (counted.executions_pos inside).2

/-- Shares are the same just if those of the groups are those of all groups together. -/
theorem Counted.sameShare_iff (counted : Counted groups) (some : carrying name groups ≠ []) :
    SameShare name groups ↔ ∀ group ∈ carrying name groups,
      (executions (carriers name group) : α) *
          ((carrying name groups).map fun group => (executions group : α)).sum =
        (executions group : α) *
          ((carrying name groups).map fun group =>
            (executions (carriers name group) : α)).sum := by
  rw [proportional_iff (counted.sums_pos some).2.ne']
  refine forall₂_congr fun group _ => forall₂_congr fun group' _ => ?_
  norm_cast

theorem regroupedMean_of_sameShare (counted : Counted groups) (share : SameShare name groups) :
    regroupedMean name groups = carriedMean name groups.flatten := by
  rw [carriedMean_flatten, regroupedMean]
  split
  · rfl
  · next some =>
    have sums := counted.sums_pos some
    refine congrArg Option.some (reweighed_of_share (fun group mem => ?_) sums.2.ne' sums.1.ne'
      ((counted.sameShare_iff some).1 share))
    exact_mod_cast (counted.executions_pos mem).1.ne'

end

/-! ### Chosen values -/

section

variable {α : Type} {name : String} {group : List (Snapshot α)} {groups : List (List (Snapshot α))}

/-- A snapshot with another value of a custom metric, if it has the metric. -/
def setCustom (name : String) (value : α) (s : Snapshot α) : Snapshot α :=
  if s.metrics.custom.has name then
    s.withMetrics { s.metrics with custom := s.metrics.custom.put name value }
  else s

/-- Groups with a value of a custom metric that is chosen for each of them. -/
def revalued (name : String) (value : List (Snapshot α) → α) (groups : List (List (Snapshot α))) :
    List (List (Snapshot α)) :=
  groups.map fun group => group.map (setCustom name (value group))

theorem alike_setCustom (value : α) (s : Snapshot α) : Alike name s (setCustom name value s) := by
  unfold setCustom
  split
  · next carried =>
    refine ⟨rfl, ?_⟩
    rw [carried]
    exact (Entries.has_put ..).trans (by simp)
  · exact ⟨rfl, rfl⟩

theorem carriers_map_setCustom (value : α) :
    carriers name (group.map (setCustom name value)) =
      (carriers name group).map (setCustom name value) := by
  rw [carriers, List.filter_map]
  refine congrArg _ (List.filter_congr fun s _ => ?_)
  exact (alike_setCustom value s).carried

theorem forall₂_map_setCustom (value : α) (group : List (Snapshot α)) :
    List.Forall₂ (Alike name) group (group.map (setCustom name value)) :=
  List.forall₂_map_right_iff.2 (List.forall₂_same.2 fun s _ => alike_setCustom value s)

theorem alike_revalued (value : List (Snapshot α) → α) (groups : List (List (Snapshot α))) :
    AlikeGroups name groups (revalued name value groups) :=
  List.forall₂_map_right_iff.2
    (List.forall₂_same.2 fun group _ => forall₂_map_setCustom (value group) group)

theorem carrying_revalued (value : List (Snapshot α) → α) :
    carrying name (revalued name value groups) = revalued name value (carrying name groups) := by
  rw [carrying, revalued, List.filter_map]
  refine congrArg _ (List.filter_congr fun group _ => ?_)
  simp [carriers_map_setCustom]

end

section

variable {name : String} {group : List (Snapshot α)} {groups : List (List (Snapshot α))}

theorem customTotal_map_setCustom (value : α) :
    customTotal name (group.map (setCustom name value)) =
      value * executions (carriers name group) := by
  rw [customTotal, carriers_map_setCustom, List.map_map, executions, Int.cast_list_sum,
    List.map_map, ← List.sum_map_mul_left]
  refine congrArg List.sum (List.map_congr_left fun s mem => ?_)
  have carried : s.metrics.custom.has name = true := (List.mem_filter.1 mem).2
  have chosen : customValue name (setCustom name value s) = value := by
    rw [setCustom, if_pos carried, customValue]
    exact congrArg (Option.getD · 0) (Entries.get?_put_self ..)
  exact congrArg₂ (· * ·) chosen (congrArg Int.cast (alike_setCustom value s).count)

variable [IsStrictOrderedRing α]

/-- If both means are the same for all values, the groups have the metric for the same share. -/
theorem sameShare_of_regroupedMean (counted : Counted groups)
    (same : ∀ groups', AlikeGroups name groups groups' →
      regroupedMean name groups' = carriedMean name groups'.flatten) : SameShare name groups := by
  by_cases none : carrying name groups = []
  · intro group mem
    rw [none] at mem
    cases mem
  have sums := counted.sums_pos (α := α) none
  refine (counted.sameShare_iff none).2 (share_of_reweighed sums.2.ne' sums.1.ne' fun value => ?_)
  have means := same _ (alike_revalued value groups)
  have some : revalued name value (carrying name groups) ≠ [] := by simpa [revalued] using none
  rw [carriedMean_flatten, regroupedMean, carrying_revalued, if_neg some, if_neg some] at means
  have counts : ∀ group, executions (group.map (setCustom name (value group))) =
      executions group := fun group => executions_alike (forall₂_map_setCustom _ group)
  have weights : ∀ group, executions (carriers name (group.map (setCustom name (value group)))) =
      executions (carriers name group) :=
    fun group => executions_alike (carriers_alike (forall₂_map_setCustom _ group))
  have equal := Option.some.inj means
  simp only [revalued, List.map_map, Function.comp_def, counts, weights,
    customTotal_map_setCustom] at equal
  refine Eq.trans (congrArg (· / _) (congrArg List.sum (List.map_congr_left fun group mem => ?_)))
    equal
  have nonzero : (executions (carriers name group) : α) ≠ 0 := by
    exact_mod_cast (counted.executions_pos mem).1.ne'
  rw [mul_div_cancel_right₀ _ nonzero]

/-- Rolling groups of snapshots up and then what they give always succeeds. A rollup of all of them
gives the mean of a custom metric over the snapshots that have it; the two rollups give the mean of
the groups that carry it, each weighted with all its executions. Both are the same for all values
just if all these groups have the metric for the same share of their executions. -/
theorem rollUp_custom_twice (name : String) (counted : Counted groups) :
    (∃ parts whole, List.Forall₂ RolledFrom groups parts ∧ RolledFrom parts whole) ∧
    (∀ s, RolledFrom groups.flatten s →
      s.metrics.custom.get? name = carriedMean name groups.flatten) ∧
    (∀ parts whole, List.Forall₂ RolledFrom groups parts → RolledFrom parts whole →
      whole.metrics.custom.get? name = regroupedMean name groups) ∧
    ((∀ groups', AlikeGroups name groups groups' →
        regroupedMean name groups' = carriedMean name groups'.flatten) ↔
      SameShare name groups) := by
  refine ⟨?_, fun s once => once.custom name, fun parts whole => custom_of_parts, ?_, ?_⟩
  · have rolled : ∃ parts, List.Forall₂ RolledFrom groups parts := by
      clear counted
      induction groups with
      | nil => exact ⟨[], .nil⟩
      | cons group groups ih =>
        obtain ⟨parts, rest⟩ := ih
        obtain ⟨part, first⟩ := exists_rolledFrom group
        exact ⟨part :: parts, .cons first rest⟩
    obtain ⟨parts, rolled⟩ := rolled
    obtain ⟨whole, again⟩ := exists_rolledFrom parts
    exact ⟨parts, whole, rolled, again⟩
  · exact sameShare_of_regroupedMean counted
  · intro share groups' alike
    exact regroupedMean_of_sameShare (counted.alike alike) (share.alike alike)

end

/-- A snapshot of a minute with one execution, with or without a custom metric. -/
def minuteWith (custom : Entries String ℚ) : Snapshot ℚ :=
  (Snapshot.empty "t1" .minute ⟨0, none⟩).withMetrics { Metrics.none with count := 1, custom }

/-- The minutes of two hours. In the first one a metric is missing for half of the executions. -/
def lateGroups : List (List (Snapshot ℚ)) :=
  [[minuteWith [], minuteWith [("calls", 2)]], [minuteWith [("calls", 3)]]]

theorem rollUp_custom_twice_lateGroups :
    (∃ parts whole, List.Forall₂ RolledFrom lateGroups parts ∧ RolledFrom parts whole ∧
      whole.metrics.custom.get? "calls" = some (7 / 3)) ∧
    ∀ s, RolledFrom lateGroups.flatten s → s.metrics.custom.get? "calls" = some (5 / 2) := by
  have counted : Counted lateGroups := by
    simp [Counted, lateGroups, minuteWith, withMetrics]
  obtain ⟨⟨parts, whole, rolled, again⟩, once, twice, -⟩ := rollUp_custom_twice "calls" counted
  refine ⟨⟨parts, whole, rolled, again, (twice parts whole rolled again).trans ?_⟩,
    fun s single => (once s single).trans ?_⟩
  · have both : carrying "calls" lateGroups = lateGroups := rfl
    rw [regroupedMean, both, lateGroups, if_neg (List.cons_ne_nil _ _)]
    norm_num [carriers, minuteWith, withMetrics, Entries.has, customTotal, customValue,
      Entries.get?, executions]
  · have two : carriers "calls" lateGroups.flatten =
        [minuteWith [("calls", 2)], minuteWith [("calls", 3)]] := rfl
    rw [carriedMean, customTotal, two, if_neg (List.cons_ne_nil _ _)]
    norm_num [minuteWith, withMetrics, customValue, Entries.get?, executions]

end Promptuary.Snapshot
