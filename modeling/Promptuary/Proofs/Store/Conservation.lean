import Promptuary.Proofs.Store.Run

/-!
No version is lost and none comes twice. The labels of the versions that were announced are those of
the history and those that were announced as dropped; and if the clock never goes back, they are the
dropped ones followed by the history, in the order in which they were announced.
-/

namespace Promptuary

namespace Store

variable {d d' : Desk Store} {id other : String}

/-! ### Announced labels -/

/-- The labels that were announced for the versions of a template. -/
def createdLabels (id : String) (notices : List Notice) : List String :=
  notices.filterMap fun
    | .versionCreated other label _ => if other = id then some label else none
    | _ => none

/-- The labels that were announced as dropped from the history of a template. -/
def prunedLabels (id : String) (notices : List Notice) : List String :=
  notices.flatMap fun
    | .versionsPruned other labels => if other = id then labels else []
    | _ => []

theorem createdLabels_append (id : String) (ns ms : List Notice) :
    createdLabels id (ns ++ ms) = createdLabels id ns ++ createdLabels id ms :=
  List.filterMap_append ..

theorem prunedLabels_append (id : String) (ns ms : List Notice) :
    prunedLabels id (ns ++ ms) = prunedLabels id ns ++ prunedLabels id ms :=
  List.flatMap_append ..

theorem createdLabels_plain {ns : List Notice} (plain : ∀ n ∈ ns, ofVersion n = false) :
    createdLabels id ns = [] := by
  refine List.filterMap_eq_nil_iff.2 ?_
  intro n mem
  have no := plain n mem
  cases n <;> first | rfl | cases no

theorem prunedLabels_plain {ns : List Notice} (plain : ∀ n ∈ ns, ofVersion n = false) :
    prunedLabels id ns = [] := by
  refine List.flatMap_eq_nil_iff.2 ?_
  intro n mem
  have no := plain n mem
  cases n <;> first | rfl | cases no

theorem createdLabels_pruning (id other : String) (dropped : History) :
    createdLabels id (pruning other dropped) = [] := by
  unfold pruning
  split <;> rfl

theorem prunedLabels_pruning (id : String) (dropped : History) :
    prunedLabels id (pruning id dropped) = dropped.labels := by
  unfold pruning
  split
  · next none =>
    rw [List.isEmpty_iff.1 none]
    rfl
  · simp [prunedLabels]

theorem prunedLabels_pruning_of_ne (ne : other ≠ id) (dropped : History) :
    prunedLabels id (pruning other dropped) = [] := by
  unfold pruning
  split
  · rfl
  · simp [prunedLabels, ne]

/-! ### Conservation -/

/-- What was announced for a template accounts for its history, which is as long as its bound
allows. -/
structure Conserved (id : String) (cap : Nat) (d : Desk Store) : Prop where
  bound : d.own.bound = cap
  labels : (createdLabels id d.notices).Perm
    (prunedLabels id d.notices ++ (d.own.history id).labels)
  length : (d.own.history id).length = min cap (createdLabels id d.notices).length

/-- A move that leaves a history and its announcements alone. -/
theorem Conserved.of_same {cap : Nat} (conserved : Conserved id cap d)
    (same : d'.own.bound = d.own.bound) (history : d'.own.history id = d.own.history id)
    (created : createdLabels id d'.notices = createdLabels id d.notices)
    (pruned : prunedLabels id d'.notices = prunedLabels id d.notices) :
    Conserved id cap d' where
  bound := same.trans conserved.bound
  labels := by
    rw [created, pruned, history]
    exact conserved.labels
  length := by
    rw [created, history]
    exact conserved.length

/-- What is announced of a version and of the versions dropped for it. -/
theorem Versioned.announced {v : Version} {trimmed : History.Trimmed} {r : Storage.Repository}
    (versioned : Versioned v trimmed r d d') :
    createdLabels v.templateId d'.notices = createdLabels v.templateId d.notices ++ [v.label] ∧
      prunedLabels v.templateId d'.notices =
        prunedLabels v.templateId d.notices ++ History.labels trimmed.dropped := by
  rw [versioned.leads.notices]
  simp only [createdLabels_append, prunedLabels_append, createdLabels_pruning,
    prunedLabels_pruning]
  simp [createdLabels, prunedLabels]

theorem Versioned.announced_of_ne {v : Version} {trimmed : History.Trimmed}
    {r : Storage.Repository} (versioned : Versioned v trimmed r d d') (ne : v.templateId ≠ id) :
    createdLabels id d'.notices = createdLabels id d.notices ∧
      prunedLabels id d'.notices = prunedLabels id d.notices := by
  rw [versioned.leads.notices]
  simp only [createdLabels_append, prunedLabels_append, createdLabels_pruning,
    prunedLabels_pruning_of_ne ne]
  simp [createdLabels, prunedLabels, ne]

theorem Conserved.keep {cap : Nat} {v : Version} {trimmed : History.Trimmed}
    {r : Storage.Repository} (versioned : Versioned v trimmed r d d')
    (conserved : Conserved v.templateId cap d) : Conserved v.templateId cap d' := by
  obtain ⟨created, pruned⟩ := versioned.announced
  have own := versioned.leads.own
  have history : d'.own.history v.templateId = trimmed.kept := by
    rw [own, history_putHistory, if_pos rfl]
  have perm := (History.trim_perm versioned.added).map (·.label)
  rw [List.map_append, List.map_append] at perm
  have length := History.length_trim versioned.added
  rw [List.length_append, List.length_singleton, conserved.bound, conserved.length] at length
  refine ⟨?_, ?_, ?_⟩
  · rw [own]
    exact conserved.bound
  · rw [created, pruned, history, List.append_assoc]
    have before : (createdLabels v.templateId d.notices ++ [v.label]).Perm _ :=
      conserved.labels.append_right [v.label]
    rw [List.append_assoc] at before
    exact before.trans (perm.symm.append_left _)
  · rw [created, history, length, List.length_append, List.length_singleton]
    omega

theorem Conserved.move {cap : Nat} (move : Move d d') (conserved : Conserved id cap d) :
    Conserved id cap d' := by
  cases move with
  | pass leads plain =>
    refine conserved.of_same ?_ ?_ ?_ ?_
    · rw [leads.own]
    · rw [leads.own]
    · rw [leads.notices, createdLabels_append, createdLabels_plain plain, List.append_nil]
    · rw [leads.notices, prunedLabels_append, prunedLabels_plain plain, List.append_nil]
  | save _ saved =>
    have notices := saved.leads.notices
    rw [List.append_nil] at notices
    refine conserved.of_same ?_ ?_ ?_ ?_
    · rw [saved.leads.own]
      rfl
    · rw [saved.leads.own]
      rfl
    · rw [notices]
    · rw [notices]
  | @keep _ label changelog t trimmed r _ versioned =>
    by_cases same : (snapshot t label changelog d.shared.clock.current).templateId = id
    · subst same
      exact conserved.keep versioned
    · obtain ⟨created, pruned⟩ := versioned.announced_of_ne same
      refine conserved.of_same ?_ ?_ created pruned
      · rw [versioned.leads.own]
        rfl
      · rw [versioned.leads.own, history_putHistory, if_neg same]

/-! ### Order -/

/-- A clock that never goes back. -/
def goesForward (clock : Script Calendar.Moment) : Prop :=
  clock.readings.Pairwise fun a b => a.instant ≤ b.instant

/-- What was announced for a template is, in this order, what was dropped and what its history has;
and the times of the history, and of the clock after it, never go back. -/
structure InOrder (id : String) (d : Desk Store) : Prop where
  labels : createdLabels id d.notices = prunedLabels id d.notices ++ (d.own.history id).labels
  times : ((d.own.history id).map Version.createdAt ++ d.shared.clock.readings).Pairwise
    fun a b => a.instant ≤ b.instant

/-- The reading of a clock comes before those that are left. -/
theorem forward_reading {clock : Script Calendar.Moment} {before : List Calendar.Moment}
    (forward : (before ++ clock.readings).Pairwise fun a b => a.instant ≤ b.instant) :
    (before ++ clock.current :: clock.rest.readings).Pairwise fun a b => a.instant ≤ b.instant := by
  obtain ⟨upcoming, afterwards⟩ := clock
  cases upcoming with
  | cons a upcoming => exact forward
  | nil =>
    rw [List.pairwise_append] at forward ⊢
    obtain ⟨earlier, -, across⟩ := forward
    refine ⟨earlier, ?_, ?_⟩
    · simp [Script.current, Script.rest, Script.readings]
    · intro a mem b mem'
      have same : b = afterwards := by
        simpa [Script.current, Script.rest, Script.readings] using mem'
      exact across a mem b (by simp [same, Script.readings])

theorem InOrder.of_same (ordered : InOrder id d)
    (history : d'.own.history id = d.own.history id)
    (created : createdLabels id d'.notices = createdLabels id d.notices)
    (pruned : prunedLabels id d'.notices = prunedLabels id d.notices)
    (clock : d'.shared.clock.readings <:+ d.shared.clock.readings) : InOrder id d' where
  labels := by
    rw [created, pruned, history]
    exact ordered.labels
  times := by
    rw [history]
    exact ordered.times.sublist (clock.sublist.append_left _)

theorem InOrder.keep {v : Version} {trimmed : History.Trimmed} {r : Storage.Repository}
    (versioned : Versioned v trimmed r d d') (reading : v.createdAt = d.shared.clock.current)
    (ordered : InOrder v.templateId d) : InOrder v.templateId d' := by
  obtain ⟨created, pruned⟩ := versioned.announced
  have history : d'.own.history v.templateId = trimmed.kept := by
    rw [versioned.leads.own, history_putHistory, if_pos rfl]
  have times := forward_reading ordered.times
  rw [← reading, List.append_cons] at times
  have sorted : (d.own.history v.templateId ++ [v]).Pairwise
      fun v w => v.createdAt.instant ≤ w.createdAt.instant := by
    have front := (List.pairwise_append.1 times).1
    rw [← List.map_singleton, ← List.map_append] at front
    have pairs := List.pairwise_map.1 front
    exact pairs
  have cut := History.trim_eq sorted versioned.added
  constructor
  · rw [created, pruned, history, ordered.labels, List.append_assoc, List.append_assoc]
    have labels := congrArg (List.map (·.label)) cut
    rw [List.map_append, List.map_append] at labels
    exact congrArg (prunedLabels v.templateId d.notices ++ ·) labels.symm
  · rw [history]
    have all := congrArg (List.map Version.createdAt) cut
    rw [List.map_append, List.map_append] at all
    rw [← List.map_singleton, ← all, List.append_assoc] at times
    have later := (List.pairwise_append.1 times).2.1
    exact later.sublist (versioned.clock.sublist.append_left _)

theorem InOrder.move (move : Move d d') (ordered : InOrder id d) : InOrder id d' := by
  cases move with
  | pass leads plain =>
    refine ordered.of_same ?_ ?_ ?_ leads.clock
    · rw [leads.own]
    · rw [leads.notices, createdLabels_append, createdLabels_plain plain, List.append_nil]
    · rw [leads.notices, prunedLabels_append, prunedLabels_plain plain, List.append_nil]
  | save _ saved =>
    have notices := saved.leads.notices
    rw [List.append_nil] at notices
    refine ordered.of_same ?_ ?_ ?_ saved.leads.clock
    · rw [saved.leads.own]
      rfl
    · rw [notices]
    · rw [notices]
  | @keep _ label changelog t trimmed r _ versioned =>
    by_cases same : (snapshot t label changelog d.shared.clock.current).templateId = id
    · subst same
      exact ordered.keep versioned rfl
    · obtain ⟨created, pruned⟩ := versioned.announced_of_ne same
      refine ordered.of_same ?_ created pruned versioned.leads.clock
      rw [versioned.leads.own, history_putHistory, if_neg same]

/-! ### Runs -/

theorem Fresh.conserved (fresh : Fresh d) (id : String) : Conserved id d.own.bound d := by
  have notices : d.notices = [] := by rw [Desk.notices, fresh.announced, List.map_nil]
  have history : d.own.history id = [] := by rw [history, fresh.histories]; rfl
  refine ⟨rfl, ?_, ?_⟩
  · rw [notices, history]
    exact .refl _
  · rw [notices, history]
    exact (Nat.min_zero _).symm

theorem Fresh.inOrder (fresh : Fresh d) (id : String) (forward : goesForward d.shared.clock) :
    InOrder id d := by
  have notices : d.notices = [] := by rw [Desk.notices, fresh.announced, List.map_nil]
  have history : d.own.history id = [] := by rw [history, fresh.histories]; rfl
  refine ⟨?_, ?_⟩
  · rw [notices, history]
    rfl
  · rw [history]
    exact forward

/-- While the clock does not go back, histories and announcements stay in order. -/
theorem run_inOrder {turns : List Turn} {d : Desk Store} (fresh : Fresh d)
    (changes : ∀ turn ∈ turns, turn.isReload = false) (forward : goesForward d.shared.clock)
    (id : String) : InOrder id (run turns d) := by
  refine run_preserves InOrder.move
    (fun {_ _ _} holds => holds.of_same rfl rfl rfl (List.suffix_refl _)) ?_
    (fresh.inOrder id forward)
  intro turn mem reloads
  exact absurd (changes turn mem) (by simp [reloads])

/-- The versions of a template that were announced in a run are those of its history and those that
were announced as dropped, and the history is never longer than its bound. If the clock never goes
back, they are the dropped ones followed by the history, which has the last ones, in the order in
which they were announced. -/
theorem run_conserves_versions {turns : List Turn} {d : Desk Store} (fresh : Fresh d)
    (changes : ∀ turn ∈ turns, turn.isReload = false) (id : String) :
    let e := run turns d
    let created := createdLabels id e.notices
    let pruned := prunedLabels id e.notices
    created.Perm (pruned ++ (e.own.history id).labels) ∧
      (e.own.history id).length ≤ d.own.bound ∧
      (goesForward d.shared.clock → created = pruned ++ (e.own.history id).labels ∧
        (e.own.history id).labels = created.drop (created.length - d.own.bound)) := by
  intro e created pruned
  have conserved : Conserved id d.own.bound e := by
    refine run_preserves Conserved.move (fun {_ _ _} holds => holds.of_same rfl rfl rfl rfl) ?_
      (fresh.conserved id)
    intro turn mem reloads
    exact absurd (changes turn mem) (by simp [reloads])
  refine ⟨conserved.labels, ?_, ?_⟩
  · rw [conserved.length]
    exact Nat.min_le_left ..
  intro forward
  have ordered : InOrder id e := run_inOrder fresh changes forward id
  refine ⟨ordered.labels, ?_⟩
  have total : created.length = pruned.length + (e.own.history id).labels.length := by
    rw [← List.length_append]
    exact congrArg List.length ordered.labels
  have length : (e.own.history id).labels.length = min d.own.bound created.length :=
    (List.length_map ..).trans conserved.length
  have front : created.length - d.own.bound = pruned.length := by omega
  rw [front]
  have split : created = pruned ++ (e.own.history id).labels := ordered.labels
  rw [split, List.drop_left]

/-- A run in which a version is stored, another one is hindered, and a third one is stored. -/
def hinderedRun : List Turn :=
  [.change (.create greeting), .disturb (· = .versions) false, .change (.update "tpl-1" [] none),
    .disturb (fun _ => false) false, .change (.createVersion "tpl-1" "pinned" "")]

theorem run_conserves_versions_hinderedRun :
    let e := run hinderedRun emptyDesk
    createdLabels "tpl-1" e.notices =
      prunedLabels "tpl-1" e.notices ++ (e.own.history "tpl-1").labels := by
  have changes : ∀ turn ∈ hinderedRun, turn.isReload = false := by
    simp [hinderedRun, Turn.isReload]
  have forward : goesForward emptyDesk.shared.clock := List.pairwise_singleton ..
  exact ((run_conserves_versions emptyDesk_fresh changes "tpl-1").2.2 forward).1

end Store

end Promptuary
