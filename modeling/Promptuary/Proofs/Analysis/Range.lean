import Promptuary.Proofs.Analysis.Repetition
import Promptuary.Proofs.Snapshot.Counts

/-!
When passes succeed. Where no moment has an offset, the windows gone through end within the calendar
and sums of counts are in the range of scalars, nothing in a pass can fail. A pass leaves all that
so: its new snapshots start no later than those that they are rolled up from, and have no more in
their counts.
-/

namespace Promptuary

open Calendar (Interval Moment)
open Counts Operation

namespace Analysis

variable {α : Type} {d d' d₁ d₂ : Desk (Analysis α)} {id : String} {i j : Interval}
  {among : Interval → Prop} {shelf : Shelf α} {u : Nat}

/-! ### Weights on a shelf -/

/-- The sizes of the counts of all snapshots on a shelf, taken together. -/
def load (shelf : Shelf α) : Nat := Snapshot.weightOf (shelf.map (·.2))

theorem load_append (shelf added : Shelf α) : load (shelf ++ added) = load shelf + load added := by
  rw [load, Snapshot.weightOf, List.map_append, List.map_append, List.sum_append]
  rfl

theorem load_filter_add (shelf : Shelf α) (p : WindowKey × Snapshot α → Bool) :
    load (shelf.filter p) + load (shelf.filter fun entry => !p entry) = load shelf := by
  rw [← load_append]
  exact (((List.filter_append_perm p shelf).map _).map _).sum_eq

theorem load_filter_le (shelf : Shelf α) (p : WindowKey × Snapshot α → Bool) :
    load (shelf.filter p) ≤ load shelf := by
  rw [← load_filter_add shelf p]
  exact Nat.le_add_right ..

/-- The snapshots of the finer interval in windows that have no snapshot yet. -/
def pending (i j : Interval) (shelf : Shelf α) : Shelf α :=
  (ofKind j shelf).filter fun entry => !shelf.has ⟨i, i.startOf entry.1.start⟩

/-- What the snapshots of an interval weigh and may still weigh more. No pass over the interval
raises it. -/
def potential (i j : Interval) (shelf : Shelf α) : Nat :=
  load (ofKind i shelf) + load (pending i j shelf)

theorem filter_liesIn (naive : ∀ entry ∈ shelf, entry.1.start.Naive)
    (absent : shelf.has ⟨i, ⟨i.floor u, none⟩⟩ = false) :
    shelf.filter (liesIn i j u) =
      (pending i j shelf).filter fun entry => i.floor entry.1.start.wall == i.floor u := by
  rw [pending, ofKind, List.filter_filter, List.filter_filter]
  refine List.filter_congr fun entry mem => ?_
  rw [liesIn, Interval.startOf_naive (naive entry mem)]
  cases here : i.floor entry.1.start.wall == i.floor u with
  | false => simp
  | true =>
    rw [beq_iff_eq] at here
    rw [here, absent]
    simp

theorem pending_put (apart : i ≠ j) (naive : ∀ entry ∈ shelf, entry.1.start.Naive)
    (s : Snapshot α) : pending i j (shelf ++ [(⟨i, ⟨i.floor u, none⟩⟩, s)]) =
      (pending i j shelf).filter fun entry => !(i.floor entry.1.start.wall == i.floor u) := by
  have other : ofKind j [((⟨i, ⟨i.floor u, none⟩⟩ : WindowKey), s)] = [] := by
    simp [ofKind, apart]
  rw [pending, ofKind_append, other, List.append_nil, pending, List.filter_filter]
  refine List.filter_congr fun entry mem => ?_
  have same : ((⟨i, ⟨i.floor u, none⟩⟩ : WindowKey) == ⟨i, ⟨i.floor entry.1.start.wall, none⟩⟩) =
      (i.floor entry.1.start.wall == i.floor u) := by
    rw [Bool.eq_iff_iff, WindowKey.beq_iff_eq (Moment.naive_mk _) (Moment.naive_mk _), beq_iff_eq]
    simp [eq_comm]
  rw [Interval.startOf_naive (naive entry (List.mem_filter.1 mem).1), Entries.has_append,
    Bool.not_or, Bool.and_comm, ← same]
  simp [Entries.has]

theorem potential_put (apart : i ≠ j) (naive : ∀ entry ∈ shelf, entry.1.start.Naive)
    (absent : shelf.has ⟨i, ⟨i.floor u, none⟩⟩ = false) {s : Snapshot α}
    (light : s.weight ≤ load (shelf.filter (liesIn i j u))) :
    potential i j (shelf ++ [(⟨i, ⟨i.floor u, none⟩⟩, s)]) ≤ potential i j shelf := by
  have own : ofKind i [((⟨i, ⟨i.floor u, none⟩⟩ : WindowKey), s)] =
      [(⟨i, ⟨i.floor u, none⟩⟩, s)] := by simp [ofKind]
  have one : load [((⟨i, ⟨i.floor u, none⟩⟩ : WindowKey), s)] = s.weight := rfl
  rw [filter_liesIn naive absent] at light
  rw [potential, ofKind_append, own, load_append, one, pending_put apart naive, potential]
  have both := load_filter_add (pending i j shelf)
    fun entry => i.floor entry.1.start.wall == i.floor u
  omega

/-! ### Windows -/

/-- An analysis none of whose moments has an offset, and where windows of some intervals that hold
snapshots have an end in the calendar. -/
structure Calculable (among : Interval → Prop) (d : Desk (Analysis α)) : Prop where
  naive : ∀ id, ∀ entry ∈ d.own.shelf id, entry.1.start.Naive
  ends : ∀ id, ∀ entry ∈ d.own.shelf id, ∀ i, among i → i.HasEnd entry.1.start
  held : ∀ id, ∀ e ∈ d.own.recorder.executions id, e.executedAt.Naive

/-- One desk after another at which snapshots of an interval were rolled up from those of a finer
one, where what is needed for going on is still so. -/
structure Advances (among : Interval → Prop) (i j : Interval) (d d' : Desk (Analysis α)) :
    Prop where
  enlarges : Enlarges (· = i) d d'
  calculable : Calculable among d → Calculable among d'
  potential : ∀ id, potential i j (d'.own.shelf id) ≤ potential i j (d.own.shelf id)

theorem Advances.refl (among : Interval → Prop) (i j : Interval) (d : Desk (Analysis α)) :
    Advances among i j d d where
  enlarges := .refl ..
  calculable := id
  potential _ := Nat.le_refl _

theorem Advances.trans (first : Advances among i j d d₁) (second : Advances among i j d₁ d₂) :
    Advances among i j d d₂ where
  enlarges := first.enlarges.trans second.enlarges
  calculable start := second.calculable (first.calculable start)
  potential id := (second.potential id).trans (first.potential id)

/-- The windows that a pass goes through are known, and have an end in the calendar. -/
theorem windowsOf?_ok {now cutoff : Moment} {windowStart : Option Moment}
    (calculable : Calculable among d) (sought : among i) (time : now.Naive)
    (since : cutoff.Naive) (given : ∀ t ∈ windowStart, t.Naive ∧ i.HasEnd t) (id : String) :
    ∃ windows, windowsOf? i j now cutoff windowStart (d.own.shelf id) = .ok windows ∧
      ∀ start ∈ windows, ∃ u, start = ⟨i.floor u, none⟩ ∧ i.HasEnd ⟨u, none⟩ := by
  have each {t : Moment} (naive : t.Naive) (ends : i.HasEnd t) :
      ∃ u, i.startOf t = ⟨i.floor u, none⟩ ∧ i.HasEnd ⟨u, none⟩ := by
    refine ⟨t.wall, Interval.startOf_naive naive, ?_⟩
    rw [naive.eq] at ends
    exact ends
  cases windowStart with
  | some t =>
    obtain ⟨naive, ends⟩ := given t rfl
    refine ⟨_, rfl, fun start mem => ?_⟩
    rw [List.mem_singleton.1 mem]
    exact each naive ends
  | none =>
    obtain ⟨windows, completed, mem_windows⟩ :=
      completedWindows_naive (i := i) (j := j) (calculable.naive id) time since
    refine ⟨windows, ?_, fun start mem => ?_⟩
    · rw [windowsOf?, completed]
      rfl
    · obtain ⟨-, t, known, -, rfl⟩ := (mem_windows start).1 mem
      obtain ⟨entry, listed, -, rfl⟩ := mem_startsOf.1 known
      exact each (calculable.naive id entry listed) (calculable.ends id entry listed i sought)

variable [Scalar α] {bound : Nat}

/-- Nothing that rolling up a window computes can fail. -/
theorem rolled_ok (calculable : Calculable among d) (representable : Representable α bound)
    (light : load (ofKind j (d.own.shelf id)) ≤ bound) (ends : i.HasEnd ⟨u, none⟩) :
    ∃ r, rolled id i j ⟨i.floor u, none⟩ d.own = .ok r ∧
      ∀ s count, r = some (s, count) →
        s.weight ≤ load ((d.own.shelf id).filter (liesIn i j u)) ∧
          ∃ entry ∈ d.own.shelf id, i.floor entry.1.start.wall = i.floor u := by
  obtain ⟨stop, ended⟩ := ends
  have ended : i.endOf? ⟨i.floor u, none⟩ = .ok stop := ended
  obtain ⟨last, rfl, inside⟩ := Interval.exists_within ended
  have known := filterM_isIn?_naive (calculable.held id) (i.floor u) last
  have part : load ((d.own.shelf id).filter (liesIn i j u)) ≤ bound := by
    have fine : (d.own.shelf id).filter (liesIn i j u) = (ofKind j (d.own.shelf id)).filter
        fun entry => i.floor entry.1.start.wall == i.floor u := by
      rw [ofKind, List.filter_filter]
      exact List.filter_congr fun entry _ => Bool.and_comm ..
    rw [fine]
    exact (load_filter_le ..).trans light
  obtain ⟨s, made, weight⟩ := Snapshot.rollUp_ok representable part id i ⟨i.floor u, none⟩
    (((d.own.recorder.executions id).filter fun e =>
      decide (i.floor u ≤ e.executedAt.wall ∧ e.executedAt.wall < last)).map (·.responseTime))
  unfold rolled
  rw [ended, Outcome.mapError_ok, Outcome.ok_bind, sourcesIn_naive (calculable.naive id) inside,
    Outcome.mapError_ok, Outcome.ok_bind]
  split
  · exact ⟨none, rfl, fun _ _ ne => by cases ne⟩
  next filled =>
  rw [known, Outcome.mapError_ok, Outcome.ok_bind, made, Outcome.mapError_ok, Outcome.ok_bind]
  refine ⟨_, rfl, fun s' count same => ?_⟩
  cases same
  refine ⟨weight, ?_⟩
  have some : (d.own.shelf id).filter (liesIn i j u) ≠ [] := by
    intro nil
    rw [nil] at filled
    exact filled rfl
  obtain ⟨entry, mem⟩ := List.exists_mem_of_ne_nil _ some
  obtain ⟨listed, -, here⟩ := mem_liesIn.1 mem
  exact ⟨entry, listed, here⟩

theorem aggregateWindow_ok (apart : i ≠ j) (calculable : Calculable among d)
    (representable : Representable α bound) (light : load (ofKind j (d.own.shelf id)) ≤ bound)
    (ends : i.HasEnd ⟨u, none⟩) : ∃ r d',
      (aggregateWindow id i j ⟨i.floor u, none⟩).on d = (.ok r, d') ∧ Advances among i j d d' := by
  obtain ⟨r, ok, made⟩ := rolled_ok calculable representable light ends
  have aligned : i.startOf ⟨i.floor u, none⟩ = ⟨i.floor u, none⟩ := by
    rw [Interval.startOf_naive (Moment.naive_mk _), Interval.floor_floor]
  have enlarges := aggregateWindow_enlarges id j aligned d
  rcases aggregateWindow_cases id i j ⟨i.floor u, none⟩ d with
    ⟨-, ran⟩ | ⟨e, failed, -⟩ | ⟨s, count, d', absent, known, ran, leads⟩
  · exact ⟨_, _, ran, .refl ..⟩
  · rw [ok] at failed
    cases failed
  rw [ran] at enlarges
  rw [ok] at known
  cases known
  obtain ⟨weight, entry, listed, here⟩ := made s count rfl
  have put : (d.own.shelf id).put ⟨i, ⟨i.floor u, none⟩⟩ s =
      d.own.shelf id ++ [(⟨i, ⟨i.floor u, none⟩⟩, s)] := Entries.put_of_not_has absent
  have shelf : ∀ other, d'.own.shelf other = if id = other then
      d.own.shelf id ++ [(⟨i, ⟨i.floor u, none⟩⟩, s)] else d.own.shelf other := by
    intro other
    rw [leads.own, shelf_putShelf, put]
  refine ⟨_, _, ran, enlarges, fun _ => ?_, fun other => ?_⟩
  · -- The new snapshot starts no later than one of those that it is rolled up from.
    have holds : ∀ other, ∀ entry ∈ d'.own.shelf other,
        entry.1.start.Naive ∧ ∀ k, among k → k.HasEnd entry.1.start := by
      intro other entry' mem
      rw [shelf] at mem
      split at mem
      · rcases List.mem_append.1 mem with old | new
        · exact ⟨calculable.naive id entry' old, calculable.ends id entry' old⟩
        · rw [List.mem_singleton.1 new]
          refine ⟨Moment.naive_mk _, fun k sought => ?_⟩
          have later := calculable.ends id entry listed k sought
          rw [(calculable.naive id entry listed).eq] at later
          exact later.earlier (here ▸ Interval.floor_le i entry.1.start.wall)
      · exact ⟨calculable.naive other entry' mem, calculable.ends other entry' mem⟩
    constructor
    · exact fun other entry mem => (holds other entry mem).1
    · exact fun other entry mem => (holds other entry mem).2
    · rw [enlarges.recorder]
      exact calculable.held
  · rw [shelf]
    split
    · next same =>
      subst same
      exact potential_put apart (calculable.naive _) absent weight
    · exact Nat.le_refl _

/-! ### Templates -/

section

variable {now cutoff : Moment} {windowStart : Option Moment}

theorem aggregateTemplate_ok (apart : i ≠ j) (calculable : Calculable among d) (sought : among i)
    (time : now.Naive) (since : cutoff.Naive) (given : ∀ t ∈ windowStart, t.Naive ∧ i.HasEnd t)
    (representable : Representable α bound) (light : load (ofKind j (d.own.shelf id)) ≤ bound) :
    ∃ r d', (aggregateTemplate i j now cutoff windowStart id).on d = (.ok r, d') ∧
      Advances among i j d d' := by
  obtain ⟨windows, known, each⟩ :=
    windowsOf?_ok (j := j) calculable sought time since given id
  rw [on_aggregateTemplate, known]
  refine filterMapM_runs (P := fun _ d₁ => Advances among i j d d₁) ?_ (.refl ..)
  rintro before start after d₁ rfl advances
  obtain ⟨u, rfl, ends⟩ := each start (List.mem_append_right _ List.mem_cons_self)
  rw [← advances.enlarges.ofKind_eq apart.symm] at light
  obtain ⟨r, d₂, ran, next⟩ :=
    aggregateWindow_ok apart (advances.calculable calculable) representable light ends
  exact ⟨r, d₂, ran, advances.trans next⟩

end

/-! ### Passes -/

/-- A pass succeeds where the windows that it goes through end within the calendar and sums of
counts are in the range of scalars. -/
theorem aggregate_ok {t cutoff : Moment} {windowStart : Option Moment}
    (calculable : Calculable among d) (sought : among i) (source : i.source? = some j) (time : t.Naive)
    (since : t.daysBefore? d.own.policy.snapshotDays = .ok cutoff)
    (given : ∀ t ∈ windowStart, t.Naive ∧ i.HasEnd t) (representable : Representable α bound)
    (light : ∀ id, load (ofKind j (d.own.shelf id)) ≤ bound) :
    ∃ created d', (aggregate i (some t) windowStart).on d = (.ok created, d') ∧
      Advances among i j d d' := by
  have apart := ne_source source
  have naive : cutoff.Naive := (Moment.daysBefore?_spec since).1.trans time
  have start : (i.startOf t).Naive := time
  have rounds : ∀ before id after d₁, d.own.shelves.keys = before ++ id :: after →
      Advances among i j d d₁ →
      ∃ r d₂, (aggregateTemplate i j (i.startOf t) cutoff windowStart id).on d₁ = (.ok r, d₂) ∧
        Advances among i j d d₂ := by
    intro before id after d₁ _ advances
    have light := light id
    rw [← advances.enlarges.ofKind_eq apart.symm] at light
    obtain ⟨r, d₂, ran, next⟩ := aggregateTemplate_ok apart (advances.calculable calculable)
      sought start naive given representable light
    exact ⟨r, d₂, ran, advances.trans next⟩
  obtain ⟨created, d', ran, advances⟩ := mapM_runs (P := fun _ d₁ => Advances among i j d d₁)
    rounds (.refl ..)
  refine ⟨created.flatten, d', ?_, advances⟩
  rw [on_aggregate, source]
  dsimp only
  rw [since]
  dsimp only
  rw [on_bind_pure, ran]
  rfl

/-! ### All passes -/

omit [Scalar α] in
/-- The snapshots of different intervals weigh no more than all. -/
theorem sum_load_le {ks : List Interval} (distinct : ks.Nodup) (shelf : Shelf α) :
    (ks.map fun k => load (ofKind k shelf)).sum ≤ load shelf := by
  induction ks generalizing shelf with
  | nil => exact Nat.zero_le _
  | cons k ks ih =>
    obtain ⟨absent, distinct⟩ := List.nodup_cons.1 distinct
    have rest := ih distinct (shelf.filter fun entry => !decide (entry.1.interval = k))
    have same : (ks.map fun k' => load (ofKind k'
        (shelf.filter fun entry => !decide (entry.1.interval = k)))) =
          ks.map fun k' => load (ofKind k' shelf) := by
      refine List.map_congr_left fun k' mem => congrArg load ?_
      rw [ofKind, List.filter_filter]
      refine List.filter_congr fun entry _ => ?_
      by_cases here : entry.1.interval = k'
      · have other : k' ≠ k := ne_of_mem_of_not_mem mem absent
        simp [here, other]
      · simp [here]
    rw [same] at rest
    rw [List.map_cons, List.sum_cons, ← load_filter_add shelf fun entry => entry.1.interval = k]
    exact Nat.add_le_add_left rest _

/-- Whether the snapshots of an interval over which no pass is left to be made stay within a bound,
whatever they are rolled up into. -/
def HasRoom (bound : Nat) (rest : List (String × Interval)) (d : Desk (Analysis α)) : Prop :=
  ∀ id, ∀ k ∉ rest.map (·.2), load (ofKind k (d.own.shelf id)) +
    (rest.map fun pass => load (ofKind pass.2 (d.own.shelf id))).sum ≤ bound

omit [Scalar α] in
theorem HasRoom.next {pass : String × Interval} {rest : List (String × Interval)}
    (room : HasRoom bound (pass :: rest) d) (advances : Advances among pass.2 j d d')
    (finer : j ∉ (pass :: rest).map (·.2)) (once : pass.2 ∉ rest.map (·.2)) :
    HasRoom bound rest d' := by
  intro id k left
  have same {k : Interval} (other : k ≠ pass.2) :
      ofKind k (d'.own.shelf id) = ofKind k (d.own.shelf id) :=
    advances.enlarges.ofKind_eq other id
  have later : (rest.map fun pass => load (ofKind pass.2 (d'.own.shelf id))) =
      rest.map fun pass => load (ofKind pass.2 (d.own.shelf id)) := by
    refine List.map_congr_left fun other mem => congrArg load (same ?_)
    exact ne_of_mem_of_not_mem (List.mem_map_of_mem mem) once
  rw [later]
  by_cases here : k = pass.2
  · subst here
    have weights := room id j finer
    have grown := advances.potential id
    have less := load_filter_le (ofKind j (d.own.shelf id))
      fun entry => !(d.own.shelf id).has ⟨pass.2, pass.2.startOf entry.1.start⟩
    rw [potential, potential, pending, pending] at grown
    rw [List.map_cons, List.sum_cons] at weights
    omega
  · have absent : k ∉ (pass :: rest).map (·.2) := by
      rw [List.map_cons, List.mem_cons]
      exact not_or.2 ⟨here, left⟩
    have weights := room id k absent
    rw [same here]
    rw [List.map_cons, List.sum_cons] at weights
    omega

/-- No pass is made again over the interval of one, and neither it nor a later one is over the
interval that it rolls up. -/
theorem passesOf_split {names : List String} {before after : List (String × Interval)}
    {pass : String × Interval} (whole : passesOf names = before ++ pass :: after)
    (source : pass.2.source? = some j) :
    pass.2 ∉ after.map (·.2) ∧ j ∉ (pass :: after).map (·.2) := by
  have order := pairwise_passesOf names
  rw [whole] at order
  have coarser := (List.pairwise_cons.1 (List.pairwise_append.1 order).2.1).1
  constructor
  · intro again
    obtain ⟨other, later, same⟩ := List.mem_map.1 again
    have longer := coarser other later
    rw [same] at longer
    exact Nat.lt_irrefl _ longer
  · intro listed
    obtain ⟨other, later, same⟩ := List.mem_map.1 listed
    have shorter := nominalSeconds_source source
    rw [← same] at shorter
    rcases List.mem_cons.1 later with rfl | later
    · exact Nat.lt_irrefl _ shorter
    · exact Nat.lt_asymm (coarser other later) shorter

omit [Scalar α] in
theorem hasRoom_passesOf {names : List String} (light : ∀ id, load (d.own.shelf id) ≤ bound) :
    HasRoom bound (passesOf names) d := by
  intro id k left
  have distinct : (k :: (passesOf names).map (·.2)).Nodup := by
    refine List.nodup_cons.2
      ⟨left, List.pairwise_map.2 ((pairwise_passesOf names).imp fun coarser same => ?_)⟩
    rw [same] at coarser
    exact Nat.lt_irrefl _ coarser
  have weights := (sum_load_le distinct (d.own.shelf id)).trans (light id)
  rw [List.map_cons, List.sum_cons, List.map_map] at weights
  exact weights

/-- All passes succeed where windows end within the calendar and sums of counts are in the range of
scalars. -/
theorem runOnce_ok {t cutoff : Moment} {names : List String}
    (calculable : Calculable (· ∈ (passesOf names).map (·.2)) d)
    (clock : d.shared.clock = .always t) (time : t.Naive)
    (since : t.daysBefore? d.own.policy.snapshotDays = .ok cutoff)
    (representable : Representable α bound) (light : ∀ id, load (d.own.shelf id) ≤ bound) :
    ∃ created d', (runOnce names).on d = (.ok created, d') := by
  let Done (before : List (String × Interval)) (d₁ : Desk (Analysis α)) : Prop :=
    d₁.shared.clock = .always t ∧ d₁.own.policy = d.own.policy ∧
      Calculable (· ∈ (passesOf names).map (·.2)) d₁ ∧
      ∀ rest, passesOf names = before ++ rest → HasRoom bound rest d₁
  have rounds : ∀ before pass after d₁, passesOf names = before ++ pass :: after →
      Done before d₁ → ∃ r d₂, (aggregate pass.2).on d₁ = (.ok r, d₂) ∧
        Done (before ++ [pass]) d₂ := by
    rintro before pass after d₁ whole ⟨clock, policy, calculable, room⟩
    have mem : pass ∈ passesOf names := by
      rw [whole]
      exact List.mem_append_right _ List.mem_cons_self
    obtain ⟨j, source⟩ := exists_source (ne_minute_of_mem_passesOf mem)
    obtain ⟨once, finer⟩ := passesOf_split whole source
    have room := room _ whole
    rw [on_aggregate_always _ _ clock]
    have given : ∀ t ∈ (none : Option Moment), t.Naive ∧ pass.2.HasEnd t := by
      intro t none
      cases none
    obtain ⟨r, d₂, ran, advances⟩ := aggregate_ok calculable (List.mem_map_of_mem mem) source time
      (policy ▸ since) given representable fun id => (Nat.le_add_right ..).trans (room id j finer)
    refine ⟨r, d₂, ran, advances.enlarges.clock_always clock,
      advances.enlarges.policy.trans policy, advances.calculable calculable, fun rest same => ?_⟩
    rw [whole, List.append_assoc] at same
    cases List.append_cancel_left same
    exact room.next advances finer once
  have begun : Done [] d := by
    refine ⟨clock, rfl, calculable, fun rest same => ?_⟩
    rw [List.nil_append] at same
    rw [← same]
    exact hasRoom_passesOf light
  obtain ⟨created, d', ran, -⟩ := mapM_runs rounds begun
  exact ⟨created.flatten, d', on_bind_ok ran _⟩

end Analysis

end Promptuary
