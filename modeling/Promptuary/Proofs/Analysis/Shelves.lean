import Promptuary.Analysis.Recording
import Promptuary.Proofs.Calendar.Order
import Promptuary.Proofs.Entries
import Promptuary.Proofs.Operation
import Promptuary.Proofs.Outcome

/-!
The snapshots of a template on their shelf: what is found there after a snapshot was put in the
place of another, and after those that are no longer kept were dropped.
-/

namespace Promptuary

open Calendar (CalendarError Interval Moment)
open Operation

/-! ### Keys -/

theorem WindowKey.beq_iff {a b : WindowKey} :
    (a == b) = true ↔ a.interval = b.interval ∧ a.start.same b.start = true := by
  change (decide (a.interval = b.interval) && a.start.same b.start) = true ↔ _
  rw [Bool.and_eq_true, decide_eq_true_iff]

instance : EquivBEq WindowKey where
  rfl := WindowKey.beq_iff.2 ⟨rfl, Moment.same_refl _⟩
  symm same := by
    obtain ⟨interval, start⟩ := WindowKey.beq_iff.1 same
    exact WindowKey.beq_iff.2 ⟨interval.symm, Moment.same_symm start⟩
  trans first second := by
    obtain ⟨interval, start⟩ := WindowKey.beq_iff.1 first
    obtain ⟨interval', start'⟩ := WindowKey.beq_iff.1 second
    exact WindowKey.beq_iff.2 ⟨interval.trans interval', Moment.same_trans start start'⟩

namespace Analysis

variable {α : Type} {a : Analysis α} {d : Desk (Analysis α)} {id : String} {key : WindowKey}
  {s : Snapshot α}

/-! ### Shelves -/

theorem shelf_putShelf (id other : String) (snapshots : Shelf α) (a : Analysis α) :
    (a.putShelf id snapshots).shelf other = if id = other then snapshots else a.shelf other := by
  unfold shelf putShelf
  rw [Entries.get?_put]
  by_cases here : id = other
  · simp [here]
  · simp [here]

theorem putShelf_putShelf (id : String) (before after : Shelf α) (a : Analysis α) :
    (a.putShelf id before).putShelf id after = a.putShelf id after := by
  unfold putShelf
  rw [Entries.put_put]

/-- The state with a snapshot in the place of that of a window. -/
def withSnapshot (id : String) (key : WindowKey) (s : Snapshot α) (a : Analysis α) : Analysis α :=
  a.putShelf id ((a.shelf id).put key s)

@[simp] theorem recorder_withSnapshot : (a.withSnapshot id key s).recorder = a.recorder := rfl

@[simp] theorem shelf_withSnapshot :
    (a.withSnapshot id key s).shelf id = (a.shelf id).put key s := by
  rw [withSnapshot, shelf_putShelf, if_pos rfl]

theorem shelf_withSnapshot_ne_nil (id : String) (key : WindowKey) (s : Snapshot α)
    (a : Analysis α) : (a.withSnapshot id key s).shelf id ≠ [] := by
  intro empty
  have found := Entries.get?_put_self (a.shelf id) key s
  rw [← shelf_withSnapshot, empty] at found
  cases found

theorem withSnapshot_withSnapshot (s s' : Snapshot α) :
    (a.withSnapshot id key s).withSnapshot id key s' = a.withSnapshot id key s' := by
  rw [withSnapshot, shelf_withSnapshot, Entries.put_put, withSnapshot, putShelf_putShelf,
    withSnapshot]

theorem withSnapshot_of_get? (found : (a.shelf id).get? key = some s) :
    a.withSnapshot id key s = a := by
  have present : a.shelves.get? id = some (a.shelf id) := by
    unfold shelf at found ⊢
    cases known : a.shelves.get? id with
    | none =>
      rw [known] at found
      cases found
    | some snapshots => rfl
  rw [withSnapshot, Entries.put_of_get? found, putShelf, Entries.put_of_get? present]

/-- One state after another that differs from it in the snapshots of one template only. -/
structure Reshelves (a a' : Analysis α) (id : String) (snapshots : Shelf α) : Prop where
  policy : a'.policy = a.policy
  recorder : a'.recorder = a.recorder
  anomalies : a'.anomalies = a.anomalies
  shelf : ∀ other, a'.shelf other = if id = other then snapshots else a.shelf other

theorem reshelves_putShelf (a : Analysis α) (id : String) (snapshots : Shelf α) :
    a.Reshelves (a.putShelf id snapshots) id snapshots :=
  ⟨rfl, rfl, rfl, fun other => shelf_putShelf id other snapshots a⟩

theorem reshelves_self (a : Analysis α) (id : String) : a.Reshelves a id (a.shelf id) := by
  refine ⟨rfl, rfl, rfl, fun other => ?_⟩
  split
  · next same => rw [same]
  · rfl

theorem Reshelves.trans {a₁ a₂ : Analysis α} {before after : Shelf α}
    (first : a.Reshelves a₁ id before) (second : a₁.Reshelves a₂ id after) :
    a.Reshelves a₂ id after where
  policy := second.policy.trans first.policy
  recorder := second.recorder.trans first.recorder
  anomalies := second.anomalies.trans first.anomalies
  shelf other := by
    rw [second.shelf, first.shelf]
    split <;> rfl

theorem on_changeSnapshot (a : Analysis α) (shared : Shared) (f : Snapshot α → Snapshot α) :
    (changeSnapshot id key f).on ⟨a.withSnapshot id key s, shared⟩ =
      (.ok (), ⟨a.withSnapshot id key (f s), shared⟩) := by
  have found : ((a.withSnapshot id key s).shelf id).get? key = some s := by
    rw [shelf_withSnapshot, Entries.get?_put_self]
  have changed : (a.withSnapshot id key s).withSnapshot id key (f s) =
      a.withSnapshot id key (f s) := withSnapshot_withSnapshot ..
  unfold changeSnapshot
  rw [on_change, ← changed]
  simp only [found]
  rfl

/-! ### Dropping what is no longer kept -/

theorem on_daysAgo (days : Int) (d : Desk (Analysis α)) : (daysAgo days).on d =
    ((d.shared.clock.current.daysBefore? days).mapError .calendar, d.ticked) := rfl

/-- Whether a snapshot is still kept where those up to a moment are dropped. -/
def isKept (cutoff : Moment) (entry : WindowKey × Snapshot α) : Bool :=
  !Outcome.holds (entry.2.start.le? cutoff)

/-- Dropping old snapshots succeeds if there is a moment up to which they are old, with which all of
them can be compared. -/
theorem prune_runs {cutoff : Moment} (filled : d.own.shelf id ≠ [])
    (known : d.shared.clock.current.daysBefore? d.own.policy.snapshotDays = .ok cutoff)
    (answers : ∀ entry ∈ d.own.shelf id, ∃ b, entry.2.start.le? cutoff = .ok b) :
    ∃ d', (prune id).on d = (.ok (), d') ∧
      d.own.Reshelves d'.own id ((d.own.shelf id).filter (isKept cutoff)) ∧
      d'.shared.clock.readings <:+ d.shared.clock.readings := by
  have chosen : ((d.own.shelf id).filterM fun entry => (entry.2.start.le? cutoff).map (!·)) =
      .ok ((d.own.shelf id).filter (isKept cutoff)) := by
    refine Outcome.filterM_eq_filter fun entry mem => ?_
    obtain ⟨b, answer⟩ := answers entry mem
    rw [isKept, answer]
    rfl
  have some : (!(d.own.shelf id).isEmpty) = true := by simpa using filled
  unfold prune
  rw [on_bind_ok (on_own _)]
  dsimp only
  rw [if_pos some, on_bind_ok (on_own _)]
  rw [on_bind_ok ((on_daysAgo ..).trans (by rw [known]; rfl)), chosen, Outcome.mapError_ok,
    on_bind_ok (on_attempt ..)]
  split
  · obtain ⟨d', ran, leads⟩ := announce_leads (.snapshotsPruned id
      ((d.own.shelf id).length - ((d.own.shelf id).filter (isKept cutoff)).length))
      { d.ticked with own := d.own.putShelf id ((d.own.shelf id).filter (isKept cutoff)) }
    refine ⟨d', ran, ?_, leads.clock.trans d.shared.clock.rest_suffix⟩
    rw [leads.own]
    exact reshelves_putShelf ..
  · next all =>
    have same : (d.own.shelf id).filter (isKept cutoff) = d.own.shelf id := by
      refine List.filter_eq_self.2 fun entry mem => ?_
      by_contra dropped
      have shorter := List.length_filter_lt_length_iff_exists.2 ⟨entry, mem, dropped⟩
      exact all shorter
    refine ⟨d.ticked, rfl, ?_, d.shared.clock.rest_suffix⟩
    rw [same]
    exact reshelves_self ..

theorem prune_spec {d' : Desk (Analysis α)} (filled : d.own.shelf id ≠ [])
    (ran : (prune id).on d = (.ok (), d')) :
    ∃ cutoff, d.shared.clock.current.daysBefore? d.own.policy.snapshotDays = .ok cutoff ∧
      d.own.Reshelves d'.own id ((d.own.shelf id).filter (isKept cutoff)) ∧
      d'.shared.clock.readings <:+ d.shared.clock.readings := by
  have some : (!(d.own.shelf id).isEmpty) = true := by simpa using filled
  have known := ran
  unfold prune at known
  rw [on_bind_ok (on_own _)] at known
  dsimp only at known
  rw [if_pos some, on_bind_ok (on_own _)] at known
  rcases on_bind_cases known with ⟨f, -, failed⟩ | ⟨cutoff, d₁, first, rest⟩
  · cases failed
  rw [on_daysAgo] at first
  obtain ⟨present, rfl⟩ := Prod.mk.inj first
  rcases on_bind_cases rest with ⟨f, -, failed⟩ | ⟨kept, d₂, second, -⟩
  · cases failed
  obtain ⟨-, chosen⟩ := attempt_spec second
  obtain ⟨answers, -⟩ := Outcome.filterM_spec (mapError_eq_ok chosen)
  have cutoffs := mapError_eq_ok present
  obtain ⟨d₃, runs, reshelves, clock⟩ := prune_runs filled cutoffs fun entry mem => by
    have answer := answers entry mem
    cases asked : entry.2.start.le? cutoff with
    | error f =>
      rw [asked] at answer
      cases answer
    | ok b => exact ⟨b, rfl⟩
  obtain rfl := (Prod.mk.inj (ran.symm.trans runs)).2
  exact ⟨cutoff, cutoffs, reshelves, clock⟩

/-- Whether or not it succeeds, dropping old snapshots leaves some of those that were there. -/
theorem prune_reshelves (id : String) (d : Desk (Analysis α)) :
    ∃ p, d.own.Reshelves ((prune id).on d).2.own id ((d.own.shelf id).filter p) := by
  have unchanged : d.own.Reshelves d.own id ((d.own.shelf id).filter fun _ => true) := by
    rw [List.filter_eq_self.2 fun _ _ => rfl]
    exact reshelves_self ..
  by_cases filled : d.own.shelf id = []
  · have nothing : (prune id).on d = (.ok (), d) := by
      unfold prune
      rw [on_bind_ok (on_own _), filled]
      rfl
    rw [nothing]
    exact ⟨_, unchanged⟩
  rcases ran : (prune id).on d with ⟨f | ⟨⟩, d'⟩
  · have some : (!(d.own.shelf id).isEmpty) = true := by simpa using filled
    refine ⟨fun _ => true, ?_⟩
    suffices same : d'.own = d.own by
      rw [same]
      exact unchanged
    unfold prune at ran
    rw [on_bind_ok (on_own _)] at ran
    dsimp only at ran
    rw [if_pos some, on_bind_ok (on_own _)] at ran
    rcases on_bind_cases ran with ⟨f, first, -⟩ | ⟨cutoff, d₁, first, rest⟩
    · rw [on_daysAgo] at first
      rw [← (Prod.mk.inj first).2]
      rfl
    rw [on_daysAgo] at first
    obtain rfl := (Prod.mk.inj first).2
    rcases on_bind_cases rest with ⟨f, second, -⟩ | ⟨kept, d₂, second, last⟩
    · obtain ⟨rfl, -⟩ := attempt_spec second
      rfl
    split at last
    · obtain ⟨d₃, announced, -⟩ := announce_leads (.snapshotsPruned id
        ((d.own.shelf id).length - kept.length)) { d₂ with own := d₂.own.putShelf id kept }
      rw [on_bind_ok (on_change ..), announced] at last
      cases last
    · cases last
  · obtain ⟨cutoff, -, reshelves, -⟩ := prune_spec filled ran
    exact ⟨_, reshelves⟩

/-! ### All windows but one -/

/-- One state after another in which the snapshots of all windows but one are as they were, as far
as they are still there. -/
structure Spares (id : String) (key : WindowKey) (a a' : Analysis α) : Prop where
  policy : a'.policy = a.policy
  recorder : a'.recorder = a.recorder
  others : ∀ other, other ≠ id → a'.shelf other = a.shelf other
  distinct : (a.shelf id).Distinct → (a'.shelf id).Distinct
  found : (a.shelf id).Distinct → ∀ k s, (key == k) = false →
    (a'.shelf id).get? k = some s → (a.shelf id).get? k = some s

variable {a₁ a₂ : Analysis α}

theorem Spares.refl (id : String) (key : WindowKey) (a : Analysis α) : Spares id key a a :=
  ⟨rfl, rfl, fun _ _ => rfl, fun distinct => distinct, fun _ _ _ _ found => found⟩

theorem Spares.trans (first : Spares id key a a₁) (second : Spares id key a₁ a₂) :
    Spares id key a a₂ where
  policy := second.policy.trans first.policy
  recorder := second.recorder.trans first.recorder
  others other ne := (second.others other ne).trans (first.others other ne)
  distinct start := second.distinct (first.distinct start)
  found start k s apart is :=
    first.found start k s apart (second.found (first.distinct start) k s apart is)

theorem spares_withSnapshot (id : String) (key : WindowKey) (s : Snapshot α) (a : Analysis α) :
    Spares id key a (a.withSnapshot id key s) where
  policy := rfl
  recorder := rfl
  others other ne := by rw [withSnapshot, shelf_putShelf, if_neg ne.symm]
  distinct start := by
    rw [shelf_withSnapshot]
    exact start.put ..
  found start k s' apart is := by
    rw [shelf_withSnapshot, Entries.get?_put, if_neg (by simp [apart])] at is
    exact is

theorem Reshelves.spares {p : WindowKey × Snapshot α → Bool}
    (reshelves : a.Reshelves a₁ id ((a.shelf id).filter p)) (key : WindowKey) :
    Spares id key a a₁ where
  policy := reshelves.policy
  recorder := reshelves.recorder
  others other ne := by rw [reshelves.shelf, if_neg ne.symm]
  distinct start := by
    rw [reshelves.shelf, if_pos rfl]
    exact start.filter _
  found start k s _ is := by
    rw [reshelves.shelf, if_pos rfl] at is
    obtain ⟨k', same, mem, -⟩ := (start.get?_filter _).1 is
    exact start.get?_of_mem mem same

theorem keeps_changeSnapshot (a : Analysis α) (f : Snapshot α → Snapshot α) :
    Keeps (Spares id key a) (changeSnapshot id key f) := by
  refine keeps_change fun a₁ spares => ?_
  dsimp only
  split
  · exact spares.trans (spares_withSnapshot ..)
  · exact spares

theorem keeps_prune (a : Analysis α) : Keeps (Spares id key a) (prune id) := by
  intro d spares
  obtain ⟨p, reshelves⟩ := prune_reshelves id d
  exact spares.trans (reshelves.spares key)

end Analysis

end Promptuary
