import Mathlib.Data.List.Induction
import Mathlib.Data.List.Nodup
import Promptuary.Event.Bus
import Promptuary.Proofs.Entries

/-!
Who is subscribed after changes of a bus. A subscription stands until its own handle ends it or all
are ended. A handle ends the first subscription that equals its own, so those who are subscribed are
those whose subscriptions stand if and only if no handle meets another subscription in this way.
-/

namespace Promptuary

instance {η : Type} [BEq η] [LawfulBEq η] : LawfulBEq (Subscription η) where
  eq_of_beq {s t} same := by
    obtain ⟨handlers, types⟩ := Bool.and_eq_true_iff.1 same
    obtain ⟨handler, types'⟩ := s
    cases eq_of_beq handlers
    cases eq_of_beq types
    rfl
  rfl := Bool.and_eq_true_iff.2 ⟨BEq.rfl, BEq.rfl⟩

namespace Bus

variable {η : Type}

/-! ### Subscriptions that stand -/

/-- The subscription that a change makes, with its handle. -/
def Change.made? : Change η → Option (String × Subscription η)
  | .subscribe handle s => some (handle, s)
  | _ => none

/-- Whether a change ends the subscription of a handle, as it should: by this handle, or with all
others. -/
def Change.ends (handle : String) : Change η → Bool
  | .subscribe _ _ => false
  | .unsubscribe other => other == handle
  | .clear => true

/-- The subscriptions that changes make. -/
def made (changes : List (Change η)) : Entries String (Subscription η) :=
  changes.filterMap Change.made?

/-- The subscriptions that changes make and that no later one of them ends. -/
def standing : List (Change η) → Entries String (Subscription η)
  | [] => []
  | .subscribe handle s :: rest =>
    if rest.any (·.ends handle) then standing rest else (handle, s) :: standing rest
  | _ :: rest => standing rest

section

variable {changes : List (Change η)} {handle : String} {s : Subscription η}

/-- Whether a subscription stands is decided by the changes that come after it. -/
theorem standing_cons_subscribe : standing (.subscribe handle s :: changes) =
    if changes.any (·.ends handle) then standing changes else (handle, s) :: standing changes := rfl

theorem standing_subscribe :
    standing (changes ++ [.subscribe handle s]) = standing changes ++ [(handle, s)] := by
  induction changes with
  | nil => rfl
  | cons c changes ih =>
    cases c with
    | subscribe other t =>
      have same : (changes ++ [Change.subscribe handle s]).any (·.ends other) =
          changes.any (·.ends other) := by simp [Change.ends]
      rw [List.cons_append, standing_cons_subscribe, standing_cons_subscribe, ih, same]
      split <;> rfl
    | _ => exact ih

theorem standing_unsubscribe :
    standing (changes ++ [.unsubscribe handle]) = (standing changes).erase handle := by
  induction changes with
  | nil => rfl
  | cons c changes ih =>
    cases c with
    | subscribe other t =>
      have same : (changes ++ [Change.unsubscribe handle]).any (·.ends other) =
          (changes.any (·.ends other) || handle == other) := by simp [Change.ends]
      rw [List.cons_append, standing_cons_subscribe, standing_cons_subscribe, ih, same]
      by_cases ended : changes.any (·.ends other) = true
      · rw [ended, Bool.true_or, if_pos rfl, if_pos rfl]
      · rw [Bool.not_eq_true] at ended
        rw [ended, Bool.false_or, if_neg Bool.false_ne_true]
        by_cases own : handle = other
        · simp [own, Entries.erase]
        · simp [own, Ne.symm own, Entries.erase]
    | _ => exact ih

theorem standing_clear : standing (changes ++ [.clear]) = [] := by
  induction changes with
  | nil => rfl
  | cons c changes ih =>
    cases c with
    | subscribe other t =>
      have ended : (changes ++ [Change.clear]).any (·.ends other) = true := by simp [Change.ends]
      rw [List.cons_append, standing_cons_subscribe, if_pos ended, ih]
    | _ => exact ih

theorem standing_sublist (changes : List (Change η)) :
    (standing changes).Sublist (made changes) := by
  induction changes with
  | nil => exact List.Sublist.refl _
  | cons c changes ih =>
    cases c with
    | subscribe handle s =>
      rw [standing]
      split
      · exact ih.cons _
      · exact ih.cons_cons _
    | _ => exact ih

end

/-! ### What a handle ends -/

/-- What the handle of a subscription `s` ends is what it should end. -/
inductive EndsOwn (those : Entries String (Subscription η)) (handle : String)
    (s : Subscription η) : Prop where
  /-- Its subscription stands, and those from the first one that equals it on, up to itself, all
  equal it. -/
  | own (first between rest : Entries String (Subscription η))
      (are : those = first ++ (between ++ (handle, s) :: rest))
      (apart : ∀ entry ∈ first, entry.2 ≠ s) (same : ∀ entry ∈ between, entry.2 = s)
  /-- Its subscription has ended, and none that stands equals it. -/
  | nothing (ended : handle ∉ those.keys) (apart : s ∉ those.values)

section

variable {those : Entries String (Subscription η)} {handle other : String} {s t : Subscription η}

theorem endsOwn_cons_self : EndsOwn ((handle, s) :: those) handle s :=
  .own [] [] those rfl (by simp) (by simp)

/-- After one that equals its own, a handle meets its own next, or others that equal it. -/
theorem endsOwn_cons_of_eq (ne : other ≠ handle) : EndsOwn ((other, s) :: those) handle s ↔
    ∃ between rest, those = between ++ (handle, s) :: rest ∧ ∀ entry ∈ between, entry.2 = s := by
  constructor
  · rintro (⟨first, between, rest, are, apart, same⟩ | ⟨-, apart⟩)
    · cases first with
      | nil =>
        cases between with
        | nil =>
          cases are
          exact absurd rfl ne
        | cons entry between =>
          cases are
          exact ⟨between, rest, rfl, (List.forall_mem_cons.1 same).2⟩
      | cons entry first =>
        cases are
        exact absurd rfl (List.forall_mem_cons.1 apart).1
    · exact absurd List.mem_cons_self apart
  · rintro ⟨between, rest, rfl, same⟩
    exact .own [] ((other, s) :: between) rest rfl (by simp) (List.forall_mem_cons.2 ⟨rfl, same⟩)

/-- A handle passes over another subscription. -/
theorem endsOwn_cons_of_ne (ne : other ≠ handle) (apart : t ≠ s) :
    EndsOwn ((other, t) :: those) handle s ↔ EndsOwn those handle s := by
  constructor
  · rintro (⟨first, between, rest, are, far, same⟩ | ⟨ended, far⟩)
    · cases first with
      | nil =>
        cases between with
        | nil =>
          cases are
          exact absurd rfl ne
        | cons entry between =>
          cases are
          exact absurd (List.forall_mem_cons.1 same).1 apart
      | cons entry first =>
        cases are
        exact .own first between rest rfl (List.forall_mem_cons.1 far).2 same
    · exact .nothing (fun mem => ended (List.mem_cons_of_mem _ mem))
        fun mem => far (List.mem_cons_of_mem _ mem)
  · rintro (⟨first, between, rest, rfl, far, same⟩ | ⟨ended, far⟩)
    · exact .own ((other, t) :: first) between rest rfl (List.forall_mem_cons.2 ⟨apart, far⟩) same
    · refine .nothing ?_ ?_
      · exact fun mem => (List.mem_cons.1 mem).elim (fun same => ne same.symm) ended
      · exact fun mem => (List.mem_cons.1 mem).elim (fun same => apart same.symm) far

/-- A list is one of its subscriptions and then the rest of it, if and only if others that come
before that one equal it. -/
theorem values_eq_cons_erase_iff (distinct : those.keys.Nodup)
    (own : ∀ entry ∈ those, entry.1 = handle → entry.2 = s) :
    those.values = s :: (those.erase handle).values ↔ ∃ between rest,
      those = between ++ (handle, s) :: rest ∧ ∀ entry ∈ between, entry.2 = s := by
  induction those with
  | nil => simp [Entries.values]
  | cons entry those ih =>
    obtain ⟨other, t⟩ := entry
    obtain ⟨fresh, distinct⟩ := List.nodup_cons.1 distinct
    obtain ⟨first, own⟩ := List.forall_mem_cons.1 own
    by_cases here : other = handle
    · subst here
      obtain rfl : t = s := first rfl
      rw [Entries.erase_cons_self fresh]
      exact iff_of_true rfl ⟨[], those, rfl, by simp⟩
    · rw [Entries.erase_cons_of_ne here]
      have ih := ih distinct own
      constructor
      · intro same
        obtain ⟨rfl, others⟩ := List.cons.inj same
        obtain ⟨between, rest, rfl, all⟩ := ih.1 others
        exact ⟨(other, t) :: between, rest, rfl, List.forall_mem_cons.2 ⟨rfl, all⟩⟩
      · rintro ⟨_ | ⟨first, between⟩, rest, are, all⟩
        · cases are
          exact absurd rfl here
        · obtain ⟨rfl, rfl⟩ := List.cons.inj are
          obtain ⟨rfl, all⟩ := List.forall_mem_cons.1 all
          exact congrArg (t :: ·) (ih.2 ⟨between, rest, rfl, all⟩)

variable [BEq η] [LawfulBEq η]

/-- What is left when the first subscription that equals one is left out is what should be left,
if and only if the handle of that one ends what it should end. -/
theorem erase_values_eq_iff (distinct : those.keys.Nodup)
    (own : ∀ entry ∈ those, entry.1 = handle → entry.2 = s) :
    those.values.erase s = (those.erase handle).values ↔ EndsOwn those handle s := by
  induction those with
  | nil => exact iff_of_true rfl (.nothing (by simp [Entries.keys]) (by simp [Entries.values]))
  | cons entry those ih =>
    obtain ⟨other, t⟩ := entry
    obtain ⟨fresh, distinct⟩ := List.nodup_cons.1 distinct
    obtain ⟨first, own⟩ := List.forall_mem_cons.1 own
    by_cases here : other = handle
    · subst here
      obtain rfl : t = s := first rfl
      rw [Entries.erase_cons_self fresh]
      exact iff_of_true (List.erase_cons_head ..) endsOwn_cons_self
    · rw [Entries.erase_cons_of_ne here]
      by_cases equal : t = s
      · -- The first one goes, and the others have to look as if the own one had gone.
        subst equal
        have gone : (Entries.values ((other, t) :: those)).erase t = Entries.values those :=
          List.erase_cons_head ..
        rw [gone, endsOwn_cons_of_eq here, ← values_eq_cons_erase_iff distinct own]
        rfl
      · have stays : (Entries.values ((other, t) :: those)).erase s =
            t :: (Entries.values those).erase s := List.erase_cons_tail (by simpa using equal)
        rw [stays, endsOwn_cons_of_ne here equal, ← ih distinct own]
        exact List.cons_inj_right t

end

/-! ### Runs of changes -/

section

variable {changes : List (Change η)} {handle : String} {s : Subscription η}

theorem made_subscribe :
    made (changes ++ [.subscribe handle s]) = made changes ++ [(handle, s)] := by
  rw [made, List.filterMap_append]
  rfl

theorem made_unsubscribe : made (changes ++ [.unsubscribe handle]) = made changes := by
  rw [made, List.filterMap_append]
  exact List.append_nil _

theorem made_clear : made (changes ++ [.clear]) = made changes := by
  rw [made, List.filterMap_append]
  exact List.append_nil _

end

section

variable [BEq η]

/-- A new bus after changes. -/
def after (changes : List (Change η)) : Bus η := changes.foldl Change.on {}

theorem after_concat (changes : List (Change η)) (c : Change η) :
    after (changes ++ [c]) = c.on (after changes) := by
  rw [after, List.foldl_append]
  rfl

theorem unsubscribe_handles (bus : Bus η) (handle : String) :
    (bus.unsubscribe handle).handles = bus.handles := by
  unfold unsubscribe
  split <;> rfl

theorem handles_after (changes : List (Change η)) :
    (after changes).handles = .ofPairs (made changes) := by
  induction changes using List.reverseRecOn with
  | nil => rfl
  | append_singleton changes c ih =>
    rw [after_concat]
    cases c with
    | subscribe handle s =>
      change (after changes).handles.put handle s = _
      rw [made_subscribe, ih, Entries.ofPairs, Entries.ofPairs, List.foldl_append]
      rfl
    | unsubscribe handle =>
      rw [made_unsubscribe, ← ih]
      exact unsubscribe_handles ..
    | clear =>
      rw [made_clear, ← ih]
      rfl

/-- Whatever changes are made, those who are subscribed are some of those who ever were, in
order. -/
theorem subscriptions_sublist (changes : List (Change η)) :
    (after changes).subscriptions.Sublist (made changes).values := by
  induction changes using List.reverseRecOn with
  | nil => exact List.Sublist.refl _
  | append_singleton changes c ih =>
    rw [after_concat]
    cases c with
    | subscribe handle s =>
      rw [made_subscribe, Entries.values, List.map_append]
      exact ih.append (List.Sublist.refl _)
    | unsubscribe handle =>
      -- Whichever equal subscription goes, the others stay as they were.
      rw [made_unsubscribe]
      change ((after changes).unsubscribe handle).subscriptions.Sublist _
      unfold unsubscribe
      split
      · exact List.erase_sublist.trans ih
      · exact ih
    | clear => exact List.nil_sublist _

variable {changes : List (Change η)} {handle : String} {s : Subscription η}

theorem subscriptions_unsubscribe {bus : Bus η} (known : bus.handles.get? handle = some s) :
    (bus.unsubscribe handle).subscriptions = bus.subscriptions.erase s := by
  rw [unsubscribe, known]

/-- Those who are subscribed are those whose subscriptions stand. -/
def Agrees (changes : List (Change η)) : Prop :=
  (after changes).subscriptions = (standing changes).values

theorem agrees_nil : Agrees ([] : List (Change η)) := rfl

theorem agrees_clear : Agrees (changes ++ [.clear]) := by
  rw [Agrees, after_concat, standing_clear]
  rfl

theorem Agrees.subscribe (agrees : Agrees changes) :
    Agrees (changes ++ [.subscribe handle s]) := by
  rw [Agrees, after_concat, standing_subscribe, Entries.values, List.map_append]
  exact congrArg (· ++ [s]) agrees

/-- A handle that nobody has been given has no effect. -/
theorem Agrees.unsubscribe_unknown (distinct : (made changes).keys.Nodup) (agrees : Agrees changes)
    (unknown : handle ∉ (made changes).keys) : Agrees (changes ++ [.unsubscribe handle]) := by
  have absent : (after changes).handles.get? handle = none := by
    rw [handles_after, Entries.ofPairs_of_distinct (Entries.distinct_iff_nodup.2 distinct)]
    rw [← Entries.get?_isSome_iff, Option.not_isSome_iff_eq_none] at unknown
    exact unknown
  have same : (after changes).unsubscribe handle = after changes := by
    rw [unsubscribe, absent]
  have gone : handle ∉ (standing changes).keys := fun mem =>
    unknown (((standing_sublist changes).map _).mem mem)
  rw [Agrees, after_concat, standing_unsubscribe, Entries.erase_eq_self gone]
  change ((after changes).unsubscribe handle).subscriptions = _
  rw [same]
  exact agrees

/-- Where those who are subscribed are those whose subscriptions stand, a handle leaves it so if and
only if it ends what it should end. -/
theorem Agrees.unsubscribe_iff [LawfulBEq η] (distinct : (made changes).keys.Nodup)
    (agrees : Agrees changes) (given : (handle, s) ∈ made changes) :
    Agrees (changes ++ [.unsubscribe handle]) ↔ EndsOwn (standing changes) handle s := by
  have sublist := standing_sublist changes
  have apart := Entries.distinct_iff_nodup.2 distinct
  have known : (after changes).handles.get? handle = some s := by
    rw [handles_after, Entries.ofPairs_of_distinct apart]
    exact apart.get?_of_mem given BEq.rfl
  have own : ∀ entry ∈ standing changes, entry.1 = handle → entry.2 = s := by
    rintro ⟨_, t⟩ mem rfl
    have found := apart.get?_of_mem (sublist.mem mem) BEq.rfl
    exact Option.some.inj (found.symm.trans (apart.get?_of_mem given BEq.rfl))
  rw [← erase_values_eq_iff (distinct.sublist (sublist.map _)) own, Agrees, after_concat,
    standing_unsubscribe]
  change (((after changes).unsubscribe handle).subscriptions = _) ↔ _
  rw [subscriptions_unsubscribe known, agrees]

end

section

variable {changes : List (Change η)} {handle : String} {s : Subscription η}

/-- Where no two subscriptions are equal, each handle ends what it should end. -/
theorem endsOwn_of_nodup (keys : (made changes).keys.Nodup) (values : (made changes).values.Nodup)
    (given : (handle, s) ∈ made changes) : EndsOwn (standing changes) handle s := by
  have sublist := standing_sublist changes
  by_cases stands : (handle, s) ∈ standing changes
  · obtain ⟨first, rest, are⟩ := List.append_of_mem stands
    refine .own first [] rest are (fun entry mem same => ?_) (by simp)
    have apart := values.sublist (sublist.map _)
    rw [are, List.map_append] at apart
    exact List.disjoint_of_nodup_append apart (List.mem_map_of_mem mem)
      (same ▸ List.mem_cons_self)
  · refine .nothing (fun mem => stands ?_) (fun mem => stands ?_)
    · obtain ⟨entry, mem, own⟩ := List.mem_map.1 mem
      rw [← List.inj_on_of_nodup_map keys (sublist.mem mem) given own]
      exact mem
    · obtain ⟨entry, mem, equal⟩ := List.mem_map.1 mem
      rw [← List.inj_on_of_nodup_map values (sublist.mem mem) given equal]
      exact mem

theorem made_sublist {before : List (Change η)} (earlier : before <+: changes) :
    (made before).Sublist (made changes) := earlier.sublist.filterMap _

theorem prefix_of_concat {before : List (Change η)} {c : Change η}
    (run : before ++ [c] <+: changes) : before <+: changes := (List.prefix_append ..).trans run

variable [BEq η] [LawfulBEq η]

/-- A run of changes agrees with what should stand throughout, if and only if each handle that is
used in it ends what it should end. -/
theorem forall_agrees_iff (distinct : (made changes).keys.Nodup) :
    (∀ before, before <+: changes → Agrees before) ↔
      ∀ before handle s, before ++ [.unsubscribe handle] <+: changes → (handle, s) ∈ made before →
        EndsOwn (standing before) handle s := by
  have distinct : ∀ before, before <+: changes → (made before).keys.Nodup :=
    fun before earlier => distinct.sublist ((made_sublist earlier).map _)
  constructor
  · intro agrees before handle s run given
    have earlier := prefix_of_concat run
    exact ((agrees before earlier).unsubscribe_iff (distinct before earlier) given).1 (agrees _ run)
  · intro ends before run
    -- By induction on the part of the run so far, each change is one after which they agree again.
    induction before using List.reverseRecOn with
    | nil => exact agrees_nil
    | append_singleton before c ih =>
      have earlier := prefix_of_concat run
      have agrees := ih earlier
      cases c with
      | subscribe handle s => exact agrees.subscribe
      | clear => exact agrees_clear
      | unsubscribe handle =>
        by_cases known : handle ∈ (made before).keys
        · obtain ⟨⟨_, s⟩, given, rfl⟩ := List.mem_map.1 known
          exact (agrees.unsubscribe_iff (distinct before earlier) given).2
            (ends before _ s run given)
        · exact agrees.unsubscribe_unknown (distinct before earlier) known

/-- Those who are subscribed are some of those who ever were, in order. Where each subscription has
a handle of its own, they are throughout those whose subscriptions stand, if and only if each handle
that is used ends what it should end. This is so where no two subscriptions are equal. -/
theorem handles_end_own (distinct : (made changes).keys.Nodup) :
    (after changes).subscriptions.Sublist (made changes).values ∧
    ((∀ before, before <+: changes →
        (after before).subscriptions = (standing before).values) ↔
      ∀ before handle s, before ++ [.unsubscribe handle] <+: changes → (handle, s) ∈ made before →
        EndsOwn (standing before) handle s) ∧
    ((made changes).values.Nodup → ∀ before, before <+: changes →
      (after before).subscriptions = (standing before).values) := by
  refine ⟨subscriptions_sublist changes, forall_agrees_iff distinct, fun values => ?_⟩
  refine (forall_agrees_iff distinct).2 fun before handle s run given => ?_
  have sublist := made_sublist (prefix_of_concat run)
  exact endsOwn_of_nodup (distinct.sublist (sublist.map _)) (values.sublist (sublist.map _)) given

end

/-- The same subscription made twice, and the handle of the first one used twice. -/
def madeTwice : List (Change String) :=
  [.subscribe "first" ⟨"host", none⟩, .subscribe "second" ⟨"host", none⟩, .unsubscribe "first",
    .unsubscribe "first"]

/-- The second use ends the other subscription. -/
theorem handles_end_own_madeTwice :
    (after madeTwice).subscriptions = [] ∧ (standing madeTwice).keys = ["second"] ∧
    (after madeTwice).subscriptions.Sublist (made madeTwice).values ∧
    ((∀ before, before <+: madeTwice →
        (after before).subscriptions = (standing before).values) ↔
      ∀ before handle s, before ++ [.unsubscribe handle] <+: madeTwice →
        (handle, s) ∈ made before → EndsOwn (standing before) handle s) ∧
    ((made madeTwice).values.Nodup → ∀ before, before <+: madeTwice →
      (after before).subscriptions = (standing before).values) :=
  ⟨rfl, by decide, handles_end_own (by decide)⟩

end Bus

end Promptuary
