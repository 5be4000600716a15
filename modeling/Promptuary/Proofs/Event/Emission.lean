import Promptuary.Event.Bus

/-!
Emissions, whose calls may act on the bus. Whatever handlers do, an emission calls whoever wanted
the event when it began, each once and in order of subscription, and the emissions that a call makes
are like this themselves and are over before the next call. All are over at some time where handlers
only emit events of a lower rank than the one they are called for.
-/

namespace Promptuary

/-- A reaction that emits only events of a kind, whatever scenes its acts lead to. -/
def Reaction.EmitsOnly {η : Type} (kind : Event → Prop) : Reaction η → Prop
  | .done => True
  | .fail => True
  | .act a rest => (∀ e, a = .emit e → kind e) ∧ ∀ scene, EmitsOnly kind (rest scene)

namespace Scene

variable {η : Type}

/-! ### Orderly emissions -/

/-- What an emission leaves behind: its event, who was subscribed when it began, and all that
happened from its beginning to its end. -/
structure Emission (η : Type) where
  event : Event
  present : List (Subscription η)
  marks : List (Mark η)

/-- What a call leaves behind: who was called, the emissions that the handler made, and whether it
failed. -/
structure Turn (η : Type) where
  subscription : Subscription η
  emissions : List (Emission η)
  failed : Bool

/-- All that happened in a call for an event. -/
def Turn.marks (turn : Turn η) (e : Event) : List (Mark η) :=
  .called turn.subscription e :: (turn.emissions.flatMap (·.marks) ++
    if turn.failed then [.failed turn.subscription e] else [])

/-- An emission whose calls are of those who wanted the event when it began, each once and in order,
and whose calls make orderly emissions only, one after another. -/
inductive Emission.Orderly : Emission η → Prop where
  | intro {e : Event} {present : List (Subscription η)} (turns : List (Turn η))
      (called : turns.map (·.subscription) = present.filter (·.wants e.type))
      (orderly : ∀ turn ∈ turns, ∀ emission ∈ turn.emissions, emission.Orderly) :
      Orderly ⟨e, present, .entered e present :: (turns.flatMap (·.marks e) ++ [.left e])⟩

/-- A way to emit events that leaves orderly emissions behind. -/
def Orderly (emitter : Emitter η) : Prop :=
  ∀ {e scene after}, emitter e scene = some after → ∃ marks,
    after.marks = scene.marks ++ marks ∧ Emission.Orderly ⟨e, scene.bus.subscriptions, marks⟩

variable [BEq η] {emitter emitter' : Emitter η} {conduct : Conduct η} {scene after : Scene η}
  {e : Event}

/-! ### What each part of an emission leaves behind -/

/-- An act leaves nothing behind but the emission that it makes, if it makes one. -/
theorem perform_marks (orderly : Orderly emitter) {a : Act η}
    (ran : perform emitter scene a = some after) : ∃ emissions : List (Emission η),
      (∀ emission ∈ emissions, emission.Orderly) ∧
      after.marks = scene.marks ++ emissions.flatMap (·.marks) := by
  cases a with
  | emit e =>
    obtain ⟨marks, grown, well⟩ := orderly ran
    exact ⟨[⟨e, scene.bus.subscriptions, marks⟩], by simpa using well, by simpa using grown⟩
  | change c =>
    cases ran
    exact ⟨[], by simp, by simp⟩

theorem react_marks (orderly : Orderly emitter) {reaction : Reaction η} {failed : Bool}
    (ran : react emitter reaction scene = some (after, failed)) :
    ∃ emissions : List (Emission η), (∀ emission ∈ emissions, emission.Orderly) ∧
      after.marks = scene.marks ++ emissions.flatMap (·.marks) := by
  induction reaction generalizing scene with
  | act a rest ih =>
    obtain ⟨between, performed, ran⟩ := Option.bind_eq_some_iff.1 ran
    obtain ⟨first, well, grown⟩ := perform_marks orderly performed
    obtain ⟨others, well', grown'⟩ := ih between ran
    refine ⟨first ++ others, ?_, ?_⟩
    · exact List.forall_mem_append.2 ⟨well, well'⟩
    · rw [grown', grown, List.flatMap_append, List.append_assoc]
  | _ =>
    cases ran
    exact ⟨[], by simp, by simp⟩

theorem call_marks (orderly : Orderly emitter) {s : Subscription η}
    (ran : call emitter conduct e s scene = some after) : ∃ turn : Turn η,
      turn.subscription = s ∧ (∀ emission ∈ turn.emissions, emission.Orderly) ∧
      after.marks = scene.marks ++ turn.marks e := by
  obtain ⟨⟨between, failed⟩, reacted, ran⟩ := Option.bind_eq_some_iff.1 ran
  obtain ⟨emissions, well, grown⟩ := react_marks orderly reacted
  refine ⟨⟨s, emissions, failed⟩, rfl, well, ?_⟩
  cases failed <;> cases ran <;> simp [mark, Turn.marks, grown]

/-- Of some subscribers those who want the event are called, whatever their handlers do. -/
theorem dispatch_marks (orderly : Orderly emitter) {subscribers : List (Subscription η)}
    (ran : dispatch emitter conduct e subscribers scene = some after) :
    ∃ turns : List (Turn η),
      turns.map (·.subscription) = subscribers.filter (·.wants e.type) ∧
      (∀ turn ∈ turns, ∀ emission ∈ turn.emissions, emission.Orderly) ∧
      after.marks = scene.marks ++ turns.flatMap (·.marks e) := by
  induction subscribers generalizing scene with
  | nil =>
    cases ran
    exact ⟨[], rfl, by simp, by simp⟩
  | cons s rest ih =>
    obtain ⟨between, called, ran⟩ := Option.bind_eq_some_iff.1 ran
    obtain ⟨turns, are, well, grown⟩ := ih ran
    by_cases wants : s.wants e.type = true
    · rw [if_pos wants] at called
      obtain ⟨turn, rfl, well', grown'⟩ := call_marks orderly called
      refine ⟨turn :: turns, ?_, List.forall_mem_cons.2 ⟨well', well⟩, ?_⟩
      · rw [List.map_cons, are, List.filter_cons_of_pos (by simpa using wants)]
      · rw [grown, grown', List.flatMap_cons, List.append_assoc]
    · rw [if_neg wants] at called
      cases called
      refine ⟨turns, ?_, well, grown⟩
      rw [are, List.filter_cons_of_neg (by simpa using wants)]

/-- Emitting in itself is orderly: those inside an emission are less deep than this one. -/
theorem orderly_emit (conduct : Conduct η) (depth : Nat) : Orderly (emit conduct depth) := by
  intro e scene after ran
  induction depth generalizing e scene after with
  | zero => cases ran
  | succ depth ih =>
    -- The handlers only ever emit with `depth`, so `ih` is what `dispatch_marks` asks for.
    obtain ⟨between, dispatched, ran⟩ := Option.bind_eq_some_iff.1 ran
    obtain ⟨turns, are, well, grown⟩ := dispatch_marks ih dispatched
    cases ran
    refine ⟨_, ?_, .intro turns are well⟩
    simp [mark, grown]

/-! ### Depth -/

/-- One way to emit events gives whatever another one gives. -/
def Extends (emitter emitter' : Emitter η) : Prop :=
  ∀ {e scene after}, emitter e scene = some after → emitter' e scene = some after

theorem perform_extends (wider : Extends emitter emitter') {a : Act η}
    (ran : perform emitter scene a = some after) : perform emitter' scene a = some after := by
  cases a with
  | emit e => exact wider ran
  | change c => exact ran

theorem react_extends (wider : Extends emitter emitter') {reaction : Reaction η}
    {result : Scene η × Bool} (ran : react emitter reaction scene = some result) :
    react emitter' reaction scene = some result := by
  induction reaction generalizing scene with
  | act a rest ih =>
    obtain ⟨between, performed, ran⟩ := Option.bind_eq_some_iff.1 ran
    exact Option.bind_eq_some_iff.2 ⟨between, perform_extends wider performed, ih between ran⟩
  | _ => exact ran

theorem call_extends (wider : Extends emitter emitter') {s : Subscription η}
    (ran : call emitter conduct e s scene = some after) :
    call emitter' conduct e s scene = some after := by
  obtain ⟨result, reacted, ran⟩ := Option.bind_eq_some_iff.1 ran
  exact Option.bind_eq_some_iff.2 ⟨result, react_extends wider reacted, ran⟩

theorem dispatch_extends (wider : Extends emitter emitter') {subscribers : List (Subscription η)}
    (ran : dispatch emitter conduct e subscribers scene = some after) :
    dispatch emitter' conduct e subscribers scene = some after := by
  induction subscribers generalizing scene with
  | nil => exact ran
  | cons s rest ih =>
    obtain ⟨between, called, ran⟩ := Option.bind_eq_some_iff.1 ran
    refine Option.bind_eq_some_iff.2 ⟨between, ?_, ih ran⟩
    split at called
    · next wants => exact (if_pos wants).trans (call_extends wider called)
    · next wants => exact (if_neg wants).trans called

theorem emit_extends (conduct : Conduct η) (depth : Nat) :
    Extends (emit conduct depth) (emit conduct (depth + 1)) := by
  intro e scene after ran
  induction depth generalizing e scene after with
  | zero => cases ran
  | succ depth ih =>
    obtain ⟨between, dispatched, ran⟩ := Option.bind_eq_some_iff.1 ran
    exact Option.bind_eq_some_iff.2 ⟨between, dispatch_extends ih dispatched, ran⟩

theorem emit_deeper {depth more : Nat} (deeper : depth ≤ more)
    (ran : emit conduct depth e scene = some after) : emit conduct more e scene = some after := by
  induction deeper with
  | refl => exact ran
  | step _ ih => exact emit_extends conduct _ ih

/-! ### Emissions that come to an end -/

/-- Emitting events of a kind comes to an end in every scene. -/
def Ends (emitter : Emitter η) (kind : Event → Prop) : Prop :=
  ∀ e, kind e → ∀ scene, ∃ after, emitter e scene = some after

section

variable {kind : Event → Prop}

theorem perform_ends (ends : Ends emitter kind) {a : Act η} (only : ∀ e, a = .emit e → kind e)
    (scene : Scene η) : ∃ after, perform emitter scene a = some after := by
  cases a with
  | emit e => exact ends e (only e rfl) scene
  | change c => exact ⟨_, rfl⟩

theorem react_ends (ends : Ends emitter kind) {reaction : Reaction η}
    (only : reaction.EmitsOnly kind) (scene : Scene η) :
    ∃ result, react emitter reaction scene = some result := by
  induction reaction generalizing scene with
  | act a rest ih =>
    obtain ⟨between, performed⟩ := perform_ends ends only.1 scene
    obtain ⟨result, ran⟩ := ih between (only.2 between) between
    exact ⟨result, Option.bind_eq_some_iff.2 ⟨between, performed, ran⟩⟩
  | _ => exact ⟨_, rfl⟩

theorem call_ends (ends : Ends emitter kind)
    (only : ∀ handler scene, (conduct handler e scene).EmitsOnly kind)
    (s : Subscription η) (scene : Scene η) :
    ∃ after, call emitter conduct e s scene = some after := by
  obtain ⟨result, reacted⟩ := react_ends ends (only s.handler _) (scene.mark (.called s e))
  exact ⟨_, Option.bind_eq_some_iff.2 ⟨result, reacted, rfl⟩⟩

theorem dispatch_ends (ends : Ends emitter kind)
    (only : ∀ handler scene, (conduct handler e scene).EmitsOnly kind)
    (subscribers : List (Subscription η)) (scene : Scene η) :
    ∃ after, dispatch emitter conduct e subscribers scene = some after := by
  induction subscribers generalizing scene with
  | nil => exact ⟨scene, rfl⟩
  | cons s rest ih =>
    by_cases wants : s.wants e.type = true
    · obtain ⟨between, called⟩ := call_ends ends only s scene
      obtain ⟨after, ran⟩ := ih between
      exact ⟨after, Option.bind_eq_some_iff.2 ⟨between, (if_pos wants).trans called, ran⟩⟩
    · obtain ⟨after, ran⟩ := ih scene
      exact ⟨after, Option.bind_eq_some_iff.2 ⟨scene, if_neg wants, ran⟩⟩

end

/-- Where handlers only emit events of a lower rank than the one they are called for, an emission
comes to an end within as many levels as its rank. -/
theorem emit_ends {rank : Event → Nat}
    (lower : ∀ handler e scene, (conduct handler e scene).EmitsOnly (rank · < rank e))
    (depth : Nat) :
    Ends (emit conduct depth) (rank · < depth) := by
  induction depth with
  | zero => exact fun e deep => absurd deep (Nat.not_lt_zero _)
  | succ depth ih =>
    intro e deep scene
    have ends : Ends (emit conduct depth) (rank · < rank e) :=
      fun e' below => ih e' (by omega)
    obtain ⟨between, dispatched⟩ := dispatch_ends ends (fun handler scene => lower handler e scene)
      scene.bus.subscriptions (scene.mark (.entered e scene.bus.subscriptions))
    exact ⟨_, Option.bind_eq_some_iff.2 ⟨between, dispatched, rfl⟩⟩

/-! ### Emissions with whatever handlers -/

/-- Whatever handlers do while they are called, an emission that comes to an end is orderly from its
beginning, and how deep emissions may be inside one another does not matter. One does come to an end
where handlers only emit events of a lower rank than the one they are called for. -/
theorem emission_is_orderly (conduct : Conduct η) (e : Event) (scene : Scene η) :
    (∀ depth after, emit conduct depth e scene = some after →
      (∃ marks, after.marks = scene.marks ++ marks ∧
        Emission.Orderly ⟨e, scene.bus.subscriptions, marks⟩) ∧
      ∀ more, depth ≤ more → emit conduct more e scene = some after) ∧
    ∀ rank : Event → Nat,
      (∀ handler e scene, (conduct handler e scene).EmitsOnly (rank · < rank e)) →
      ∃ after, emit conduct (rank e + 1) e scene = some after := by
  refine ⟨fun depth after ran => ⟨?_, fun more deeper => ?_⟩, fun rank lower => ?_⟩
  · exact orderly_emit conduct depth ran
  · exact emit_deeper deeper ran
  · exact emit_ends lower (rank e + 1) e (Nat.lt_succ_self _) scene

/-- A deletion, which everybody may hear of, and an error. -/
def deletion : Event := ⟨.templateDeleted, some "t1", ⟨0, none⟩, []⟩

def mishap : Event := ⟨.error, some "t1", ⟨0, none⟩, []⟩

/-- Three subscriptions, one of which is to errors only. -/
def hall : Scene String where
  bus := ((({} : Bus String).subscribe "first" ⟨"host", none⟩).subscribe "second"
    ⟨"warden", some [.error]⟩).subscribe "third" ⟨"guest", none⟩

/-- When the host is called for a deletion, it puts a newcomer in the place of the guest, emits an
error, and fails if anybody has been called for that. -/
def bustling : Conduct String := fun handler e scene =>
  if handler = "host" ∧ e.type = .templateDeleted then
    .act (.unsubscribe "third") fun _ =>
    .act (.subscribe "fourth" ⟨"newcomer", none⟩) fun _ =>
    .act (.emit mishap) fun after =>
    if after.marks.length = scene.marks.length + 2 then .done else .fail
  else .done

/-- Errors rank below all other events. -/
def gravity (e : Event) : Nat := if e.type = .error then 0 else 1

theorem bustling_emitsOnly (handler : String) (e : Event) (scene : Scene String) :
    (bustling handler e scene).EmitsOnly (gravity · < gravity e) := by
  unfold bustling
  split
  · next called =>
    refine ⟨nofun, fun _ => ⟨nofun, fun _ => ⟨fun e' emitted => ?_, fun _ => ?_⟩⟩⟩
    · cases emitted
      rw [gravity, gravity, called.2]
      decide
    · dsimp only
      split <;> trivial
  · trivial

theorem emission_is_orderly_bustling :
    (∃ after, emit bustling 2 deletion hall = some after ∧
      (after.marks.filterMap Mark.call?).map (fun c => (c.handler, c.event.type)) =
        [("host", .templateDeleted), ("host", .error), ("warden", .error), ("newcomer", .error),
          ("guest", .templateDeleted)] ∧
      (∃ marks, after.marks = hall.marks ++ marks ∧
        Emission.Orderly ⟨deletion, hall.bus.subscriptions, marks⟩) ∧
      ∀ more, 2 ≤ more → emit bustling more deletion hall = some after) ∧
    ∃ after, emit bustling (gravity deletion + 1) deletion hall = some after := by
  have ran : emit bustling 2 deletion hall = some _ := rfl
  obtain ⟨orderly, ends⟩ := emission_is_orderly bustling deletion hall
  exact ⟨⟨_, ran, by decide, orderly 2 _ ran⟩, ends gravity bustling_emitsOnly⟩

end Scene

end Promptuary
