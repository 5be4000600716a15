import Promptuary.Event.Basic

/-!
The bus that events go over. Whoever subscribes is called for each event, in the order of
subscription, and may act on the bus while being called: subscribe, unsubscribe, and emit further
events, all of whose calls come before the next one of the event under way. An event reaches those
who were subscribed when it was emitted, whoever of them fails.
-/

namespace Promptuary

/-- A subscription: who is called, and for which types of event if not for all. -/
structure Subscription (η : Type) where
  handler : η
  types : Option (List EventType)

namespace Subscription

variable {η : Type}

/-- A subscription to the types of a list, whatever their order. -/
def ofTypes (handler : η) (types : Option (List EventType)) : Subscription η :=
  ⟨handler, types.map fun ts => EventType.all.filter ts.contains⟩

/-- Whether a subscription is to a type. -/
def wants (s : Subscription η) (type : EventType) : Bool :=
  match s.types with
  | some types => types.contains type
  | none => true

instance [BEq η] : BEq (Subscription η) where
  beq s t := s.handler == t.handler && s.types == t.types

end Subscription

/-- A bus: the subscriptions in order, and the handles by which subscribers can end them. -/
structure Bus (η : Type) where
  subscriptions : List (Subscription η) := []
  handles : Entries String (Subscription η) := []

namespace Bus

variable {η : Type} [BEq η]

/-- Adds a subscription. -/
def subscribe (bus : Bus η) (handle : String) (s : Subscription η) : Bus η :=
  { subscriptions := bus.subscriptions ++ [s], handles := bus.handles.put handle s }

/-- Ends the subscription of a handle: the first one that is equal to it. -/
def unsubscribe (bus : Bus η) (handle : String) : Bus η :=
  match bus.handles.get? handle with
  | some s => { bus with subscriptions := bus.subscriptions.erase s }
  | none => bus

/-- Ends all subscriptions; the handles remain. -/
def clear (bus : Bus η) : Bus η := { bus with subscriptions := [] }

end Bus

/-- A change of who is subscribed. -/
inductive Bus.Change (η : Type) where
  | subscribe (handle : String) (s : Subscription η)
  | unsubscribe (handle : String)
  | clear

/-- The bus after a change. -/
def Bus.Change.on {η : Type} [BEq η] (bus : Bus η) : Bus.Change η → Bus η
  | .subscribe handle s => bus.subscribe handle s
  | .unsubscribe handle => bus.unsubscribe handle
  | .clear => bus.clear

/-- What a handler does to the bus while it is called. -/
inductive Act (η : Type) where
  | change (c : Bus.Change η)
  | emit (e : Event)

namespace Act

variable {η : Type}

/-- Adds a subscription. -/
def subscribe (handle : String) (s : Subscription η) : Act η := .change (.subscribe handle s)

/-- Ends the subscription of a handle. -/
def unsubscribe (handle : String) : Act η := .change (.unsubscribe handle)

end Act

/-- A handler called for an event. -/
structure Call (η : Type) where
  handler : η
  event : Event

/-- What happens on a bus. -/
inductive Mark (η : Type) where
  /-- An emission begins, when some are subscribed. -/
  | entered (e : Event) (present : List (Subscription η))
  | called (s : Subscription η) (e : Event)
  /-- The handler that was called has failed. -/
  | failed (s : Subscription η) (e : Event)
  | left (e : Event)

/-- The call that a mark is of. -/
def Mark.call? {η : Type} : Mark η → Option (Call η)
  | .called s e => some ⟨s.handler, e⟩
  | _ => none

/-- A bus with all that has happened on it. -/
structure Scene (η : Type) where
  bus : Bus η
  marks : List (Mark η) := []

/-- What a handler does when it is called: one act after another, each in view of the scene that the
last one has left, until it returns or fails. -/
inductive Reaction (η : Type) where
  | done
  | fail
  | act (a : Act η) (rest : Scene η → Reaction η)

/-- The reaction that performs some acts whatever the scene. -/
def Reaction.ofActs {η : Type} : List (Act η) → Reaction η
  | [] => .done
  | a :: rest => .act a fun _ => ofActs rest

/-- What each handler does when it is called for an event, in view of the scene. -/
abbrev Conduct (η : Type) := η → Event → Scene η → Reaction η

/-- What each handler does when it is called for an event, if that does not depend on the scene. -/
abbrev Behaviour (η : Type) := η → Event → List (Act η)

namespace Scene

variable {η : Type} [BEq η]

/-- A scene after something has happened. -/
def mark (scene : Scene η) (m : Mark η) : Scene η := { scene with marks := scene.marks ++ [m] }

/-- How an event is emitted in a scene. -/
abbrev Emitter (η : Type) := Event → Scene η → Option (Scene η)

/-- Performs an act. -/
def perform (emitter : Emitter η) (scene : Scene η) : Act η → Option (Scene η)
  | .change c => some { scene with bus := c.on scene.bus }
  | .emit e => emitter e scene

/-- Lets a handler react. Gives the scene afterwards and whether the handler has failed. -/
def react (emitter : Emitter η) : Reaction η → Scene η → Option (Scene η × Bool)
  | .done, scene => some (scene, false)
  | .fail, scene => some (scene, true)
  | .act a rest, scene => do
    let scene ← perform emitter scene a
    react emitter (rest scene) scene

/-- Calls a subscriber for an event. That it fails is noted and has no other consequence. -/
def call (emitter : Emitter η) (conduct : Conduct η) (e : Event) (s : Subscription η)
    (scene : Scene η) : Option (Scene η) := do
  let scene := scene.mark (.called s e)
  let (scene, failed) ← react emitter (conduct s.handler e scene) scene
  return if failed then scene.mark (.failed s e) else scene

/-- Calls those of some subscribers that want an event. -/
def dispatch (emitter : Emitter η) (conduct : Conduct η) (e : Event) :
    List (Subscription η) → Scene η → Option (Scene η)
  | [], scene => some scene
  | s :: rest, scene => do
    let scene ← (if s.wants e.type then call emitter conduct e s scene else some scene)
    dispatch emitter conduct e rest scene

/-- Emits an event to those who are subscribed. There is no result if the emissions inside one
another are deeper than `depth`. -/
def emit (conduct : Conduct η) : (depth : Nat) → Emitter η
  | 0, _, _ => none
  | depth + 1, e, scene => do
    let present := scene.bus.subscriptions
    let scene ← dispatch (emit conduct depth) conduct e present (scene.mark (.entered e present))
    return scene.mark (.left e)

end Scene

/-- Emits an event on a bus. Gives the bus afterwards and all calls that were made, in order. -/
def Bus.emit {η : Type} [BEq η] (behave : Behaviour η) (depth : Nat) (bus : Bus η) (e : Event) :
    Option (Bus η × List (Call η)) := do
  let scene ← Scene.emit (fun handler e _ => .ofActs (behave handler e)) depth e { bus }
  return (scene.bus, scene.marks.filterMap Mark.call?)

end Promptuary
