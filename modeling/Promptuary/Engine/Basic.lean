import Promptuary.Analysis.Aggregation
import Promptuary.Analysis.Report
import Promptuary.Engine.Settings
import Promptuary.Event.Webhook
import Promptuary.Store.Change
import Promptuary.Store.Load
import Promptuary.Store.Query

/-!
An engine: a store of templates and an analysis of their executions, which share a repository, with
the passes that are scheduled and the delivery of events to a server. An engine can be started and
closed; its operations work before and after that as well.
-/

namespace Promptuary

open Calendar (Interval)
open Storage (Repository)
open Operation

/-- The delivery of an engine's events. -/
structure Courier where
  webhook : Webhook
  /-- What the server answers. -/
  replies : Script Reply
  /-- Whether events are still taken. -/
  isAttached : Bool := true
  /-- How many of the announcements were taken. -/
  taken : Nat
  /-- The requests that were made. -/
  sent : List Request := []

namespace Courier

/-- Sends an event. One that cannot be sent is left out. -/
def send (c : Courier) (e : Event) : Courier :=
  match c.webhook.request e with
  | .error _ => c
  | .ok request =>
    let (d, webhook, replies) := c.webhook.send c.replies
    { c with webhook, replies, sent := c.sent ++ List.replicate d.attempts request }

/-- The announcements that are still to be sent. -/
def pending (c : Courier) (announced : List Announcement) : List Announcement :=
  if c.isAttached then announced.drop c.taken else []

/-- Sends what is still to be sent. -/
def deliver (c : Courier) (announced : List Announcement) : Courier :=
  let sender := (c.pending announced).foldl (fun c a => c.send (a.notice.event a.time)) c
  { sender with taken := max c.taken announced.length }

end Courier

/-- The state of an engine. -/
structure Engine where
  settings : Settings
  store : Store
  analysis : Analysis Float
  courier : Option Courier
  /-- The passes that are scheduled. -/
  scheduled : List (String × Interval) := []
  /-- The scheduled passes that were not made yet. -/
  waiting : List Interval := []
  isStarted : Bool := false

namespace Engine

/-- An engine with some settings, before which `announced` announcements were made. -/
def ofSettings (settings : Settings) (replies : Script Reply) (announced : Nat := 0) : Engine where
  settings := settings
  store :=
    { options := settings.options, versioning := settings.versioning
      bound := settings.maxVersions.toNat }
  analysis :=
    { policy := settings.policy
      recorder := { enabled := settings.metrics, bound := settings.maxExecutions.toNat } }
  courier :=
    if (settings.webhookUrl.getD "").isEmpty then none
    else
      some
        { webhook := { secret := settings.webhookSecret, maxAttempts := settings.webhookAttempts }
          replies, taken := announced }

/-- The passes that an engine schedules. -/
def passes (e : Engine) : List (String × Interval) := Analysis.passesOf e.settings.intervals

/-- How many subscribe to the engine's events. -/
def subscribers (e : Engine) : Nat :=
  match e.courier with
  | some c => if c.isAttached then 1 else 0
  | none => 0

/-! ### Parts -/

variable {α : Type}

/-- An operation of the store as one of the engine. -/
def onStore (op : Operation Store α) : Operation Engine α :=
  within Engine.store (fun store e => { e with store }) op

/-- An operation of the analysis as one of the engine. -/
def onAnalysis (op : Operation (Analysis Float) α) : Operation Engine α :=
  within Engine.analysis (fun analysis e => { e with analysis }) op

/-- An operation of the recorder as one of the engine. -/
def onRecorder (op : Operation (Recorder Float) α) : Operation Engine α :=
  onAnalysis (Analysis.onRecorder op)

/-- How the executions that are kept rank templates. -/
def ranking (e : Engine) : Store.Ranking Float := .ofRecorder (some e.analysis.recorder)

/-! ### Passes -/

/-- Makes the passes that wait. A pass that fails is given up. -/
def makePasses : Operation Engine Unit := do
  let waiting := (← own).waiting
  change fun e => { e with waiting := [] }
  for interval in waiting do
    tryCatch (discard (onAnalysis (Analysis.aggregate interval))) fun _ => pure ()

/-- Performs an operation. If it has to wait for files, the passes that wait are made before it. -/
def perform (op : Operation Engine α) : Operation Engine α := ExceptT.mk fun d =>
  let (r, after) := op.on d
  if d.own.waiting.isEmpty || after.shared.waits = d.shared.waits then (r, after)
  else op.on (makePasses.on d).2

/-! ### Delivery -/

/-- Sends the announcements that are still to be sent. While they are sent, the passes that wait are
made. -/
def deliver : Operation Engine Unit := do
  match (← own).courier with
  | none => return
  | some c =>
    if !(c.pending (← get).shared.announced).isEmpty then makePasses
    let announced := (← get).shared.announced
    change fun e => { e with courier := some (c.deliver announced) }

/-! ### Life -/

/-- Starts an engine: loads what the repository holds and schedules the passes. -/
def start : Operation Engine Unit := do
  if !(← own).isStarted then
    attempt (← get).shared.repository.connect
    onStore Store.load
    onRecorder Recorder.load
    change fun e =>
      { e with scheduled := e.passes, waiting := e.passes.map (·.2), isStarted := true }

/-- An engine without its passes. -/
def withoutPasses (e : Engine) : Engine := { e with scheduled := [], waiting := [] }

/-- An engine that takes no more events. -/
def detached (e : Engine) : Engine :=
  { e with courier := e.courier.map fun c => { c with isAttached := false } }

/-- An engine that has let go of what it held. The recorder keeps its executions. -/
def cleared (e : Engine) : Engine :=
  { e.detached with analysis := e.analysis.cleared, store := e.store.cleared, isStarted := false }

/-- Closes an engine: ends the passes, sends what is still to be sent, and lets go of the rest. -/
def close : Operation Engine Unit := do
  change withoutPasses
  deliver
  change cleared
  useRepository (← get).shared.repository.close

end Engine

/-- The repository that settings ask for, before anything is stored in it. -/
def Settings.repository (s : Settings) : Repository :=
  match s.backend with
  | .memory => .memory .empty
  | .file => .folder ⟨s.directory, .empty⟩
  | .redis => .redis ⟨[], false, false⟩

end Promptuary
