import Promptuary.Digest.Sha256
import Promptuary.Event.Basic
import Promptuary.Failure
import Promptuary.Script

/-!
Delivery of events to a server. Every event is sent until the server accepts it or the attempts are
used up; the waiting time before each further attempt comes from a list. The requests for one event
are all the same, and carry a signature if there is a secret.
-/

namespace Promptuary

/-- The signature of a body; without a secret it is empty. -/
def signature (secret : Option String) (body : String) : String :=
  match secret with
  | none => ""
  | some secret =>
    if secret.isEmpty then ""
    else
      let mac := Digest.hmac secret.toUTF8.toList body.toUTF8.toList
      "sha256=" ++ String.ofList (mac.flatMap fun b => Text.hexDigits b.toNat 2)

/-- What comes of a request. -/
inductive Reply where
  | status (code : Int)
  | connectError
  | timeout
deriving DecidableEq, Repr

/-- Whether a request was accepted. -/
def Reply.isSuccess : Reply → Bool
  | .status code => 200 ≤ code && code < 300
  | .connectError => false
  | .timeout => false

/-- A request that carries an event. -/
structure Request where
  event : EventType
  signature : String
  body : String

/-- What came of sending one event. -/
structure Delivery where
  accepted : Bool
  /-- How many requests were made. -/
  attempts : Nat
  /-- The waiting times between them. -/
  waits : List Number.Quantity

/-- How events are delivered, and how many were and were not. -/
structure Webhook where
  secret : Option String := none
  maxAttempts : Int := 3
  /-- The waiting times before further attempts, in seconds. -/
  delays : List Number.Quantity := [.int 1, .int 5, .int 30]
  delivered : Nat := 0
  failed : Nat := 0

namespace Webhook

/-- The request for an event, if the event can be sent. -/
def request (w : Webhook) (e : Event) : Except Failure Request :=
  if e.isSendable then .ok ⟨e.type, signature w.secret e.body, e.body⟩ else .error .unsendable

/-- The waiting time after an attempt; the last one of the list is used again and again. -/
def waitAfter (w : Webhook) (attempt : Nat) : Number.Quantity :=
  (w.delays[min attempt (w.delays.length - 1)]?).getD (.int 0)

/-- Makes attempts, of which `left` are left, from a number on. -/
def attempt (w : Webhook) (number : Nat) : (left : Nat) → Script Reply → Delivery × Script Reply
  | 0, replies => (⟨false, 0, []⟩, replies)
  | left + 1, replies =>
    if replies.current.isSuccess then (⟨true, 1, []⟩, replies.rest)
    else if left = 0 then (⟨false, 1, []⟩, replies.rest)
    else
      let (d, replies) := w.attempt (number + 1) left replies.rest
      (⟨d.accepted, d.attempts + 1, w.waitAfter number :: d.waits⟩, replies)

/-- Counts a delivery. One without any attempt counts neither way. -/
def count (w : Webhook) (d : Delivery) : Webhook :=
  if d.accepted then { w with delivered := w.delivered + 1 }
  else if d.attempts = 0 then w
  else { w with failed := w.failed + 1 }

/-- Sends an event. -/
def send (w : Webhook) (replies : Script Reply) : Delivery × Webhook × Script Reply :=
  let (d, replies) := w.attempt 0 w.maxAttempts.toNat replies
  (d, w.count d, replies)

end Webhook

end Promptuary
