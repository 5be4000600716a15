import Promptuary.Engine.Basic

/-!
What becomes of the events that are sent to a server. The replies decide how many attempts are made
for an event and how long is waited between them: attempts end with the first that the server
accepts, or when no further one is allowed. An event that can be sent is counted once, as delivered
or as failed, if an attempt is allowed at all. The settings do not ask for one, and without any the
event is counted neither way; nor is one that cannot be sent.
-/

namespace Promptuary

open Number (Quantity)

/-! ### Values of a source -/

namespace Script

variable {α : Type} (s : Script α) (n : Nat)

/-- The value that a source gives after `n` others. -/
def nth : α := s.upcoming.getD n s.afterwards

/-- The source after it has given `n` values. -/
def after : Script α := { s with upcoming := s.upcoming.drop n }

@[simp] theorem nth_zero : s.nth 0 = s.current := by
  cases s with
  | mk upcoming afterwards => cases upcoming <;> rfl

@[simp] theorem nth_rest : s.rest.nth n = s.nth (n + 1) := by
  simp [nth, rest, List.getD_eq_getElem?_getD]

theorem current_after : (s.after n).current = s.nth n := by
  simp [after, current, nth, List.head?_drop, List.headD_eq_head?_getD]

theorem rest_after : (s.after n).rest = s.after (n + 1) := by
  simp [after, rest]

theorem after_rest : s.rest.after n = s.after (n + 1) := by
  simp [after, rest]

end Script

/-! ### Deliveries that follow the replies -/

/-- A delivery is what comes of at most `limit` attempts with these pauses and replies: every
attempt but the last was refused, there is a further one unless it was accepted or none is allowed,
and the pauses between them are taken in turn. -/
structure Delivery.Follows (d : Delivery) (limit : Nat) (pauses : Script Quantity)
    (replies : Script Reply) : Prop where
  within : d.attempts ≤ limit
  refused : ∀ n, n + 1 < d.attempts → (replies.nth n).isSuccess = false
  accepted_iff : d.accepted = true ↔ ∃ n < d.attempts, (replies.nth n).isSuccess = true
  used_up : d.accepted = false → d.attempts = limit
  waits : d.waits = (List.range (d.attempts - 1)).map pauses.nth

namespace Delivery.Follows

variable {d other : Delivery} {limit : Nat} {pauses : Script Quantity} {replies : Script Reply}

theorem idle : Follows ⟨false, 0, []⟩ 0 pauses replies where
  within := Nat.le_refl 0
  refused _ few := by simp at few
  accepted_iff := by simp
  used_up _ := rfl
  waits := rfl

/-- The only attempt is one that is accepted, or after which no further one is allowed. -/
theorem single {accepted : Bool} (reply : replies.current.isSuccess = accepted)
    (last : accepted = false → limit = 0) :
    Follows ⟨accepted, 1, []⟩ (limit + 1) pauses replies where
  within := Nat.le_add_left 1 limit
  refused _ few := by simp at few
  accepted_iff := by simp [reply]
  used_up refused := by simp [last refused]
  waits := rfl

/-- Where attempts are allowed, one is made. -/
theorem attempts_pos (f : d.Follows limit pauses replies) (allowed : 0 < limit) :
    0 < d.attempts := by
  refine Nat.pos_of_ne_zero fun idle => ?_
  have refused : d.accepted = false := by
    refine Bool.eq_false_iff.2 fun accepted => ?_
    obtain ⟨n, few, -⟩ := f.accepted_iff.1 accepted
    omega
  have := f.used_up refused
  omega

/-- An attempt that was refused comes before those that follow the later replies. -/
theorem retry (f : d.Follows limit pauses.rest replies.rest) (allowed : 0 < limit)
    (reply : replies.current.isSuccess = false) :
    Follows ⟨d.accepted, d.attempts + 1, pauses.current :: d.waits⟩ (limit + 1) pauses replies where
  within := Nat.succ_le_succ f.within
  refused
    | 0, _ => by rwa [Script.nth_zero]
    | n + 1, few => by simpa using f.refused n (Nat.lt_of_succ_lt_succ few)
  accepted_iff := by
    rw [f.accepted_iff]
    constructor
    · rintro ⟨n, few, accepted⟩
      exact ⟨n + 1, Nat.succ_lt_succ few, by simpa using accepted⟩
    · rintro ⟨n, few, accepted⟩
      cases n with
      | zero => simp [reply] at accepted
      | succ n => exact ⟨n, Nat.lt_of_succ_lt_succ few, by simpa using accepted⟩
  used_up exhausted := congrArg (· + 1) (f.used_up exhausted)
  waits := by
    obtain ⟨more, count⟩ := Nat.exists_eq_add_one.2 (f.attempts_pos allowed)
    have waits := f.waits
    simp only [count, Nat.add_sub_cancel] at waits ⊢
    rw [waits, List.range_succ_eq_map, List.map_cons, List.map_map, Script.nth_zero]
    congr 1
    exact List.map_congr_left fun n _ => Script.nth_rest pauses n

/-- Attempts do not go on where others with the same replies have ended. -/
theorem attempts_le (f : d.Follows limit pauses replies) (g : other.Follows limit pauses replies) :
    d.attempts ≤ other.attempts := by
  refine Nat.le_of_not_lt fun more => ?_
  cases accepted : other.accepted with
  | false =>
    have := g.used_up accepted
    have := f.within
    omega
  | true =>
    obtain ⟨n, few, success⟩ := g.accepted_iff.1 accepted
    have refused := f.refused n (by omega)
    simp [refused] at success

/-- The replies decide what comes of an event. -/
theorem unique (f : d.Follows limit pauses replies) (g : other.Follows limit pauses replies) :
    d = other := by
  have attempts : d.attempts = other.attempts := Nat.le_antisymm (f.attempts_le g) (g.attempts_le f)
  have accepted : d.accepted = other.accepted := by
    rw [Bool.eq_iff_iff, f.accepted_iff, g.accepted_iff, attempts]
  have waits : d.waits = other.waits := by rw [f.waits, g.waits, attempts]
  cases d
  cases other
  simp_all

end Delivery.Follows

/-! ### Sending and counting -/

namespace Webhook

variable (w : Webhook)

/-- The waiting times before further attempts: those of the list, the last one again and again. -/
def pauses : Script Quantity := .ofList w.delays (.int 0)

theorem waitAfter_eq (n : Nat) : w.waitAfter n = w.pauses.nth n := by
  simp only [waitAfter, pauses, Script.ofList, Script.nth, List.getD_eq_getElem?_getD]
  rcases Nat.lt_or_ge n w.delays.length with early | late
  · rw [Nat.min_eq_left (Nat.le_sub_one_of_lt early), List.getElem?_eq_getElem early]
    rfl
  · rw [Nat.min_eq_right (by omega), List.getElem?_eq_none late, ← List.getLast?_eq_getElem?,
      List.getLastD_eq_getLast?]
    rfl

/-- Attempts follow the replies, and leave those of later events as they are. -/
theorem attempt_follows (number left : Nat) (replies : Script Reply) :
    (w.attempt number left replies).1.Follows left (w.pauses.after number) replies ∧
      (w.attempt number left replies).2 =
        replies.after (w.attempt number left replies).1.attempts := by
  induction left generalizing number replies with
  | zero => exact ⟨.idle, rfl⟩
  | succ left ih =>
    unfold attempt
    cases reply : replies.current.isSuccess with
    | true => exact ⟨.single reply (by simp), rfl⟩
    | false =>
      rcases Nat.eq_zero_or_pos left with rfl | allowed
      · exact ⟨.single reply fun _ => rfl, rfl⟩
      · obtain ⟨follows, remaining⟩ := ih (number + 1) replies.rest
        rw [← Script.rest_after] at follows
        have all := follows.retry allowed reply
        rw [Script.current_after, ← waitAfter_eq] at all
        simp only [Bool.false_eq_true, if_false, if_neg (Nat.ne_of_gt allowed)]
        exact ⟨all, remaining.trans (Script.after_rest ..)⟩

variable {w} {d : Delivery} {pauses : Script Quantity} {replies : Script Reply}

/-- How many events were counted. -/
def counted (w : Webhook) : Nat := w.delivered + w.failed

/-- An event that was not accepted is counted as failed if attempts are allowed. -/
theorem count_eq (f : d.Follows w.maxAttempts.toNat pauses replies) : w.count d =
    { w with
      delivered := w.delivered + if d.accepted then 1 else 0
      failed := w.failed + if d.accepted = false ∧ 0 < w.maxAttempts then 1 else 0 } := by
  unfold count
  cases accepted : d.accepted with
  | true => simp
  | false =>
    have attempts := f.used_up accepted
    by_cases allowed : 0 < w.maxAttempts
    · have made : d.attempts ≠ 0 := by omega
      simp [allowed, made]
    · have idle : d.attempts = 0 := by omega
      simp [allowed, idle]

theorem counted_count (f : d.Follows w.maxAttempts.toNat pauses replies) :
    (w.count d).counted = w.counted + if 0 < w.maxAttempts then 1 else 0 := by
  rw [count_eq f]
  unfold counted
  cases accepted : d.accepted with
  | true =>
    obtain ⟨n, few, -⟩ := f.accepted_iff.1 accepted
    have within := f.within
    have allowed : 0 < w.maxAttempts := by omega
    simp [allowed, Nat.add_right_comm]
  | false => simp [Nat.add_assoc]

/-- Sending an event makes attempts that follow the replies, and counts them. -/
theorem send_follows (w : Webhook) (replies : Script Reply) :
    ∃ d, d.Follows w.maxAttempts.toNat w.pauses replies ∧
      w.send replies = (d, w.count d, replies.after d.attempts) := by
  obtain ⟨follows, remaining⟩ := w.attempt_follows 0 w.maxAttempts.toNat replies
  refine ⟨_, follows, ?_⟩
  unfold send
  rw [← remaining]

end Webhook

/-! ### Couriers -/

namespace Courier

variable {c : Courier} {e : Event}

/-- An event that cannot be sent leaves a courier as it is. -/
theorem send_of_not_isSendable (odd : e.isSendable = false) :
    c.webhook.request e = .error .unsendable ∧ c.send e = c := by
  have refused : c.webhook.request e = .error .unsendable := by simp [Webhook.request, odd]
  exact ⟨refused, by simp [send, refused]⟩

/-- An event is sent by requests that are all the same, and counted. -/
theorem send_of_isSendable (fit : e.isSendable = true) :
    ∃ d, d.Follows c.webhook.maxAttempts.toNat c.webhook.pauses c.replies ∧
      (c.webhook.send c.replies).1 = d ∧
      c.send e =
        { c with
          webhook := c.webhook.count d
          replies := c.replies.after d.attempts
          sent := c.sent ++ List.replicate d.attempts
            ⟨e.type, signature c.webhook.secret e.body, e.body⟩ } := by
  obtain ⟨d, follows, sent⟩ := c.webhook.send_follows c.replies
  refine ⟨d, follows, by rw [sent], ?_⟩
  unfold send
  rw [Webhook.request, if_pos fit]
  simp only [sent]

/-- One event is counted at most once. -/
theorem counted_send (c : Courier) (e : Event) : (c.send e).webhook.counted =
    c.webhook.counted + if e.isSendable = true ∧ 0 < c.webhook.maxAttempts then 1 else 0 := by
  cases fit : e.isSendable with
  | false => simp [(send_of_not_isSendable fit).2]
  | true =>
    obtain ⟨d, follows, -, sent⟩ := send_of_isSendable (c := c) fit
    rw [sent]
    simp [Webhook.counted_count follows]

theorem maxAttempts_send (c : Courier) (e : Event) :
    (c.send e).webhook.maxAttempts = c.webhook.maxAttempts := by
  cases fit : e.isSendable with
  | false => rw [(send_of_not_isSendable fit).2]
  | true =>
    obtain ⟨d, follows, -, sent⟩ := send_of_isSendable (c := c) fit
    simp only [sent, Webhook.count_eq follows]

/-- Of several events just those are counted that can be sent, if attempts are allowed. -/
theorem counted_foldl_send (c : Courier) (events : List Event) :
    (events.foldl send c).webhook.counted = c.webhook.counted +
      if 0 < c.webhook.maxAttempts then events.countP (·.isSendable) else 0 := by
  induction events generalizing c with
  | nil => simp
  | cons e events ih =>
    rw [List.foldl_cons, ih, counted_send, maxAttempts_send, List.countP_cons]
    by_cases allowed : 0 < c.webhook.maxAttempts
    · simp only [allowed, and_true, if_true]
      omega
    · simp [allowed]

/-- What is announced is counted when it is sent. -/
theorem counted_deliver (c : Courier) (announced : List Announcement) :
    (c.deliver announced).webhook.counted = c.webhook.counted +
      if 0 < c.webhook.maxAttempts then
        (c.pending announced).countP fun a => (a.notice.event a.time).isSendable
      else 0 := by
  have sent := counted_foldl_send c ((c.pending announced).map fun a => a.notice.event a.time)
  rw [List.foldl_map, List.countP_map] at sent
  exact sent

end Courier

/-! ### Any number of attempts -/

/-- The settings of an engine allow any number of attempts, and also none. -/
theorem Engine.exists_courier (attempts : Int) (replies : Script Reply) :
    ∃ given settings c, Settings.read [] given = .ok settings ∧
      (Engine.ofSettings settings replies).courier = some c ∧
        c.webhook.maxAttempts = attempts :=
  ⟨[("webhook_url", .text "server"), ("webhook_max_retries", .int attempts)], _, _, rfl, rfl, rfl⟩

/-- Whatever number of attempts a courier allows, there are settings for it. Where an event can be
sent, the attempts for it follow the replies, its requests are all the same, and it is counted as
delivered if it was accepted and as failed if it was not and attempts are allowed. So it is counted
just once if it can be sent and attempts are allowed, and neither way otherwise. -/
theorem Courier.send_counts_if_attempted (c : Courier) (e : Event) :
    (∃ given settings other, Settings.read [] given = .ok settings ∧
      (Engine.ofSettings settings c.replies).courier = some other ∧
        other.webhook.maxAttempts = c.webhook.maxAttempts) ∧
    (e.isSendable = false → c.webhook.request e = .error .unsendable ∧ c.send e = c) ∧
    (e.isSendable = true → ∃ d,
      d.Follows c.webhook.maxAttempts.toNat c.webhook.pauses c.replies ∧
      (c.webhook.send c.replies).1 = d ∧
      c.send e =
        { c with
          webhook :=
            { c.webhook with
              delivered := c.webhook.delivered + if d.accepted then 1 else 0
              failed := c.webhook.failed +
                if d.accepted = false ∧ 0 < c.webhook.maxAttempts then 1 else 0 }
          replies := c.replies.after d.attempts
          sent := c.sent ++ List.replicate d.attempts
            ⟨e.type, signature c.webhook.secret e.body, e.body⟩ }) ∧
    (c.send e).webhook.counted = c.webhook.counted +
      if e.isSendable = true ∧ 0 < c.webhook.maxAttempts then 1 else 0 := by
  refine ⟨Engine.exists_courier .., send_of_not_isSendable, fun fit => ?_, counted_send c e⟩
  obtain ⟨d, follows, made, sent⟩ := send_of_isSendable (c := c) fit
  rw [Webhook.count_eq follows] at sent
  exact ⟨d, follows, made, sent⟩

/-- Nothing in as many lists. -/
def Datum.boxed : Nat → Datum
  | 0 => .null
  | n + 1 => .list [boxed n]

theorem Datum.depth_boxed (n : Nat) : (Datum.boxed n).depth = n + 1 := by
  induction n with
  | zero => rfl
  | succ n ih => simp [boxed, depth, depthOfItems, ih]

/-- An error with one particular. -/
def Event.ofCause (cause : Datum) : Event := ⟨.error, none, ⟨0, none⟩, [("cause", cause)]⟩

/-- A courier that waits for a second between attempts; the server accepts the third. -/
def Courier.insistent (attempts : Int) : Courier where
  webhook := { maxAttempts := attempts, delays := [.int 1] }
  replies := ⟨[.status 503, .connectError], .status 200⟩
  taken := 0

theorem Courier.send_counts_if_attempted_insistent :
    ((insistent 3).webhook.send (insistent 3).replies).1 = ⟨true, 3, [.int 1, .int 1]⟩ ∧
      ((insistent 3).send (.ofCause .null)).webhook.delivered = 1 ∧
      ((insistent 2).send (.ofCause .null)).webhook.failed = 1 ∧
      ((insistent 0).send (.ofCause .null)).webhook.counted = 0 ∧
      (insistent 3).send (.ofCause (.boxed 255)) = insistent 3 := by
  have deep : (Event.ofCause (.boxed 255)).isSendable = false := by
    simp [Event.ofCause, Event.isSendable, Schema.isShallow, Schema.nestingLimit,
      Datum.depth_boxed]
  obtain ⟨d, -, made, sent⟩ :=
    (send_counts_if_attempted (insistent 3) (.ofCause .null)).2.2.1 rfl
  obtain ⟨d', -, made', sent'⟩ :=
    (send_counts_if_attempted (insistent 2) (.ofCause .null)).2.2.1 rfl
  subst made made'
  refine ⟨rfl, by rw [sent]; rfl, by rw [sent']; rfl, ?_, ?_⟩
  · exact (send_counts_if_attempted (insistent 0) (.ofCause .null)).2.2.2
  · exact ((send_counts_if_attempted (insistent 3) _).2.1 deep).2

end Promptuary
