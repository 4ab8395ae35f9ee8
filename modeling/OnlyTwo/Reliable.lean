import OnlyTwo.Callbacks
import OnlyTwo.Machine

/-!
`ReliableChannel` of client/src/protocol/reliable.ts. A call that awaits
`callbacks.send` is split there: the part before it is one step, the call is
then listed as suspended, and its rest is a later step of its own. A
`PendingReliable` object outlives its entry in the `pending` map, since
suspended calls and timers keep a reference to it; `objects` holds every object
ever made under its id, and `pending` the keys of the map. Retry delays are not
modelled: a timer may fire at any moment after it was armed.
-/

namespace OnlyTwo.Reliable

inductive ReliableChannelName where
  | control
  | text
  deriving DecidableEq, Repr

structure ReliablePolicy where
  maxAttempts : Nat
  seenTtlMs : Nat
  deriving DecidableEq, Repr

def defaultPolicy : ReliablePolicy := ⟨5, 10 * 60 * 1000⟩

inductive ReliableEnvelopeMessage (Body : Type) where
  | msg (id : String) (channel : ReliableChannelName) (body : Body) (createdAt attempt : Nat)
  | ack (id : String)
  | nack (id reason : String)
  deriving DecidableEq, Repr

structure PendingReliable (Body : Type) where
  id : String
  trackingId : Option String
  channel : ReliableChannelName
  body : Body
  attempts : Nat
  createdAt : Nat
  lastSentAt : Nat
  timer : Option Nat
  deriving DecidableEq, Repr

/-- The two callbacks `armRetry` hands to `setTimeout`. -/
inductive RetryTask where
  | resend (id : String)
  | expire (id : String)
  deriving DecidableEq, Repr

/-- A `receive` call for `reliable.msg` that awaits the send of its ACK. -/
structure Receipt (Body : Type) where
  id : String
  body : Body
  deriving DecidableEq, Repr

structure ReliableChannel (Body : Type) where
  policy : ReliablePolicy
  objects : InsertionMap String (PendingReliable Body)
  pending : InsertionMap String Unit
  seen : InsertionMap String Nat
  timers : Callbacks RetryTask
  sending : List String
  receiving : List (Receipt Body)
  now : Nat
  deriving DecidableEq

/-- What a channel does that its owner can see. `resolved` is the value of a
`sendPending` promise; `started` and `finished` frame a `receive` call for
`reliable.msg` and carry the clock; `reset` lists the ids it dropped. -/
inductive Note (Body : Type) where
  | transmit (message : ReliableEnvelopeMessage Body) (lane : ReliableChannelName)
  | resolved (id : String) (ok : Bool)
  | onDelivered (id : String) (trackingId : Option String)
  | onFailed (id : String) (trackingId : Option String) (reason : String)
  | onDuplicate (id : String)
  | started (id : String) (body : Body) (time : Nat)
  | finished (id : String) (result : Option Body) (time : Nat)
  | reset (dropped : List String)
  deriving DecidableEq, Repr

namespace ReliableChannel

variable {Body : Type}

def create (policy : ReliablePolicy) : ReliableChannel Body :=
  ⟨policy, .empty, .empty, .empty, .empty, [], [], 0⟩

def clearPending (self : ReliableChannel Body) (pending : PendingReliable Body) :
    ReliableChannel Body :=
  { self with
    timers := self.timers.cancel pending.timer
    pending := self.pending.delete pending.id }

def failPending (self : ReliableChannel Body) (pending : PendingReliable Body)
    (reason : String) : ReliableChannel Body × List (Note Body) :=
  (self.clearPending pending, [.onFailed pending.id pending.trackingId reason])

/-- `sendPending` up to the await of `callbacks.send`. -/
def sendPending (self : ReliableChannel Body) (pending : PendingReliable Body) :
    ReliableChannel Body × List (Note Body) :=
  if self.pending.has pending.id then
    let sent := { pending with attempts := pending.attempts + 1, lastSentAt := self.now }
    ({ self with
        objects := self.objects.set sent.id sent
        sending := self.sending ++ [sent.id] },
      [.transmit (.msg sent.id sent.channel sent.body sent.createdAt sent.attempts)
        sent.channel])
  else (self, [.resolved pending.id false])

def armRetry (self : ReliableChannel Body) (pending : PendingReliable Body) :
    ReliableChannel Body :=
  let cleared := self.timers.cancel pending.timer
  let armed := cleared.add
    (if self.policy.maxAttempts ≤ pending.attempts then .expire pending.id
      else .resend pending.id)
  { self with
    objects := self.objects.set pending.id { pending with timer := some armed.2 }
    timers := armed.1 }

/-- `sendPending` from the result of `callbacks.send` on. Nothing here asks
whether the id is still pending. -/
def sendResolved (self : ReliableChannel Body) (pending : PendingReliable Body) (ok : Bool) :
    ReliableChannel Body × List (Note Body) :=
  let resumed := { self with sending := self.sending.erase pending.id }
  if ok then (resumed.armRetry pending, [.resolved pending.id true])
  else
    let failed := resumed.failPending pending "Message could not be queued for transport"
    (failed.1, failed.2 ++ [.resolved pending.id false])

def send (self : ReliableChannel Body) (id : String) (trackingId : Option String)
    (channel : ReliableChannelName) (body : Body) : ReliableChannel Body × List (Note Body) :=
  let pending : PendingReliable Body := ⟨id, trackingId, channel, body, 0, self.now, 0, none⟩
  { self with
    objects := self.objects.set id pending
    pending := self.pending.set id () }.sendPending pending

def sweepSeen (self : ReliableChannel Body) : ReliableChannel Body :=
  { self with seen := self.seen.filter fun _ expiresAt => self.now < expiresAt }

def lookup (self : ReliableChannel Body) (id : String) : Option (PendingReliable Body) :=
  if self.pending.has id then self.objects.get? id else none

/-- `receive`, up to the await of the ACK for a `reliable.msg`. -/
def receive (self : ReliableChannel Body) (message : ReliableEnvelopeMessage Body) :
    ReliableChannel Body × List (Note Body) :=
  let swept := self.sweepSeen
  match message with
  | .ack id =>
      match swept.lookup id with
      | none => (swept, [])
      | some pending => (swept.clearPending pending, [.onDelivered id pending.trackingId])
  | .nack id reason =>
      match swept.lookup id with
      | none => (swept, [])
      | some pending => (swept.clearPending pending, [.onFailed id pending.trackingId reason])
  | .msg id _ body _ _ =>
      ({ swept with receiving := swept.receiving ++ [⟨id, body⟩] },
        [.started id body self.now, .transmit (.ack id) .control])

/-- The rest of `receive` once the ACK has been handed over, for the suspended
call at this position. -/
def ackSent (self : ReliableChannel Body) (index : Nat) (call : Receipt Body) :
    ReliableChannel Body × List (Note Body) :=
  let resumed := { self with receiving := self.receiving.eraseIdx index }
  if self.seen.has call.id then
    (resumed, [.onDuplicate call.id, .finished call.id none self.now])
  else
    ({ resumed with seen := self.seen.set call.id (self.now + self.policy.seenTtlMs) },
      [.finished call.id (some call.body) self.now])

def failEach (reason : String) : List String → ReliableChannel Body →
    ReliableChannel Body × List (Note Body)
  | [], self => (self, [])
  | id :: rest, self =>
      match self.objects.get? id with
      | none => failEach reason rest self
      | some pending =>
          let failed := self.failPending pending reason
          let others := failEach reason rest failed.1
          (others.1, failed.2 ++ others.2)

def failAll (self : ReliableChannel Body) (reason : String) :
    ReliableChannel Body × List (Note Body) :=
  failEach reason self.pending.keys self

def resetTimers (self : ReliableChannel Body) : List String → Callbacks RetryTask → Callbacks RetryTask
  | [], timers => timers
  | id :: rest, timers =>
      self.resetTimers rest
        (timers.cancel ((self.objects.get? id).bind PendingReliable.timer))

def reset (self : ReliableChannel Body) : ReliableChannel Body × List (Note Body) :=
  ({ self with
      timers := self.resetTimers self.pending.keys self.timers
      pending := .empty
      seen := .empty },
    [.reset self.pending.keys])

/-- The callback of a fired timer. -/
def runTimer (self : ReliableChannel Body) : RetryTask → Option (ReliableChannel Body × List (Note Body))
  | .resend id =>
      if self.pending.has id then (self.objects.get? id).map self.sendPending else some (self, [])
  | .expire id =>
      if self.pending.has id then
        (self.objects.get? id).map fun pending =>
          self.failPending pending "Message delivery timed out"
      else some (self, [])

end ReliableChannel

inductive Event (Body : Type) where
  | send (id : String) (trackingId : Option String) (channel : ReliableChannelName) (body : Body)
  | sendResolved (id : String) (ok : Bool)
  | receive (message : ReliableEnvelopeMessage Body)
  | ackSent (index : Nat)
  | fire (handle : Nat)
  | failAll (reason : String)
  | reset
  | tick (elapsed : Nat)
  deriving DecidableEq, Repr

/-- One turn of the event loop. The id of a `send` is the one `randomUUID`
draws, so it is new. -/
def ReliableChannel.step {Body : Type} (self : ReliableChannel Body) :
    Event Body → Option (ReliableChannel Body × List (Note Body))
  | .send id trackingId channel body =>
      if self.objects.has id then none else some (self.send id trackingId channel body)
  | .sendResolved id ok =>
      if id ∈ self.sending then
        (self.objects.get? id).map fun pending => self.sendResolved pending ok
      else none
  | .receive message => some (self.receive message)
  | .ackSent index => self.receiving[index]?.map (self.ackSent index)
  | .fire handle =>
      match self.timers.take handle with
      | none => none
      | some (task, timers) => { self with timers }.runTimer task
  | .failAll reason => some (self.failAll reason)
  | .reset => some self.reset
  | .tick elapsed => some ({ self with now := self.now + elapsed }, [])

def machine (Body : Type) : Machine (ReliableChannel Body) (Event Body) (Note Body) :=
  ⟨ReliableChannel.step⟩

end OnlyTwo.Reliable
