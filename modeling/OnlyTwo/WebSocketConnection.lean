import OnlyTwo.Machine
import OnlyTwo.WireFrames

/-!
The socket of a client, after client/src/transport/WebSocketConnection.ts. The
browser's side is free: the events of every socket ever created may arrive at any
time and in any order, also after `close`, and the amount it has buffered is
whatever it says. A drain loop that waits in its yield, an armed timer and a
rejected attempt whose `catch` has not run are part of the state. Handlers only
queue work, so what they are called with is an output.
-/

namespace OnlyTwo.Transport

open Bytes AppMessages
open Session (ConnectionStatus RelayEvent)

inductive ReadyState where
  | connecting
  | open
  | closing
  | closed
  deriving DecidableEq, Repr

/-- A socket with the locals of the call of `open` that made it. -/
structure Socket where
  code : String
  slotToken : String
  currentEpoch : Nat
  reconnecting : Bool
  readyState : ReadyState
  opened : Bool
  settled : Bool
  deriving DecidableEq, Repr

def Socket.close (socket : Socket) : Socket :=
  if socket.readyState = .closed then socket else { socket with readyState := .closing }

/-- `bufferedAmount` of the socket before a packet is sent, and after it. -/
structure Buffered where
  before : Nat
  after : Nat
  deriving DecidableEq, Repr

inductive MessageData where
  | arrayBuffer (bytes : Bytes)
  | other
  deriving DecidableEq, Repr

inductive Output where
  | status (status : ConnectionStatus)
  | relay (event : RelayEvent)
  | envelope (env : Envelope)
  | created (socket : Nat)
  | sent (socket : Nat) (bytes : Bytes)
  | answered (ok : Bool)
  | resolved
  | rejected (reason : String)
  deriving DecidableEq, Repr

structure WebSocketConnection where
  ws : Option Nat
  sockets : List Socket
  scheduler : PacketScheduler
  profile : TransportLimits
  status : ConnectionStatus
  code : String
  slotToken : String
  epoch : Nat
  reconnectAttempts : Nat
  reconnectTimer : Option Nat
  timers : List Nat
  nextTimer : Nat
  rejections : Nat
  drainTimer : Bool
  intentionalClose : Bool
  draining : Bool
  yields : Nat
  deriving DecidableEq, Repr

/-- The state after a turn, and what was called or sent in it. -/
abbrev Turn := WebSocketConnection × List Output

def voiceBrowserBufferLimitBytes : Nat := 64 * 1024

def sessionEndedCode : Nat := 4000

def sessionEndedReason : String := "session ended"

namespace WebSocketConnection

def create (profile : TransportLimits) : WebSocketConnection where
  ws := none
  sockets := []
  scheduler := .create profile
  profile := profile
  status := .disconnected
  code := ""
  slotToken := ""
  epoch := 0
  reconnectAttempts := 0
  reconnectTimer := none
  timers := []
  nextTimer := 0
  rejections := 0
  drainTimer := false
  intentionalClose := false
  draining := false
  yields := 0

/-- One turn after another. -/
def andThen (turn : Turn) (next : WebSocketConnection → Turn) : Turn :=
  let result := next turn.1
  (result.1, turn.2 ++ result.2)

def modifySocket (self : WebSocketConnection) (id : Nat) (change : Socket → Socket) :
    WebSocketConnection :=
  { self with sockets := self.sockets.modify id change }

def setStatus (self : WebSocketConnection) (status : ConnectionStatus) : Turn :=
  if self.status = status then (self, [])
  else ({ self with status := status }, [.status status])

def clearDrainTimer (self : WebSocketConnection) : WebSocketConnection :=
  { self with drainTimer := false }

def scheduleDrain (self : WebSocketConnection) : WebSocketConnection :=
  { self with drainTimer := true }

def clearQueuedPackets (self : WebSocketConnection) : WebSocketConnection :=
  let cleared := self.clearDrainTimer
  { cleared with scheduler := cleared.scheduler.clear }

def clearReconnectTimer (self : WebSocketConnection) : WebSocketConnection :=
  match self.reconnectTimer with
  | none => self
  | some timer => { self with timers := self.timers.erase timer, reconnectTimer := none }

def closeSocket (self : WebSocketConnection) : WebSocketConnection :=
  match self.ws with
  | none => self
  | some old => { self with ws := none }.modifySocket old Socket.close

def forgetSlotToken (self : WebSocketConnection) : WebSocketConnection :=
  if self.code = "" then self else { self with slotToken := "" }

/-- The socket in use, if it is open. -/
def openSocket (self : WebSocketConnection) : Option Nat :=
  match self.ws with
  | none => none
  | some id =>
      match self.sockets[id]? with
      | none => none
      | some socket => if socket.readyState = .open then some id else none

section Drain

def stopDraining (self : WebSocketConnection) : WebSocketConnection :=
  { self with draining := false }

/-- The loop of `drain` from its top to its yield or its end. Every turn takes a
packet out of the scheduler, so the number of packets bounds it. -/
def drainLoop (self : WebSocketConnection) (buffered : Buffered) : Nat → Turn
  | 0 => (self.stopDraining, [])
  | turns + 1 =>
      match self.openSocket with
      | none => (self.stopDraining, [])
      | some socket =>
          if self.profile.outbox.maxBufferedAmountBytes < buffered.before then
            (self.scheduleDrain.stopDraining, [])
          else
            match self.scheduler.next with
            | none => (self.stopDraining, [])
            | some (packet, scheduler) =>
                let taken := { self with scheduler := scheduler }
                if packet.lane = .voice ∧ voiceBrowserBufferLimitBytes < buffered.before then
                  -- A voice packet that would only wait in the browser is lost.
                  taken.drainLoop buffered turns
                else if self.profile.outbox.resumeBufferedAmountBytes < buffered.after then
                  (taken.scheduleDrain.stopDraining, [.sent socket packet.bytes])
                else ({ taken with yields := taken.yields + 1 }, [.sent socket packet.bytes])

def queuedCount (self : WebSocketConnection) : Nat :=
  (laneNames.map fun lane => (self.scheduler.queues lane).packets.length).sum

def drain (self : WebSocketConnection) (buffered : Buffered) : Turn :=
  if self.draining ∨ self.openSocket = none then (self, [])
  else { self.clearDrainTimer with draining := true }.drainLoop buffered (self.queuedCount + 1)

/-- A drain loop goes on after its yield. -/
def resumeDrain (self : WebSocketConnection) (buffered : Buffered) : Turn :=
  { self with yields := self.yields - 1 }.drainLoop buffered (self.queuedCount + 1)

end Drain

section Calls

/-- `open` up to its await. The constructor of the socket may throw `failure`. -/
def openConnection (self : WebSocketConnection) (reconnecting : Bool) (failure : Option String) :
    Turn :=
  let closed := { self with epoch := self.epoch + 1 }.closeSocket
  andThen (closed.setStatus (if reconnecting then .reconnecting else .connecting)) fun self =>
    match failure with
    | none =>
        let id := self.sockets.length
        ({ self with
            ws := some id
            sockets := self.sockets ++
              [⟨self.code, self.slotToken, self.epoch, reconnecting, .connecting, false, false⟩] },
          [.created id])
    | some reason =>
        -- The reconnect timer catches what `open` throws; `connect` passes it on.
        if reconnecting then ({ self with rejections := self.rejections + 1 }, [])
        else (self, [.rejected reason])

/-- `connect`; the token is what `getOrCreateSlotToken` answers. -/
def connect (self : WebSocketConnection) (code slotToken : String) (failure : Option String) :
    Turn :=
  { self with
    code := code
    slotToken := slotToken
    intentionalClose := false
    reconnectAttempts := 0 }.openConnection false failure

def disconnect (self : WebSocketConnection) (forgetSlot : Bool) : Turn :=
  let closed := ({ self with intentionalClose := true }.clearReconnectTimer.clearQueuedPackets
    ).closeSocket
  (if forgetSlot then closed.forgetSlotToken else closed).setStatus .disconnected

def endSession (self : WebSocketConnection) : Turn :=
  let forgotten := self.forgetSlotToken
  match forgotten.openSocket with
  | none => (forgotten, [.answered false])
  | some socket => (forgotten, [.sent socket encodeSessionEndCommand, .answered true])

def setProfile (self : WebSocketConnection) (profile : TransportLimits) (buffered : Buffered) :
    Turn :=
  { self with profile := profile, scheduler := self.scheduler.setProfile profile }.drain buffered

/-- The test a voice frame has to pass before it is packed. -/
def refusesVoice (self : WebSocketConnection) (env : Envelope) (buffered : Buffered) : Bool :=
  env.lane = .voice &&
    (self.openSocket = none || voiceBrowserBufferLimitBytes < buffered.before)

def send (self : WebSocketConnection) (env : Envelope) (buffered : Buffered) : Turn :=
  if self.refusesVoice env buffered then (self, [.answered false])
  else
    match packEnvelope env self.profile with
    | .error _ => (self, [.answered false])
    | .ok bytes =>
        let queued := self.scheduler.enqueue ⟨env.lane, bytes⟩
        let stored := { self with scheduler := queued.1 }
        if queued.2.ok then
          andThen (stored.drain buffered) fun self => (self, [.answered true])
        else (stored, [.answered false])

end Calls

section Events

def scheduleReconnect (self : WebSocketConnection) : Turn :=
  if self.intentionalClose then (self, [])
  else if self.profile.maxReconnectAttempts ≤ self.reconnectAttempts then self.setStatus .failed
  else
    andThen ({ self with reconnectAttempts := self.reconnectAttempts + 1 }.setStatus .reconnecting)
      fun self =>
        ({ self with
            reconnectTimer := some self.nextTimer
            timers := self.timers ++ [self.nextTimer]
            nextTimer := self.nextTimer + 1 }, [])

/-- `resolveOnce` and `rejectOnce`: who waits for the socket hears of it once. The
`catch` of a reconnect attempt runs later. -/
def resolveOnce (self : WebSocketConnection) (id : Nat) (socket : Socket) : Turn :=
  if socket.settled then (self, [])
  else (self.modifySocket id fun socket => { socket with settled := true },
    if socket.reconnecting then [] else [.resolved])

def rejectOnce (self : WebSocketConnection) (id : Nat) (socket : Socket) (reason : String) :
    Turn :=
  if socket.settled then (self, [])
  else
    let told := self.modifySocket id fun socket => { socket with settled := true }
    if socket.reconnecting then ({ told with rejections := told.rejections + 1 }, [])
    else (told, [.rejected reason])

def onOpen (self : WebSocketConnection) (id : Nat) (socket : Socket) (buffered : Buffered) :
    Turn :=
  if self.epoch ≠ socket.currentEpoch then (self, [])
  else
    let opened := { self with reconnectAttempts := 0 }.modifySocket id fun socket =>
      { socket with opened := true }
    andThen (andThen (opened.setStatus .connected) fun self => self.drain buffered)
      fun self => self.resolveOnce id socket

def onError (self : WebSocketConnection) (id : Nat) (socket : Socket) : Turn :=
  if !socket.opened && self.epoch == socket.currentEpoch then
    self.rejectOnce id socket "WebSocket connection failed"
  else (self, [])

def onClose (self : WebSocketConnection) (id : Nat) (socket : Socket) (code : Nat)
    (reason : String) : Turn :=
  if self.epoch ≠ socket.currentEpoch then (self, [])
  else
    let dropped := if self.ws = some id then { self with ws := none } else self
    if !socket.opened then
      dropped.rejectOnce id socket
        (if reason = "" then "WebSocket connection closed before opening" else reason)
    else if code = sessionEndedCode ∨ reason = sessionEndedReason then
      andThen ({ dropped with intentionalClose := true }.clearQueuedPackets, [.relay .sessionEnded])
        fun self => self.setStatus .disconnected
    else if self.intentionalClose then dropped.setStatus .disconnected
    else dropped.clearQueuedPackets.scheduleReconnect

def onMessage (self : WebSocketConnection) (socket : Socket) : MessageData → Turn
  | .other => (self, [])
  | .arrayBuffer bytes =>
      if self.epoch ≠ socket.currentEpoch then (self, [])
      else
        match decodeRelayEvent bytes with
        | some event =>
            (if event = .sessionEnded then { self with intentionalClose := true } else self,
              [.relay event])
        | none =>
            match unpackEnvelope bytes self.profile with
            | .ok env => (self, [.envelope env])
            | .error _ => (self, [])

/-- A reconnect timer fires. -/
def onReconnectTimer (self : WebSocketConnection) (timer : Nat) (failure : Option String) : Turn :=
  let fired := { self with timers := self.timers.erase timer }
  if fired.intentionalClose then (fired, [])
  else fired.openConnection true failure

end Events

end WebSocketConnection

inductive Event where
  | connect (code slotToken : String) (failure : Option String)
  | disconnect (forgetSlot : Bool)
  | clearQueuedPackets
  | endSession
  | setProfile (profile : TransportLimits) (buffered : Buffered)
  | send (env : Envelope) (buffered : Buffered)
  | opened (socket : Nat) (buffered : Buffered)
  | errored (socket : Nat)
  | closed (socket : Nat) (code : Nat) (reason : String)
  | message (socket : Nat) (data : MessageData)
  | reconnectTimer (timer : Nat) (failure : Option String)
  | caught
  | drainTimer (buffered : Buffered)
  | yielded (buffered : Buffered)
  deriving DecidableEq, Repr

namespace WebSocketConnection

def step (self : WebSocketConnection) : Event → Option Turn
  | .connect code slotToken failure => some (self.connect code slotToken failure)
  | .disconnect forgetSlot => some (self.disconnect forgetSlot)
  | .clearQueuedPackets => some (self.clearQueuedPackets, [])
  | .endSession => some self.endSession
  | .setProfile profile buffered => some (self.setProfile profile buffered)
  | .send env buffered => some (self.send env buffered)
  | .opened id buffered =>
      (self.sockets[id]?).map fun socket =>
        (self.modifySocket id fun socket =>
          if socket.readyState = .connecting then { socket with readyState := .open }
          else socket).onOpen id socket buffered
  | .errored id => (self.sockets[id]?).map fun socket => self.onError id socket
  | .closed id code reason =>
      (self.sockets[id]?).map fun socket =>
        (self.modifySocket id fun socket => { socket with readyState := .closed }).onClose id
          socket code reason
  | .message id data => (self.sockets[id]?).map fun socket => self.onMessage socket data
  | .reconnectTimer timer failure =>
      if timer ∈ self.timers then some (self.onReconnectTimer timer failure) else none
  | .caught =>
      if 0 < self.rejections then
        some { self with rejections := self.rejections - 1 }.scheduleReconnect
      else none
  | .drainTimer buffered =>
      if self.drainTimer then some (self.clearDrainTimer.drain buffered) else none
  | .yielded buffered => if 0 < self.yields then some (self.resumeDrain buffered) else none

end WebSocketConnection

def machine : Machine WebSocketConnection Event Output where
  step := WebSocketConnection.step

end OnlyTwo.Transport
