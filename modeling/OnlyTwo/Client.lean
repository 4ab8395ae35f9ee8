import OnlyTwo.CryptoWorker
import OnlyTwo.SessionOutcalls
import OnlyTwo.WebSocketConnection

/-!
One client as a whole: the session, its connection, the request chain of
client/src/crypto/CryptoClient.ts and the worker behind it. A turn of the session
makes its calls in order; what the connection reports goes to the session, and the
worker's replies resume the call that waits for them, first come, first served.
Requests do not time out.

The browser is held to its rules for sockets: `open` fires only while the socket is
connecting and `message` only while it is open, so neither does after `close`. The
promise of `connect`, files, voice devices and timers stay free, and so do the calls
of `sendRawApp` and the requests that `runCrypto` tasks make.
-/

namespace OnlyTwo.Client

open Bytes AppMessages
open Session (SessionController Loop Outcall Chore PublicKey SecureChannel Packet)
open Transport (WebSocketConnection Buffered Envelope Output QueuedPacket transportLimits)

structure Surroundings where
  digest : Bytes → String
  web : CryptoWorker.WebCrypto
  decodeHandshake : Bytes → Option HandshakeMessage

/-- What the browser answers during one turn. -/
structure Outside where
  buffered : Buffered
  slotToken : String
  failure : Option String
  profileHash : String

section Frames

def profileName : TransportProfileId → String
  | .balanced => "balanced"
  | .lowData => "low_data"
  | .voiceFirst => "voice_first"
  | .maximumPrivacy => "maximum_privacy"

/-- A member of a JSON object; none of the texts here needs an escape. -/
def jsonMember (name value : String) : String := "\"" ++ name ++ "\":\"" ++ value ++ "\""

def handshakeText (message : HandshakeMessage) : String :=
  "\x7b" ++ ",".intercalate
    [jsonMember "kind" "handshake.v2", jsonMember "publicKey" message.publicKey,
      jsonMember "profileId" (profileName message.profileId),
      jsonMember "profileHash" message.profileHash, jsonMember "appVersion" message.appVersion,
      "\"featureFlags\":[\"" ++ "\",\"".intercalate message.featureFlags ++ "\"]"] ++ "\x7d"

def encodeHandshake (message : HandshakeMessage) : Bytes := utf8Encode (handshakeText message)

def handshakeEnvelope (key : PublicKey) (profileId : TransportProfileId) (profileHash : String) :
    Envelope where
  protocolVersion := (transportLimits profileId).protocolVersion
  outerType := .handshake
  flags := 0
  streamId := 0
  sequence := 0
  counter := 0
  nonce := List.replicate 12 0
  payload := encodeHandshake
    ⟨bytesToBase64Url key.bytes, profileId, profileHash, appVersion, featureFlags⟩
  lane := .control

def streamForLane : LaneName → Nat
  | .control => 1
  | .text => 2
  | .file => 3
  | .voice => 4

/-- What `encryptAppMessage` gets from the worker and from its counters. -/
structure Sealed where
  protocolVersion : Nat
  sequence : Nat
  counter : Nat
  nonce : Bytes
  payload : Bytes
  deriving DecidableEq, Repr

def sealedEnvelope (encrypted : Sealed) (lane : LaneName) : Envelope where
  protocolVersion := encrypted.protocolVersion
  outerType := .data
  flags := 0
  streamId := streamForLane lane
  sequence := encrypted.sequence
  counter := encrypted.counter
  nonce := encrypted.nonce
  payload := encrypted.payload
  lane := lane

def packetOf (surroundings : Surroundings) (env : Envelope) : Packet :=
  match env.outerType with
  | .handshake => .handshake env.streamId (surroundings.decodeHandshake env.payload)
  | .data => .data env.streamId

end Frames

section Requests

def configurePayload (id : TransportProfileId) : CryptoWorker.ConfigurePayload :=
  (CryptoWorker.cryptoProfile id).payload

def choreRequest (profileId : TransportProfileId) : Chore → CryptoWorker.Request
  | .reset => .reset
  | .configure => .configure (configurePayload profileId)
  | .generateIdentity => .generateIdentity

def keepsIdentity : CryptoWorker.Request → Bool
  | .reset => false
  | .generateIdentity => false
  | _ => true

/-- Who waits for a request: nobody, a call of the user under its ticket, or the
running inbound handler. -/
inductive Caller where
  | nobody
  | start (ticket : Nat)
  | inbound
  deriving DecidableEq, Repr

structure Errand where
  request : CryptoWorker.Request
  caller : Caller
  deriving DecidableEq, Repr

/-- How the promise of a request settles. -/
def replied : Except String CryptoWorker.Reply → Session.Reply
  | .error message => .error message
  | .ok (.publicKey raw) => .key raw
  | .ok _ => .done

/-- The worker answers a request. `generateKey` may fail, after the old pair is gone. -/
def answerRequest (web : CryptoWorker.WebCrypto) (entropy : CryptoWorker.Entropy)
    (failure : Option String) (worker : CryptoWorker.Worker) (request : CryptoWorker.Request) :
    CryptoWorker.Worker × Except String CryptoWorker.Reply :=
  match request, failure with
  | .generateIdentity, some message => (CryptoWorker.resetAll worker, .error message)
  | request, _ => CryptoWorker.handle web entropy worker request

end Requests

/-- The locals of `sendRawApp` at its await. -/
structure RawSend where
  secure : SecureChannel
  epoch : Nat
  lane : LaneName
  deriving DecidableEq, Repr

inductive Source where
  | encrypted (channel : SecureChannel)
  | handshake (key : PublicKey)
  deriving DecidableEq, Repr

/-- A packet that the scheduler has taken, and the session at that moment. -/
structure Queued where
  packet : QueuedPacket
  source : Source
  secureEpoch : Nat
  secure : Option SecureChannel
  localPublicKey : Option PublicKey
  deriving DecidableEq, Repr

/-- `held` is the public key of the pair that the worker holds when a handshake is
handed to the connection. -/
inductive Note where
  | queued (entry : Queued)
  | announced (key : PublicKey) (held : Option Bytes)
  deriving DecidableEq, Repr

/-- The head of the chain is with the worker; `answer` is its reply on the way back. -/
structure Endpoint where
  loop : Loop
  transport : WebSocketConnection
  sends : Callbacks RawSend
  chain : List Errand
  answer : Option (Except String CryptoWorker.Reply)
  worker : CryptoWorker.Worker

namespace Endpoint

def create : Endpoint where
  loop := .create
  transport := .create (transportLimits .balanced)
  sends := .empty
  chain := []
  answer := none
  worker := CryptoWorker.initial

section Calls

/-- `transport.send`, and what the scheduler has taken of it. -/
def send (self : Endpoint) (source : Source) (env : Envelope) (buffered : Buffered) :
    Endpoint × List Note :=
  let turned := self.transport.send env buffered
  let session := self.loop.session
  ({ self with transport := turned.1 },
    match Transport.packEnvelope env self.transport.profile with
    | .ok bytes =>
        if .answered true ∈ turned.2 then
          [.queued ⟨⟨env.lane, bytes⟩, source, session.secureEpoch, session.secure,
            session.localPublicKey⟩]
        else []
    | .error _ => [])

/-- A client after some calls of a turn, with their notes and what it has heard. -/
structure Called where
  endpoint : Endpoint
  notes : List Note
  heard : List Output

/-- One call of a turn of the session, which still shows the state before the turn.
`disconnect` reports to the session too, but there the report is part of
`tearDown`. -/
def call (surroundings : Surroundings) (outside : Outside) (caller : Caller)
    (profileId : TransportProfileId) (self : Endpoint) : Outcall → Option Called
  | .disconnect forgetSlot =>
      some ⟨{ self with transport := (self.transport.disconnect forgetSlot).1 }, [], []⟩
  | .clearQueuedPackets =>
      some ⟨{ self with transport := self.transport.clearQueuedPackets }, [], []⟩
  | .setProfile id =>
      some ⟨{ self with
        transport := (self.transport.setProfile (transportLimits id) outside.buffered).1 }, [], []⟩
  | .connect code =>
      let turned := self.transport.connect code outside.slotToken outside.failure
      some ⟨{ self with transport := turned.1 }, [], turned.2⟩
  | .endSession sent =>
      let turned := self.transport.endSession
      if .answered sent ∈ turned.2 then some ⟨{ self with transport := turned.1 }, [], []⟩ else none
  | .announce key accepted =>
      let env := handshakeEnvelope key self.loop.session.profile.id outside.profileHash
      let sent := self.send (.handshake key) env outside.buffered
      if .answered accepted ∈ (self.transport.send env outside.buffered).2 then
        some ⟨sent.1, .announced key (self.worker.identity.map surroundings.web.publicKey) :: sent.2,
          []⟩
      else none
  | .ask chore awaited =>
      some ⟨{ self with chain := self.chain ++
        [⟨choreRequest profileId chore, if awaited then caller else .nobody⟩] }, [], []⟩

def calls (surroundings : Surroundings) (outside : Outside) (caller : Caller)
    (profileId : TransportProfileId) : Endpoint → List Outcall → Option Called
  | self, [] => some ⟨self, [], []⟩
  | self, outcall :: rest =>
      match self.call surroundings outside caller profileId outcall with
      | none => none
      | some first =>
          (first.endpoint.calls surroundings outside caller profileId rest).map fun later =>
            ⟨later.endpoint, first.notes ++ later.notes, first.heard ++ later.heard⟩

/-- The handlers of the session for what the connection reports. -/
def hear (surroundings : Surroundings) (loop : Loop) : Output → Loop
  | .status status => { loop with session := loop.session.transportChanged status }
  | .relay event =>
      { loop with
        session := loop.session.enqueueInbound (.relay loop.session.lifecycleEpoch event) }
  | .envelope env =>
      { loop with session := loop.session.routeEnvelope (packetOf surroundings env) }
  | _ => loop

/-- Who waits for a request that an event makes. A call of the user that goes on is
suspended under the next ticket. -/
def waiter (self : Endpoint) : Session.Event → Caller
  | .settle _ _ => .start self.loop.calls.next
  | _ => .inbound

/-- A turn of the session with the calls it makes. -/
def turn (surroundings : Surroundings) (self : Endpoint) (outside : Outside)
    (event : Session.Event) : Option (Endpoint × List Note) :=
  (self.loop.step surroundings.digest event).bind fun stepped =>
    (self.calls surroundings outside (self.waiter event) stepped.1.session.profile.id
        (self.loop.outcalls event)).map fun called =>
      ({ called.endpoint with loop := called.heard.foldl (hear surroundings) stepped.1 },
        called.notes)

end Calls

/-- The events of the session that come through the connection or the worker. -/
def relays (self : Endpoint) : Session.Event → Bool
  | .settle ticket _ => (self.loop.calls.get? ticket).any fun call => call.chore.isSome
  | .resume _ =>
      match self.loop.running with
      | some (.control stage) => stage.chore.isSome
      | _ => false
  | .transportStatus _ => true
  | .relayEvent _ => true
  | .envelope _ => true
  | _ => false

/-- The events the browser brings about by itself. -/
def browserFires (connection : WebSocketConnection) : Transport.Event → Bool
  | .opened id _ => (connection.sockets[id]?).any fun socket => socket.readyState = .connecting
  | .message id _ => (connection.sockets[id]?).any fun socket => socket.readyState = .open
  | .closed id _ _ => (connection.sockets[id]?).any fun socket => socket.readyState ≠ .closed
  | .errored _ => true
  | .reconnectTimer _ _ => true
  | .caught => true
  | .drainTimer _ => true
  | .yielded _ => true
  | _ => false

def canSendVoiceNow (connection : WebSocketConnection) (buffered : Buffered) : Bool :=
  connection.openSocket ≠ none ∧ buffered.before ≤ Transport.voiceBrowserBufferLimitBytes

end Endpoint

inductive Event where
  | session (event : Session.Event) (outside : Outside)
  | transport (event : Transport.Event)
  | sendRawApp (lane : LaneName) (buffered : Buffered)
  | encrypted (ticket : Nat) (result : Option Sealed) (buffered : Buffered)
  | ask (request : CryptoWorker.Request)
  | work (entropy : CryptoWorker.Entropy) (failure : Option String)
  | deliver (outside : Outside)

namespace Endpoint

/-- `sendRawApp`, up to its await. -/
def sendRawApp (self : Endpoint) (lane : LaneName) (buffered : Buffered) : Endpoint :=
  match self.loop.session.secure with
  | none => self
  | some secure =>
      if lane = .voice ∧ canSendVoiceNow self.transport buffered = false then self
      else
        { self with sends := (self.sends.add ⟨secure, self.loop.session.secureEpoch, lane⟩).1 }

/-- The rest of `sendRawApp` from the encrypted message on. -/
def encrypted (self : Endpoint) (task : RawSend) (buffered : Buffered) :
    Option Sealed → Endpoint × List Note
  | none => (self, [])
  | some result =>
      if task.epoch ≠ self.loop.session.secureEpoch ∨
          some task.secure ≠ self.loop.session.secure then (self, [])
      else self.send (.encrypted task.secure) (sealedEnvelope result task.lane) buffered

/-- The reply to the head of the chain resumes its caller. -/
def deliver (surroundings : Surroundings) (self : Endpoint) (outside : Outside) (errand : Errand)
    (rest : List Errand) (reply : Except String CryptoWorker.Reply) : Option (Endpoint × List Note) :=
  let answered := { self with chain := rest, answer := none }
  match errand.caller with
  | .nobody => some (answered, [])
  | .start ticket => answered.turn surroundings outside (.settle ticket (replied reply))
  | .inbound => answered.turn surroundings outside (.resume (replied reply))

def step (surroundings : Surroundings) (self : Endpoint) : Event → Option (Endpoint × List Note)
  | .session event outside =>
      if self.relays event then none else self.turn surroundings outside event
  | .transport event =>
      if browserFires self.transport event then
        (self.transport.step event).map fun turned =>
          ({ self with
              transport := turned.1
              loop := turned.2.foldl (hear surroundings) self.loop }, [])
      else none
  | .sendRawApp lane buffered => some (self.sendRawApp lane buffered, [])
  | .encrypted ticket result buffered =>
      (self.sends.take ticket).map fun taken =>
        { self with sends := taken.2 }.encrypted taken.1 buffered result
  | .ask request =>
      if keepsIdentity request then
        some ({ self with chain := self.chain ++ [⟨request, .nobody⟩] }, [])
      else none
  | .work entropy failure =>
      match self.chain, self.answer with
      -- The worker serves one request at a time.
      | errand :: _, none =>
          let result := answerRequest surroundings.web entropy failure self.worker errand.request
          some ({ self with worker := result.1, answer := some result.2 }, [])
      | _, _ => none
  | .deliver outside =>
      match self.chain, self.answer with
      | errand :: rest, some reply => self.deliver surroundings outside errand rest reply
      | _, _ => none

end Endpoint

def machine (surroundings : Surroundings) : Machine Endpoint Event Note where
  step := Endpoint.step surroundings

end OnlyTwo.Client
