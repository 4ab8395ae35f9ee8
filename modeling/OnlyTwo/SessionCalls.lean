import OnlyTwo.Session

/-!
The async functions of `SessionController`, each split at its awaits. A stage
says where a call is suspended and holds the locals its rest reads; `Reply` is
how the awaited promise ends. The calls behind `inboundSerial` run one after
another, the calls of the user at any time. A `runCrypto` task is one await, and
so is the whole of a call whose caller does nothing after it.
-/

namespace OnlyTwo.Session

open Bytes FileProtocol FileSender FileReceiver Reliable AppMessages

inductive Reply where
  | error (message : String)
  | done
  | flag (value : Bool)
  | text (value : String)
  | room (code : String) (profileId : TransportProfileId)
  | key (bytes : Bytes)
  | message (message : AppMessage)
  | sampleRate (value : Nat)
  deriving DecidableEq

def Reply.outcome : Reply → Outcome
  | .error reason => .error reason
  | .flag value => .ok value
  | _ => .ok true

/-- How far a turn of an async function came. -/
inductive Progress (Stage : Type) where
  | finished
  | thrown (message : String)
  | waits (stage : Stage)
  deriving DecidableEq

/-- The locals of `sendHandshake` at the await of `profileHash`. -/
structure Announcement where
  key : PublicKey
  lifecycle : Nat
  epoch : Nat
  profileId : TransportProfileId
  deriving DecidableEq, Repr

section Stages

inductive HandshakeStage where
  | replying (announcement : Announcement)
  | hashing
  | agreeing
  | phrasing (localKey : Option PublicKey)
  deriving DecidableEq, Repr

/-- A call of `handleHandshake`, with the epoch it was started under. -/
structure HandshakeCall where
  epoch : Nat
  handshake : HandshakeMessage
  peerKey : Bytes
  stage : HandshakeStage
  deriving DecidableEq, Repr

inductive MessageStage where
  | decrypting (secure : SecureChannel) (streamId : Nat)
  | acknowledging (index : Nat)
  | rejecting
  | cancelling (fileId reason : String)
  | peerCancelling
  | receiving (ticket : Nat)
  | playing
  | returning
  deriving DecidableEq, Repr

/-- A call of `onEnvelope` for a data envelope; `queued` if `processOneInboundVoice`
made it. -/
structure MessageCall where
  epoch : Nat
  queued : Bool
  stage : MessageStage
  deriving DecidableEq, Repr

/-- What follows a `prepareFreshCryptoEpoch`. -/
inductive Sequel where
  | reconnecting
  | connected
  | present
  | disconnected
  | rejoined
  deriving DecidableEq, Repr

/-- The locals of `prepareFreshCryptoEpoch`; `serial` stands for its promise. -/
structure Preparation where
  lifecycle : Nat
  serial : Nat
  sequel : Sequel
  deriving DecidableEq, Repr

inductive ControlStage where
  | resetting (preparation : Preparation)
  | configuring (preparation : Preparation)
  | generating (preparation : Preparation)
  | announcing (preparation : Preparation) (announcement : Announcement)
  | sharing (sequel : Sequel)
  | greeting (announcement : Announcement) (unpauses : Bool)
  deriving DecidableEq, Repr

inductive InboundCall where
  | control (stage : ControlStage)
  | handshake (call : HandshakeCall)
  | message (call : MessageCall)
  deriving DecidableEq, Repr

inductive LocalCall where
  | lookingUp (phase : StartPhase)
  | configuring (lifecycle : Nat)
  | generating (lifecycle : Nat)
  | connecting (lifecycle : Nat)
  | greeting (announcement : Announcement)
  | sendingText (messageId : String)
  | offering (ticket : Option Nat) (fileId : String) (queued voiceActive : Bool)
  | cancelling
  | startingVoice
  | stoppingVoice
  | enablingPlayback
  deriving DecidableEq, Repr

def HandshakeCall.progress (call : HandshakeCall) :
    Progress HandshakeStage → Progress HandshakeCall
  | .finished => .finished
  | .thrown message => .thrown message
  | .waits stage => .waits { call with stage }

end Stages

namespace SessionController

section Announcing

/-- `sendHandshake`, up to its await. -/
def announcement (self : SessionController) : Option Announcement :=
  self.localPublicKey.map fun key =>
    ⟨key, self.lifecycleEpoch, self.secureEpoch, self.profile.id⟩

def sendInitialHandshake (self : SessionController) : SessionController × Option Announcement :=
  if self.initialHandshakeSent then (self, none)
  else ({ self with initialHandshakeSent := true }, self.announcement)

def sendReplyHandshake (self : SessionController) : SessionController × Option Announcement :=
  if self.replyHandshakeSent then (self, none)
  else ({ self with replyHandshakeSent := true }, self.announcement)

/-- `sendHandshake` from the profile hash on; the flag is what `transport.send`
answers. -/
def announced (self : SessionController) (locals : Announcement) (reply : Reply) :
    Option (Except String Unit) :=
  match reply with
  | .error message => some (.error message)
  | .flag accepted =>
      if locals.lifecycle ≠ self.lifecycleEpoch ∨ locals.epoch ≠ self.secureEpoch ∨
          some locals.key ≠ self.localPublicKey ∨ locals.profileId ≠ self.profile.id then
        some (.ok ())
      else if accepted then some (.ok ())
      else some (.error "Could not queue secure handshake")
  | _ => none

end Announcing

section Handshake

/-- The `catch` of `onEnvelope`. -/
def packetDropped (self : SessionController) : SessionController :=
  let counted := { self with view := { self.view with
    invalidPackets := self.view.invalidPackets + 1 } }
  if counted.view.invalidPackets = 3 ∨ counted.view.invalidPackets % 20 = 0 then
    counted.setNotice "Network unstable. Some packets were dropped."
  else counted

/-- The `finally` of `handleHandshake`. -/
def established (self : SessionController) : SessionController := { self with establishing := false }

def incompatible : String :=
  "This peer is using an incompatible OnlyTwo version. Refresh both browsers."

/-- `handleHandshake`, up to its first await. -/
def handleHandshake (self : SessionController) (epoch : Nat) (payload : Option HandshakeMessage) :
    SessionController × Progress HandshakeCall :=
  match self.localPublicKey with
  | none => (self, .finished)
  | some localKey =>
      match payload with
      | none => (self, .thrown "Unsupported handshake")
      | some handshake =>
          match base64UrlToBytes handshake.publicKey with
          | none => (self, .thrown "Invalid public key")
          | some peerKey =>
              if bytesToBase64Url peerKey = bytesToBase64Url localKey.bytes then (self, .finished)
              else if self.secure ≠ none then
                -- A session keeps its first peer key; another one fails safe.
                if self.peerPublicKey.any fun known =>
                    bytesToBase64Url known = bytesToBase64Url peerKey then (self, .finished)
                else
                  ({ self with view := { self.view with
                      security := .verificationFailed
                      notice := some "Peer identity changed. Leave this room." } }, .finished)
              else if self.establishing then (self, .finished)
              else
                let replied := { self with establishing := true }.sendReplyHandshake
                let stage := match replied.2 with
                  | some announcement => HandshakeStage.replying announcement
                  | none => .hashing
                (replied.1, .waits ⟨epoch, handshake, peerKey, stage⟩)

def compatible (self : SessionController) (handshake : HandshakeMessage)
    (expectedProfileHash : String) : Bool :=
  handshake.appVersion = appVersion ∧ handshake.profileId = self.profile.id ∧
    handshake.profileHash = expectedProfileHash ∧
    featureFlags.all fun flag => handshake.featureFlags.contains flag

/-- The two writes after the key agreement. -/
def installChannel (self : SessionController) (peerKey : Bytes) : SessionController :=
  { self with
    secure := some ⟨self.made, self.secureEpoch⟩
    peerPublicKey := some peerKey
    made := self.made + 1 }

/-- The rest of `handleHandshake` from the phrase on. -/
def showPhrase (self : SessionController) (phrase : String) : SessionController :=
  { self with view := { self.view with
      phase := .active
      profileId := self.profile.id
      security := .encryptedUnverified
      safetyPhrase := some phrase
      notice := some "Encrypted. Verify the phrase."
      invalidPackets := 0 } }.addSystem "Secure session ready. Verify the safety phrase." .info

/-- `handleHandshake` from one await to the next. `verificationPhrase` cannot
answer without a local key. -/
def resumeHandshake (self : SessionController) (call : HandshakeCall) (reply : Reply) :
    Option (SessionController × Progress HandshakeStage) :=
  match call.stage, reply with
  | .replying locals, reply =>
      (self.announced locals reply).map fun
        | .ok () => (self, .waits .hashing)
        | .error message => (self.established, .thrown message)
  | _, .error message => some (self.established, .thrown message)
  | .hashing, .text expectedProfileHash =>
      if self.compatible call.handshake expectedProfileHash then some (self, .waits .agreeing)
      else
        some (({ self with view := { self.view with
          security := .verificationFailed
          notice := some incompatible } }.addSystem incompatible .error).established, .finished)
  | .agreeing, .done =>
      let installed := self.installChannel call.peerKey
      some (installed, .waits (.phrasing installed.localPublicKey))
  | .phrasing (some _), .text phrase => some ((self.showPhrase phrase).established, .finished)
  | _, _ => none

end Handshake

section Messages

def validateRemoteVoiceStart (self : SessionController) (message : VoiceStart) : Bool :=
  message.streamId = "voice" ∧ message.frameMs = self.profile.voice.frameMs ∧
    (message.mode = none ∨ message.mode = some self.profile.voice.mode) ∧
    8000 ≤ message.sampleRate ∧ message.sampleRate ≤ 192000

/-- The ticket of the call a turn suspended, if it suspended one. -/
def newTicket {Task : Type} (before after : Callbacks Task) : Option Nat :=
  if before.next < after.next then some before.next else none

/-- A turn of the receiver that a message handler awaits. -/
def awaitReceiver (self : SessionController) (turned : Receiver) :
    SessionController × Progress MessageStage :=
  (self.withReceiver turned,
    match newTicket self.receiver.calls turned.calls with
    | none => .finished
    | some ticket => .waits (.receiving ticket))

def handleFile (self : SessionController) (message : FileMessage) :
    SessionController × Progress MessageStage :=
  match message with
  | .offer fields =>
      ((self.onReceiver fun receiver => receiver.offer fields).ensureTransferOrder fields.fileId,
        .finished)
  | .accept fileId => (self.onSender fun sender => sender.accept fileId, .waits .returning)
  | .reject fileId reason =>
      (self.onSender fun sender => sender.cancel fileId reason false, .waits .rejecting)
  | .chunk fileId index totalChunks data =>
      self.awaitReceiver ({ self.receiver with notes := [] }.chunk fileId index totalChunks data)
  | .ack fileId index => (self.onSender fun sender => sender.ack fileId index, .finished)
  | .nack fileId index reason =>
      (self.onSender fun sender => sender.nack fileId index reason, .finished)
  | .pause fileId reason => (self.onSender fun sender => sender.pause fileId reason, .finished)
  | .resume fileId => (self.onSender fun sender => sender.resume fileId, .finished)
  | .cancel fileId reason =>
      (self.onSender fun sender => sender.cancel fileId reason false,
        .waits (.cancelling fileId reason))
  | .complete fileId _ =>
      (self.onReceiver fun receiver => receiver.completeNotice fileId, .finished)

/-- `handleAppMessage` for a message that is no reliable envelope. -/
def handleCore (self : SessionController) (message : CoreAppMessage) :
    SessionController × Progress MessageStage :=
  match message with
  | .sessionVerified _ =>
      if self.view.security = .verified then (self, .finished)
      else
        ((self.setNotice "Peer marked this chat verified.").addSystem
          "Peer marked the secure session as verified." .info, .finished)
  | .text messageId body createdAt =>
      (self.addTranscript ⟨messageId, .text, .peer, body, createdAt, some .sent, none, none⟩,
        .finished)
  | .file message => self.handleFile message
  | .voiceStart fields =>
      if self.validateRemoteVoiceStart fields then
        (((({ self with remoteVoiceActive := true }.setNotice "Peer started voice.").addSystem
          "Peer started voice." .info)).updateFilePauseForVoice, .finished)
      else (self, .thrown "Invalid voice stream metadata")
  | .voiceFrame _ _ _ _ _ _ =>
      if self.remoteVoiceActive then (self, .waits .playing)
      else (self, .thrown "Voice frame received before voice start")
  | .voiceStop streamId =>
      if streamId ≠ "voice" then (self, .thrown "Invalid voice stream metadata")
      else
        let stopped := { self with
          remoteVoiceActive := false
          inboundVoice := self.inboundVoice.clear.queue
          view := { self.view with
            audioPlaybackBlocked := false
            notice := some "Peer ended voice." } }
        (stopped.updateFilePauseForVoice.addSystem "Peer ended voice." .info, .finished)

def handleAppMessage (self : SessionController) (message : AppMessage) :
    SessionController × Progress MessageStage :=
  match message with
  | .core message => self.handleCore message
  | .reliable message =>
      let received := self.withReliable (self.reliable.receive message)
      match message with
      | .msg _ _ _ _ _ => (received, .waits (.acknowledging self.reliable.receiving.length))
      | _ => (received, .finished)

/-- What `ReliableChannel.receive` resolves to. -/
def unwrapped (notes : List (Note ReliableBodyMessage)) : Option CoreAppMessage :=
  notes.findSome? fun
    | .finished _ (some body) _ => some body.1
    | _ => none

def voiceBlocked : String := "Incoming voice is blocked. Tap Enable audio."

/-- `onEnvelope` for a data envelope, from one await to the next. -/
def resumeMessage (digest : Bytes → String) (self : SessionController) (call : MessageCall)
    (reply : Reply) : Option (SessionController × Progress MessageStage) :=
  match call.stage, reply with
  | .decrypting _ _, .error message => some (self, .thrown message)
  | .decrypting secure streamId, .message message =>
      -- What was decrypted for an epoch that is over is dropped without a word.
      if call.epoch ≠ self.secureEpoch ∨ some secure ≠ self.secure then some (self, .finished)
      else
        match validateInboundStream message streamId with
        | .error reason => some (self, .thrown reason)
        | .ok () => some (self.handleAppMessage message)
  | .acknowledging index, .flag _ =>
      (self.reliable.receiving[index]?).map fun receipt =>
        let turned := self.reliable.ackSent index receipt
        let received := self.withReliable turned
        match unwrapped turned.2 with
        | none => (received, .finished)
        | some body => received.handleCore body
  | .rejecting, .done => some (self.startNextQueuedFileIfAllowed, .finished)
  | .cancelling fileId reason, .done =>
      some (self.onReceiver fun receiver => receiver.peerCancel fileId reason,
        .waits .peerCancelling)
  | .peerCancelling, .done => some (self.startNextQueuedFileIfAllowed, .finished)
  | .receiving ticket, reply =>
      (({ self.receiver with notes := [] }).turn digest (.settle ticket reply.outcome)).map
        self.awaitReceiver
  | .playing, .error message => some (self, .thrown message)
  | .playing, .flag playing =>
      if playing ∨ self.view.audioPlaybackBlocked then some (self, .finished)
      else
        some ({ self with view := { self.view with
          audioPlaybackBlocked := true
          notice := some voiceBlocked } }.addSystem voiceBlocked .error, .finished)
  | .returning, .done => some (self, .finished)
  | _, _ => none

end Messages

section Control

/-- `sendInitialHandshake` in tail position, but for `updateFilePauseForVoice`. -/
def greet (self : SessionController) (unpauses : Bool) :
    SessionController × Option ControlStage :=
  let greeted := self.sendInitialHandshake
  match greeted.2 with
  | some announcement => (greeted.1, some (.greeting announcement unpauses))
  | none => (if unpauses then greeted.1.updateFilePauseForVoice else greeted.1, none)

/-- What `onConnectionStatus` and `onRelayEvent` do after the preparation. -/
def runSequel (self : SessionController) : Sequel → SessionController × Option ControlStage
  | .reconnecting => (self, none)
  | .connected =>
      if self.localPublicKey ≠ none ∧ self.secure = none ∧ self.initialHandshakeSent = false then
        self.greet true
      else (self.updateFilePauseForVoice, none)
  | .present => self.greet false
  | .disconnected =>
      ({ self with view := { self.view with
          phase := .waiting
          notice := some "Peer disconnected. Waiting for rejoin…" } }.addSystem
        "Peer disconnected. Waiting for rejoin." .info, none)
  | .rejoined => (self.addSystem "Peer rejoined. New secure session started." .info).greet false

/-- `prepareFreshCryptoEpoch`, up to its first await. -/
def prepareFreshCryptoEpoch (self : SessionController) (notice : String) (sequel : Sequel) :
    SessionController × Option ControlStage :=
  if self.epochPreparation ≠ none then (self, some (.sharing sequel))
  else
    let fresh := self.freshEpoch notice
    ({ fresh with epochPreparation := some fresh.made, made := fresh.made + 1 },
      some (.resetting ⟨self.lifecycleEpoch, fresh.made, sequel⟩))

def onConnectionStatus (self : SessionController) (status : ConnectionStatus) :
    SessionController × Option ControlStage :=
  let shown := { self with view := { self.view with connection := status } }
  match status with
  | .reconnecting =>
      shown.prepareFreshCryptoEpoch "Connection interrupted. Reconnecting securely…" .reconnecting
  | .connected =>
      if self.localPublicKey = none then
        shown.prepareFreshCryptoEpoch "Establishing a fresh secure session…" .connected
      else shown.runSequel .connected
  | .failed =>
      ({ shown with view := { shown.view with
          phase := .failed
          notice := some "Connection lost." } }.addSystem "Connection lost." .error, none)
  | _ => (shown, none)

def onRelayEvent (self : SessionController) : RelayEvent → SessionController × Option ControlStage
  | .peerPresent =>
      if self.secure ≠ none ∨ self.peerPublicKey ≠ none ∨ self.localPublicKey = none then
        self.prepareFreshCryptoEpoch "Establishing a fresh secure session…" .present
      else self.runSequel .present
  | .peerDisconnected =>
      self.prepareFreshCryptoEpoch "Peer disconnected. Waiting for rejoin…" .disconnected
  | .peerRejoined =>
      self.prepareFreshCryptoEpoch "Peer rejoined. Establishing a new secure session…" .rejoined
  | .sessionEnded => (self.disconnect false "Chat ended for both.", none)

/-- The `finally` of `prepareFreshCryptoEpoch`. -/
def preparationOver (self : SessionController) (preparation : Preparation) : SessionController :=
  if self.epochPreparation = some preparation.serial then { self with epochPreparation := none }
  else self

/-- The end of the preparation; an error also ends its caller. -/
def prepared (self : SessionController) (preparation : Preparation) :
    Except String Unit → SessionController × Option ControlStage
  | .ok () => (self.preparationOver preparation).runSequel preparation.sequel
  | .error _ => (self.preparationOver preparation, none)

/-- Every call of the worker makes a new key object. -/
def newKey (self : SessionController) (bytes : Bytes) : SessionController :=
  { self with localPublicKey := some ⟨self.made, bytes⟩, made := self.made + 1 }

def resumeControl (self : SessionController) (stage : ControlStage) (reply : Reply) :
    Option (SessionController × Option ControlStage) :=
  match stage, reply with
  | .resetting preparation, _ =>
      if preparation.lifecycle ≠ self.lifecycleEpoch then some (self.prepared preparation (.ok ()))
      else some (self, some (.configuring preparation))
  | .configuring preparation, .error message => some (self.prepared preparation (.error message))
  | .configuring preparation, .done => some (self, some (.generating preparation))
  | .generating preparation, .error message => some (self.prepared preparation (.error message))
  | .generating preparation, .key bytes =>
      if preparation.lifecycle ≠ self.lifecycleEpoch then some (self.prepared preparation (.ok ()))
      else
        let keyed := self.newKey bytes
        if keyed.transportStatus = .connected then
          let greeted := keyed.sendInitialHandshake
          match greeted.2 with
          | some announcement => some (greeted.1, some (.announcing preparation announcement))
          | none => some (greeted.1.prepared preparation (.ok ()))
        else some (keyed.prepared preparation (.ok ()))
  | .announcing preparation locals, reply =>
      (self.announced locals reply).map (self.prepared preparation)
  -- The queue's own `catch` takes these.
  | .sharing _, .error _ => some (self, none)
  | .sharing sequel, .done => some (self.runSequel sequel)
  | .greeting locals unpauses, reply =>
      (self.announced locals reply).map fun
        | .ok () => (if unpauses then self.updateFilePauseForVoice else self, none)
        | .error _ => (self, none)
  | _, _ => none

end Control

section Serial

/-- The `finally` of `processOneInboundVoice`. -/
def voiceTurnOver (self : SessionController) (queued : Bool) : SessionController :=
  if queued then
    let free := { self with inboundVoiceScheduled := false }
    if 0 < free.inboundVoice.size then free.scheduleInboundVoice else free
  else self

def messageProgress (call : MessageCall) :
    SessionController × Progress MessageStage → SessionController × Option InboundCall
  | (self, .waits stage) => (self, some (.message { call with stage }))
  | (self, .finished) => (self.voiceTurnOver call.queued, none)
  | (self, .thrown _) => (self.packetDropped.voiceTurnOver call.queued, none)

def handshakeProgress :
    SessionController × Progress HandshakeCall → SessionController × Option InboundCall
  | (self, .waits call) => (self, some (.handshake call))
  | (self, .finished) => (self, none)
  | (self, .thrown _) => (self.packetDropped, none)

def controlProgress :
    SessionController × Option ControlStage → SessionController × Option InboundCall
  | (self, stage) => (self, stage.map .control)

/-- `onEnvelope`, up to its first await. -/
def onEnvelope (self : SessionController) (packet : Packet) (epoch : Nat) (queued : Bool) :
    SessionController × Option InboundCall :=
  if epoch ≠ self.secureEpoch then (self.voiceTurnOver queued, none)
  else
    match packet with
    | .handshake streamId payload =>
        if streamId ≠ 0 then (self.packetDropped, none)
        else handshakeProgress (self.handleHandshake epoch payload)
    | .data streamId =>
        match self.secure with
        | none => (self.voiceTurnOver queued, none)
        | some secure => (self, some (.message ⟨epoch, queued, .decrypting secure streamId⟩))

def processOneInboundVoice (self : SessionController) : SessionController × Option InboundCall :=
  let next := self.inboundVoice.shiftFresh self.now
  let shifted := { self with inboundVoice := next.queue }
  match next.value with
  | none => (shifted.voiceTurnOver true, none)
  | some packet => shifted.onEnvelope packet shifted.secureEpoch true

def beginWork (self : SessionController) : Work → SessionController × Option InboundCall
  | .status lifecycle status =>
      if lifecycle = self.lifecycleEpoch then controlProgress (self.onConnectionStatus status)
      else (self, none)
  | .relay lifecycle event =>
      if lifecycle = self.lifecycleEpoch then controlProgress (self.onRelayEvent event)
      else (self, none)
  | .envelope packet epoch => self.onEnvelope packet epoch false
  | .voice => self.processOneInboundVoice

def resumeInbound (digest : Bytes → String) (self : SessionController) (reply : Reply) :
    InboundCall → Option (SessionController × Option InboundCall)
  | .control stage => (self.resumeControl stage reply).map controlProgress
  | .handshake call =>
      (self.resumeHandshake call reply).map fun turned =>
        handshakeProgress (turned.1, call.progress turned.2)
  | .message call => (self.resumeMessage digest call reply).map (messageProgress call)

end Serial

end SessionController

end OnlyTwo.Session
