import OnlyTwo.Machine
import OnlyTwo.SessionCalls

/-!
The calls of the user and the event loop around a `SessionController`. An event
is a call from outside, a settled promise, a timer or a packet; the loop takes
them in any order. Its outputs name the moments at which the handler of a
decrypted message changes what the user sees of the peer, and at which a
handshake installs part of a secure session: the epoch the handler belongs to,
and `secureEpoch` at that moment.
-/

namespace OnlyTwo.Session

open Bytes FileProtocol FileSender FileReceiver Reliable AppMessages

/-- The public methods. `joinRoom` is given the normalised code, and
`endChatForBoth` what `transport.endSession` answers; `unload` is the listener of
`beforeunload`. -/
inductive Request where
  | setProfile (id : TransportProfileId)
  | createRoom
  | joinRoom (code : String)
  | sendText (body : Utf16)
  | offerFile (file : File)
  | acceptFile (fileId : String)
  | rejectFile (fileId : String)
  | cancelFile (fileId : String)
  | removeFile (fileId : String)
  | startVoice
  | stopVoice
  | toggleMute
  | enableAudioPlayback
  | markVerified (agrees : Bool)
  | endChatForBoth (sent : Bool)
  | disconnect
  | unload
  deriving DecidableEq

namespace SessionController

section Requests

def beginStartup (self : SessionController) (phase : StartPhase) (notice : String) :
    SessionController × Option LocalCall :=
  if self.startupInFlight then (self, none)
  else
    ({ self with
        startupInFlight := true
        view := { self.view with phase := phase.phase, notice := some notice } },
      some (.lookingUp phase))

def sendText (self : SessionController) (body : Utf16) : SessionController × Option LocalCall :=
  let text := trim body
  if text = [] then (self, none)
  else if self.secure = none then
    ({ self with view := { self.view with
        security := .none
        notice := some "Encryption is not ready. Leave and rejoin this room." } }, none)
  else if maxTextMessageChars < text.length then (self, none)
  else
    let messageId := self.makeId "msg"
    let shown := self.addDrawn ⟨messageId, .text, .me, text, self.now, some .sending, none, none⟩
    (shown.sendApp (.text messageId text self.now) .text (some messageId),
      some (.sendingText messageId))

/-- The rest of `offerFile` once `sender.offer` has returned. -/
def offered (self : SessionController) (fileId : String) (queued voiceActive : Bool) :
    SessionController :=
  let ordered := self.ensureTransferOrder fileId
  if queued then
    ordered.addSystem (if voiceActive then "File queued until voice ends." else "File queued.") .info
  else ordered

def offerFile (self : SessionController) (file : File) : SessionController × Option LocalCall :=
  if self.secure = none then (self.setNotice "Encryption is not ready.", none)
  else
    match validateOutboundFile file self.sender.files with
    | .error _ => (self, none)
    | .ok () =>
        let fileId := self.makeId "file"
        let queued := self.isVoiceActive || self.hasActiveFile
        let turned := { self.sender with notes := [] }.offer fileId file queued
        ({ self with made := self.made + 1 }.withSender turned,
          some (.offering (newTicket self.sender.calls turned.calls) fileId queued
            self.isVoiceActive))

def cancelFile (self : SessionController) (fileId : String) :
    SessionController × Option LocalCall :=
  match self.view.transfers.find? fun item => item.fileId = fileId with
  | none => (self, none)
  | some transfer =>
      if transfer.direction = .send then
        (self.onSender fun sender => sender.cancel fileId "cancelled" true, some .cancelling)
      else
        (self.onReceiver fun receiver => receiver.cancel fileId "cancelled" true, some .cancelling)

def removeFile (self : SessionController) (fileId : String) : SessionController :=
  match self.view.transfers.find? fun item => item.fileId = fileId with
  | none => self
  | some transfer => if transfer.state.terminal then self.forgetTransfer fileId else self

def startVoice (self : SessionController) : SessionController × Option LocalCall :=
  if self.secure = none then (self.setNotice "Encryption is not ready.", none)
  else if self.view.voice ≠ .idle then (self, none)
  else
    let cleared := self.clearVoiceQueues
    ({ cleared with view := { cleared.view with
        voice := .starting
        audioPlaybackBlocked := false
        notice := some "Starting voice…" } }.updateFilePauseForVoice, some .startingVoice)

def stopVoice (self : SessionController) : SessionController × Option LocalCall :=
  if self.view.voice = .idle then (self, none)
  else
    (self.clearVoiceQueues.sendApp (.voiceStop "voice") .control none, some .stoppingVoice)

def toggleMute (self : SessionController) : SessionController :=
  if self.view.voice ≠ .active ∧ self.view.voice ≠ .muted then self
  else
    { self with view := { self.view with
        muted := !self.view.muted
        voice := if self.view.muted then .active else .muted } }

def markVerified (self : SessionController) (agrees : Bool) : SessionController :=
  if self.secure = none then
    { self with view := { self.view with
        security := .none
        notice := some "Encryption is not ready. Leave and rejoin this room." } }
  else if !agrees then
    { self with view := { self.view with
        security := .verificationFailed
        notice := some "Verification mismatch. End this chat." } }.addSystem
      "Verification mismatch. End this chat." .error
  else
    ({ self with view := { self.view with
        security := .verified
        notice := some "Verified on this device." } }.addSystem "Secure session verified."
      .info).sendApp (.sessionVerified self.now) .control none

/-- Whether `endChatForBoth` closes the room in the same turn. -/
def endsAtOnce (self : SessionController) (sent : Bool) : Bool :=
  self.view.phase ≠ .idle ∧ self.view.phase ≠ .ended ∧ sent = false

def endChatForBoth (self : SessionController) (sent : Bool) : SessionController :=
  if self.view.phase = .idle ∨ self.view.phase = .ended then self
  else if self.endsAtOnce sent then self.disconnect false "Chat ended on this device."
  else { self.setNotice "Ending chat for both…" with endSessionTimer := true }

def perform (self : SessionController) : Request → SessionController × Option LocalCall
  | .setProfile id =>
      if self.view.phase ≠ .idle ∧ self.view.phase ≠ .ended then (self, none)
      else
        let adopted := self.adoptProfile id
        ({ adopted with view := { adopted.view with profileId := id } }, none)
  | .createRoom => self.beginStartup .creating "Creating room…"
  | .joinRoom code =>
      if code.length ≠ 9 then (self, none) else self.beginStartup .joining "Looking up room…"
  | .sendText body => self.sendText body
  | .offerFile file => self.offerFile file
  | .acceptFile fileId => (self.onReceiver fun receiver => receiver.accept fileId, none)
  | .rejectFile fileId => (self.onReceiver fun receiver => receiver.reject fileId "declined", none)
  | .cancelFile fileId => self.cancelFile fileId
  | .removeFile fileId => (self.removeFile fileId, none)
  | .startVoice => self.startVoice
  | .stopVoice => self.stopVoice
  | .toggleMute => (self.toggleMute, none)
  | .enableAudioPlayback => (self, some .enablingPlayback)
  | .markVerified agrees => (self.markVerified agrees, none)
  | .endChatForBoth sent => (self.endChatForBoth sent, none)
  | .disconnect => (self.disconnect false roomClosed, none)
  | .unload => (self.disconnect true roomClosed, none)

end Requests

section LocalCalls

def startupDone (self : SessionController) : SessionController :=
  { self with startupInFlight := false }

def voiceStarted (self : SessionController) (sampleRate : Nat) : SessionController :=
  ({ self with view := { self.view with
      voice := .active
      muted := false
      audioPlaybackBlocked := false
      notice := some "Voice active. Files are paused." } }.addSystem "Voice started." .info).sendApp
    (.voiceStart ⟨"voice", sampleRate, self.profile.voice.frameMs, some self.profile.voice.mode⟩)
    .control none

def voiceFailed (self : SessionController) (reason : String) : SessionController :=
  let cleared := self.clearVoiceQueues
  let failed := ({ cleared with view := { cleared.view with
      voice := .failed
      notice := some reason } }.updateFilePauseForVoice).addSystem
    ("Voice unavailable: " ++ reason) .error
  { failed with voiceIdleTimers := failed.voiceIdleTimers + 1 }

def voiceStopped (self : SessionController) : SessionController :=
  ({ self with view := { self.view with
      voice := .idle
      muted := false
      audioPlaybackBlocked := false
      notice := some "Voice ended." } }.updateFilePauseForVoice).addSystem "Voice ended." .info

def playbackEnabled (self : SessionController) (enabled : Bool) : SessionController :=
  { self with view := { self.view with
      audioPlaybackBlocked := !enabled
      notice := some (if enabled then "Audio playback enabled."
        else "Audio playback is still blocked by this browser.") } }

/-- A call of the user from one await to the next. -/
def settleLocal (digest : Bytes → String) (self : SessionController) (call : LocalCall)
    (reply : Reply) : Option (SessionController × Option LocalCall) :=
  match call, reply with
  | .lookingUp _, .error message => some (self.startupFailed message, none)
  | .lookingUp phase, .room code profileId =>
      let started := self.start code phase profileId
      some (started, some (.configuring started.lifecycleEpoch))
  | .configuring _, .error message => some (self.startupFailed message, none)
  | .configuring lifecycle, .done => some (self, some (.generating lifecycle))
  | .generating _, .error message => some (self.startupFailed message, none)
  | .generating lifecycle, .key bytes =>
      -- Left in the meantime: the call returns without a word.
      if lifecycle ≠ self.lifecycleEpoch then some (self.startupDone, none)
      else some (self.newKey bytes, some (.connecting lifecycle))
  | .connecting _, .error message => some (self.startupFailed message, none)
  | .connecting lifecycle, .done =>
      if lifecycle ≠ self.lifecycleEpoch then some (self.startupDone, none)
      else
        let greeted := { self with view := { self.view with
          phase := .waiting
          notice := some "Waiting for the other person." } }.sendInitialHandshake
        match greeted.2 with
        | some announcement => some (greeted.1, some (.greeting announcement))
        | none => some (greeted.1.startupDone, none)
  | .greeting locals, reply =>
      (self.announced locals reply).map fun
        | .ok () => (self.startupDone, none)
        | .error message => (self.startupFailed message, none)
  | .sendingText messageId, .flag ok =>
      some (if ok then self else self.updateTranscriptStatus messageId .failed, none)
  | .offering none fileId queued voiceActive, .done =>
      some (self.offered fileId queued voiceActive, none)
  | .offering (some ticket) fileId queued voiceActive, reply =>
      (({ self.sender with notes := [] }).turn digest (.settle ticket reply.outcome)).map
        fun turned =>
          let settled := self.withSender turned
          match newTicket self.sender.calls turned.calls with
          | none => (settled.offered fileId queued voiceActive, none)
          | some next => (settled, some (.offering (some next) fileId queued voiceActive))
  | .cancelling, .done => some (self.startNextQueuedFileIfAllowed, none)
  | .startingVoice, .error message => some (self.voiceFailed message, none)
  | .startingVoice, .sampleRate rate => some (self.voiceStarted rate, none)
  | .stoppingVoice, .done => some (self.voiceStopped, none)
  | .enablingPlayback, .flag enabled => some (self.playbackEnabled enabled, none)
  | _, _ => none

end LocalCalls

end SessionController

structure Loop where
  session : SessionController
  running : Option InboundCall
  calls : Callbacks LocalCall

def Loop.create : Loop := ⟨.create, none, .empty⟩

inductive Event where
  | request (request : Request)
  | settle (ticket : Nat) (reply : Reply)
  | begin
  | resume (reply : Reply)
  | transportStatus (status : ConnectionStatus)
  | relayEvent (event : RelayEvent)
  | envelope (packet : Packet)
  | endSessionTimer
  | voiceIdleTimer
  | senderCall (ticket : Nat) (outcome : Outcome)
  | senderTimer (ticket : Nat)
  | receiverCall (ticket : Nat) (outcome : Outcome)
  | reliableSent (id : String) (ok : Bool)
  | reliableTimer (handle : Nat)
  | tick (elapsed : Nat)
  deriving DecidableEq

inductive Moment where
  | changed (decrypted now : Nat)
  | installed (started now : Nat)
  deriving DecidableEq, Repr

/-- The kind of packet an inbound call serves, and the epoch it belongs to. -/
inductive Origin where
  | control
  | handshake (epoch : Nat)
  | message (epoch : Nat)
  deriving DecidableEq, Repr

def InboundCall.origin : InboundCall → Origin
  | .control _ => .control
  | .handshake call => .handshake call.epoch
  | .message call => .message call.epoch

def Work.origin (secureEpoch : Nat) : Work → Origin
  | .envelope (.handshake _ _) epoch => .handshake epoch
  | .envelope (.data _) epoch => .message epoch
  | .voice => .message secureEpoch
  | _ => .control

namespace Loop

section Moments

/-- What messages of the peer add to. -/
def shown (session : SessionController) : List TranscriptItem × List TransferView × Bool :=
  (session.view.transcript, session.view.transfers, session.remoteVoiceActive)

def Installed (before after : SessionController) : Prop :=
  before.secure ≠ after.secure ∨ before.peerPublicKey ≠ after.peerPublicKey ∨
    before.view.phase ≠ .active ∧ after.view.phase = .active ∨
    before.view.security ≠ .encryptedUnverified ∧ after.view.security = .encryptedUnverified ∨
    before.view.safetyPhrase ≠ after.view.safetyPhrase

instance (before after : SessionController) : Decidable (Installed before after) :=
  inferInstanceAs (Decidable (_ ∨ _ ∨ _ ∨ _ ∨ _))

/-- What a turn of an inbound call did. -/
def moments (before after : SessionController) : Origin → List Moment
  | .control => []
  | .handshake epoch =>
      if Installed before after then [.installed epoch before.secureEpoch] else []
  | .message epoch => if shown before ≠ shown after then [.changed epoch before.secureEpoch] else []

end Moments

def suspend (self : Loop) (turned : SessionController × Option LocalCall) : Loop :=
  { self with
    session := turned.1
    calls := match turned.2 with
      | none => self.calls
      | some call => (self.calls.add call).1 }

/-- The running handler settles the receiver's calls it waits for itself. -/
def awaitsReceiver (self : Loop) (ticket : Nat) : Bool :=
  match self.running with
  | some (.message call) => call.stage = .receiving ticket
  | _ => false

def awaitsSender (self : Loop) (ticket : Nat) : Bool :=
  self.calls.held.values.any fun
    | .offering (some other) _ _ _ => other = ticket
    | _ => false

def withSession (self : Loop) (session : SessionController) : Loop × List Moment :=
  ({ self with session }, [])

def step (digest : Bytes → String) (self : Loop) : Event → Option (Loop × List Moment)
  | .request request => some (self.suspend (self.session.perform request), [])
  | .settle ticket reply =>
      (self.calls.take ticket).bind fun taken =>
        (self.session.settleLocal digest taken.1 reply).map fun turned =>
          ({ self with calls := taken.2 }.suspend turned, [])
  | .begin =>
      match self.running, self.session.inbound with
      | none, work :: rest =>
          let turned := { self.session with inbound := rest }.beginWork work
          some ({ self with session := turned.1, running := turned.2 },
            moments self.session turned.1 (work.origin self.session.secureEpoch))
      | _, _ => none
  | .resume reply =>
      self.running.bind fun call =>
        (self.session.resumeInbound digest reply call).map fun turned =>
          ({ self with session := turned.1, running := turned.2 },
            moments self.session turned.1 call.origin)
  | .transportStatus status => some (self.withSession (self.session.transportChanged status))
  | .relayEvent event =>
      some (self.withSession
        (self.session.enqueueInbound (.relay self.session.lifecycleEpoch event)))
  | .envelope packet => some (self.withSession (self.session.routeEnvelope packet))
  | .endSessionTimer =>
      if self.session.endSessionTimer then
        some (self.withSession (self.session.disconnect false "Chat ended for both."))
      else none
  | .voiceIdleTimer =>
      if self.session.voiceIdleTimers = 0 then none
      else
        let fired := { self.session with voiceIdleTimers := self.session.voiceIdleTimers - 1 }
        some (self.withSession
          (if fired.view.voice = .failed then
            { fired with view := { fired.view with voice := .idle } }
          else fired))
  | .senderCall ticket outcome =>
      if self.awaitsSender ticket then none
      else
        (({ self.session.sender with notes := [] }).turn digest (.settle ticket outcome)).map
          fun turned => self.withSession (self.session.withSender turned)
  | .senderTimer ticket =>
      (({ self.session.sender with notes := [] }).turn digest (.fire ticket)).map
        fun turned => self.withSession (self.session.withSender turned)
  | .receiverCall ticket outcome =>
      if self.awaitsReceiver ticket then none
      else
        (({ self.session.receiver with notes := [] }).turn digest (.settle ticket outcome)).map
          fun turned => self.withSession (self.session.withReceiver turned)
  | .reliableSent id ok =>
      (self.session.reliable.step (.sendResolved id ok)).map
        fun turned => self.withSession (self.session.withReliable turned)
  | .reliableTimer handle =>
      (self.session.reliable.step (.fire handle)).map
        fun turned => self.withSession (self.session.withReliable turned)
  | .tick elapsed =>
      (self.session.reliable.step (.tick elapsed)).map
        fun turned => self.withSession (self.session.withReliable turned)

end Loop

def machine (digest : Bytes → String) : Machine Loop Event Moment := ⟨Loop.step digest⟩

end OnlyTwo.Session
