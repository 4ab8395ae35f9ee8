import OnlyTwo.AppMessages
import OnlyTwo.FileReceiver
import OnlyTwo.FileSender
import OnlyTwo.VoiceFreshness

/-!
The state of `SessionController` in client/src/session/SessionController.ts and
everything of it that runs without an await. The file sender, the file receiver
and the reliable channel are the models of their own modules; what they report
through their callbacks is applied when their turn ends, in order. What
`sendRawApp` answers, the sockets, the crypto worker and the audio devices stay
outside: a call that waits for them may be answered in any way. Objects the
source compares by identity carry a serial number, ids drawn at random are
numbered, and a `SecureChannel` remembers the epoch it was made in.
-/

namespace OnlyTwo.Session

open Bytes FileProtocol FileSender FileReceiver Reliable AppMessages

section View

inductive Phase where
  | idle
  | creating
  | joining
  | waiting
  | active
  | ended
  | failed
  deriving DecidableEq, Repr

inductive SecurityState where
  | none
  | encryptedUnverified
  | verified
  | verificationFailed
  deriving DecidableEq, Repr

inductive VoiceState where
  | idle
  | starting
  | active
  | muted
  | failed
  deriving DecidableEq, Repr

inductive ConnectionStatus where
  | disconnected
  | connecting
  | connected
  | reconnecting
  | failed
  deriving DecidableEq, Repr

inductive TransferDirection where
  | send
  | receive
  deriving DecidableEq, Repr

inductive TransferState where
  | queued
  | offered
  | waiting
  | sending
  | receiving
  | paused
  | completed
  | cancelled
  | failed
  deriving DecidableEq, Repr

def TransferState.terminal (state : TransferState) : Bool :=
  state ∈ [TransferState.completed, .cancelled, .failed]

inductive ItemKind where
  | text
  | system
  | file
  deriving DecidableEq, Repr

inductive Author where
  | me
  | peer
  | system
  deriving DecidableEq, Repr

inductive ItemStatus where
  | sending
  | sent
  | failed
  deriving DecidableEq, Repr

inductive Severity where
  | info
  | error
  deriving DecidableEq, Repr

structure TranscriptItem where
  id : String
  kind : ItemKind
  author : Author
  text : Utf16
  time : Nat
  status : Option ItemStatus
  severity : Option Severity
  fileId : Option String
  deriving DecidableEq, Repr

/-- `progress` is `bytes` over `size`. -/
structure TransferView where
  fileId : String
  direction : TransferDirection
  name : Utf16
  size : Nat
  bytes : Nat
  state : TransferState
  reason : Option String
  blobUrl : Option Nat
  deriving DecidableEq, Repr

structure SessionViewState where
  phase : Phase
  roomCode : String
  profileId : TransportProfileId
  connection : ConnectionStatus
  security : SecurityState
  safetyPhrase : Option String
  notice : Option String
  voice : VoiceState
  muted : Bool
  audioPlaybackBlocked : Bool
  invalidPackets : Nat
  transcript : List TranscriptItem
  transfers : List TransferView
  deriving DecidableEq, Repr

def SessionViewState.initial : SessionViewState :=
  ⟨.idle, "", .balanced, .disconnected, .none, none, none, .idle, false, false, 0, [], []⟩

end View

/-- The phases a room is entered with. -/
inductive StartPhase where
  | creating
  | joining
  deriving DecidableEq, Repr

def StartPhase.phase : StartPhase → Phase
  | .creating => .creating
  | .joining => .joining

structure PublicKey where
  serial : Nat
  bytes : Bytes
  deriving DecidableEq, Repr

structure SecureChannel where
  serial : Nat
  epoch : Nat
  deriving DecidableEq, Repr

inductive RelayEvent where
  | peerPresent
  | peerDisconnected
  | peerRejoined
  | sessionEnded
  deriving DecidableEq, Repr

/-- An envelope. A handshake is given by what `decodeHandshake` makes of its
payload; the payload of a data envelope is opaque until it is decrypted. -/
inductive Packet where
  | handshake (streamId : Nat) (payload : Option HandshakeMessage)
  | data (streamId : Nat)
  deriving DecidableEq, Repr

/-- The closures handed to `enqueueInbound`. -/
inductive Work where
  | status (lifecycle : Nat) (status : ConnectionStatus)
  | relay (lifecycle : Nat) (event : RelayEvent)
  | envelope (packet : Packet) (epoch : Nat)
  | voice
  deriving DecidableEq, Repr

structure SessionController where
  profile : TransportProfile
  secure : Option SecureChannel
  transportStatus : ConnectionStatus
  inboundVoice : VoiceFreshnessQueue Packet
  inboundVoiceScheduled : Bool
  inbound : List Work
  epochPreparation : Option Nat
  lifecycleEpoch : Nat
  secureEpoch : Nat
  startupInFlight : Bool
  endSessionTimer : Bool
  voiceIdleTimers : Nat
  remoteVoiceActive : Bool
  sender : Sender
  receiver : Receiver
  reliable : ReliableChannel ReliableBodyMessage
  localPublicKey : Option PublicKey
  peerPublicKey : Option Bytes
  initialHandshakeSent : Bool
  replyHandshakeSent : Bool
  establishing : Bool
  transferOrder : List String
  view : SessionViewState
  made : Nat

namespace SessionController

def voiceQueueMaxFrames (profile : TransportProfile) : Nat :=
  max 1 ((profile.voice.maxQueuedLatencyMs + profile.voice.frameMs - 1) / profile.voice.frameMs)

def create : SessionController where
  profile := getProfile .balanced
  secure := none
  transportStatus := .disconnected
  inboundVoice := .create (voiceQueueMaxFrames (getProfile .balanced))
    (getProfile .balanced).voice.maxQueuedLatencyMs
  inboundVoiceScheduled := false
  inbound := []
  epochPreparation := none
  lifecycleEpoch := 0
  secureEpoch := 0
  startupInFlight := false
  endSessionTimer := false
  voiceIdleTimers := 0
  remoteVoiceActive := false
  sender := .create (getProfile .balanced).files
  receiver := .create (getProfile .balanced).files
  reliable := .create defaultPolicy
  localPublicKey := none
  peerPublicKey := none
  initialHandshakeSent := false
  replyHandshakeSent := false
  establishing := false
  transferOrder := []
  view := .initial
  made := 0

/-- `Date.now()` and `performance.now()`. -/
def now (self : SessionController) : Nat := self.reliable.now

section Transcript

def maxTranscriptItems : Nat := 500

def maxRetainedTransfers : Nat := 30

def trimTranscript (items : List TranscriptItem) : List TranscriptItem :=
  items.drop (items.length - maxTranscriptItems)

def makeId (self : SessionController) (label : String) : String :=
  label ++ "_" ++ toString self.made

def addTranscript (self : SessionController) (item : TranscriptItem) : SessionController :=
  { self with view := { self.view with
      transcript := trimTranscript (self.view.transcript ++ [item]) } }

/-- `addTranscript` of an item with a drawn id. -/
def addDrawn (self : SessionController) (item : TranscriptItem) : SessionController :=
  { self with made := self.made + 1 }.addTranscript item

def addSystem (self : SessionController) (text : String) (severity : Severity) :
    SessionController :=
  let repeated := self.view.transcript.getLast?.any fun previous =>
    previous.kind = .system ∧ previous.text = utf16 text ∧ previous.severity = some severity
  if repeated then self
  else
    self.addDrawn ⟨self.makeId "sys", .system, .system, utf16 text, self.now, none, some severity,
      none⟩

def updateTranscriptStatus (self : SessionController) (id : String) (status : ItemStatus) :
    SessionController :=
  { self with view := { self.view with
      transcript := self.view.transcript.map fun item =>
        if item.id = id then { item with status := some status } else item } }

def setNotice (self : SessionController) (notice : String) : SessionController :=
  { self with view := { self.view with notice := some notice } }

end Transcript

section Transfers

def ensureTransferOrder (self : SessionController) (fileId : String) : SessionController :=
  if fileId ∈ self.transferOrder then self
  else { self with transferOrder := fileId :: self.transferOrder }

def removeTransferView (self : SessionController) (fileId : String) : SessionController :=
  { self with
    view := { self.view with
      transfers := self.view.transfers.filter fun item => item.fileId ≠ fileId
      transcript := self.view.transcript.filter fun item =>
        ¬(item.kind = .file ∧ item.fileId = some fileId) }
    transferOrder := self.transferOrder.filter fun id => id ≠ fileId }

/-- The body of the loop of `trimRetainedTransfers`, and of `removeFile`. -/
def forgetTransfer (self : SessionController) (fileId : String) : SessionController :=
  { self with
    sender := self.sender.remove fileId
    receiver := self.receiver.remove fileId }.removeTransferView fileId

def retained (self : SessionController) : List String :=
  self.transferOrder.filter fun id =>
    self.view.transfers.any fun item => item.fileId = id ∧ item.state.terminal

def trimRetainedTransfers (self : SessionController) : SessionController :=
  (self.retained.drop maxRetainedTransfers).foldl forgetTransfer self

/-- `new Map(transfers)` with one entry set; the last view of an id counts. -/
def viewsById (transfers : List TransferView) (view : TransferView) :
    InsertionMap String TransferView :=
  let existing := transfers.foldl
    (fun (views : InsertionMap String TransferView) item => views.set item.fileId item) .empty
  existing.set view.fileId view

def showTransfer (self : SessionController) (view : TransferView) : SessionController :=
  let ordered := self.ensureTransferOrder view.fileId
  { ordered with view := { ordered.view with
      transfers := ordered.transferOrder.filterMap
        (viewsById ordered.view.transfers view).get? } }

def listFile (self : SessionController) (view : TransferView) : SessionController :=
  let listed := self.view.transcript.any fun item =>
    item.kind = .file ∧ item.fileId = some view.fileId
  if listed then self
  else
    let author := if view.direction = .send then Author.me else .peer
    self.addDrawn ⟨self.makeId "file", .file, author, view.name, self.now, none, none,
      some view.fileId⟩

def upsertTransfer (self : SessionController) (view : TransferView) : SessionController :=
  ((self.showTransfer view).listFile view).trimRetainedTransfers

end Transfers

section Components

/-- `sendApp`, as far as the session keeps track of it. -/
def sendApp (self : SessionController) (message : CoreAppMessage) (lane : LaneName)
    (trackingId : Option String) : SessionController :=
  match reliableBody message lane with
  | none => self
  | some body =>
      { self with
        reliable := (self.reliable.send (self.makeId "reliable") trackingId
          (if lane = .text then .text else .control) body).1
        made := self.made + 1 }

def absorbReliable : List (Note ReliableBodyMessage) → SessionController → SessionController
  | [], self => self
  | .onDelivered _ (some trackingId) :: rest, self =>
      absorbReliable rest (self.updateTranscriptStatus trackingId .sent)
  | .onFailed _ trackingId reason :: rest, self =>
      let marked := match trackingId with
        | none => self
        | some id => self.updateTranscriptStatus id .failed
      absorbReliable rest ((marked.setNotice reason).addSystem reason .error)
  | _ :: rest, self => absorbReliable rest self

/-- A turn of the reliable channel and its callbacks. -/
def withReliable (self : SessionController)
    (turned : ReliableChannel ReliableBodyMessage × List (Note ReliableBodyMessage)) :
    SessionController :=
  absorbReliable turned.2 { self with reliable := turned.1 }

def mapSenderStatus : SenderStatus → TransferState
  | .offered => .waiting
  | .sending => .sending
  | .paused => .paused
  | .queued => .queued
  | .completed => .completed
  | .cancelled => .cancelled
  | .failed => .failed

def mapReceiverStatus : ReceiverStatus → TransferState
  | .offered => .offered
  | .receiving => .receiving
  | .completed => .completed
  | .cancelled => .cancelled
  | .failed => .failed

def isVoiceActive (self : SessionController) : Bool :=
  self.view.voice ∈ [VoiceState.starting, .active, .muted]

def hasActiveFile (self : SessionController) : Bool :=
  self.view.transfers.any fun transfer => transfer.direction = .send ∧
    transfer.state ∈ [TransferState.offered, .waiting, .sending, .paused, .queued]

def hasActiveSendingFileExceptQueued (self : SessionController) (fileId : String) : Bool :=
  self.view.transfers.any fun transfer => transfer.fileId ≠ fileId ∧ transfer.direction = .send ∧
    transfer.state ∈ [TransferState.offered, .waiting, .sending, .paused]

def fileLane : FileLane → LaneName
  | .control => .control
  | .file => .file

def showSender (self : SessionController) (snapshot : SenderSnapshot) : SessionController :=
  self.upsertTransfer ⟨snapshot.fileId, .send, snapshot.name, snapshot.size, snapshot.sentBytes,
    mapSenderStatus snapshot.status, snapshot.reason, none⟩

/-- The callbacks of a turn of the sender, given what `onUpdate` does. -/
def absorbSender (onUpdate : SessionController → SenderSnapshot → SessionController) :
    List SenderNote → SessionController → SessionController
  | [], self => self
  | .onUpdate snapshot :: rest, self => absorbSender onUpdate rest (onUpdate self snapshot)
  | .sendApp message lane :: rest, self =>
      absorbSender onUpdate rest (self.sendApp (.file message) (fileLane lane) none)
  | .setTimeout _ :: rest, self => absorbSender onUpdate rest self

/-- `sender.startQueued` shows no snapshot but an `offered` one, for which
`updateSender` is `showSender`. -/
def startQueued (self : SessionController) (fileId : String) : SessionController :=
  let turned := { self.sender with notes := [] }.startQueued fileId
  absorbSender showSender turned.notes { self with sender := turned }

def startNextQueuedFileIfAllowed (self : SessionController) : SessionController :=
  if self.isVoiceActive ∨ self.remoteVoiceActive then self
  else if self.view.connection ≠ .connected then self
  else
    match self.view.transfers.reverse.find? fun transfer =>
        transfer.direction = .send ∧ transfer.state = .queued with
    | none => self
    | some queued =>
        if self.hasActiveSendingFileExceptQueued queued.fileId then self
        else self.startQueued queued.fileId

def updateSender (self : SessionController) (snapshot : SenderSnapshot) : SessionController :=
  let shown := self.showSender snapshot
  if snapshot.status.terminal then shown.startNextQueuedFileIfAllowed else shown

/-- A turn of the sender and its callbacks. -/
def withSender (self : SessionController) (turned : Sender) : SessionController :=
  absorbSender updateSender turned.notes { self with sender := turned }

def onSender (self : SessionController) (action : Sender → Sender) : SessionController :=
  self.withSender (action { self.sender with notes := [] })

def updateReceiver (self : SessionController) (snapshot : ReceiverSnapshot) : SessionController :=
  self.upsertTransfer ⟨snapshot.fileId, .receive, snapshot.name, snapshot.size,
    snapshot.receivedBytes, mapReceiverStatus snapshot.status, snapshot.reason, snapshot.blobUrl⟩

def absorbReceiver : List ReceiverNote → SessionController → SessionController
  | [], self => self
  | .onUpdate snapshot :: rest, self => absorbReceiver rest (self.updateReceiver snapshot)
  | .sendApp message :: rest, self =>
      absorbReceiver rest (self.sendApp (.file message) .control none)
  | _ :: rest, self => absorbReceiver rest self

/-- A turn of the receiver and its callbacks. -/
def withReceiver (self : SessionController) (turned : Receiver) : SessionController :=
  absorbReceiver turned.notes { self with receiver := turned }

def onReceiver (self : SessionController) (action : Receiver → Receiver) : SessionController :=
  self.withReceiver (action { self.receiver with notes := [] })

def updateFilePauseForVoice (self : SessionController) : SessionController :=
  let shouldPause := self.isVoiceActive || self.remoteVoiceActive
  let paused := self.onSender fun sender => sender.setGlobalPaused shouldPause "Paused during voice"
  if shouldPause then paused else paused.startNextQueuedFileIfAllowed

end Components

section Inbound

def enqueueInbound (self : SessionController) (work : Work) : SessionController :=
  { self with inbound := self.inbound ++ [work] }

def scheduleInboundVoice (self : SessionController) : SessionController :=
  if self.inboundVoiceScheduled then self
  else { self with inboundVoiceScheduled := true }.enqueueInbound .voice

def queueInboundVoice (self : SessionController) (packet : Packet) : SessionController :=
  if self.secure = none then self
  else { self with inboundVoice := (self.inboundVoice.push packet self.now).queue }.scheduleInboundVoice

def routeEnvelope (self : SessionController) (packet : Packet) : SessionController :=
  match packet with
  | .data 4 => self.queueInboundVoice packet
  | _ => self.enqueueInbound (.envelope packet self.secureEpoch)

/-- `setStatus` of the transport with the handler of the session. -/
def transportChanged (self : SessionController) (status : ConnectionStatus) : SessionController :=
  if self.transportStatus = status then self
  else { self with transportStatus := status }.enqueueInbound (.status self.lifecycleEpoch status)

def clearVoiceQueues (self : SessionController) : SessionController :=
  { self with inboundVoice := self.inboundVoice.clear.queue, inboundVoiceScheduled := false }

end Inbound

section Lifecycle

/-- `disconnect`, up to its `patch`. -/
def tearDown (self : SessionController) : SessionController :=
  let counted := { self with
    lifecycleEpoch := self.lifecycleEpoch + 1
    secureEpoch := self.secureEpoch + 1
    endSessionTimer := false
    establishing := false
    initialHandshakeSent := false
    replyHandshakeSent := false
    epochPreparation := none
    remoteVoiceActive := false
    sender := self.sender.reset
    receiver := self.receiver.reset }.clearVoiceQueues
  let closed := counted.transportChanged .disconnected
  { closed with
    secure := none
    localPublicKey := none
    peerPublicKey := none
    transferOrder := []
    reliable := closed.reliable.reset.1 }

def disconnect (self : SessionController) (silent : Bool) (notice : String) : SessionController :=
  let torn := self.tearDown
  if silent then torn
  else
    { torn with view := { torn.view with
        phase := .ended
        connection := .disconnected
        security := .none
        safetyPhrase := none
        voice := .idle
        muted := false
        audioPlaybackBlocked := false
        notice := some notice
        transcript := []
        transfers := [] } }

/-- The default `notice` of `disconnect`. -/
def roomClosed : String := "Room closed on this device."

def adoptProfile (self : SessionController) (id : TransportProfileId) : SessionController :=
  let profile := getProfile id
  { self with
    profile := profile
    sender := { self.sender with files := profile.files }
    receiver := { self.receiver with files := profile.files }
    inboundVoice := (self.inboundVoice.setLimits (voiceQueueMaxFrames profile)
      profile.voice.maxQueuedLatencyMs).queue }

/-- `start`, up to the await of `crypto.configure`. -/
def start (self : SessionController) (code : String) (phase : StartPhase)
    (selectedProfileId : TransportProfileId) : SessionController :=
  let adopted := (self.disconnect true roomClosed).adoptProfile selectedProfileId
  { adopted with
    view := { adopted.view with
      phase := phase.phase
      roomCode := code
      profileId := selectedProfileId
      connection := .connecting
      security := .none
      safetyPhrase := none
      notice := some (if phase = .creating then "Room created. Share the code." else "Joining room…")
      transcript := []
      transfers := []
      invalidPackets := 0
      voice := .idle
      muted := false
      audioPlaybackBlocked := false } }

/-- The `catch` and `finally` of `createRoom` and `joinRoom`. -/
def startupFailed (self : SessionController) (message : String) : SessionController :=
  let torn := self.disconnect true roomClosed
  { torn with
    view := { torn.view with phase := .idle, roomCode := "", notice := some message }
    startupInFlight := false }

/-- The closure of `prepareFreshCryptoEpoch`, up to the await of `crypto.reset`. -/
def freshEpoch (self : SessionController) (notice : String) : SessionController :=
  let counted := { self with
    secureEpoch := self.secureEpoch + 1
    establishing := false
    initialHandshakeSent := false
    replyHandshakeSent := false
    remoteVoiceActive := false
    sender := self.sender.reset
    receiver := self.receiver.reset
    transferOrder := [] }.clearVoiceQueues
  let failed := counted.withReliable
    (counted.reliable.failAll "Session changed. Unsent messages were not delivered.")
  { failed with
    reliable := failed.reliable.reset.1
    secure := none
    localPublicKey := none
    peerPublicKey := none
    view := { failed.view with
      phase := .waiting
      security := .none
      safetyPhrase := none
      voice := .idle
      muted := false
      audioPlaybackBlocked := false
      transfers := []
      transcript := failed.view.transcript.filter fun item => item.kind ≠ .file
      notice := some notice } }

end Lifecycle

end SessionController

end OnlyTwo.Session
