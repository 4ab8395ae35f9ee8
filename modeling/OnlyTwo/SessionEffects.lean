import OnlyTwo.SessionLoop

/-!
Which parts of the session an operation leaves alone. `core` is the part that
decides whether a secure session exists: the epochs, the channel and its keys,
the phase and the security state; with it go the startup in flight and the
inbound work that prepares a fresh epoch. Everything that only shows texts,
transfers or voice, and every turn of the file sender, the file receiver and the
reliable channel, keeps it.
-/

namespace OnlyTwo.Session

open Bytes FileProtocol FileSender FileReceiver Reliable AppMessages

/-- Work that calls `prepareFreshCryptoEpoch` if it still counts when its turn comes. -/
def Work.prepares : Work → Bool
  | .status _ .connected => true
  | .status _ .reconnecting => true
  | .relay _ .peerPresent => true
  | .relay _ .peerDisconnected => true
  | .relay _ .peerRejoined => true
  | _ => false

structure Core where
  profile : TransportProfile
  secure : Option SecureChannel
  lifecycleEpoch : Nat
  secureEpoch : Nat
  localPublicKey : Option PublicKey
  peerPublicKey : Option Bytes
  phase : Phase
  security : SecurityState
  safetyPhrase : Option String
  startupInFlight : Bool
  duties : List Work

namespace SessionController

variable (self : SessionController)

def duties : List Work := self.inbound.filter Work.prepares

def core : Core :=
  ⟨self.profile, self.secure, self.lifecycleEpoch, self.secureEpoch, self.localPublicKey,
    self.peerPublicKey, self.view.phase, self.view.security, self.view.safetyPhrase,
    self.startupInFlight, self.duties⟩

section Kept

@[simp] theorem core_addTranscript (item : TranscriptItem) :
    (self.addTranscript item).core = self.core := by
  simp only [addTranscript, core, duties]

@[simp] theorem core_addDrawn (item : TranscriptItem) :
    (self.addDrawn item).core = self.core := by
  rw [addDrawn, core_addTranscript]
  rfl

@[simp] theorem core_addSystem (text : String) (severity : Severity) :
    (self.addSystem text severity).core = self.core := by
  simp only [addSystem]
  split <;> simp

@[simp] theorem core_updateTranscriptStatus (id : String) (status : ItemStatus) :
    (self.updateTranscriptStatus id status).core = self.core := rfl

@[simp] theorem core_setNotice (notice : String) : (self.setNotice notice).core = self.core := rfl

@[simp] theorem core_ensureTransferOrder (fileId : String) :
    (self.ensureTransferOrder fileId).core = self.core := by
  unfold ensureTransferOrder
  split <;> rfl

@[simp] theorem core_forgetTransfer (fileId : String) :
    (self.forgetTransfer fileId).core = self.core := rfl

theorem core_foldl_forgetTransfer (fileIds : List String) :
    (fileIds.foldl forgetTransfer self).core = self.core := by
  induction fileIds generalizing self with
  | nil => rfl
  | cons fileId rest ih =>
      rw [List.foldl_cons, ih]
      exact core_forgetTransfer self fileId

@[simp] theorem core_upsertTransfer (view : TransferView) :
    (self.upsertTransfer view).core = self.core := by
  have shown : (self.showTransfer view).core = self.core := core_ensureTransferOrder self view.fileId
  have listed : ((self.showTransfer view).listFile view).core = self.core := by
    simp only [listFile]
    split
    · exact shown
    · exact (core_addDrawn _ _).trans shown
  exact (core_foldl_forgetTransfer _ _).trans listed

@[simp] theorem core_sendApp (message : CoreAppMessage) (lane : LaneName)
    (trackingId : Option String) : (self.sendApp message lane trackingId).core = self.core := by
  unfold sendApp
  split <;> rfl

theorem core_absorbReliable (notes : List (Note ReliableBodyMessage)) :
    (absorbReliable notes self).core = self.core := by
  induction notes generalizing self with
  | nil => rfl
  | cons note rest ih =>
      cases note with
      | onDelivered id trackingId =>
          cases trackingId with
          | none => exact ih self
          | some trackingId => exact ih _
      | onFailed id trackingId reason =>
          cases trackingId with
          | none => exact (ih _).trans (core_addSystem _ reason .error)
          | some trackingId => exact (ih _).trans (core_addSystem _ reason .error)
      | _ => exact ih self

@[simp] theorem core_withReliable
    (turned : ReliableChannel ReliableBodyMessage × List (Note ReliableBodyMessage)) :
    (self.withReliable turned).core = self.core :=
  core_absorbReliable _ turned.2

/-- The callbacks of the sender keep the core if `onUpdate` does. -/
theorem core_absorbSender {onUpdate : SessionController → SenderSnapshot → SessionController}
    (kept : ∀ session snapshot, (onUpdate session snapshot).core = session.core)
    (notes : List SenderNote) : (absorbSender onUpdate notes self).core = self.core := by
  induction notes generalizing self with
  | nil => rfl
  | cons note rest ih =>
      cases note with
      | onUpdate snapshot => exact (ih _).trans (kept self snapshot)
      | sendApp message lane => exact (ih _).trans (core_sendApp self _ _ _)
      | setTimeout timer => exact ih self

@[simp] theorem core_showSender (snapshot : SenderSnapshot) :
    (self.showSender snapshot).core = self.core :=
  core_upsertTransfer self _

@[simp] theorem core_startQueued (fileId : String) : (self.startQueued fileId).core = self.core :=
  core_absorbSender _ core_showSender _

@[simp] theorem core_startNextQueuedFileIfAllowed :
    self.startNextQueuedFileIfAllowed.core = self.core := by
  unfold startNextQueuedFileIfAllowed
  split
  · rfl
  · split
    · rfl
    · split
      · rfl
      · split <;> simp

@[simp] theorem core_updateSender (snapshot : SenderSnapshot) :
    (self.updateSender snapshot).core = self.core := by
  simp only [updateSender]
  split <;> simp

@[simp] theorem core_withSender (turned : Sender) : (self.withSender turned).core = self.core :=
  core_absorbSender _ core_updateSender _

@[simp] theorem core_onSender (action : Sender → Sender) :
    (self.onSender action).core = self.core :=
  core_withSender self _

theorem core_absorbReceiver (notes : List ReceiverNote) :
    (absorbReceiver notes self).core = self.core := by
  induction notes generalizing self with
  | nil => rfl
  | cons note rest ih =>
      cases note with
      | onUpdate snapshot => exact (ih _).trans (core_upsertTransfer self _)
      | sendApp message => exact (ih _).trans (core_sendApp self _ _ _)
      | onComplete file => exact ih self
      | stored ref fileId index bytes status => exact ih self

@[simp] theorem core_withReceiver (turned : Receiver) :
    (self.withReceiver turned).core = self.core :=
  core_absorbReceiver _ turned.notes

@[simp] theorem core_onReceiver (action : Receiver → Receiver) :
    (self.onReceiver action).core = self.core :=
  core_withReceiver self _

@[simp] theorem core_updateFilePauseForVoice : self.updateFilePauseForVoice.core = self.core := by
  simp only [updateFilePauseForVoice]
  split <;> simp

@[simp] theorem core_clearVoiceQueues : self.clearVoiceQueues.core = self.core := rfl

theorem core_enqueueInbound {work : Work} (idle : work.prepares = false) :
    (self.enqueueInbound work).core = self.core := by
  simp [enqueueInbound, core, duties, idle]

@[simp] theorem core_scheduleInboundVoice : self.scheduleInboundVoice.core = self.core := by
  unfold scheduleInboundVoice
  split
  · rfl
  · exact core_enqueueInbound { self with inboundVoiceScheduled := true } rfl

@[simp] theorem core_voiceTurnOver (queued : Bool) : (self.voiceTurnOver queued).core = self.core := by
  simp only [voiceTurnOver]
  split
  · split
    · exact core_scheduleInboundVoice _
    · rfl
  · rfl

@[simp] theorem core_packetDropped : self.packetDropped.core = self.core := by
  simp only [packetDropped]
  split <;> rfl

@[simp] theorem core_established : self.established.core = self.core := rfl

/-- What the transport reports only waits for its turn. -/
theorem core_transportChanged (status : ConnectionStatus) :
    (self.transportChanged status).core =
      { self.core with duties := (self.transportChanged status).duties } := by
  unfold transportChanged
  split <;> rfl

@[simp] theorem core_routeEnvelope (packet : Packet) :
    (self.routeEnvelope packet).core = self.core := by
  unfold routeEnvelope
  split
  · unfold queueInboundVoice
    split
    · rfl
    · exact core_scheduleInboundVoice _
  · exact core_enqueueInbound self rfl

@[simp] theorem core_sendInitialHandshake : self.sendInitialHandshake.1.core = self.core := by
  unfold sendInitialHandshake
  split <;> rfl

@[simp] theorem core_sendReplyHandshake : self.sendReplyHandshake.1.core = self.core := by
  unfold sendReplyHandshake
  split <;> rfl

@[simp] theorem core_preparationOver (preparation : Preparation) :
    (self.preparationOver preparation).core = self.core := by
  unfold preparationOver
  split <;> rfl

end Kept

section Handlers

@[simp] theorem core_awaitReceiver (turned : Receiver) :
    (self.awaitReceiver turned).1.core = self.core :=
  core_withReceiver self turned

@[simp] theorem core_handleFile (message : FileMessage) :
    (self.handleFile message).1.core = self.core := by
  cases message <;> simp [handleFile]

@[simp] theorem core_handleCore (message : CoreAppMessage) :
    (self.handleCore message).1.core = self.core := by
  cases message with
  | sessionVerified time =>
      simp only [handleCore]
      split <;> simp
  | text messageId body createdAt => exact core_addTranscript self _
  | file message => exact core_handleFile self message
  | voiceStart fields =>
      simp only [handleCore]
      split
      · simp
        rfl
      · rfl
  | voiceFrame streamId seq sentAt sampleRate frameMs pcm16 =>
      simp only [handleCore]
      split <;> rfl
  | voiceStop streamId =>
      simp only [handleCore]
      split
      · rfl
      · simp
        rfl

@[simp] theorem core_handleAppMessage (message : AppMessage) :
    (self.handleAppMessage message).1.core = self.core := by
  cases message with
  | core message => exact core_handleCore self message
  | reliable message => cases message <;> simp [handleAppMessage]

end Handlers

end SessionController

end OnlyTwo.Session
