import OnlyTwo.FileSenderCalls
import OnlyTwo.SessionDesk

/-!
What an event of the loop does to the transfers that a session lists: to the file sender, the
file receiver, `transferOrder`, the views and the transcript. Apart from what is `Aside` it is a
few deeds, which every function strings together. `Rules` says when a deed is permitted whose
effect depends on the peer or on what happened during an await; each result about transfers has
its own.
-/

namespace OnlyTwo.Session

open Bytes FileProtocol FileSender FileReceiver Reliable AppMessages

section Deeds

structure Rules where
  turn : SessionController → FileSender.Event → Prop
  receive : SessionController → FileReceiver.Event → Prop
  draw : SessionController → Prop
  order : SessionController → String → Prop
  tear : SessionController → Prop

structure Rules.Fair (rules : Rules) : Prop where
  turn : ∀ {before after event}, Aside before after → rules.turn before event →
    rules.turn after event
  receive : ∀ {before after event}, Aside before after → rules.receive before event →
    rules.receive after event
  plain : ∀ {session event}, FileSender.Event.plain event = true → rules.turn session event
  taken : ∀ {session event}, (∀ fields, event ≠ .offer fields) → rules.receive session event

/-- Both sides have let go of their transfers, and so has the order. -/
structure Cleared (before after : SessionController) : Prop where
  sender : ∃ files, after.sender = { before.sender.reset with files }
  receiver : ∃ files, after.receiver = { before.receiver.reset with files }
  order : after.transferOrder = []
  transcript : before.view.transcript.length ≤ SessionController.maxTranscriptItems →
    after.view.transcript.length ≤ SessionController.maxTranscriptItems

inductive Deed (digest : Bytes → String) (rules : Rules) (before : SessionController) :
    SessionController → Prop where
  | aside {after : SessionController} : Aside before after → Deed digest rules before after
  | adopted (id : TransportProfileId) : Deed digest rules before (before.adoptProfile id)
  | sent (event : FileSender.Event) {turned : Sender} : rules.turn before event →
      { before.sender with notes := [] }.turn digest event = some turned →
      Deed digest rules before (before.withSender turned)
  | offered (file : File) : rules.draw before →
      validateOutboundFile file before.sender.files = .ok () →
      Deed digest rules before ({ before with made := before.made + 1 }.withSender
        ({ before.sender with notes := [] }.offer (before.makeId "file") file
          (before.isVoiceActive || before.hasActiveFile)))
  | next : Deed digest rules before before.startNextQueuedFileIfAllowed
  | received (event : FileReceiver.Event) {turned : Receiver} : rules.receive before event →
      { before.receiver with notes := [] }.turn digest event = some turned →
      Deed digest rules before (before.withReceiver turned)
  | forgot (transfer : TransferView) : transfer ∈ before.view.transfers →
      transfer.state.terminal = true → Deed digest rules before (before.forgetTransfer transfer.fileId)
  | ordered (fileId : String) : rules.order before fileId →
      Deed digest rules before (before.ensureTransferOrder fileId)
  | torn {after : SessionController} : Cleared before after →
      after.view.transfers = before.view.transfers → rules.tear before →
      Deed digest rules before after
  | emptied {after : SessionController} : Cleared before after → after.view.transfers = [] →
      Deed digest rules before after

abbrev Deeds (digest : Bytes → String) (rules : Rules) :
    SessionController → SessionController → Prop :=
  Relation.ReflTransGen (Deed digest rules)

variable {digest : Bytes → String} {rules : Rules} {before after : SessionController}

theorem Deeds.aside (aside : Aside before after) : Deeds digest rules before after :=
  .single (.aside aside)

/-- What a message of the peer asks of the rules. -/
def Rules.grants (rules : Rules) (session : SessionController) : CoreAppMessage → Prop
  | .file (.offer fields) => rules.receive session (.offer fields) ∧
      ∀ after, Aside session after →
        rules.order (after.onReceiver fun receiver => receiver.offer fields) fields.fileId
  | .file (.accept fileId) => rules.turn session (.accept fileId)
  | .file (.pause fileId reason) => rules.turn session (.pause fileId reason)
  | _ => True

theorem Rules.Fair.grants (fair : rules.Fair) (aside : Aside before after)
    {message : CoreAppMessage} (granted : rules.grants before message) :
    rules.grants after message := by
  cases message with
  | file message =>
      cases message with
      | offer fields =>
          exact ⟨fair.receive aside granted.1, fun last more => granted.2 last (aside.trans more)⟩
      | accept fileId => exact fair.turn aside granted
      | pause fileId reason => exact fair.turn aside granted
      | _ => trivial
  | _ => trivial

end Deeds

namespace SessionController

variable {digest : Bytes → String} {rules : Rules} {self : SessionController}

section Messages

theorem updateFilePauseForVoice_deeds (fair : rules.Fair) :
    Deeds digest rules self self.updateFilePauseForVoice := by
  have turned : Deed digest rules self (self.onSender fun sender =>
      sender.setGlobalPaused (self.isVoiceActive || self.remoteVoiceActive) "Paused during voice") :=
    .sent (.setGlobalPaused _ _) (fair.plain rfl) rfl
  simp only [updateFilePauseForVoice]
  split
  · exact .single turned
  · exact (Relation.ReflTransGen.single turned).tail .next

theorem handleFile_deeds (fair : rules.Fair) {message : FileMessage}
    (granted : rules.grants self (.file message)) :
    Deeds digest rules self (self.handleFile message).1 := by
  cases message with
  | offer fields =>
      have taken : Deed digest rules self (self.onReceiver fun receiver => receiver.offer fields) :=
        .received (.offer fields) granted.1 rfl
      exact (Relation.ReflTransGen.single taken).tail
        (.ordered fields.fileId (granted.2 self (.refl self)))
  | accept fileId => exact .single (.sent (.accept fileId) granted rfl)
  | reject fileId reason => exact .single (.sent (.cancel fileId reason false) (fair.plain rfl) rfl)
  | chunk fileId index totalChunks data =>
      exact .single (.received (.chunk fileId index totalChunks data) (fair.taken (by simp)) rfl)
  | ack fileId index => exact .single (.sent (.ack fileId index) (fair.plain rfl) rfl)
  | nack fileId index reason =>
      exact .single (.sent (.nack fileId index reason) (fair.plain rfl) rfl)
  | pause fileId reason => exact .single (.sent (.pause fileId reason) granted rfl)
  | resume fileId => exact .single (.sent (.resume fileId) (fair.plain rfl) rfl)
  | cancel fileId reason => exact .single (.sent (.cancel fileId reason false) (fair.plain rfl) rfl)
  | complete fileId sha256 =>
      exact .single (.received (.completeNotice fileId) (fair.taken (by simp)) rfl)

theorem handleCore_deeds (fair : rules.Fair) {message : CoreAppMessage}
    (granted : rules.grants self message) : Deeds digest rules self (self.handleCore message).1 := by
  cases message with
  | sessionVerified time =>
      simp only [handleCore]
      split
      · exact .refl
      · exact .aside ((setNotice_aside self _).trans (addSystem_aside _ _ _))
  | text messageId body createdAt => exact .aside (addTranscript_aside self _)
  | file message => exact handleFile_deeds fair granted
  | voiceStart fields =>
      simp only [handleCore]
      split
      · have flagged : Aside self { self with remoteVoiceActive := true } := ⟨rfl, rfl, rfl, rfl, id⟩
        have told := flagged.trans (setNotice_aside _ "Peer started voice.")
        exact (Deeds.aside (told.trans (addSystem_aside _ _ _))).trans
          (updateFilePauseForVoice_deeds fair)
      · exact .refl
  | voiceFrame streamId seq sentAt sampleRate frameMs pcm16 =>
      simp only [handleCore]
      split <;> exact .refl
  | voiceStop streamId =>
      simp only [handleCore]
      split
      · exact .refl
      · have stopped : Aside self { self with
            remoteVoiceActive := false
            inboundVoice := self.inboundVoice.clear.queue
            view := { self.view with
              audioPlaybackBlocked := false
              notice := some "Peer ended voice." } } := ⟨rfl, rfl, rfl, rfl, id⟩
        exact ((Deeds.aside stopped).trans (updateFilePauseForVoice_deeds fair)).tail
          (.aside (addSystem_aside _ _ _))

/-- The message that a turn of `onEnvelope` hands to `handleCore`. -/
def handles (self : SessionController) (call : MessageCall) : Reply → Option CoreAppMessage
  | .message (.core message) =>
      match call.stage with
      | .decrypting secure streamId =>
          if call.epoch = self.secureEpoch ∧ some secure = self.secure ∧
              validateInboundStream (.core message) streamId = .ok () then some message
          else none
      | _ => none
  | .flag _ =>
      match call.stage with
      | .acknowledging index =>
          (self.reliable.receiving[index]?).bind fun receipt =>
            unwrapped (self.reliable.ackSent index receipt).2
      | _ => none
  | _ => none

theorem handleAppMessage_deeds (fair : rules.Fair) {message : AppMessage}
    (granted : ∀ core, message = .core core → rules.grants self core) :
    Deeds digest rules self (self.handleAppMessage message).1 := by
  cases message with
  | core message => exact handleCore_deeds fair (granted message rfl)
  | reliable message => cases message <;> exact .aside (withReliable_aside self _)

theorem resumeMessage_deeds (fair : rules.Fair) {call : MessageCall} {reply : Reply}
    {turned : SessionController × Progress MessageStage}
    (granted : ∀ message, self.handles call reply = some message → rules.grants self message)
    (resumed : self.resumeMessage digest call reply = some turned) :
    Deeds digest rules self turned.1 := by
  unfold resumeMessage at resumed
  split at resumed
  · cases resumed
    exact .refl
  · rename_i secure streamId message stage
    split at resumed
    · cases resumed
      exact .refl
    · rename_i current
      split at resumed
      · cases resumed
        exact .refl
      · rename_i valid
        cases resumed
        refine handleAppMessage_deeds fair fun core same => granted core ?_
        subst same
        have live : call.epoch = self.secureEpoch ∧ some secure = self.secure := by
          simpa [not_or] using current
        simp only [handles, stage]
        exact if_pos ⟨live.1, live.2, valid⟩
  · rename_i index flag stage
    obtain ⟨receipt, found, rfl⟩ := Option.map_eq_some_iff.mp resumed
    have taken : Aside self (self.withReliable (self.reliable.ackSent index receipt)) :=
      withReliable_aside self _
    dsimp only
    split
    · exact .aside taken
    · rename_i body unwraps
      refine (Deeds.aside taken).trans (handleCore_deeds fair (fair.grants taken (granted body ?_)))
      simp only [handles, stage, found, Option.bind_some, unwraps]
  · cases resumed
    exact .single .next
  · cases resumed
    exact .single (.received (.peerCancel _ _) (fair.taken (by simp)) rfl)
  · cases resumed
    exact .single .next
  · obtain ⟨settled, stepped, rfl⟩ := Option.map_eq_some_iff.mp resumed
    exact .single (.received (.settle _ _) (fair.taken (by simp)) stepped)
  · cases resumed
    exact .refl
  · split at resumed
    · cases resumed
      exact .refl
    · cases resumed
      have blocked : Aside self { self with view := { self.view with
          audioPlaybackBlocked := true
          notice := some voiceBlocked } } := ⟨rfl, rfl, rfl, rfl, id⟩
      exact .aside (blocked.trans (addSystem_aside _ _ _))
  · cases resumed
    exact .refl
  · cases resumed

end Messages

section Clearing

/-- What `tearDown` does before its transport closes. -/
theorem tearDown_aside : Aside { self with
    sender := self.sender.reset
    receiver := self.receiver.reset
    transferOrder := [] } self.tearDown := by
  have closed := transportChanged_aside
    { self with
      lifecycleEpoch := self.lifecycleEpoch + 1
      secureEpoch := self.secureEpoch + 1
      endSessionTimer := false
      establishing := false
      initialHandshakeSent := false
      replyHandshakeSent := false
      epochPreparation := none
      remoteVoiceActive := false
      sender := self.sender.reset
      receiver := self.receiver.reset }.clearVoiceQueues .disconnected
  exact ⟨closed.sender, closed.receiver, rfl, closed.transfers, closed.transcript⟩

theorem tearDown_cleared : Cleared self self.tearDown where
  sender := ⟨self.sender.reset.files, tearDown_aside.sender⟩
  receiver := ⟨self.receiver.reset.files, tearDown_aside.receiver⟩
  order := rfl
  transcript := tearDown_aside.transcript

theorem disconnect_deeds (notice : String) :
    Deeds digest rules self (self.disconnect false notice) := by
  have cleared : Cleared self self.tearDown := tearDown_cleared
  exact .single (.emptied ⟨cleared.sender, cleared.receiver, rfl, fun _ => Nat.zero_le _⟩ rfl)

theorem unload_deeds (notice : String) (permitted : rules.tear self) :
    Deeds digest rules self (self.disconnect true notice) :=
  .single (.torn tearDown_cleared tearDown_aside.transfers permitted)

theorem startupFailed_deeds (message : String) (permitted : rules.tear self) :
    Deeds digest rules self (self.startupFailed message) := by
  have cleared : Cleared self self.tearDown := tearDown_cleared
  exact .single (.torn ⟨cleared.sender, cleared.receiver, rfl, cleared.transcript⟩
    tearDown_aside.transfers permitted)

theorem start_deeds (code : String) (phase : StartPhase) (profileId : TransportProfileId) :
    Deeds digest rules self (self.start code phase profileId) := by
  have torn : Aside _ self.tearDown := tearDown_aside
  refine .single (.emptied ⟨⟨(getProfile profileId).files, ?_⟩, ⟨(getProfile profileId).files, ?_⟩,
    rfl, fun _ => Nat.zero_le _⟩ rfl)
  · change { self.tearDown.sender with files := (getProfile profileId).files } = _
    rw [torn.sender]
  · change { self.tearDown.receiver with files := (getProfile profileId).files } = _
    rw [torn.receiver]

theorem freshEpoch_deeds (notice : String) : Deeds digest rules self (self.freshEpoch notice) := by
  have failed := withReliable_aside
    { self with
      secureEpoch := self.secureEpoch + 1
      establishing := false
      initialHandshakeSent := false
      replyHandshakeSent := false
      remoteVoiceActive := false
      sender := self.sender.reset
      receiver := self.receiver.reset
      transferOrder := [] }.clearVoiceQueues
    (self.reliable.failAll "Session changed. Unsent messages were not delivered.")
  refine .single (.emptied ⟨⟨self.sender.reset.files, ?_⟩, ⟨self.receiver.reset.files, ?_⟩, ?_, ?_⟩ rfl)
  · exact failed.sender
  · exact failed.receiver
  · exact failed.order
  · intro bound
    exact (List.length_filter_le _ _).trans (failed.transcript bound)

end Clearing

section Control

theorem greet_deeds (fair : rules.Fair) (unpauses : Bool) :
    Deeds digest rules self (self.greet unpauses).1 := by
  have greeted : Deeds digest rules self self.sendInitialHandshake.1 :=
    .aside (sendInitialHandshake_aside self)
  simp only [greet]
  split
  · exact greeted
  · split
    · exact greeted.trans (updateFilePauseForVoice_deeds fair)
    · exact greeted

theorem runSequel_deeds (fair : rules.Fair) (sequel : Sequel) :
    Deeds digest rules self (self.runSequel sequel).1 := by
  cases sequel with
  | reconnecting => exact .refl
  | connected =>
      simp only [runSequel]
      split
      · exact greet_deeds fair true
      · exact updateFilePauseForVoice_deeds fair
  | present => exact greet_deeds fair false
  | disconnected =>
      have shown : Aside self { self with view := { self.view with
          phase := .waiting
          notice := some "Peer disconnected. Waiting for rejoin…" } } := ⟨rfl, rfl, rfl, rfl, id⟩
      exact .aside (shown.trans (addSystem_aside _ _ _))
  | rejoined => exact (Deeds.aside (addSystem_aside self _ _)).trans (greet_deeds fair false)

theorem prepareFreshCryptoEpoch_deeds (notice : String) (sequel : Sequel) :
    Deeds digest rules self (self.prepareFreshCryptoEpoch notice sequel).1 := by
  simp only [prepareFreshCryptoEpoch]
  split
  · exact .refl
  · have counted : Aside (self.freshEpoch notice) { self.freshEpoch notice with
        epochPreparation := some (self.freshEpoch notice).made
        made := (self.freshEpoch notice).made + 1 } := ⟨rfl, rfl, rfl, rfl, id⟩
    exact (freshEpoch_deeds notice).tail (.aside counted)

theorem onConnectionStatus_deeds (fair : rules.Fair) (status : ConnectionStatus) :
    Deeds digest rules self (self.onConnectionStatus status).1 := by
  have shown : Deeds digest rules self
      { self with view := { self.view with connection := status } } := .aside ⟨rfl, rfl, rfl, rfl, id⟩
  cases status with
  | disconnected => exact shown
  | connecting => exact shown
  | connected =>
      simp only [onConnectionStatus]
      split
      · exact shown.trans (prepareFreshCryptoEpoch_deeds _ _)
      · exact shown.trans (runSequel_deeds fair _)
  | reconnecting => exact shown.trans (prepareFreshCryptoEpoch_deeds _ _)
  | failed =>
      have lost : Aside self { self with view := { self.view with
          connection := .failed
          phase := .failed
          notice := some "Connection lost." } } := ⟨rfl, rfl, rfl, rfl, id⟩
      exact .aside (lost.trans (addSystem_aside _ _ _))

theorem onRelayEvent_deeds (fair : rules.Fair) (event : RelayEvent) :
    Deeds digest rules self (self.onRelayEvent event).1 := by
  cases event with
  | peerPresent =>
      simp only [onRelayEvent]
      split
      · exact prepareFreshCryptoEpoch_deeds _ _
      · exact runSequel_deeds fair _
  | peerDisconnected => exact prepareFreshCryptoEpoch_deeds _ _
  | peerRejoined => exact prepareFreshCryptoEpoch_deeds _ _
  | sessionEnded => exact disconnect_deeds _

theorem prepared_deeds (fair : rules.Fair) (preparation : Preparation)
    (result : Except String Unit) : Deeds digest rules self (self.prepared preparation result).1 := by
  have finished : Deeds digest rules self (self.preparationOver preparation) :=
    .aside (preparationOver_aside self preparation)
  cases result with
  | ok done => exact finished.trans (runSequel_deeds fair _)
  | error message => exact finished

theorem resumeControl_deeds (fair : rules.Fair) {stage : ControlStage} {reply : Reply}
    {turned : SessionController × Option ControlStage}
    (resumed : self.resumeControl stage reply = some turned) : Deeds digest rules self turned.1 := by
  unfold resumeControl at resumed
  split at resumed
  · split at resumed
    · cases resumed
      exact prepared_deeds fair _ _
    · cases resumed
      exact .refl
  · cases resumed
    exact prepared_deeds fair _ _
  · cases resumed
    exact .refl
  · cases resumed
    exact prepared_deeds fair _ _
  · split at resumed
    · cases resumed
      exact prepared_deeds fair _ _
    · rename_i preparation bytes _
      have keyed : Aside self (self.newKey bytes) := ⟨rfl, rfl, rfl, rfl, id⟩
      have greeted := keyed.trans (sendInitialHandshake_aside (self.newKey bytes))
      dsimp only at resumed
      split at resumed
      · split at resumed
        · cases resumed
          exact .aside greeted
        · cases resumed
          exact (Deeds.aside greeted).trans (prepared_deeds fair _ _)
      · cases resumed
        exact (Deeds.aside keyed).trans (prepared_deeds fair _ _)
  · obtain ⟨result, _, rfl⟩ := Option.map_eq_some_iff.mp resumed
    exact prepared_deeds fair _ _
  · cases resumed
    exact .refl
  · cases resumed
    exact runSequel_deeds fair _
  · obtain ⟨result, _, rfl⟩ := Option.map_eq_some_iff.mp resumed
    cases result with
    | ok done =>
        dsimp only
        split
        · exact updateFilePauseForVoice_deeds fair
        · exact .refl
    | error message => exact .refl
  · cases resumed

end Control

section Serial

theorem onEnvelope_aside (packet : Packet) (epoch : Nat) (queued : Bool) :
    Aside self (self.onEnvelope packet epoch queued).1 := by
  simp only [onEnvelope]
  split
  · exact voiceTurnOver_aside self queued
  · split
    · split
      · exact packetDropped_aside self
      · exact (handleHandshake_aside self epoch _).trans (handshakeProgress_aside _)
    · split
      · exact voiceTurnOver_aside self queued
      · exact .refl self

theorem beginWork_deeds (fair : rules.Fair) (work : Work) :
    Deeds digest rules self (self.beginWork work).1 := by
  cases work with
  | status lifecycle status =>
      simp only [beginWork]
      split
      · exact onConnectionStatus_deeds fair status
      · exact .refl
  | relay lifecycle event =>
      simp only [beginWork]
      split
      · exact onRelayEvent_deeds fair event
      · exact .refl
  | envelope packet epoch => exact .aside (onEnvelope_aside packet epoch false)
  | voice =>
      have shifted : Aside self { self with
          inboundVoice := (self.inboundVoice.shiftFresh self.now).queue } := ⟨rfl, rfl, rfl, rfl, id⟩
      refine .aside (shifted.trans ?_)
      simp only [beginWork, processOneInboundVoice]
      split
      · exact voiceTurnOver_aside _ true
      · exact onEnvelope_aside _ _ _

/-- The message that a turn of an inbound call hands to `handleCore`. -/
def serves (self : SessionController) (reply : Reply) : InboundCall → Option CoreAppMessage
  | .message call => self.handles call reply
  | _ => none

theorem resumeInbound_deeds (fair : rules.Fair) {call : InboundCall} {reply : Reply}
    {turned : SessionController × Option InboundCall}
    (granted : ∀ message, self.serves reply call = some message → rules.grants self message)
    (resumed : self.resumeInbound digest reply call = some turned) :
    Deeds digest rules self turned.1 := by
  cases call with
  | control stage =>
      obtain ⟨finished, answered, rfl⟩ := Option.map_eq_some_iff.mp resumed
      exact resumeControl_deeds fair answered
  | handshake call =>
      obtain ⟨finished, answered, rfl⟩ := Option.map_eq_some_iff.mp resumed
      exact .aside ((resumeHandshake_aside answered).trans
        (handshakeProgress_aside (finished.1, call.progress finished.2)))
  | message call =>
      obtain ⟨finished, answered, rfl⟩ := Option.map_eq_some_iff.mp resumed
      exact (resumeMessage_deeds fair granted answered).tail (.aside (messageProgress_aside call finished))

end Serial

section Requests

theorem cancelFile_deeds (fair : rules.Fair) (fileId : String) :
    Deeds digest rules self (self.cancelFile fileId).1 := by
  simp only [cancelFile]
  split
  · exact .refl
  · split
    · exact .single (.sent (.cancel fileId "cancelled" true) (fair.plain rfl) rfl)
    · exact .single (.received (.cancel fileId "cancelled" true) (fair.taken (by simp)) rfl)

theorem removeFile_deeds (fileId : String) : Deeds digest rules self (self.removeFile fileId) := by
  simp only [removeFile]
  split
  · exact .refl
  · rename_i transfer found
    split
    · rename_i ended
      obtain rfl : transfer.fileId = fileId := by simpa using List.find?_some found
      exact .single (.forgot transfer (List.mem_of_find?_eq_some found) ended)
    · exact .refl

theorem sendText_aside (body : Utf16) : Aside self (self.sendText body).1 := by
  simp only [sendText]
  split
  · exact .refl self
  · split
    · exact ⟨rfl, rfl, rfl, rfl, id⟩
    · split
      · exact .refl self
      · have shown := addDrawn_aside self ⟨self.makeId "msg", .text, .me, trim body, self.now,
          some .sending, none, none⟩
        exact shown.trans (sendApp_aside _ (.text (self.makeId "msg") (trim body) self.now) .text
          (some (self.makeId "msg")))

theorem offerFile_deeds (file : File) (permitted : rules.draw self) :
    Deeds digest rules self (self.offerFile file).1 := by
  simp only [offerFile]
  split
  · exact .aside (setNotice_aside self _)
  · split
    · exact .refl
    · rename_i fits
      exact .single (.offered file permitted fits)

theorem markVerified_aside (agrees : Bool) : Aside self (self.markVerified agrees) := by
  unfold markVerified
  split
  · exact ⟨rfl, rfl, rfl, rfl, id⟩
  · split
    · have shown : Aside self { self with view := { self.view with
          security := .verificationFailed
          notice := some "Verification mismatch. End this chat." } } := ⟨rfl, rfl, rfl, rfl, id⟩
      exact shown.trans (addSystem_aside _ _ _)
    · have shown : Aside self { self with view := { self.view with
          security := .verified
          notice := some "Verified on this device." } } := ⟨rfl, rfl, rfl, rfl, id⟩
      exact (shown.trans (addSystem_aside _ _ _)).trans (sendApp_aside _ _ _ _)

theorem startVoice_deeds (fair : rules.Fair) : Deeds digest rules self self.startVoice.1 := by
  simp only [startVoice]
  split
  · exact .aside (setNotice_aside self _)
  · split
    · exact .refl
    · have cleared : Aside self { self.clearVoiceQueues with view := { self.view with
          voice := .starting
          audioPlaybackBlocked := false
          notice := some "Starting voice…" } } := ⟨rfl, rfl, rfl, rfl, id⟩
      exact (Deeds.aside cleared).trans (updateFilePauseForVoice_deeds fair)

theorem endChatForBoth_deeds (sent : Bool) :
    Deeds digest rules self (self.endChatForBoth sent) := by
  simp only [endChatForBoth]
  split
  · exact .refl
  · split
    · exact disconnect_deeds _
    · exact .aside ⟨rfl, rfl, rfl, rfl, id⟩

theorem beginStartup_aside (phase : StartPhase) (notice : String) :
    Aside self (self.beginStartup phase notice).1 := by
  unfold beginStartup
  split
  · exact .refl self
  · exact ⟨rfl, rfl, rfl, rfl, id⟩

theorem perform_deeds (fair : rules.Fair) {request : Request}
    (draw : ∀ file, request = .offerFile file → rules.draw self)
    (tear : request = .unload → rules.tear self) :
    Deeds digest rules self (self.perform request).1 := by
  cases request with
  | setProfile profileId =>
      simp only [perform]
      split
      · exact .refl
      · have adopted : Deeds digest rules self (self.adoptProfile profileId) := .single (.adopted _)
        exact adopted.tail (.aside ⟨rfl, rfl, rfl, rfl, id⟩)
  | createRoom => exact .aside (beginStartup_aside _ _)
  | joinRoom code =>
      simp only [perform]
      split
      · exact .refl
      · exact .aside (beginStartup_aside _ _)
  | sendText body => exact .aside (sendText_aside body)
  | offerFile file => exact offerFile_deeds file (draw file rfl)
  | acceptFile fileId => exact .single (.received (.accept fileId) (fair.taken (by simp)) rfl)
  | rejectFile fileId => exact .single (.received (.reject fileId _) (fair.taken (by simp)) rfl)
  | cancelFile fileId => exact cancelFile_deeds fair fileId
  | removeFile fileId => exact removeFile_deeds fileId
  | startVoice => exact startVoice_deeds fair
  | stopVoice =>
      simp only [perform, stopVoice]
      split
      · exact .refl
      · have cleared : Aside self self.clearVoiceQueues := ⟨rfl, rfl, rfl, rfl, id⟩
        exact .aside (cleared.trans (sendApp_aside _ (.voiceStop "voice") .control none))
  | toggleMute =>
      simp only [perform, toggleMute]
      split
      · exact .refl
      · exact .aside ⟨rfl, rfl, rfl, rfl, id⟩
  | enableAudioPlayback => exact .refl
  | markVerified agrees => exact .aside (markVerified_aside agrees)
  | endChatForBoth sent => exact endChatForBoth_deeds sent
  | disconnect => exact disconnect_deeds _
  | unload => exact unload_deeds roomClosed (tear rfl)

end Requests

section LocalCalls

theorem voiceStarted_aside (sampleRate : Nat) : Aside self (self.voiceStarted sampleRate) := by
  unfold voiceStarted
  refine Aside.trans ?_ (sendApp_aside _ _ _ _)
  refine Aside.trans ?_ (addSystem_aside _ _ _)
  exact ⟨rfl, rfl, rfl, rfl, id⟩

theorem voiceFailed_deeds (fair : rules.Fair) (reason : String) :
    Deeds digest rules self (self.voiceFailed reason) := by
  have failed : Aside self { self.clearVoiceQueues with view := { self.view with
      voice := .failed
      notice := some reason } } := ⟨rfl, rfl, rfl, rfl, id⟩
  have paused : Deeds digest rules self _ :=
    (Deeds.aside failed).trans (updateFilePauseForVoice_deeds fair)
  exact (paused.tail (.aside (addSystem_aside _ ("Voice unavailable: " ++ reason) .error))).tail
    (.aside ⟨rfl, rfl, rfl, rfl, id⟩)

theorem voiceStopped_deeds (fair : rules.Fair) : Deeds digest rules self self.voiceStopped := by
  have stopped : Aside self { self with view := { self.view with
      voice := .idle
      muted := false
      audioPlaybackBlocked := false
      notice := some "Voice ended." } } := ⟨rfl, rfl, rfl, rfl, id⟩
  exact ((Deeds.aside stopped).trans (updateFilePauseForVoice_deeds fair)).tail
    (.aside (addSystem_aside _ _ _))

theorem offered_deeds {fileId : String} (queued voiceActive : Bool)
    (permitted : rules.order self fileId) :
    Deeds digest rules self (self.offered fileId queued voiceActive) := by
  have ordered : Deeds digest rules self (self.ensureTransferOrder fileId) :=
    .single (.ordered fileId permitted)
  simp only [offered]
  split
  · exact ordered.tail (.aside (addSystem_aside _ _ _))
  · exact ordered

/-- What a turn of an `offerFile` call asks of the rules; `awaited` is the sender's call it
waits for. -/
structure Rules.Settles (digest : Bytes → String) (rules : Rules) (session : SessionController)
    (awaited : Option Nat) (fileId : String) (reply : Reply) : Prop where
  none : awaited = none → rules.order session fileId
  turn : ∀ ticket, awaited = some ticket → rules.turn session (.settle ticket reply.outcome)
  finished : ∀ ticket turned, awaited = some ticket →
    { session.sender with notes := [] }.turn digest (.settle ticket reply.outcome) = some turned →
    newTicket session.sender.calls turned.calls = .none → rules.order (session.withSender turned) fileId

theorem settleLocal_deeds (fair : rules.Fair) {call : LocalCall} {reply : Reply}
    {turned : SessionController × Option LocalCall}
    (tear : call.fails self reply = true → rules.tear self)
    (settles : ∀ awaited fileId queued voiceActive,
      call = .offering awaited fileId queued voiceActive →
      Rules.Settles digest rules self awaited fileId reply)
    (settled : self.settleLocal digest call reply = some turned) :
    Deeds digest rules self turned.1 := by
  unfold settleLocal at settled
  split at settled
  · cases settled
    exact startupFailed_deeds _ (tear rfl)
  · cases settled
    exact start_deeds _ _ _
  · cases settled
    exact startupFailed_deeds _ (tear rfl)
  · cases settled
    exact .refl
  · cases settled
    exact startupFailed_deeds _ (tear rfl)
  · split at settled <;> cases settled <;> exact .aside ⟨rfl, rfl, rfl, rfl, id⟩
  · cases settled
    exact startupFailed_deeds _ (tear rfl)
  · split at settled
    · cases settled
      exact .aside ⟨rfl, rfl, rfl, rfl, id⟩
    · have entered : Aside self { self with view := { self.view with
          phase := .waiting
          notice := some "Waiting for the other person." } } := ⟨rfl, rfl, rfl, rfl, id⟩
      -- The room is entered, and the key that is there already goes out.
      have greeted := entered.trans (sendInitialHandshake_aside _)
      dsimp only at settled
      split at settled
      · cases settled
        exact .aside greeted
      · cases settled
        exact .aside (greeted.trans ⟨rfl, rfl, rfl, rfl, id⟩)
  · obtain ⟨result, answered, rfl⟩ := Option.map_eq_some_iff.mp settled
    cases result with
    | ok done => exact .aside ⟨rfl, rfl, rfl, rfl, id⟩
    | error message => exact startupFailed_deeds _ (tear (by simp [LocalCall.fails, answered]))
  · cases settled
    dsimp only
    split
    · exact .refl
    · exact .aside (updateTranscriptStatus_aside self _ _)
  · cases settled
    exact offered_deeds _ _ ((settles _ _ _ _ rfl).none rfl)
  · obtain ⟨sender, stepped, rfl⟩ := Option.map_eq_some_iff.mp settled
    have permitted := settles _ _ _ _ rfl
    -- The sender takes its turn; only if its offer has ended by then does the rest of the call
    -- run.
    have sent : Deeds digest rules self (self.withSender sender) :=
      .single (.sent _ (permitted.turn _ rfl) stepped)
    dsimp only
    split
    · rename_i finished
      exact sent.trans (offered_deeds _ _ (permitted.finished _ _ rfl stepped finished))
    · exact sent
  · cases settled
    exact .single .next
  · cases settled
    exact voiceFailed_deeds fair _
  · cases settled
    exact .aside (voiceStarted_aside _)
  · cases settled
    exact voiceStopped_deeds fair
  · cases settled
    exact .aside ⟨rfl, rfl, rfl, rfl, id⟩
  · cases settled

end LocalCalls

end SessionController

section Steps

open SessionController

/-- The message of the peer that an event hands to its handler. -/
def Loop.delivers (self : Loop) : Event → Option CoreAppMessage
  | .resume reply => self.running.bind (self.session.serves reply)
  | _ => none

/-- A disconnect that leaves the displayed transfers: a room that fails to start, and the
listener of `beforeunload`. -/
def Loop.tears (self : Loop) : Event → Bool
  | .request .unload => true
  | .settle ticket reply => (self.calls.get? ticket).any fun call => call.fails self.session reply
  | _ => false

/-- What the rules are asked for at an event. -/
structure Permits (digest : Bytes → String) (rules : Rules) (loop : Loop) (event : Event) :
    Prop where
  grants : ∀ message, loop.delivers event = some message → rules.grants loop.session message
  draw : ∀ file, event = .request (.offerFile file) → rules.draw loop.session
  settles : ∀ ticket reply awaited fileId queued voiceActive, event = .settle ticket reply →
    loop.calls.get? ticket = some (.offering awaited fileId queued voiceActive) →
    Rules.Settles digest rules loop.session awaited fileId reply
  call : ∀ ticket outcome, event = .senderCall ticket outcome →
    rules.turn loop.session (.settle ticket outcome)
  timer : ∀ ticket, event = .senderTimer ticket → rules.turn loop.session (.fire ticket)
  tear : loop.tears event = true → rules.tear loop.session

variable {digest : Bytes → String} {rules : Rules} {before after : Loop} {event : Event}
  {outputs : List Moment}

theorem Loop.step_deeds (fair : rules.Fair) (permits : Permits digest rules before event)
    (stepped : before.step digest event = some (after, outputs)) :
    Deeds digest rules before.session after.session := by
  cases event with
  | request request =>
      cases stepped
      refine perform_deeds fair (fun file same => permits.draw file (same ▸ rfl)) fun same => ?_
      exact permits.tear (same ▸ rfl)
  | settle ticket reply =>
      obtain ⟨⟨call, rest⟩, taken, settled⟩ := Option.bind_eq_some_iff.mp stepped
      obtain ⟨turned, answered, same⟩ := Option.map_eq_some_iff.mp settled
      cases same
      obtain ⟨found, rfl⟩ := Callbacks.take_eq_some.mp taken
      refine settleLocal_deeds fair (fun fails => permits.tear ?_) ?_ answered
      · rw [tears, found]
        exact fails
      · rintro awaited fileId queued voiceActive rfl
        exact permits.settles ticket reply awaited fileId queued voiceActive rfl found
  | begin =>
      simp only [step] at stepped
      split at stepped
      · rename_i work rest _ _
        cases stepped
        have taken : Aside before.session { before.session with inbound := rest } :=
          ⟨rfl, rfl, rfl, rfl, id⟩
        exact (Deeds.aside taken).trans (beginWork_deeds fair work)
      · cases stepped
  | resume reply =>
      obtain ⟨call, running, resumed⟩ := Option.bind_eq_some_iff.mp stepped
      obtain ⟨turned, answered, same⟩ := Option.map_eq_some_iff.mp resumed
      cases same
      refine resumeInbound_deeds fair (fun message serves => permits.grants message ?_) answered
      rw [delivers, running]
      exact serves
  | transportStatus status =>
      cases stepped
      exact .aside (transportChanged_aside _ status)
  | relayEvent event =>
      cases stepped
      exact .aside ⟨rfl, rfl, rfl, rfl, id⟩
  | envelope packet =>
      cases stepped
      exact .aside (routeEnvelope_aside _ packet)
  | endSessionTimer =>
      simp only [step] at stepped
      split at stepped
      · cases stepped
        exact disconnect_deeds _
      · cases stepped
  | voiceIdleTimer =>
      simp only [step] at stepped
      split at stepped
      · cases stepped
      · cases stepped
        refine .aside ?_
        dsimp only [withSession]
        split <;> exact ⟨rfl, rfl, rfl, rfl, id⟩
  | senderCall ticket outcome =>
      simp only [step] at stepped
      split at stepped
      · cases stepped
      · obtain ⟨turned, settled, same⟩ := Option.map_eq_some_iff.mp stepped
        cases same
        exact .single (.sent _ (permits.call ticket outcome rfl) settled)
  | senderTimer ticket =>
      obtain ⟨turned, fired, same⟩ := Option.map_eq_some_iff.mp stepped
      cases same
      -- A sender's timer takes a turn of the sender, like the end of a call.
      exact .single (.sent _ (permits.timer ticket rfl) fired)
  | receiverCall ticket outcome =>
      simp only [step] at stepped
      split at stepped
      · cases stepped
      · obtain ⟨turned, settled, same⟩ := Option.map_eq_some_iff.mp stepped
        cases same
        -- A suspended call of the receiver offers nothing, so every rule allows it.
        exact .single (.received (.settle ticket outcome) (fair.taken (by simp)) settled)
  | reliableSent id ok =>
      obtain ⟨turned, _, same⟩ := Option.map_eq_some_iff.mp stepped
      cases same
      exact .aside (withReliable_aside _ turned)
  | reliableTimer handle =>
      obtain ⟨turned, _, same⟩ := Option.map_eq_some_iff.mp stepped
      cases same
      exact .aside (withReliable_aside _ turned)
  | tick elapsed =>
      simp only [step] at stepped
      obtain ⟨turned, _, same⟩ := Option.map_eq_some_iff.mp stepped
      cases same
      exact .aside (withReliable_aside _ turned)

end Steps

end OnlyTwo.Session
