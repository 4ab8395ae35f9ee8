import OnlyTwo.SessionAudio

/-!
What the handlers of the session and the calls of the user do to voice. Whoever starts, stops
or loses voice has the files follow it in the same turn. The exceptions are the silent forms of
`disconnect`, and a microphone that opens when its session is over.
-/

namespace OnlyTwo.Session

open Bytes FileProtocol FileSender FileReceiver Reliable AppMessages

namespace SessionController

variable {self : SessionController} {polite : Prop}

section Messages

theorem handleFile_gentle (self : SessionController) (message : FileMessage) :
    Gentle self (self.handleFile message).1 := by
  cases message <;> simp only [handleFile]
  case offer fields =>
    have ordered (session : SessionController) :
        (session.ensureTransferOrder fields.fileId).sender = session.sender := by
      unfold ensureTransferOrder
      split <;> rfl
    exact (withReceiver_gentle self _).trans
      (.of_audio (audio_ensureTransferOrder _ _) (ordered _ ▸ .refl _))
  case accept fileId => exact onSender_gentle fun sender => sender.accept_hushed fileId
  case reject fileId reason =>
    exact onSender_gentle fun sender => sender.cancel_hushed fileId reason false
  case chunk fileId index totalChunks data => exact withReceiver_gentle self _
  case ack fileId index => exact onSender_gentle fun sender => sender.ack_hushed fileId index
  case nack fileId index reason =>
    exact onSender_gentle fun sender => sender.nack_hushed fileId index reason
  case pause fileId reason => exact onSender_gentle fun sender => sender.pause_hushed fileId reason
  case resume fileId => exact onSender_gentle fun sender => sender.resume_hushed fileId
  case cancel fileId reason =>
    exact onSender_gentle fun sender => sender.cancel_hushed fileId reason false
  case complete fileId sha256 => exact withReceiver_gentle self _

theorem handleCore_played (self : SessionController) (message : CoreAppMessage) :
    Played polite self (self.handleCore message).1 := by
  cases message with
  | sessionVerified time =>
      simp only [handleCore]
      split
      · exact (Gentle.refl self).played
      · have noticed : Gentle self (self.setNotice "Peer marked this chat verified.") :=
          .of_audio rfl (.refl _)
        exact (noticed.trans (addSystem_gentle _ _ _)).played
  | text messageId body createdAt =>
      exact (Gentle.of_aside (audio_addTranscript self _) (addTranscript_aside self _)).played
  | file message => exact (handleFile_gentle self message).played
  | voiceStart fields =>
      simp only [handleCore]
      split
      · have started : Thinned self ({ self with remoteVoiceActive := true }.setNotice
            "Peer started voice.") := ⟨List.Subset.refl _, fun _ => rfl, id, id⟩
        exact updateFilePauseForVoice_played (started.trans (addSystem_gentle _ _ _).thinned)
          (addSystem_aside _ _ _).sender
      · exact (Gentle.refl self).played
  | voiceFrame streamId seq sentAt sampleRate frameMs pcm16 =>
      simp only [handleCore]
      split <;> exact (Gentle.refl self).played
  | voiceStop streamId =>
      simp only [handleCore]
      split
      · exact (Gentle.refl self).played
      · have emptied : Thinned self { self with
            remoteVoiceActive := false
            inboundVoice := self.inboundVoice.clear.queue
            view := { self.view with
              audioPlaybackBlocked := false
              notice := some "Peer ended voice." } } := .of_empty rfl id id
        exact (updateFilePauseForVoice_played emptied rfl).gentle (addSystem_gentle _ _ _)

theorem handleAppMessage_played (self : SessionController) (message : AppMessage) :
    Played polite self (self.handleAppMessage message).1 := by
  cases message with
  | core message => exact handleCore_played self message
  | reliable message => cases message <;> exact (withReliable_gentle self _).played

theorem resumeMessage_played {digest : Bytes → String} {call : MessageCall} {reply : Reply}
    {turned : SessionController × Progress MessageStage}
    (resumed : self.resumeMessage digest call reply = some turned) :
    Played polite self turned.1 := by
  unfold resumeMessage at resumed
  split at resumed
  · cases resumed
    exact (Gentle.refl self).played
  · split at resumed
    · cases resumed
      exact (Gentle.refl self).played
    · split at resumed
      · cases resumed
        exact (Gentle.refl self).played
      · cases resumed
        exact handleAppMessage_played self _
  · rename_i index flag stage
    obtain ⟨receipt, _, rfl⟩ := Option.map_eq_some_iff.mp resumed
    dsimp only
    split
    · exact (withReliable_gentle self _).played
    · -- The envelope is acknowledged; what it carried is handled in the same turn.
      exact (handleCore_played _ _).behind (withReliable_aside self _) (audio_withReliable self _)
  · cases resumed
    exact (startNextQueuedFileIfAllowed_gentle self).played
  · cases resumed
    exact (withReceiver_gentle self _).played
  · cases resumed
    exact (startNextQueuedFileIfAllowed_gentle self).played
  · obtain ⟨settled, _, rfl⟩ := Option.map_eq_some_iff.mp resumed
    exact (withReceiver_gentle self _).played
  · cases resumed
    exact (Gentle.refl self).played
  · split at resumed
    · cases resumed
      exact (Gentle.refl self).played
    · cases resumed
      have blocked : Gentle self { self with view := { self.view with
          audioPlaybackBlocked := true
          notice := some voiceBlocked } } := .of_audio rfl (.refl _)
      exact (blocked.trans (addSystem_gentle _ _ _)).played
  · cases resumed
    exact (Gentle.refl self).played
  · cases resumed

end Messages

section Endings

theorem tearDown_thinned (self : SessionController) : Thinned self self.tearDown := by
  let counted : SessionController := { self with
    lifecycleEpoch := self.lifecycleEpoch + 1
    secureEpoch := self.secureEpoch + 1
    endSessionTimer := false
    establishing := false
    initialHandshakeSent := false
    replyHandshakeSent := false
    epochPreparation := none
    remoteVoiceActive := false
    sender := self.sender.reset
    receiver := self.receiver.reset }.clearVoiceQueues
  have cleared : Thinned self counted := .of_empty rfl Bool.false_ne_true.elim id
  have closed : Thinned counted (counted.transportChanged .disconnected) :=
    .of_audio (audio_transportChanged counted .disconnected)
  exact (cleared.trans closed).trans ⟨List.Subset.refl _, fun _ => rfl, id, id⟩

theorem tearDown_silent (self : SessionController) :
    self.tearDown.view.voice = self.view.voice ∧ self.tearDown.remoteVoiceActive = false ∧
      self.tearDown.sender.globalPaused = false := by
  simp only [tearDown, transportChanged]
  split <;> exact ⟨rfl, rfl, rfl⟩

theorem disconnect_played (notice : String) : Played polite self (self.disconnect false notice) := by
  obtain ⟨_, remote, running⟩ := tearDown_silent self
  have thinned : Thinned self.tearDown (self.disconnect false notice) :=
    ⟨List.Subset.refl _, fun _ => rfl, id, id⟩
  exact .of_ended ((tearDown_thinned self).trans thinned) (fun _ => remote) running

/-- A silent disconnect leaves the voice that the view shows. -/
theorem disconnect_silent {notice : String} (idle : self.isVoiceActive = false) :
    (self.disconnect true notice).talking = false := by
  obtain ⟨voice, remote, _⟩ := tearDown_silent self
  change (self.tearDown.isVoiceActive || self.tearDown.remoteVoiceActive) = false
  rw [remote, Bool.or_false, isVoiceActive, voice]
  exact idle

theorem unload_played (notice : String) (idle : polite → self.isVoiceActive = false) :
    Played polite self (self.disconnect true notice) :=
  .of_ended (tearDown_thinned self) (fun meets => disconnect_silent (idle meets))
    (tearDown_silent self).2.2

theorem startupFailed_played (message : String) (idle : polite → self.isVoiceActive = false) :
    Played polite self (self.startupFailed message) := by
  have left := unload_played roomClosed idle
  exact left.gentle (.of_audio rfl (.refl _))

theorem start_played (code : String) (phase : StartPhase) (profileId : TransportProfileId) :
    Played polite self (self.start code phase profileId) := by
  obtain ⟨_, remote, running⟩ := tearDown_silent self
  have adopted : Thinned self.tearDown (self.start code phase profileId) := by
    refine ⟨VoiceFreshnessQueue.trimOverflow_subset _, fun _ => rfl, id, id⟩
  exact .of_ended ((tearDown_thinned self).trans adopted) (fun _ => remote) running

theorem freshEpoch_played (notice : String) : Played polite self (self.freshEpoch notice) := by
  let counted : SessionController := { self with
    secureEpoch := self.secureEpoch + 1
    establishing := false
    initialHandshakeSent := false
    replyHandshakeSent := false
    remoteVoiceActive := false
    sender := self.sender.reset
    receiver := self.receiver.reset
    transferOrder := [] }.clearVoiceQueues
  have cleared : Thinned self counted := .of_empty rfl Bool.false_ne_true.elim id
  have failed := withReliable_gentle counted
    (counted.reliable.failAll "Session changed. Unsent messages were not delivered.")
  have aside := withReliable_aside counted
    (counted.reliable.failAll "Session changed. Unsent messages were not delivered.")
  refine .of_ended (cleared.trans (failed.thinned.trans ⟨List.Subset.refl _, fun _ => rfl, id, id⟩))
    (fun _ => ?_) ?_
  · have remote : (counted.withReliable (counted.reliable.failAll
        "Session changed. Unsent messages were not delivered.")).remoteVoiceActive = false :=
      congrArg Audio.remote (audio_withReliable counted _)
    exact remote
  · exact congrArg FileSender.Sender.globalPaused aside.sender

end Endings

section Control

theorem sendInitialHandshake_gentle (self : SessionController) :
    Gentle self self.sendInitialHandshake.1 :=
  .of_aside (audio_sendInitialHandshake self) (sendInitialHandshake_aside self)

theorem pause_played (self : SessionController) : Played polite self self.updateFilePauseForVoice :=
  updateFilePauseForVoice_played (.refl self) rfl

theorem greet_played (self : SessionController) (unpauses : Bool) :
    Played polite self (self.greet unpauses).1 := by
  simp only [greet]
  split
  · exact (sendInitialHandshake_gentle self).played
  · split
    · exact (pause_played _).behind (sendInitialHandshake_aside self) (audio_sendInitialHandshake self)
    · exact (sendInitialHandshake_gentle self).played

theorem runSequel_played (self : SessionController) (sequel : Sequel) :
    Played polite self (self.runSequel sequel).1 := by
  cases sequel with
  | reconnecting => exact (Gentle.refl self).played
  | connected =>
      simp only [runSequel]
      split
      · exact greet_played self true
      · exact pause_played self
  | present => exact greet_played self false
  | disconnected =>
      have shown : Gentle self { self with view := { self.view with
          phase := .waiting
          notice := some "Peer disconnected. Waiting for rejoin…" } } := .of_audio rfl (.refl _)
      exact (shown.trans (addSystem_gentle _ _ _)).played
  | rejoined => exact (greet_played _ false).behind (addSystem_aside self _ _) (audio_addSystem self _ _)

theorem prepareFreshCryptoEpoch_played (self : SessionController) (notice : String)
    (sequel : Sequel) : Played polite self (self.prepareFreshCryptoEpoch notice sequel).1 := by
  simp only [prepareFreshCryptoEpoch]
  split
  · exact (Gentle.refl self).played
  · exact (freshEpoch_played notice).gentle (.of_audio rfl (.refl _))

theorem onConnectionStatus_played (self : SessionController) (status : ConnectionStatus) :
    Played polite self (self.onConnectionStatus status).1 := by
  have shown : ∀ connection, Aside self
      { self with view := { self.view with connection := connection } } :=
    fun _ => ⟨rfl, rfl, rfl, rfl, id⟩
  cases status with
  | disconnected => exact .of_same rfl rfl
  | connecting => exact .of_same rfl rfl
  | connected =>
      simp only [onConnectionStatus]
      split
      · exact .behind (shown .connected) rfl (prepareFreshCryptoEpoch_played _ _ _)
      · exact .behind (shown .connected) rfl (runSequel_played _ _)
  | reconnecting =>
      exact .behind (shown .reconnecting) rfl (prepareFreshCryptoEpoch_played _ _ _)
  | failed =>
      have lost : Gentle self { self with view := { self.view with
          connection := .failed
          phase := .failed
          notice := some "Connection lost." } } := .of_audio rfl (.refl _)
      exact (lost.trans (addSystem_gentle _ _ _)).played

theorem onRelayEvent_played (self : SessionController) (event : RelayEvent) :
    Played polite self (self.onRelayEvent event).1 := by
  cases event with
  | peerPresent =>
      simp only [onRelayEvent]
      split
      · exact prepareFreshCryptoEpoch_played self _ _
      · exact runSequel_played self _
  | peerDisconnected => exact prepareFreshCryptoEpoch_played self _ _
  | peerRejoined => exact prepareFreshCryptoEpoch_played self _ _
  | sessionEnded => exact disconnect_played _

theorem prepared_played (self : SessionController) (preparation : Preparation)
    (result : Except String Unit) : Played polite self (self.prepared preparation result).1 := by
  have same : (self.preparationOver preparation).audio = self.audio := by
    unfold preparationOver
    split <;> rfl
  have aside := preparationOver_aside self preparation
  cases result with
  | ok done => exact (runSequel_played _ _).behind aside same
  | error message => exact (Gentle.of_aside same aside).played

theorem resumeControl_played {stage : ControlStage} {reply : Reply}
    {turned : SessionController × Option ControlStage}
    (resumed : self.resumeControl stage reply = some turned) : Played polite self turned.1 := by
  unfold resumeControl at resumed
  split at resumed
  · split at resumed
    · cases resumed
      exact prepared_played self _ _
    · cases resumed
      exact (Gentle.refl self).played
  · cases resumed
    exact prepared_played self _ _
  · cases resumed
    exact (Gentle.refl self).played
  · cases resumed
    exact prepared_played self _ _
  · split at resumed
    · cases resumed
      exact prepared_played self _ _
    · rename_i preparation bytes _
      have keyed : Aside self (self.newKey bytes) := ⟨rfl, rfl, rfl, rfl, id⟩
      have greeted := keyed.trans (sendInitialHandshake_aside (self.newKey bytes))
      have same : (self.newKey bytes).sendInitialHandshake.1.audio = self.audio :=
        audio_sendInitialHandshake (self.newKey bytes)
      dsimp only at resumed
      split at resumed
      · split at resumed
        · cases resumed
          exact (Gentle.of_aside same greeted).played
        · cases resumed
          exact (prepared_played _ _ _).behind greeted same
      · cases resumed
        exact .behind keyed rfl (prepared_played _ _ _)
  · obtain ⟨result, _, rfl⟩ := Option.map_eq_some_iff.mp resumed
    exact prepared_played self _ _
  · cases resumed
    exact (Gentle.refl self).played
  · cases resumed
    exact runSequel_played self _
  · obtain ⟨result, _, rfl⟩ := Option.map_eq_some_iff.mp resumed
    cases result with
    | ok done =>
        dsimp only
        split
        · exact pause_played self
        · exact (Gentle.refl self).played
    | error message => exact (Gentle.refl self).played
  · cases resumed

end Control

section Requests

theorem clearVoiceQueues_thinned (self : SessionController) : Thinned self self.clearVoiceQueues :=
  .of_empty rfl Bool.false_ne_true.elim id

/-- The frames that wait are thrown away; who talks and the sender stay as they are. -/
theorem clearVoiceQueues_gentle (self : SessionController) : Gentle self self.clearVoiceQueues :=
  ⟨clearVoiceQueues_thinned self, rfl, .refl _⟩

theorem sendApp_gentle (self : SessionController) (message : CoreAppMessage) (lane : LaneName)
    (trackingId : Option String) : Gentle self (self.sendApp message lane trackingId) :=
  .of_aside (audio_sendApp _ _ _ _) (sendApp_aside _ _ _ _)

theorem sendText_gentle (self : SessionController) (body : Utf16) :
    Gentle self (self.sendText body).1 := by
  refine .of_aside ?_ (sendText_aside body)
  simp only [sendText]
  split
  · rfl
  · split
    · rfl
    · split
      · rfl
      · rw [audio_sendApp]
        exact audio_addTranscript { self with made := self.made + 1 } _

theorem offerFile_gentle (self : SessionController) (file : File) :
    Gentle self (self.offerFile file).1 := by
  simp only [offerFile]
  split
  · exact .of_audio rfl (.refl _)
  · split
    · exact .refl self
    · have counted : Gentle self { self with made := self.made + 1 } := .of_audio rfl (.refl _)
      exact counted.trans (withSender_gentle
        (Sender.offer_hushed { self.sender with notes := [] } _ _ _).uncut)

theorem markVerified_gentle (self : SessionController) (agrees : Bool) :
    Gentle self (self.markVerified agrees) := by
  refine .of_aside ?_ (markVerified_aside agrees)
  unfold markVerified
  split
  · rfl
  · split
    · exact audio_addSystem _ _ .error
    · rw [audio_sendApp]
      exact audio_addSystem _ _ .info

theorem startVoice_played (self : SessionController) : Played polite self self.startVoice.1 := by
  simp only [startVoice]
  split
  · exact .of_same rfl rfl
  · split
    · exact (Gentle.refl self).played
    · have cleared : Thinned self { self.clearVoiceQueues with view := { self.view with
          voice := .starting
          audioPlaybackBlocked := false
          notice := some "Starting voice…" } } := .of_empty rfl Bool.false_ne_true.elim id
      exact updateFilePauseForVoice_played cleared rfl

theorem stopVoice_gentle (self : SessionController) : Gentle self self.stopVoice.1 := by
  simp only [stopVoice]
  split
  · exact .refl self
  · exact (clearVoiceQueues_gentle self).trans
      (sendApp_gentle _ (.voiceStop "voice") .control none)

theorem toggleMute_gentle (self : SessionController) : Gentle self self.toggleMute := by
  unfold toggleMute
  split
  · exact .refl self
  · rename_i unmuted
    refine ⟨⟨List.Subset.refl _, fun _ => rfl, id, id⟩, ?_, .refl _⟩
    -- Muted or not, the microphone is open.
    have active : self.isVoiceActive = true := by
      simp only [isVoiceActive]
      rcases not_and_or.mp unmuted with voice | voice <;> simp [not_not.mp voice]
    simp only [talking, active]
    cases self.view.muted <;> rfl

theorem cancelFile_gentle (self : SessionController) (fileId : String) :
    Gentle self (self.cancelFile fileId).1 := by
  simp only [cancelFile]
  split
  · exact .refl self
  · have cancelled : Gentle self
        (self.onSender fun sender => sender.cancel fileId "cancelled" true) :=
      onSender_gentle fun sender => sender.cancel_hushed fileId "cancelled" true
    split
    · exact cancelled
    · exact withReceiver_gentle self _

theorem perform_played {request : Request}
    (idle : request = .unload → polite → self.isVoiceActive = false) :
    Played polite self (self.perform request).1 := by
  cases request with
  | setProfile profileId =>
      simp only [perform]
      split
      · exact (Gentle.refl self).played
      · refine Gentle.played ⟨⟨VoiceFreshnessQueue.trimOverflow_subset _, fun _ => rfl, id, id⟩, rfl, ?_⟩
        exact .of_same rfl rfl
  | createRoom =>
      simp only [perform, beginStartup]
      split <;> exact .of_same rfl rfl
  | joinRoom code =>
      simp only [perform, beginStartup]
      split
      · exact (Gentle.refl self).played
      · split <;> exact .of_same rfl rfl
  | sendText body => exact (sendText_gentle self body).played
  | offerFile file => exact (offerFile_gentle self file).played
  | acceptFile fileId => exact (withReceiver_gentle self _).played
  | rejectFile fileId => exact (withReceiver_gentle self _).played
  | cancelFile fileId => exact (cancelFile_gentle self fileId).played
  | removeFile fileId =>
      simp only [perform, removeFile]
      split
      · exact (Gentle.refl self).played
      · split
        · exact (removed_gentle self fileId).played
        · exact (Gentle.refl self).played
  | startVoice => exact startVoice_played self
  | stopVoice => exact (stopVoice_gentle self).played
  | toggleMute => exact (toggleMute_gentle self).played
  | enableAudioPlayback => exact (Gentle.refl self).played
  | markVerified agrees => exact (markVerified_gentle self agrees).played
  | endChatForBoth sent =>
      simp only [perform, endChatForBoth]
      split
      · exact (Gentle.refl self).played
      · split
        · exact disconnect_played _
        · exact .of_same rfl rfl
  | disconnect => exact disconnect_played _
  | unload => exact unload_played roomClosed (idle rfl)

end Requests

section LocalCalls

/-- A microphone that opens while voice is starting changes nothing about the pause. -/
theorem voiceStarted_played (sampleRate : Nat) (starting : polite → self.isVoiceActive = true) :
    Played polite self (self.voiceStarted sampleRate) := by
  have thinned : Thinned self { self with view := { self.view with
      voice := .active
      muted := false
      audioPlaybackBlocked := false
      notice := some "Voice active. Files are paused." } } :=
    ⟨List.Subset.refl _, fun _ => rfl, id, id⟩
  have told := addSystem_gentle { self with view := { self.view with
      voice := .active
      muted := false
      audioPlaybackBlocked := false
      notice := some "Voice active. Files are paused." } } "Voice started." .info
  have rest := told.trans (sendApp_gentle _ (.voiceStart ⟨"voice", sampleRate,
    self.profile.voice.frameMs, some self.profile.voice.mode⟩) .control none)
  refine Played.gentle ⟨thinned, fun meets => Gentle.steered ⟨thinned, ?_, .refl _⟩⟩ rest
  simp only [talking, starting meets]
  rfl

theorem voiceFailed_played (self : SessionController) (reason : String) :
    Played polite self (self.voiceFailed reason) := by
  have cleared := clearVoiceQueues_thinned self
  have paused : Played polite self ({ self.clearVoiceQueues with view := { self.view with
      voice := .failed
      notice := some reason } }.updateFilePauseForVoice) :=
    updateFilePauseForVoice_played ⟨cleared.frames, cleared.scheduled, cleared.fewer, id⟩ rfl
  have told := paused.gentle (addSystem_gentle _ ("Voice unavailable: " ++ reason) .error)
  exact told.gentle (.of_audio rfl (.refl _))

theorem voiceStopped_played (self : SessionController) : Played polite self self.voiceStopped := by
  have stopped : Thinned self { self with view := { self.view with
      voice := .idle
      muted := false
      audioPlaybackBlocked := false
      notice := some "Voice ended." } } := ⟨List.Subset.refl _, fun _ => rfl, id, id⟩
  exact (updateFilePauseForVoice_played stopped rfl).gentle (addSystem_gentle _ _ _)

theorem offered_gentle (self : SessionController) (fileId : String) (queued voiceActive : Bool) :
    Gentle self (self.offered fileId queued voiceActive) := by
  have ordered : Gentle self (self.ensureTransferOrder fileId) := by
    unfold ensureTransferOrder
    split <;> exact .of_audio rfl (.refl _)
  simp only [offered]
  split
  · exact ordered.trans (addSystem_gentle _ _ _)
  · exact ordered

theorem settleLocal_played {digest : Bytes → String} {call : LocalCall} {reply : Reply}
    {turned : SessionController × Option LocalCall}
    (idle : call.fails self reply = true → polite → self.isVoiceActive = false)
    (starting : ∀ rate, call = .startingVoice → reply = .sampleRate rate → polite →
      self.isVoiceActive = true)
    (settled : self.settleLocal digest call reply = some turned) : Played polite self turned.1 := by
  unfold settleLocal at settled
  split at settled
  · cases settled
    exact startupFailed_played _ (idle rfl)
  · cases settled
    exact start_played _ _ _
  · cases settled
    exact startupFailed_played _ (idle rfl)
  · cases settled
    exact (Gentle.refl self).played
  · cases settled
    exact startupFailed_played _ (idle rfl)
  · split at settled <;> cases settled <;> exact .of_same rfl rfl
  · cases settled
    exact startupFailed_played _ (idle rfl)
  · split at settled
    · cases settled
      exact .of_same rfl rfl
    · have entered : Gentle self { self with view := { self.view with
          phase := .waiting
          notice := some "Waiting for the other person." } } := .of_audio rfl (.refl _)
      have greeted := entered.trans (sendInitialHandshake_gentle _)
      dsimp only at settled
      split at settled
      · cases settled
        exact greeted.played
      · cases settled
        exact greeted.played.gentle (.of_audio rfl (.refl _))
  · obtain ⟨result, answered, rfl⟩ := Option.map_eq_some_iff.mp settled
    cases result with
    | ok done => exact .of_same rfl rfl
    | error message => exact startupFailed_played _ (idle (by simp [LocalCall.fails, answered]))
  · cases settled
    dsimp only
    split
    · exact (Gentle.refl self).played
    · exact .of_same rfl rfl
  · cases settled
    exact (offered_gentle self _ _ _).played
  · obtain ⟨sender, stepped, rfl⟩ := Option.map_eq_some_iff.mp settled
    have sent : Gentle self (self.withSender sender) :=
      withSender_gentle (turn_hushed stepped (Or.inl ⟨_, _, rfl⟩)).uncut
    dsimp only
    split
    · exact (sent.trans (offered_gentle _ _ _ _)).played
    · exact sent.played
  · cases settled
    exact (startNextQueuedFileIfAllowed_gentle self).played
  · cases settled
    exact voiceFailed_played self _
  · cases settled
    exact voiceStarted_played _ (starting _ rfl rfl)
  · cases settled
    exact voiceStopped_played self
  · cases settled
    exact .of_same rfl rfl
  · cases settled

end LocalCalls

end SessionController

end OnlyTwo.Session
