import OnlyTwo.FileSenderPause
import OnlyTwo.SessionDeeds

/-!
What the functions of the session do to voice. `talking` says that either side has
voice running; while it lasts the sender is paused. `Gentle` leaves voice alone and gives
the sender turns that respect the pause; `Thinned` puts nothing new into the queue of
inbound frames.
-/

namespace OnlyTwo.Session

open Bytes FileProtocol FileSender FileReceiver Reliable AppMessages

structure Audio where
  voice : VoiceState
  remote : Bool
  frames : VoiceFreshnessQueue Packet
  scheduled : Bool
  waiting : Bool

namespace SessionController

variable (self : SessionController)

/-- The condition of `updateFilePauseForVoice`. -/
def talking : Bool := self.isVoiceActive || self.remoteVoiceActive

def audio : Audio :=
  ⟨self.view.voice, self.remoteVoiceActive, self.inboundVoice, self.inboundVoiceScheduled,
    self.inbound.contains .voice⟩

section Kept

variable {self} in
theorem talking_of_audio {after : SessionController} (same : after.audio = self.audio) :
    after.talking = self.talking := by
  have voice : after.view.voice = self.view.voice := congrArg Audio.voice same
  have remote : after.remoteVoiceActive = self.remoteVoiceActive := congrArg Audio.remote same
  simp only [talking, isVoiceActive, voice, remote]

@[simp] theorem audio_addTranscript (item : TranscriptItem) :
    (self.addTranscript item).audio = self.audio := by
  simp only [addTranscript, audio]

@[simp] theorem audio_addSystem (text : String) (severity : Severity) :
    (self.addSystem text severity).audio = self.audio := by
  simp only [addSystem]
  split
  · rfl
  · exact audio_addTranscript { self with made := self.made + 1 } _

theorem audio_ensureTransferOrder (fileId : String) :
    (self.ensureTransferOrder fileId).audio = self.audio := by
  unfold ensureTransferOrder
  split <;> rfl

theorem audio_foldl_forgetTransfer (fileIds : List String) :
    (fileIds.foldl forgetTransfer self).audio = self.audio := by
  induction fileIds generalizing self with
  | nil => rfl
  | cons fileId rest ih =>
      rw [List.foldl_cons, ih]
      rfl

theorem audio_listFile (view : TransferView) : (self.listFile view).audio = self.audio := by
  simp only [listFile]
  split
  · rfl
  · exact audio_addTranscript { self with made := self.made + 1 } _

theorem sender_listFile (view : TransferView) : (self.listFile view).sender = self.sender := by
  simp only [listFile]
  split
  · rfl
  · exact (addDrawn_aside self _).sender

theorem audio_upsertTransfer (view : TransferView) :
    (self.upsertTransfer view).audio = self.audio := by
  rw [upsertTransfer, trimRetainedTransfers, audio_foldl_forgetTransfer, audio_listFile]
  exact audio_ensureTransferOrder self view.fileId

@[simp] theorem audio_sendApp (message : CoreAppMessage) (lane : LaneName)
    (trackingId : Option String) : (self.sendApp message lane trackingId).audio = self.audio := by
  unfold sendApp
  split <;> rfl

theorem audio_absorbReliable (notes : List (Note ReliableBodyMessage)) :
    (absorbReliable notes self).audio = self.audio := by
  induction notes generalizing self with
  | nil => rfl
  | cons note rest ih =>
      cases note with
      | onDelivered id trackingId =>
          cases trackingId with
          | none => exact ih self
          | some trackingId => exact ih _
      | onFailed id trackingId reason =>
          cases trackingId with
          | none => exact (ih _).trans (audio_addSystem _ reason .error)
          | some trackingId => exact (ih _).trans (audio_addSystem _ reason .error)
      | _ => exact ih self

theorem audio_withReliable
    (turned : ReliableChannel ReliableBodyMessage × List (Note ReliableBodyMessage)) :
    (self.withReliable turned).audio = self.audio :=
  audio_absorbReliable { self with reliable := turned.1 } turned.2

theorem audio_absorbReceiver (notes : List ReceiverNote) :
    (absorbReceiver notes self).audio = self.audio := by
  induction notes generalizing self with
  | nil => rfl
  | cons note rest ih =>
      cases note with
      | onUpdate snapshot => exact (ih _).trans (audio_upsertTransfer self _)
      | sendApp message => exact (ih _).trans (audio_sendApp self _ _ _)
      | onComplete file => exact ih self
      | stored ref fileId index bytes status => exact ih self

theorem audio_enqueueInbound {work : Work} (other : work ≠ .voice) :
    (self.enqueueInbound work).audio = self.audio := by
  simp [enqueueInbound, audio, other.symm]

theorem audio_transportChanged (status : ConnectionStatus) :
    (self.transportChanged status).audio = self.audio := by
  unfold transportChanged
  split
  · rfl
  · exact audio_enqueueInbound { self with transportStatus := status } (by simp)

@[simp] theorem audio_packetDropped : self.packetDropped.audio = self.audio := by
  simp only [packetDropped]
  split <;> rfl

theorem audio_sendInitialHandshake : self.sendInitialHandshake.1.audio = self.audio := by
  unfold sendInitialHandshake
  split <;> rfl

theorem audio_handleHandshake (epoch : Nat) (payload : Option HandshakeMessage) :
    (self.handleHandshake epoch payload).1.audio = self.audio := by
  unfold handleHandshake
  split
  · rfl
  · split
    · rfl
    · split
      · rfl
      · split
        · rfl
        · split
          · split <;> rfl
          · split
            · rfl
            · simp only [sendReplyHandshake]
              split <;> rfl

theorem audio_handshakeProgress (turned : SessionController × Progress HandshakeCall) :
    (handshakeProgress turned).1.audio = turned.1.audio := by
  obtain ⟨session, progress⟩ := turned
  cases progress with
  | thrown message => exact audio_packetDropped session
  | _ => rfl

theorem audio_resumeHandshake {self : SessionController} {call : HandshakeCall} {reply : Reply}
    {turned : SessionController × Progress HandshakeStage}
    (resumed : self.resumeHandshake call reply = some turned) : turned.1.audio = self.audio := by
  unfold resumeHandshake at resumed
  split at resumed
  · obtain ⟨result, _, rfl⟩ := Option.map_eq_some_iff.mp resumed
    split <;> rfl
  · cases resumed
    rfl
  · split at resumed
    · cases resumed
      rfl
    · cases resumed
      exact audio_addSystem _ incompatible .error
  · cases resumed
    rfl
  · cases resumed
    exact audio_addSystem _ _ .info
  · cases resumed

end Kept

end SessionController

section Relations

variable {before middle after : SessionController}

/-- Nothing new waits in the queue of inbound frames, and its turn is still to come. -/
structure Thinned (before after : SessionController) : Prop where
  frames : after.inboundVoice.items ⊆ before.inboundVoice.items
  scheduled : after.inboundVoice.items ≠ [] →
    after.inboundVoiceScheduled = before.inboundVoiceScheduled
  fewer : after.inboundVoiceScheduled = true → before.inboundVoiceScheduled = true
  works : .voice ∈ before.inbound → .voice ∈ after.inbound

theorem Thinned.refl (session : SessionController) : Thinned session session :=
  ⟨List.Subset.refl _, fun _ => rfl, id, id⟩

theorem Thinned.trans (first : Thinned before middle) (second : Thinned middle after) :
    Thinned before after where
  frames := List.Subset.trans second.frames first.frames
  scheduled holds := by
    obtain ⟨item, member⟩ := List.exists_mem_of_ne_nil _ holds
    have held : middle.inboundVoice.items ≠ [] := List.ne_nil_of_mem (second.frames member)
    exact (second.scheduled holds).trans (first.scheduled held)
  fewer scheduled := first.fewer (second.fewer scheduled)
  works waits := second.works (first.works waits)

theorem Thinned.of_audio (same : after.audio = before.audio) : Thinned before after where
  frames := by
    have kept : after.inboundVoice = before.inboundVoice := congrArg Audio.frames same
    rw [kept]
    exact List.Subset.refl _
  scheduled _ := congrArg Audio.scheduled same
  fewer scheduled := (congrArg Audio.scheduled same).symm.trans scheduled
  works waits := by
    have kept : after.inbound.contains Work.voice = before.inbound.contains Work.voice :=
      congrArg Audio.waiting same
    exact List.contains_iff_mem.mp (kept.trans (List.contains_iff_mem.mpr waits))

/-- The queue is emptied, whatever becomes of the flag. -/
theorem Thinned.of_empty (empty : after.inboundVoice.items = [])
    (fewer : after.inboundVoiceScheduled = true → before.inboundVoiceScheduled = true)
    (works : .voice ∈ before.inbound → .voice ∈ after.inbound) : Thinned before after where
  frames := by
    rw [empty]
    exact List.nil_subset _
  scheduled holds := absurd empty holds
  fewer := fewer
  works := works

structure Gentle (before after : SessionController) : Prop where
  thinned : Thinned before after
  talking : after.talking = before.talking
  sender : Hushed before.sender after.sender

theorem Gentle.refl (session : SessionController) : Gentle session session :=
  ⟨.refl session, rfl, .refl _⟩

theorem Gentle.trans (first : Gentle before middle) (second : Gentle middle after) :
    Gentle before after :=
  ⟨first.thinned.trans second.thinned, second.talking.trans first.talking,
    first.sender.trans second.sender⟩

theorem Gentle.of_audio (same : after.audio = before.audio)
    (sender : Hushed before.sender after.sender) : Gentle before after :=
  ⟨.of_audio same, SessionController.talking_of_audio same, sender⟩

theorem Gentle.of_aside (same : after.audio = before.audio) (aside : Aside before after) :
    Gentle before after :=
  .of_audio same (aside.sender ▸ .refl _)

/-- The sender is paused if and only if there is voice. -/
def Tuned (session : SessionController) : Prop :=
  session.sender.globalPaused = session.talking

/-- No chunk is read that was not being read. -/
def Unread (before after : Sender) : Prop :=
  ∀ ticket call, call.reads = true → after.calls.get? ticket = some call →
    before.calls.get? ticket = some call

structure Steered (before after : SessionController) : Prop where
  tuned : Tuned before → Tuned after
  quiet : Tuned before → after.talking = true → Unread before.sender after.sender

/-- What a function does to voice; the pause follows it if the function is used politely. -/
structure Played (polite : Prop) (before after : SessionController) : Prop where
  thinned : Thinned before after
  steered : polite → Steered before after

variable {polite : Prop}

theorem Gentle.tuned (gentle : Gentle before after) (tuned : Tuned before) : Tuned after :=
  (gentle.sender.flag.trans tuned).trans gentle.talking.symm

theorem Gentle.steered (gentle : Gentle before after) : Steered before after where
  tuned := gentle.tuned
  quiet tuned talking := gentle.sender.reads (tuned.trans (gentle.talking.symm.trans talking))

theorem Gentle.played (gentle : Gentle before after) : Played polite before after :=
  ⟨gentle.thinned, fun _ => gentle.steered⟩

theorem Played.of_same (same : after.audio = before.audio)
    (sender : after.sender = before.sender) : Played polite before after :=
  (Gentle.of_audio same (sender ▸ .refl _)).played

theorem Steered.gentle (steered : Steered before middle) (gentle : Gentle middle after) :
    Steered before after where
  tuned tuned := gentle.tuned (steered.tuned tuned)
  quiet tuned talking ticket call reads held := by
    have paused : middle.sender.globalPaused = true :=
      (steered.tuned tuned).trans (gentle.talking.symm.trans talking)
    exact steered.quiet tuned (gentle.talking.symm.trans talking) ticket call reads
      (gentle.sender.reads paused ticket call reads held)

theorem Steered.kept (steered : Steered before middle) (talking : after.talking = middle.talking)
    (sender : after.sender = middle.sender) : Steered before after where
  tuned tuned := (congrArg FileSender.Sender.globalPaused sender).trans
    ((steered.tuned tuned).trans talking.symm)
  quiet tuned talks := sender ▸ steered.quiet tuned (talking.symm.trans talks)

theorem Played.gentle (played : Played polite before middle) (gentle : Gentle middle after) :
    Played polite before after :=
  ⟨played.thinned.trans gentle.thinned, fun meets => (played.steered meets).gentle gentle⟩

/-- Before the function runs, something else is done that is not about voice. -/
theorem Played.behind (aside : Aside before middle) (same : middle.audio = before.audio)
    (played : Played polite middle after) : Played polite before after where
  thinned := (Thinned.of_audio same).trans played.thinned
  steered meets := by
    have tuned : Tuned before → Tuned middle := (Gentle.of_aside same aside).tuned
    have steered := played.steered meets
    exact ⟨fun holds => steered.tuned (tuned holds), fun holds talking =>
      aside.sender ▸ steered.quiet (tuned holds) talking⟩

/-- What ends all voice and resets the sender. -/
theorem Played.of_ended (thinned : Thinned before after)
    (silent : polite → after.talking = false) (running : after.sender.globalPaused = false) :
    Played polite before after where
  thinned := thinned
  steered meets :=
    ⟨fun _ => running.trans (silent meets).symm,
      fun _ talking => absurd ((silent meets).symm.trans talking) Bool.false_ne_true⟩

end Relations

namespace SessionController

variable {self : SessionController}

section Sender

theorem removed_gentle (self : SessionController) (fileId : String) :
    Gentle self (self.forgetTransfer fileId) :=
  .of_audio rfl (Sender.remove_hushed self.sender fileId)

theorem foldl_forgetTransfer_gentle (self : SessionController) (fileIds : List String) :
    Gentle self (fileIds.foldl forgetTransfer self) := by
  induction fileIds generalizing self with
  | nil => exact .refl self
  | cons fileId rest ih => exact (removed_gentle self fileId).trans (ih _)

theorem upsertTransfer_gentle (self : SessionController) (view : TransferView) :
    Gentle self (self.upsertTransfer view) := by
  refine Gentle.trans ?_ (foldl_forgetTransfer_gentle _ _)
  have ordered : (self.ensureTransferOrder view.fileId).sender = self.sender := by
    unfold ensureTransferOrder
    split <;> rfl
  have shown : Gentle self (self.showTransfer view) :=
    .of_audio (audio_ensureTransferOrder self view.fileId) (.of_same
      (congrArg FileSender.Sender.globalPaused ordered) (congrArg FileSender.Sender.calls ordered))
  exact shown.trans (.of_audio (audio_listFile _ view) (sender_listFile _ view ▸ .refl _))

theorem absorbSender_gentle {onUpdate : SessionController → SenderSnapshot → SessionController}
    (each : ∀ session snapshot, Gentle session (onUpdate session snapshot))
    (self : SessionController) (notes : List SenderNote) :
    Gentle self (absorbSender onUpdate notes self) := by
  induction notes generalizing self with
  | nil => exact .refl self
  | cons note rest ih =>
      cases note with
      | onUpdate snapshot => exact (each self snapshot).trans (ih _)
      | sendApp message lane =>
          exact (Gentle.of_aside (audio_sendApp self _ _ _) (sendApp_aside self _ _ _)).trans (ih _)
      | setTimeout timer => exact ih self

theorem showSender_gentle (self : SessionController) (snapshot : SenderSnapshot) :
    Gentle self (self.showSender snapshot) := upsertTransfer_gentle self _

theorem startQueued_gentle (self : SessionController) (fileId : String) :
    Gentle self (self.startQueued fileId) := by
  have turned : Hushed self.sender ({ self.sender with notes := [] }.startQueued fileId) :=
    (Sender.startQueued_hushed _ fileId).uncut
  have taken : Gentle self
      { self with sender := { self.sender with notes := [] }.startQueued fileId } :=
    .of_audio rfl turned
  exact taken.trans (absorbSender_gentle showSender_gentle _ _)

theorem startNextQueuedFileIfAllowed_gentle (self : SessionController) :
    Gentle self self.startNextQueuedFileIfAllowed := by
  unfold startNextQueuedFileIfAllowed
  split
  · exact .refl self
  · split
    · exact .refl self
    · split
      · exact .refl self
      · split
        · exact .refl self
        · exact startQueued_gentle self _

theorem updateSender_gentle (self : SessionController) (snapshot : SenderSnapshot) :
    Gentle self (self.updateSender snapshot) := by
  simp only [updateSender]
  split
  · exact (showSender_gentle self snapshot).trans (startNextQueuedFileIfAllowed_gentle _)
  · exact showSender_gentle self snapshot

/-- A turn of the sender is as gentle as the sender's own. -/
theorem withSender_gentle {turned : FileSender.Sender} (hushed : Hushed self.sender turned) :
    Gentle self (self.withSender turned) := by
  have taken : Gentle self { self with sender := turned } := .of_audio rfl hushed
  exact taken.trans (absorbSender_gentle updateSender_gentle _ _)

theorem onSender_gentle {action : FileSender.Sender → FileSender.Sender}
    (hushed : ∀ sender, Hushed sender (action sender)) : Gentle self (self.onSender action) :=
  withSender_gentle (hushed _).uncut

theorem withReceiver_gentle (self : SessionController) (turned : Receiver) :
    Gentle self (self.withReceiver turned) := by
  refine .of_audio (audio_absorbReceiver { self with receiver := turned } turned.notes) ?_
  have each : ∀ (notes : List ReceiverNote) (session : SessionController),
      Hushed session.sender (absorbReceiver notes session).sender := by
    intro notes
    induction notes with
    | nil => exact fun session => .refl _
    | cons note rest ih =>
        intro session
        cases note with
        | onUpdate snapshot => exact (upsertTransfer_gentle session _).sender.trans (ih _)
        | sendApp message =>
            exact Hushed.trans ((sendApp_aside session _ _ _).sender ▸ .refl _) (ih _)
        | onComplete file => exact ih session
        | stored ref fileId index bytes status => exact ih session
  exact each turned.notes { self with receiver := turned }

theorem withReliable_gentle (self : SessionController)
    (turned : ReliableChannel ReliableBodyMessage × List (Note ReliableBodyMessage)) :
    Gentle self (self.withReliable turned) :=
  .of_aside (audio_withReliable self turned) (withReliable_aside self turned)

theorem addSystem_gentle (self : SessionController) (text : String) (severity : Severity) :
    Gentle self (self.addSystem text severity) :=
  .of_aside (audio_addSystem self text severity) (addSystem_aside self text severity)

/-- Voice was switched on or off, the sender not told yet; the pause then follows. -/
theorem updateFilePauseForVoice_played {polite : Prop} {changed : SessionController}
    (thinned : Thinned self changed) (sender : changed.sender = self.sender) :
    Played polite self changed.updateFilePauseForVoice := by
  let flagged : SessionController := { changed with
    sender := { changed.sender with globalPaused := changed.talking } }
  have paused : Gentle flagged (changed.onSender fun sender =>
      sender.setGlobalPaused changed.talking "Paused during voice") := by
    have turned : Hushed flagged.sender
        ({ changed.sender with notes := [] }.setGlobalPaused changed.talking
          "Paused during voice") := by
      refine Hushed.uncut ?_
      exact Sender.setGlobalPaused_hushed { changed.sender with notes := [] } _ _
    exact withSender_gentle turned
  have gentle : Gentle flagged changed.updateFilePauseForVoice := by
    simp only [updateFilePauseForVoice]
    split
    · exact paused
    · exact paused.trans (startNextQueuedFileIfAllowed_gentle _)
  have tuned : Tuned flagged := rfl
  refine ⟨(thinned.trans (Thinned.of_audio rfl : Thinned changed flagged)).trans gentle.thinned,
    fun _ => ⟨fun _ => gentle.tuned tuned, fun _ talking ticket call reads held => ?_⟩⟩
  have kept := gentle.steered.quiet tuned talking ticket call reads held
  exact sender ▸ kept

end Sender

end SessionController

end OnlyTwo.Session
