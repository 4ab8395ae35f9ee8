import OnlyTwo.SessionEpoch

/-!
What leaves the transfers of a session alone: the sender, the receiver, `transferOrder` and the
views stay, and the transcript keeps its bound.
-/

namespace OnlyTwo.Session

open Bytes FileProtocol FileSender FileReceiver Reliable AppMessages

structure Aside (before after : SessionController) : Prop where
  sender : after.sender = before.sender
  receiver : after.receiver = before.receiver
  order : after.transferOrder = before.transferOrder
  transfers : after.view.transfers = before.view.transfers
  transcript : before.view.transcript.length ≤ SessionController.maxTranscriptItems →
    after.view.transcript.length ≤ SessionController.maxTranscriptItems

theorem Aside.refl (session : SessionController) : Aside session session :=
  ⟨rfl, rfl, rfl, rfl, id⟩

theorem Aside.trans {before middle after : SessionController} (first : Aside before middle)
    (second : Aside middle after) : Aside before after where
  sender := second.sender.trans first.sender
  receiver := second.receiver.trans first.receiver
  order := second.order.trans first.order
  transfers := second.transfers.trans first.transfers
  transcript bound := second.transcript (first.transcript bound)

namespace SessionController

variable (self : SessionController)

section Apart

theorem trimTranscript_length (items : List TranscriptItem) :
    (trimTranscript items).length ≤ maxTranscriptItems := by
  rw [trimTranscript, List.length_drop]
  omega

theorem addTranscript_aside (item : TranscriptItem) : Aside self (self.addTranscript item) := by
  constructor
  · simp only [addTranscript]
  · simp only [addTranscript]
  · simp only [addTranscript]
  · simp only [addTranscript]
  · intro _
    simp only [addTranscript]
    exact trimTranscript_length _

theorem addDrawn_aside (item : TranscriptItem) : Aside self (self.addDrawn item) := by
  have counted : Aside self { self with made := self.made + 1 } := ⟨rfl, rfl, rfl, rfl, id⟩
  exact counted.trans (addTranscript_aside _ item)

theorem addSystem_aside (text : String) (severity : Severity) :
    Aside self (self.addSystem text severity) := by
  simp only [addSystem]
  split
  · exact .refl self
  · exact addDrawn_aside self _

theorem updateTranscriptStatus_aside (id : String) (status : ItemStatus) :
    Aside self (self.updateTranscriptStatus id status) := by
  refine ⟨rfl, rfl, rfl, rfl, fun bound => ?_⟩
  rw [updateTranscriptStatus, List.length_map]
  exact bound

theorem setNotice_aside (notice : String) : Aside self (self.setNotice notice) :=
  ⟨rfl, rfl, rfl, rfl, id⟩

theorem sendApp_aside (message : CoreAppMessage) (lane : LaneName) (trackingId : Option String) :
    Aside self (self.sendApp message lane trackingId) := by
  unfold sendApp
  split
  · exact .refl self
  · exact ⟨rfl, rfl, rfl, rfl, id⟩

theorem absorbReliable_aside (notes : List (Note ReliableBodyMessage)) :
    Aside self (absorbReliable notes self) := by
  induction notes generalizing self with
  | nil => exact .refl self
  | cons note rest ih =>
      cases note with
      | onDelivered id trackingId =>
          cases trackingId with
          | none => exact ih self
          | some trackingId => exact (updateTranscriptStatus_aside self _ _).trans (ih _)
      | onFailed id trackingId reason =>
          refine Aside.trans ?_ (ih _)
          refine Aside.trans ?_ (addSystem_aside _ reason .error)
          refine Aside.trans ?_ (setNotice_aside _ reason)
          cases trackingId with
          | none => exact .refl self
          | some trackingId => exact updateTranscriptStatus_aside self _ _
      | _ => exact ih self

theorem withReliable_aside
    (turned : ReliableChannel ReliableBodyMessage × List (Note ReliableBodyMessage)) :
    Aside self (self.withReliable turned) := by
  have adopted : Aside self { self with reliable := turned.1 } := ⟨rfl, rfl, rfl, rfl, id⟩
  exact adopted.trans (absorbReliable_aside _ turned.2)

theorem scheduleInboundVoice_aside : Aside self self.scheduleInboundVoice := by
  unfold scheduleInboundVoice
  split <;> exact ⟨rfl, rfl, rfl, rfl, id⟩

theorem routeEnvelope_aside (packet : Packet) : Aside self (self.routeEnvelope packet) := by
  unfold routeEnvelope
  split
  · unfold queueInboundVoice
    split
    · exact .refl self
    · refine Aside.trans ?_ (scheduleInboundVoice_aside _)
      exact ⟨rfl, rfl, rfl, rfl, id⟩
  · exact ⟨rfl, rfl, rfl, rfl, id⟩

theorem transportChanged_aside (status : ConnectionStatus) :
    Aside self (self.transportChanged status) := by
  unfold transportChanged
  split <;> exact ⟨rfl, rfl, rfl, rfl, id⟩

theorem voiceTurnOver_aside (queued : Bool) : Aside self (self.voiceTurnOver queued) := by
  simp only [voiceTurnOver]
  split
  · split
    · refine Aside.trans ?_ (scheduleInboundVoice_aside _)
      exact ⟨rfl, rfl, rfl, rfl, id⟩
    · exact ⟨rfl, rfl, rfl, rfl, id⟩
  · exact .refl self

theorem packetDropped_aside : Aside self self.packetDropped := by
  simp only [packetDropped]
  split <;> exact ⟨rfl, rfl, rfl, rfl, id⟩

theorem sendInitialHandshake_aside : Aside self self.sendInitialHandshake.1 := by
  unfold sendInitialHandshake
  split <;> exact ⟨rfl, rfl, rfl, rfl, id⟩

theorem preparationOver_aside (preparation : Preparation) :
    Aside self (self.preparationOver preparation) := by
  unfold preparationOver
  split <;> exact ⟨rfl, rfl, rfl, rfl, id⟩

theorem handleHandshake_aside (epoch : Nat) (payload : Option HandshakeMessage) :
    Aside self (self.handleHandshake epoch payload).1 := by
  unfold handleHandshake
  split
  · exact .refl self
  · split
    · exact .refl self
    · split
      · exact .refl self
      · split
        · exact .refl self
        · split
          · split <;> exact ⟨rfl, rfl, rfl, rfl, id⟩
          · split
            · exact .refl self
            · simp only [sendReplyHandshake]
              split <;> exact ⟨rfl, rfl, rfl, rfl, id⟩

theorem handshakeProgress_aside (turned : SessionController × Progress HandshakeCall) :
    Aside turned.1 (handshakeProgress turned).1 := by
  obtain ⟨session, progress⟩ := turned
  cases progress with
  | thrown message => exact packetDropped_aside session
  | _ => exact .refl session

theorem messageProgress_aside (call : MessageCall)
    (turned : SessionController × Progress MessageStage) :
    Aside turned.1 (messageProgress call turned).1 := by
  obtain ⟨session, progress⟩ := turned
  cases progress with
  | finished => exact voiceTurnOver_aside session _
  | thrown message => exact (packetDropped_aside session).trans (voiceTurnOver_aside _ _)
  | waits stage => exact .refl session

theorem showPhrase_aside (phrase : String) : Aside self (self.showPhrase phrase) := by
  refine Aside.trans ?_ (addSystem_aside _ _ _)
  exact ⟨rfl, rfl, rfl, rfl, id⟩

theorem resumeHandshake_aside {self : SessionController} {call : HandshakeCall} {reply : Reply}
    {turned : SessionController × Progress HandshakeStage}
    (resumed : self.resumeHandshake call reply = some turned) : Aside self turned.1 := by
  unfold resumeHandshake at resumed
  split at resumed
  · obtain ⟨result, _, rfl⟩ := Option.map_eq_some_iff.mp resumed
    split <;> exact ⟨rfl, rfl, rfl, rfl, id⟩
  · cases resumed
    exact ⟨rfl, rfl, rfl, rfl, id⟩
  · split at resumed
    · cases resumed
      exact .refl self
    · cases resumed
      -- The two sides speak different protocols: a message on the screen and nothing else.
      have shown : Aside self { self with view := { self.view with
          security := .verificationFailed
          notice := some incompatible } } := ⟨rfl, rfl, rfl, rfl, id⟩
      have told := shown.trans (addSystem_aside _ incompatible .error)
      exact told.trans ⟨rfl, rfl, rfl, rfl, id⟩
  · cases resumed
    exact ⟨rfl, rfl, rfl, rfl, id⟩
  · cases resumed
    exact (showPhrase_aside self _).trans ⟨rfl, rfl, rfl, rfl, id⟩
  · cases resumed

end Apart

end SessionController

end OnlyTwo.Session
