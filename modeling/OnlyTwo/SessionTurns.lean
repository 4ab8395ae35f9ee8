import OnlyTwo.SessionHandshake

/-!
What the functions of the session do to the epochs, the channel and the local
key: how `disconnect`, `start` and `prepareFreshCryptoEpoch` end an epoch, and the
cases of an inbound work and of a turn of a handshake, each with what it asks of
the transport and of the worker.
-/

namespace OnlyTwo.Session

open Bytes FileProtocol FileSender FileReceiver Reliable AppMessages

/-- The lifecycle a work was queued in, if it compares lifecycles. -/
def Work.lifecycle : Work → Option Nat
  | .status lifecycle _ => some lifecycle
  | .relay lifecycle _ => some lifecycle
  | _ => none

/-- The stages of a handshake before it installs a channel. -/
def HandshakeStage.early : HandshakeStage → Bool
  | .phrasing _ => false
  | _ => true

section Endings

variable {before after : SessionController}

/-- `disconnect` has run. The view may still show what it showed. -/
structure Torn (before after : SessionController) : Prop where
  lifecycle : after.lifecycleEpoch = before.lifecycleEpoch + 1
  epoch : after.secureEpoch = before.secureEpoch + 1
  secure : after.secure = none
  key : after.localPublicKey = none
  verified : after.view.security = .verified → before.view.security = .verified
  duties : after.duties ⊆ before.duties

/-- `prepareFreshCryptoEpoch` has begun a new epoch. -/
structure Fresh (before after : SessionController) : Prop where
  lifecycle : after.lifecycleEpoch = before.lifecycleEpoch
  epoch : after.secureEpoch = before.secureEpoch + 1
  secure : after.secure = none
  key : after.localPublicKey = none
  unverified : after.view.security ≠ .verified
  startup : after.startupInFlight = before.startupInFlight
  duties : after.duties ⊆ before.duties

theorem Fresh.of_kept {first : SessionController} (kept : Kept first before)
    (fresh : Fresh before after) : Fresh first after where
  lifecycle := fresh.lifecycle.trans kept.lifecycle
  epoch := by rw [fresh.epoch, kept.epoch]
  secure := fresh.secure
  key := fresh.key
  unverified := fresh.unverified
  startup := fresh.startup.trans kept.startup
  duties := List.Subset.trans fresh.duties kept.duties

theorem Torn.of_kept {first : SessionController} (kept : Kept first before)
    (torn : Torn before after) : Torn first after where
  lifecycle := by rw [torn.lifecycle, kept.lifecycle]
  epoch := by rw [torn.epoch, kept.epoch]
  secure := torn.secure
  key := torn.key
  verified agreed := kept.verified (torn.verified agreed)
  duties := List.Subset.trans torn.duties kept.duties

end Endings

namespace SessionController

variable (self : SessionController)

section Teardown

theorem core_tearDown : self.tearDown.core =
    { self.core with
      lifecycleEpoch := self.lifecycleEpoch + 1
      secureEpoch := self.secureEpoch + 1
      secure := none
      localPublicKey := none
      peerPublicKey := none } := by
  simp only [tearDown, transportChanged]
  split
  · rfl
  · simp [core, duties, enqueueInbound, clearVoiceQueues, Work.prepares]

theorem tearDown_torn : Torn self self.tearDown where
  lifecycle := congrArg Core.lifecycleEpoch self.core_tearDown
  epoch := congrArg Core.secureEpoch self.core_tearDown
  secure := rfl
  key := rfl
  verified agreed := (congrArg Core.security self.core_tearDown).symm.trans agreed
  duties := by
    have kept : self.tearDown.duties = self.duties := congrArg Core.duties self.core_tearDown
    rw [kept]
    exact List.Subset.refl _

theorem disconnect_torn (silent : Bool) (notice : String) :
    Torn self (self.disconnect silent notice) := by
  have torn := self.tearDown_torn
  unfold disconnect
  split
  · exact torn
  · exact ⟨torn.lifecycle, torn.epoch, rfl, rfl, fun agreed => (by cases agreed), torn.duties⟩

theorem disconnect_startup (silent : Bool) (notice : String) :
    (self.disconnect silent notice).startupInFlight = self.startupInFlight := by
  unfold disconnect
  split <;> exact congrArg Core.startupInFlight self.core_tearDown

theorem startupFailed_torn (message : String) : Torn self (self.startupFailed message) := by
  have torn := self.disconnect_torn true roomClosed
  exact ⟨torn.lifecycle, torn.epoch, rfl, rfl, torn.verified, torn.duties⟩

theorem start_torn (code : String) (phase : StartPhase) (profileId : TransportProfileId) :
    Torn self (self.start code phase profileId) := by
  have torn := self.disconnect_torn true roomClosed
  exact ⟨torn.lifecycle, torn.epoch, rfl, rfl, fun agreed => (by cases agreed), torn.duties⟩

theorem core_freshEpoch (notice : String) : (self.freshEpoch notice).core =
    { self.core with
      secureEpoch := self.secureEpoch + 1
      secure := none
      localPublicKey := none
      peerPublicKey := none
      phase := .waiting
      security := .none
      safetyPhrase := none } := by
  simp only [freshEpoch]
  -- The channel fails its messages before the view is cleared; neither touches the core.
  generalize counting : ({ self with
    secureEpoch := self.secureEpoch + 1
    establishing := false
    initialHandshakeSent := false
    replyHandshakeSent := false
    remoteVoiceActive := false
    sender := self.sender.reset
    receiver := self.receiver.reset
    transferOrder := [] } : SessionController).clearVoiceQueues = counted
  have kept := core_withReliable counted
    (counted.reliable.failAll "Session changed. Unsent messages were not delivered.")
  generalize counted.withReliable _ = failed at kept
  have same : failed.core = { self.core with secureEpoch := self.secureEpoch + 1 } := by
    rw [kept, ← counting]
    rfl
  have profile : failed.profile = self.profile := congrArg Core.profile same
  have lifecycle : failed.lifecycleEpoch = self.lifecycleEpoch := congrArg Core.lifecycleEpoch same
  have epoch : failed.secureEpoch = self.secureEpoch + 1 := congrArg Core.secureEpoch same
  have startup : failed.startupInFlight = self.startupInFlight := congrArg Core.startupInFlight same
  have duties : failed.duties = self.duties := congrArg Core.duties same
  simp only [core, SessionController.duties, profile, lifecycle, epoch, startup] at duties ⊢
  rw [duties]

theorem prepareFreshCryptoEpoch_fresh (notice : String) (sequel : Sequel)
    (free : self.epochPreparation = none) :
    Fresh self (self.prepareFreshCryptoEpoch notice sequel).1 ∧
      ∃ preparation, (self.prepareFreshCryptoEpoch notice sequel).2 = some (.resetting preparation) ∧
        preparation.lifecycle = self.lifecycleEpoch := by
  have same := self.core_freshEpoch notice
  simp only [prepareFreshCryptoEpoch, if_neg (not_not.mpr free)]
  refine ⟨?_, _, rfl, rfl⟩
  constructor
  · exact congrArg Core.lifecycleEpoch same
  · exact congrArg Core.secureEpoch same
  · rfl
  · rfl
  · simp [freshEpoch]
  · exact congrArg Core.startupInFlight same
  · have kept : (self.freshEpoch notice).duties = self.duties := congrArg Core.duties same
    intro work member
    exact kept ▸ member

end Teardown

section Inbound

variable {self} {reply : Reply}

/-- What the next work of the inbound queue does. -/
inductive Begun (self : SessionController) (work : Work) :
    SessionController × Option InboundCall → Prop where
  | fresh {after : SessionController} (preparation : Preparation) :
      work.prepares = true → work.lifecycle = some self.lifecycleEpoch →
      preparation.lifecycle = self.lifecycleEpoch → Fresh self after →
      self.beginCalls work = [.clearQueuedPackets, .ask .reset true] →
      Begun self work (after, some (.control (.resetting preparation)))
  | torn {after : SessionController} : Torn self after →
      after.startupInFlight = self.startupInFlight →
      self.beginCalls work = tearDownCalls true → Begun self work (after, none)
  | control {turned : SessionController × Option ControlStage} : Kept self turned.1 →
      (∀ stage, turned.2 = some stage → stage.chore = none) → self.beginCalls work = [] →
      Begun self work (controlProgress turned)
  | packet {turned : SessionController × Option InboundCall} : Kept self turned.1 →
      (∀ stage, turned.2 ≠ some (.control stage)) →
      (∀ call, turned.2 = some (.handshake call) →
        self.localPublicKey ≠ none ∧ self.secure = none) →
      self.beginCalls work = [] → Begun self work turned

theorem prepareFreshCryptoEpoch_begun {work : Work} {shown : SessionController} (notice : String)
    (sequel : Sequel) (prepares : work.prepares = true)
    (current : work.lifecycle = some self.lifecycleEpoch) (same : shown.core = self.core)
    (preparation : shown.epochPreparation = self.epochPreparation)
    (calls : self.beginCalls work = self.prepareCalls) :
    Begun self work (controlProgress (shown.prepareFreshCryptoEpoch notice sequel)) := by
  have kept := Kept.of_core same
  by_cases free : self.epochPreparation = none
  · obtain ⟨fresh, begun, waits, lifecycle⟩ :=
      shown.prepareFreshCryptoEpoch_fresh notice sequel (preparation.trans free)
    have asks : self.beginCalls work = [.clearQueuedPackets, .ask .reset true] := by
      rw [calls, prepareCalls, if_neg (not_not.mpr free)]
    have turned := Begun.fresh begun prepares current (lifecycle.trans kept.lifecycle)
      (fresh.of_kept kept) asks
    have split : controlProgress (shown.prepareFreshCryptoEpoch notice sequel) =
        ((shown.prepareFreshCryptoEpoch notice sequel).1, some (.control (.resetting begun))) := by
      simp [controlProgress, waits]
    exact split ▸ turned
  · have busy : shown.epochPreparation ≠ none := preparation ▸ free
    simp only [prepareFreshCryptoEpoch, if_pos busy]
    apply Begun.control kept
    · simp [ControlStage.chore]
    · rw [calls, prepareCalls, if_pos free]

theorem onConnectionStatus_begun (status : ConnectionStatus) :
    Begun self (.status self.lifecycleEpoch status)
      (controlProgress (self.onConnectionStatus status)) := by
  have calls : self.beginCalls (.status self.lifecycleEpoch status) = self.statusCalls status := by
    simp [beginCalls]
  cases status with
  | disconnected => exact .control (Kept.of_core rfl) (by simp [onConnectionStatus]) calls
  | connecting => exact .control (Kept.of_core rfl) (by simp [onConnectionStatus]) calls
  | connected =>
      simp only [onConnectionStatus]
      split
      · rename_i bare
        exact prepareFreshCryptoEpoch_begun _ _ rfl rfl rfl rfl
          (calls.trans (by rw [statusCalls, if_pos bare]))
      · rename_i known
        have shown : Kept self { self with view := { self.view with connection := .connected } } :=
          Kept.of_core rfl
        refine .control (shown.trans (runSequel_kept _)) (fun _ => runSequel_settled) ?_
        rw [calls, statusCalls, if_neg known]
  | reconnecting => exact prepareFreshCryptoEpoch_begun _ _ rfl rfl rfl rfl calls
  | failed =>
      refine .control (Kept.andThen ?_ (core_addSystem _ _ _)) (by simp [onConnectionStatus]) calls
      exact ⟨⟨rfl, rfl, fun active => (by cases active), Or.inl⟩, rfl, rfl, id, rfl,
        List.Subset.refl _⟩

theorem onRelayEvent_begun (event : RelayEvent) :
    Begun self (.relay self.lifecycleEpoch event) (controlProgress (self.onRelayEvent event)) := by
  have calls : self.beginCalls (.relay self.lifecycleEpoch event) = self.relayCalls event := by
    simp [beginCalls]
  cases event with
  | peerPresent =>
      simp only [onRelayEvent]
      split
      · rename_i known
        exact prepareFreshCryptoEpoch_begun _ _ rfl rfl rfl rfl
          (calls.trans (by rw [relayCalls, if_pos known]))
      · rename_i bare
        refine .control (runSequel_kept _) (fun _ => runSequel_settled) ?_
        rw [calls, relayCalls, if_neg bare]
  | peerDisconnected => exact prepareFreshCryptoEpoch_begun _ _ rfl rfl rfl rfl calls
  | peerRejoined => exact prepareFreshCryptoEpoch_begun _ _ rfl rfl rfl rfl calls
  | sessionEnded => exact .torn (self.disconnect_torn false _) (self.disconnect_startup false _) calls

theorem onEnvelope_not_control {packet : Packet} {epoch : Nat} {queued : Bool}
    {stage : ControlStage} : (self.onEnvelope packet epoch queued).2 ≠ some (.control stage) := by
  simp only [onEnvelope]
  split
  · simp
  · split
    · split
      · simp
      · generalize self.handleHandshake epoch _ = turned
        obtain ⟨session, progress⟩ := turned
        cases progress <;> simp [handshakeProgress]
    · split <;> simp

theorem beginWork_begun (work : Work) : Begun self work (self.beginWork work) := by
  cases work with
  | status lifecycle status =>
      simp only [beginWork]
      split
      · rename_i current
        rw [current]
        exact onConnectionStatus_begun status
      · -- Queued in an earlier lifecycle.
        rename_i stale
        exact .packet (Kept.refl self) (by simp) (by simp) (by simp [beginCalls, stale])
  | relay lifecycle event =>
      simp only [beginWork]
      split
      · rename_i current
        rw [current]
        exact onRelayEvent_begun event
      · rename_i stale
        exact .packet (Kept.refl self) (by simp) (by simp) (by simp [beginCalls, stale])
  | envelope packet epoch =>
      exact .packet (onEnvelope_kept packet epoch false) (fun _ => onEnvelope_not_control)
        (fun _ begun => (onEnvelope_handshake begun).2) rfl
  | voice =>
      simp only [beginWork, processOneInboundVoice]
      -- The queue drops what is too old before it hands the next frame over.
      have shifted : Kept self { self with
          inboundVoice := (self.inboundVoice.shiftFresh self.now).queue } := Kept.of_core rfl
      split
      · exact .packet (shifted.andThen (core_voiceTurnOver _ true)) (by simp) (by simp) rfl
      · refine .packet (shifted.trans (onEnvelope_kept _ _ true)) (fun _ => onEnvelope_not_control)
          ?_ rfl
        intro call begun
        exact (onEnvelope_handshake begun).2

/-- What a turn of a handshake does. -/
inductive Shaken (self : SessionController) (call : HandshakeCall) (reply : Reply) :
    SessionController × Progress HandshakeStage → Prop where
  | installed (key : Option PublicKey) : call.stage = .agreeing → reply = .done →
      Shaken self call reply (self.installChannel call.peerKey, .waits (.phrasing key))
  | other {turned : SessionController × Progress HandshakeStage} : Steady self turned.1 →
      (∀ stage, turned.2 = .waits stage → call.stage.early = true) → Shaken self call reply turned

theorem showPhrase_steady (phrase : String) :
    Steady self (self.showPhrase phrase).established := by
  have same : (self.showPhrase phrase).established.core = { self.core with
      phase := .active
      security := .encryptedUnverified
      safetyPhrase := some phrase } := core_addSystem _ _ _
  constructor
  · exact congrArg Core.lifecycleEpoch same
  · exact congrArg Core.secureEpoch same
  · exact congrArg Core.secure same
  · exact congrArg Core.localPublicKey same
  · intro agreed
    cases agreed.symm.trans (congrArg Core.security same)
  · exact congrArg Core.startupInFlight same
  · have kept : (self.showPhrase phrase).established.duties = self.duties :=
      congrArg Core.duties same
    intro work member
    exact kept ▸ member

theorem resumeHandshake_shaken {call : HandshakeCall}
    {turned : SessionController × Progress HandshakeStage}
    (resumed : self.resumeHandshake call reply = some turned) : Shaken self call reply turned := by
  unfold resumeHandshake at resumed
  split at resumed
  · rename_i locals stage
    obtain ⟨result, _, rfl⟩ := Option.map_eq_some_iff.mp resumed
    refine .other ?_ (by simp [stage, HandshakeStage.early])
    cases result with
    | ok done => exact (Kept.refl self).toSteady
    | error message => exact (Kept.of_core (core_established self)).toSteady
  · cases resumed
    exact .other (Kept.of_core (core_established self)).toSteady (by simp)
  · rename_i expected stage
    split at resumed
    · cases resumed
      exact .other (Kept.refl self).toSteady (by simp [stage, HandshakeStage.early])
    · cases resumed
      exact .other (incompatible_kept incompatible).toSteady (by simp)
  · rename_i stage
    cases resumed
    exact .installed _ stage rfl
  · rename_i key phrase stage
    cases resumed
    exact .other (showPhrase_steady phrase) (by simp)
  · cases resumed

end Inbound

end SessionController

end OnlyTwo.Session
