import OnlyTwo.SessionIsolation
import OnlyTwo.SessionOutcalls

/-!
Handshakes and epochs. A `handleHandshake` call compares no epochs after any of
its awaits, and its last await is followed by the writes that make the room
secure. So what it installs belongs to the epoch it was started under only if
that epoch does not end while the call is suspended. Two more ends of an epoch
leave a secure room on display without its channel: a `createRoom` or `joinRoom`
that fails keeps the security state, and the `beforeunload` listener keeps the
whole view.
-/

namespace OnlyTwo.Session

open Bytes FileProtocol FileSender FileReceiver Reliable AppMessages

section Conditions

def Loop.shaking (self : Loop) : Bool :=
  match self.running with
  | some (.handshake _) => true
  | _ => false

/-- A silent `disconnect` of a room that is displayed as secure. -/
def Loop.abandons (self : Loop) : Event → Bool
  | .request .unload => self.session.view.phase = .active ∨ self.session.view.security.live
  | .settle ticket reply =>
      self.session.view.security.live ∧
        (self.calls.get? ticket).any fun call => call.fails self.session reply
  | _ => false

/-- No epoch ends while a handshake is being handled, and no room displayed as
secure is left silently. -/
def Sheltered (loop : Loop) (event : Event) : Prop :=
  (loop.shaking = true → loop.endsEpoch event = false) ∧ loop.abandons event = false

instance (loop : Loop) (event : Event) : Decidable (Sheltered loop event) :=
  inferInstanceAs (Decidable (_ ∧ _))

end Conditions

section Backed

/-- The channel is of the current epoch, and a room displayed as secure has one. -/
structure Backed (session : SessionController) : Prop where
  current : ∀ channel, session.secure = some channel → channel.epoch = session.secureEpoch
  backed : session.view.phase = .active ∨ session.view.security.live = true →
    session.secure ≠ none

/-- The running handshake is of the current epoch; at its last await it has
installed the channel. -/
structure Secured (loop : Loop) : Prop where
  session : Backed loop.session
  started : ∀ call, loop.running = some (.handshake call) → call.epoch = loop.session.secureEpoch
  phrased : ∀ call key, loop.running = some (.handshake call) → call.stage = .phrasing key →
    loop.session.secure ≠ none

variable {before after : SessionController}

theorem Backed.calm (holds : Backed before) (calm : Calm before after) : Backed after where
  current channel found := by
    rw [calm.epoch]
    exact holds.current channel (calm.secure ▸ found)
  backed displayed := by
    rw [calm.secure]
    rcases displayed with active | live
    · exact holds.backed (Or.inl (calm.phase active))
    · rcases calm.security live with kept | channel
      · exact holds.backed (Or.inr kept)
      · exact channel

theorem Closed.backed (closed : Closed after) : Backed after where
  current channel found := by
    rw [closed.secure] at found
    cases found
  backed displayed := by
    rcases displayed with active | live
    · exact absurd active closed.phase
    · rw [closed.security] at live
      cases live

end Backed

namespace SessionController

variable {self : SessionController} {digest : Bytes → String} {reply : Reply}

section Handshake

variable {call : HandshakeCall} {turned : SessionController × Progress HandshakeStage}

theorem incompatible_kept (notice : String) :
    Kept self (({ self with view := { self.view with
      security := .verificationFailed
      notice := some notice } }.addSystem notice .error).established) := by
  refine Kept.andThen ?_ ((core_established _).trans (core_addSystem _ _ _))
  exact Kept.of_unverified _ rfl rfl

theorem installChannel_backed (peerKey : Bytes) : Backed (self.installChannel peerKey) where
  current channel found := by
    cases found
    rfl
  backed _ := by simp [installChannel]

theorem showPhrase_backed (holds : Backed self) (channel : self.secure ≠ none) (phrase : String) :
    Backed (self.showPhrase phrase).established := by
  have kept : (self.showPhrase phrase).established.core = { self.core with
      phase := .active
      security := .encryptedUnverified
      safetyPhrase := some phrase } := core_addSystem _ _ _
  have secure : (self.showPhrase phrase).established.secure = self.secure :=
    congrArg Core.secure kept
  have epoch : (self.showPhrase phrase).established.secureEpoch = self.secureEpoch :=
    congrArg Core.secureEpoch kept
  constructor
  · intro other found
    rw [epoch]
    exact holds.current other (secure ▸ found)
  · intro _
    rw [secure]
    exact channel

/-- A turn of a handshake that is of the current epoch. -/
theorem resumeHandshake_backed (resumed : self.resumeHandshake call reply = some turned)
    (holds : Backed self) (phrased : ∀ key, call.stage = .phrasing key → self.secure ≠ none) :
    Backed turned.1 ∧ turned.1.secureEpoch = self.secureEpoch ∧
      ∀ key, turned.2 = .waits (.phrasing key) → turned.1.secure ≠ none := by
  unfold resumeHandshake at resumed
  split at resumed
  · obtain ⟨result, _, rfl⟩ := Option.map_eq_some_iff.mp resumed
    cases result with
    | ok done => exact ⟨holds, rfl, fun key same => by cases same⟩
    | error message =>
        exact ⟨holds.calm (Calm.of_core (core_established self)), rfl, fun key same => by cases same⟩
  · cases resumed
    exact ⟨holds.calm (Calm.of_core (core_established self)), rfl, fun key same => by cases same⟩
  · split at resumed
    · cases resumed
      exact ⟨holds, rfl, fun key same => by cases same⟩
    · cases resumed
      have kept : Kept self _ := incompatible_kept incompatible
      exact ⟨holds.calm kept.toCalm, kept.epoch, fun key same => by cases same⟩
  · cases resumed
    exact ⟨installChannel_backed call.peerKey, rfl, fun key _ => by simp [installChannel]⟩
  · rename_i key phrase stage
    cases resumed
    refine ⟨showPhrase_backed holds (phrased _ stage) phrase, ?_, fun key same => by cases same⟩
    exact congrArg Core.secureEpoch (core_addSystem _ _ _)
  · cases resumed

theorem handshakeProgress_core (turned : SessionController × Progress HandshakeCall) :
    (handshakeProgress turned).1.core = turned.1.core := by
  obtain ⟨session, progress⟩ := turned
  cases progress with
  | finished => rfl
  | thrown message => exact core_packetDropped session
  | waits call => rfl

theorem handshakeProgress_call {turned : SessionController × Progress HandshakeCall}
    (goes : (handshakeProgress turned).2 = some (.handshake call)) : turned.2 = .waits call := by
  obtain ⟨session, progress⟩ := turned
  cases progress with
  | finished => cases goes
  | thrown message => cases goes
  | waits other =>
      cases goes
      rfl

end Handshake

section Control

theorem greet_core (unpauses : Bool) : (self.greet unpauses).1.core = self.core := by
  simp only [greet]
  split
  · exact core_sendInitialHandshake self
  · split
    · exact (core_updateFilePauseForVoice _).trans (core_sendInitialHandshake self)
    · exact core_sendInitialHandshake self

theorem runSequel_kept (sequel : Sequel) : Kept self (self.runSequel sequel).1 := by
  cases sequel with
  | reconnecting => exact Kept.refl self
  | connected =>
      simp only [runSequel]
      split
      · exact Kept.of_core (greet_core true)
      · exact Kept.of_core (core_updateFilePauseForVoice self)
  | present => exact Kept.of_core (greet_core false)
  | disconnected => exact (roomEntered_kept self _).andThen (core_addSystem _ _ _)
  | rejoined => exact Kept.of_core ((greet_core false).trans (core_addSystem _ _ _))

theorem prepared_kept (preparation : Preparation) (result : Except String Unit) :
    Kept self (self.prepared preparation result).1 := by
  have ended := Kept.of_core (core_preparationOver self preparation)
  cases result with
  | ok done => exact ended.trans (runSequel_kept preparation.sequel)
  | error message => exact ended

/-- What a turn of a control handler does. A preparation goes on in the lifecycle it
was started in; whatever else happens leaves the session as it is. -/
inductive Controlled (self : SessionController) (stage : ControlStage) (reply : Reply) :
    SessionController × Option ControlStage → Prop where
  | configures (preparation : Preparation) :
      stage = .resetting preparation → preparation.lifecycle = self.lifecycleEpoch →
      Controlled self stage reply (self, some (.configuring preparation))
  | generates (preparation : Preparation) :
      stage = .configuring preparation → reply = .done →
      Controlled self stage reply (self, some (.generating preparation))
  | keyed (preparation : Preparation) (bytes : Bytes) {turned : SessionController × Option ControlStage} :
      stage = .generating preparation → reply = .key bytes →
      preparation.lifecycle = self.lifecycleEpoch → Kept (self.newKey bytes) turned.1 →
      (∀ next, turned.2 = some next → next.chore = none) → Controlled self stage reply turned
  | other {turned : SessionController × Option ControlStage} :
      (∀ preparation, stage = .resetting preparation →
        preparation.lifecycle ≠ self.lifecycleEpoch) →
      (∀ preparation, stage = .configuring preparation → reply ≠ .done) → Kept self turned.1 →
      (∀ next, turned.2 = some next → next.chore = none) → Controlled self stage reply turned

theorem runSequel_settled {sequel : Sequel} {next : ControlStage}
    (follows : (self.runSequel sequel).2 = some next) : next.chore = none := by
  have greets : ∀ (session : SessionController) (unpauses : Bool) (stage : ControlStage),
      (session.greet unpauses).2 = some stage → stage.chore = none := by
    intro session unpauses stage greeted
    simp only [greet] at greeted
    split at greeted
    · cases greeted
      rfl
    · cases greeted
  cases sequel with
  | reconnecting => cases follows
  | connected =>
      simp only [runSequel] at follows
      split at follows
      · exact greets _ _ _ follows
      · cases follows
  | present => exact greets _ _ _ follows
  | disconnected => cases follows
  | rejoined => exact greets _ _ _ follows

theorem prepared_settled {preparation : Preparation} {result : Except String Unit}
    {next : ControlStage} (follows : (self.prepared preparation result).2 = some next) :
    next.chore = none := by
  cases result with
  | ok done => exact runSequel_settled follows
  | error message => cases follows

theorem resumeControl_controlled {stage : ControlStage}
    {turned : SessionController × Option ControlStage}
    (resumed : self.resumeControl stage reply = some turned) :
    Controlled self stage reply turned := by
  unfold resumeControl at resumed
  split at resumed
  · split at resumed
    · -- The room was left while the worker was resetting.
      rename_i stale
      cases resumed
      exact .other (fun _ same => ControlStage.resetting.inj same ▸ stale) (by simp)
        (prepared_kept _ _) (fun _ => prepared_settled)
    · rename_i current
      cases resumed
      exact .configures _ rfl (not_not.mp current)
  · cases resumed
    exact .other (by simp) (by simp) (prepared_kept _ _) (fun _ => prepared_settled)
  · cases resumed
    exact .generates _ rfl rfl
  · cases resumed
    exact .other (by simp) (by simp) (prepared_kept _ _) (fun _ => prepared_settled)
  · rename_i bytes
    split at resumed
    · cases resumed
      exact .other (by simp) (by simp) (prepared_kept _ _) (fun _ => prepared_settled)
    · rename_i current
      dsimp only at resumed
      split at resumed
      · -- The peer was there first, so the handshake goes out at once.
        have greeted := Kept.of_core (core_sendInitialHandshake (self.newKey bytes))
        split at resumed
        · cases resumed
          exact .keyed _ _ rfl rfl (not_not.mp current) greeted (by simp [ControlStage.chore])
        · cases resumed
          exact .keyed _ _ rfl rfl (not_not.mp current) (greeted.trans (prepared_kept _ _))
            (fun _ => prepared_settled)
      · cases resumed
        exact .keyed _ _ rfl rfl (not_not.mp current) (prepared_kept _ _)
          (fun _ => prepared_settled)
  · obtain ⟨result, _, rfl⟩ := Option.map_eq_some_iff.mp resumed
    exact .other (by simp) (by simp) (prepared_kept _ result) (fun _ => prepared_settled)
  · cases resumed
    exact .other (by simp) (by simp) (Kept.refl self) (by simp)
  · cases resumed
    exact .other (by simp) (by simp) (runSequel_kept _) (fun _ => runSequel_settled)
  · obtain ⟨result, _, rfl⟩ := Option.map_eq_some_iff.mp resumed
    refine .other (by simp) (by simp) (Kept.of_core ?_) ?_
    · cases result with
      | ok done =>
          dsimp only
          split
          · exact core_updateFilePauseForVoice self
          · rfl
      | error message => rfl
    · cases result <;> simp
  · cases resumed

/-- Once an epoch is counted, its preparation leaves the secure session as it is. -/
theorem resumeControl_calm {stage : ControlStage} {turned : SessionController × Option ControlStage}
    (resumed : self.resumeControl stage reply = some turned) : Calm self turned.1 := by
  cases resumeControl_controlled resumed with
  | configures preparation _ _ => exact (Kept.refl self).toCalm
  | generates preparation _ _ => exact (Kept.refl self).toCalm
  | keyed preparation bytes _ _ _ kept _ => exact (newKey_calm self bytes).trans kept.toCalm
  | other _ _ kept _ => exact kept.toCalm

theorem prepareFreshCryptoEpoch_backed (holds : Backed self) (notice : String) (sequel : Sequel) :
    Backed (self.prepareFreshCryptoEpoch notice sequel).1 := by
  simp only [prepareFreshCryptoEpoch]
  split
  · exact holds
  · exact Closed.backed (Closed.of_core (freshEpoch_closed self notice) rfl)

theorem onConnectionStatus_backed (holds : Backed self) (status : ConnectionStatus) :
    Backed (self.onConnectionStatus status).1 := by
  have shown : Calm self { self with view := { self.view with connection := status } } :=
    Calm.of_core rfl
  cases status with
  | disconnected => exact holds.calm shown
  | connecting => exact holds.calm shown
  | connected =>
      simp only [onConnectionStatus]
      split
      · exact prepareFreshCryptoEpoch_backed (holds.calm shown) _ _
      · exact holds.calm (shown.trans (runSequel_kept _).toCalm)
  | reconnecting => exact prepareFreshCryptoEpoch_backed (holds.calm shown) _ _
  | failed =>
      have failed : Calm self { self with view := { self.view with
          connection := .failed
          phase := .failed
          notice := some "Connection lost." } } :=
        ⟨rfl, rfl, fun active => (by cases active), Or.inl⟩
      exact holds.calm (failed.andThen (core_addSystem _ _ _))

theorem onRelayEvent_backed (holds : Backed self) (event : RelayEvent) :
    Backed (self.onRelayEvent event).1 := by
  cases event with
  | peerPresent =>
      simp only [onRelayEvent]
      split
      · exact prepareFreshCryptoEpoch_backed holds _ _
      · exact holds.calm (runSequel_kept _).toCalm
  | peerDisconnected => exact prepareFreshCryptoEpoch_backed holds _ _
  | peerRejoined => exact prepareFreshCryptoEpoch_backed holds _ _
  | sessionEnded => exact (disconnect_closed self _).backed

end Control

section Beginning

theorem handleHandshake_kept (epoch : Nat) (payload : Option HandshakeMessage) :
    Kept self (self.handleHandshake epoch payload).1 := by
  simp only [handleHandshake]
  split
  · exact Kept.refl self
  · split
    · exact Kept.refl self
    · split
      · exact Kept.refl self
      · split
        · exact Kept.refl self
        · split
          · split
            · exact Kept.refl self
            · exact Kept.of_unverified _ rfl rfl
          · split
            · exact Kept.refl self
            · exact Kept.of_core (core_sendReplyHandshake _)

/-- A call starts under the epoch it is given, before its first write; there is a
local key then and no channel. -/
theorem handleHandshake_call {epoch : Nat} {payload : Option HandshakeMessage}
    {call : HandshakeCall} (begun : (self.handleHandshake epoch payload).2 = .waits call) :
    (call.epoch = epoch ∧ ∀ key, call.stage ≠ .phrasing key) ∧
      self.localPublicKey ≠ none ∧ self.secure = none := by
  simp only [handleHandshake] at begun
  split at begun
  · cases begun
  · rename_i localKey known
    split at begun
    · cases begun
    · split at begun
      · cases begun
      · split at begun
        · cases begun
        · split at begun
          · split at begun <;> cases begun
          · rename_i channel
            split at begun
            · cases begun
            · cases begun
              refine ⟨⟨rfl, fun key => ?_⟩, by simp [known], not_not.mp channel⟩
              dsimp only
              split <;> simp

theorem onEnvelope_kept (packet : Packet) (epoch : Nat) (queued : Bool) :
    Kept self (self.onEnvelope packet epoch queued).1 := by
  simp only [onEnvelope]
  split
  · exact Kept.of_core (core_voiceTurnOver self queued)
  · split
    · split
      · exact Kept.of_core (core_packetDropped self)
      · exact (handleHandshake_kept epoch _).andThen (handshakeProgress_core _)
    · split
      · exact Kept.of_core (core_voiceTurnOver self queued)
      · exact Kept.refl self

theorem onEnvelope_handshake {packet : Packet} {epoch : Nat} {queued : Bool} {call : HandshakeCall}
    (begun : (self.onEnvelope packet epoch queued).2 = some (.handshake call)) :
    (call.epoch = self.secureEpoch ∧ ∀ key, call.stage ≠ .phrasing key) ∧
      self.localPublicKey ≠ none ∧ self.secure = none := by
  simp only [onEnvelope] at begun
  split at begun
  · cases begun
  · rename_i current
    split at begun
    · split at begun
      · cases begun
      · obtain ⟨⟨same, early⟩, bare⟩ := handleHandshake_call (handshakeProgress_call begun)
        exact ⟨⟨same.trans (not_not.mp current), early⟩, bare⟩
    · split at begun <;> cases begun

theorem controlProgress_not_handshake {turned : SessionController × Option ControlStage}
    {call : HandshakeCall} : (controlProgress turned).2 ≠ some (.handshake call) := by
  obtain ⟨session, stage⟩ := turned
  cases stage <;> simp [controlProgress]

theorem beginWork_backed (holds : Backed self) (work : Work) : Backed (self.beginWork work).1 := by
  cases work with
  | status lifecycle status =>
      simp only [beginWork]
      split
      · exact onConnectionStatus_backed holds status
      · exact holds
  | relay lifecycle event =>
      simp only [beginWork]
      split
      · exact onRelayEvent_backed holds event
      · exact holds
  | envelope packet epoch => exact holds.calm (onEnvelope_kept packet epoch false).toCalm
  | voice =>
      simp only [beginWork, processOneInboundVoice]
      have shifted : Calm self { self with inboundVoice := (self.inboundVoice.shiftFresh self.now).queue } :=
        Calm.of_core rfl
      split
      · exact holds.calm (shifted.andThen (core_voiceTurnOver _ true))
      · exact holds.calm (shifted.trans (onEnvelope_kept _ _ true).toCalm)

/-- The work whose turn it is runs in the current epoch if it is a handshake. -/
theorem beginWork_handshake {work : Work} {call : HandshakeCall}
    (begun : (self.beginWork work).2 = some (.handshake call)) :
    call.epoch = (self.beginWork work).1.secureEpoch ∧ ∀ key, call.stage ≠ .phrasing key := by
  cases work with
  | status lifecycle status =>
      simp only [beginWork] at begun
      split at begun
      · exact absurd begun controlProgress_not_handshake
      · cases begun
  | relay lifecycle event =>
      simp only [beginWork] at begun
      split at begun
      · exact absurd begun controlProgress_not_handshake
      · cases begun
  | envelope packet epoch =>
      obtain ⟨⟨same, early⟩, _⟩ := onEnvelope_handshake begun
      exact ⟨same.trans (onEnvelope_kept packet epoch false).epoch.symm, early⟩
  | voice =>
      simp only [beginWork, processOneInboundVoice] at begun ⊢
      split at begun
      · cases begun
      · rename_i packet next
        obtain ⟨⟨same, early⟩, _⟩ := onEnvelope_handshake begun
        exact ⟨same.trans (onEnvelope_kept packet _ true).epoch.symm, early⟩

/-- A handshake of an epoch that has ended installs nothing. -/
theorem beginWork_installs {work : Work} {epoch : Nat}
    (origin : work.origin self.secureEpoch = .handshake epoch) (stale : epoch ≠ self.secureEpoch) :
    (self.beginWork work).1 = self := by
  cases work with
  | status lifecycle status => cases origin
  | relay lifecycle event => cases origin
  | voice => cases origin
  | envelope packet routed =>
      cases packet with
      | handshake streamId payload =>
          cases origin
          simp only [beginWork, onEnvelope, if_pos stale]
          rfl
      | data streamId => cases origin

end Beginning

end SessionController

section Runs

variable {digest : Bytes → String} {before after : Loop} {event : Event} {outputs : List Moment}

theorem Loop.installed_mem_moments {session turned : SessionController} {origin : Origin}
    {started now : Nat} (recorded : .installed started now ∈ moments session turned origin) :
    origin = .handshake started ∧ now = session.secureEpoch ∧ Installed session turned := by
  cases origin with
  | control => simp [moments] at recorded
  | message epoch =>
      simp only [moments] at recorded
      split at recorded <;> simp at recorded
  | handshake epoch =>
      simp only [moments] at recorded
      split at recorded
      · simp only [List.mem_singleton, Moment.installed.injEq] at recorded
        exact ⟨by rw [recorded.1], recorded.2, ‹_›⟩
      · simp at recorded

/-- An end of the epoch that leaves no secure room silently leaves none at all. -/
theorem Loop.step_closed (stepped : before.step digest event = some (after, outputs))
    (ends : before.endsEpoch event = true) (kept : before.abandons event = false) :
    Closed after.session := by
  cases event with
  | request request =>
      cases stepped
      cases request with
      | disconnect => exact before.session.disconnect_closed _
      -- `unload` tears down without touching the view, so nothing secure may be on display.
      | unload =>
          simp only [abandons, decide_eq_false_iff_not, not_or, Bool.not_eq_true] at kept
          exact ⟨rfl, by simpa [suspend, SessionController.perform, SessionController.disconnect]
            using kept.1, by simpa [suspend, SessionController.perform, SessionController.disconnect]
            using kept.2⟩
      | endChatForBoth sent =>
          have now : before.session.endsAtOnce sent = true := ends
          have phases : ¬(before.session.view.phase = .idle ∨ before.session.view.phase = .ended) := by
            simp only [SessionController.endsAtOnce, decide_eq_true_eq] at now
            exact not_or.mpr ⟨now.1, now.2.1⟩
          simp only [suspend, SessionController.perform, SessionController.endChatForBoth,
            if_neg phases, if_pos now]
          exact before.session.disconnect_closed _
      | _ => cases ends
  | settle ticket reply =>
      obtain ⟨⟨call, rest⟩, taken, settled⟩ := Option.bind_eq_some_iff.mp stepped
      obtain ⟨turned, answered, same⟩ := Option.map_eq_some_iff.mp settled
      cases same
      have found := (Callbacks.take_eq_some.mp taken).1
      simp only [endsEpoch, found, Option.any_some] at ends
      simp only [abandons, found, Option.any_some, decide_eq_false_iff_not, not_and,
        Bool.not_eq_true] at kept
      exact SessionController.settleLocal_closed answered ends kept
  | endSessionTimer =>
      simp only [step] at stepped
      split at stepped
      · cases stepped
        exact before.session.disconnect_closed _
      · cases stepped
  | _ => cases ends

theorem Secured.of_other {loop : Loop} (backed : Backed loop.session)
    (other : ∀ call, loop.running ≠ some (.handshake call)) : Secured loop :=
  ⟨backed, fun call running => absurd running (other call),
    fun call _ running => absurd running (other call)⟩

theorem Loop.passes_secured (holds : Secured before) (allowed : Sheltered before event)
    (stepped : before.step digest event = some (after, outputs)) (between : event.serial = false) :
    Secured after := by
  have passes := step_passes stepped between
  by_cases ends : before.endsEpoch event = true
  · have still : ∀ call, after.running ≠ some (.handshake call) := by
      intro call running
      rw [passes.running] at running
      have lasting := allowed.1 (by simp [shaking, running])
      rw [ends] at lasting
      cases lasting
    exact Secured.of_other (step_closed stepped ends allowed.2).backed still
  · have calm := passes.calm (Bool.eq_false_iff.mpr ends)
    constructor
    · exact holds.session.calm calm
    · intro call running
      rw [calm.epoch]
      exact holds.started call (passes.running ▸ running)
    · intro call key running stage
      rw [calm.secure]
      exact holds.phrased call key (passes.running ▸ running) stage

theorem HandshakeCall.progress_waits {call next : HandshakeCall} {progress : Progress HandshakeStage}
    (waits : call.progress progress = .waits next) :
    ∃ stage, progress = .waits stage ∧ next = { call with stage } := by
  cases progress with
  | finished => cases waits
  | thrown message => cases waits
  | waits stage =>
      cases waits
      exact ⟨stage, rfl, rfl⟩

theorem Loop.begin_secured (holds : Secured before)
    (stepped : before.step digest .begin = some (after, outputs)) :
    Secured after ∧ ∀ started now, .installed started now ∈ outputs → now = started := by
  simp only [step] at stepped
  split at stepped
  · rename_i work rest idle queue
    cases stepped
    have queued : Backed { before.session with inbound := rest } :=
      holds.session.calm (Kept.of_shift queue).toCalm
    constructor
    · constructor
      · exact SessionController.beginWork_backed queued work
      · intro call running
        exact (SessionController.beginWork_handshake running).1
      · intro call key running stage
        exact absurd stage ((SessionController.beginWork_handshake running).2 key)
    · intro started now recorded
      obtain ⟨origin, rfl, installed⟩ := installed_mem_moments recorded
      by_contra stale
      have same : ({ before.session with inbound := rest }.beginWork work).1 =
          { before.session with inbound := rest } :=
        SessionController.beginWork_installs origin (Ne.symm stale)
      rw [same] at installed
      simp [Installed] at installed
  · cases stepped

/-- A turn of the running handshake keeps it in its epoch. -/
theorem Loop.resume_handshake_secured {call : HandshakeCall} {reply : Reply}
    {turned : SessionController × Progress HandshakeStage} (holds : Secured before)
    (running : before.running = some (.handshake call))
    (resumed : before.session.resumeHandshake call reply = some turned) (calls : Callbacks LocalCall) :
    let done := SessionController.handshakeProgress (turned.1, call.progress turned.2)
    Secured ⟨done.1, done.2, calls⟩ := by
  obtain ⟨backed, epoch, phrased⟩ := SessionController.resumeHandshake_backed resumed
    holds.session (fun key stage => holds.phrased call key running stage)
  have core := SessionController.handshakeProgress_core (turned.1, call.progress turned.2)
  constructor
  · exact backed.calm (Calm.of_core core)
  · intro next same
    obtain ⟨stage, _, rfl⟩ := HandshakeCall.progress_waits
      (SessionController.handshakeProgress_call same)
    exact (holds.started call running).trans
      (epoch.symm.trans (congrArg Core.secureEpoch core).symm)
  · intro next key same stage
    obtain ⟨waiting, waits, rfl⟩ := HandshakeCall.progress_waits
      (SessionController.handshakeProgress_call same)
    cases stage
    exact fun lost => phrased key waits ((congrArg Core.secure core).symm.trans lost)

theorem Loop.resume_secured {reply : Reply} (holds : Secured before)
    (stepped : before.step digest (.resume reply) = some (after, outputs)) :
    Secured after ∧ ∀ started now, .installed started now ∈ outputs → now = started := by
  obtain ⟨call, running, resumed⟩ := Option.bind_eq_some_iff.mp stepped
  obtain ⟨turned, answered, same⟩ := Option.map_eq_some_iff.mp resumed
  cases same
  cases call with
  | control stage =>
      obtain ⟨inner, answer, rfl⟩ := Option.map_eq_some_iff.mp answered
      have calm := SessionController.resumeControl_calm answer
      constructor
      · exact Secured.of_other (holds.session.calm calm)
          (fun call => SessionController.controlProgress_not_handshake)
      · intro started now recorded
        cases (installed_mem_moments recorded).1
  | message call =>
      obtain ⟨inner, answer, rfl⟩ := Option.map_eq_some_iff.mp answered
      have core := (SessionController.messageProgress_core call inner).trans
        (SessionController.resumeMessage_core answer)
      constructor
      · apply Secured.of_other (holds.session.calm (Calm.of_core core))
        intro next same
        obtain ⟨stage, _, other⟩ := SessionController.messageProgress_call same
        cases other
      · intro started now recorded
        cases (installed_mem_moments recorded).1
  | handshake call =>
      obtain ⟨inner, answer, rfl⟩ := Option.map_eq_some_iff.mp answered
      refine ⟨resume_handshake_secured holds running answer before.calls, ?_⟩
      intro started now recorded
      obtain ⟨origin, rfl, _⟩ := installed_mem_moments recorded
      cases origin
      exact (holds.started call running).symm

theorem Loop.step_secured (holds : Secured before) (allowed : Sheltered before event)
    (stepped : before.step digest event = some (after, outputs)) :
    Secured after ∧ ∀ started now, .installed started now ∈ outputs → now = started := by
  by_cases serial : event.serial = true
  · cases event with
    | begin => exact begin_secured holds stepped
    | resume reply => exact resume_secured holds stepped
    | _ => cases serial
  · have between := Bool.eq_false_iff.mpr serial
    refine ⟨passes_secured holds allowed stepped between, fun started now recorded => ?_⟩
    rw [(step_passes stepped between).silent] at recorded
    simp at recorded

/-- In a sheltered run a handshake installs parts of a secure session only in the
epoch it was started under, and a room displayed as secure has a channel of the
current epoch. -/
theorem handshakes_stay_in_epoch (digest : Bytes → String) {finish : Loop} {history : List Moment}
    (run : Machine.Run (machine digest) Sheltered Loop.create finish history) :
    (∀ started now, .installed started now ∈ history → now = started) ∧
      (finish.session.view.phase = .active ∨
        finish.session.view.security ∈ [SecurityState.encryptedUnverified, .verified] →
        ∃ channel, finish.session.secure = some channel ∧
          channel.epoch = finish.session.secureEpoch) := by
  have holds := run.invariant
    (fun loop past => Secured loop ∧
      ∀ started now, .installed started now ∈ past → now = started)
    ⟨⟨⟨by simp [Loop.create, SessionController.create], by
        simp [Loop.create, SessionController.create, SessionViewState.initial, SecurityState.live]⟩,
      by simp [Loop.create], by simp [Loop.create]⟩, by simp⟩
    (by
      intro before past event after outputs holds allowed stepped
      obtain ⟨secured, recorded⟩ := Loop.step_secured holds.1 allowed stepped
      refine ⟨secured, fun started now member => ?_⟩
      rcases List.mem_append.mp member with old | new
      · exact holds.2 started now old
      · exact recorded started now new)
  refine ⟨holds.2, fun displayed => ?_⟩
  have channel := holds.1.session.backed (displayed.imp id (by simp [SecurityState.live]))
  obtain ⟨channel, found⟩ := Option.ne_none_iff_exists'.mp channel
  exact ⟨channel, found, holds.1.session.current channel found⟩

def secureRoom : List Event := handshakeTaken ++ [.resume (.text "river lunar")]

/-- A handshake that ends before anyone leaves the room. -/
theorem sample_handshake_in_epoch :
    ∃ finish history,
      Machine.Run (machine fun _ => "digest") Sheltered Loop.create finish history ∧
      .installed 1 1 ∈ history ∧ finish.session.view.phase = .active ∧
      (∀ started now, .installed started now ∈ history → now = started) ∧
      ∃ channel, finish.session.secure = some channel ∧
        channel.epoch = finish.session.secureEpoch := by
  have ran : ((machine fun _ => "digest").execute Loop.create secureRoom).map (fun result =>
      (result.2, result.1.session.view.phase)) =
      some ([.installed 1 1, .installed 1 1], .active) := by
    decide +kernel
  have admitted : (machine fun _ => "digest").Along Sheltered Loop.create secureRoom := by
    decide +kernel
  obtain ⟨⟨finish, history⟩, executed, same⟩ := Option.map_eq_some_iff.mp ran
  simp only [Prod.mk.injEq] at same
  obtain ⟨recorded, active⟩ := same
  have run := Machine.execute_run _ admitted executed
  obtain ⟨inEpoch, backed⟩ := handshakes_stay_in_epoch _ run
  refine ⟨finish, history, run, ?_, active, inEpoch, backed (Or.inl active)⟩
  rw [recorded]
  simp

/-- The room is closed while the phrase is computed. The handshake then makes the
closed room active and encrypted, without a channel. -/
theorem closed_room_made_active :
    ∃ finish history,
      Machine.Run (machine fun _ => "digest") Machine.Unrestricted Loop.create finish history ∧
      .installed 1 2 ∈ history ∧ finish.session.view.phase = .active ∧
      finish.session.view.security = .encryptedUnverified ∧ finish.session.secure = none := by
  have ran : ((machine fun _ => "digest").execute Loop.create
      (handshakeTaken ++ [.request .disconnect, .resume (.text "river lunar")])).map (fun result =>
        (result.2, result.1.session.view.phase, result.1.session.view.security,
          result.1.session.secure)) =
      some ([.installed 1 1, .installed 1 2], .active, .encryptedUnverified, none) := by
    decide +kernel
  obtain ⟨⟨finish, history⟩, executed, same⟩ := Option.map_eq_some_iff.mp ran
  simp only [Prod.mk.injEq] at same
  obtain ⟨recorded, active, encrypted, lost⟩ := same
  refine ⟨finish, history, Machine.execute_run _ (Machine.along_unrestricted _ _) executed, ?_,
    active, encrypted, lost⟩
  rw [recorded]
  simp

end Runs

end OnlyTwo.Session
