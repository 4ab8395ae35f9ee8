import OnlyTwo.SessionEffects

/-!
The events that end an epoch. Besides the relay events and reconnects, which
wait for their turn behind `inboundSerial`, only calls of the user and their
timers do, and they run between any two turns of an inbound handler. `Calm`
says what every other turn leaves in place.
-/

namespace OnlyTwo.Session

open Bytes FileProtocol FileSender FileReceiver Reliable AppMessages

section Ending

def Request.ends (session : SessionController) : Request → Bool
  | .disconnect => true
  | .unload => true
  | .endChatForBoth sent => session.endsAtOnce sent
  | _ => false

/-- A `createRoom` or `joinRoom` that reaches its `catch`. -/
def LocalCall.fails (session : SessionController) : LocalCall → Reply → Bool
  | .lookingUp _, .error _ => true
  | .configuring _, .error _ => true
  | .generating _, .error _ => true
  | .connecting _, .error _ => true
  | .greeting locals, reply =>
      match session.announced locals reply with
      | some (.error _) => true
      | _ => false
  | _, _ => false

/-- One that fails, or that has its room and calls `start`. -/
def LocalCall.ends (session : SessionController) (call : LocalCall) (reply : Reply) : Bool :=
  call.fails session reply ||
    match call, reply with
    | .lookingUp _, .room _ _ => true
    | _, _ => false

/-- The calls of `createRoom` and `joinRoom`. -/
def LocalCall.startup : LocalCall → Bool
  | .lookingUp _ => true
  | .configuring _ => true
  | .generating _ => true
  | .connecting _ => true
  | .greeting _ => true
  | _ => false

def Loop.endsEpoch (self : Loop) : Event → Bool
  | .request request => request.ends self.session
  | .settle ticket reply => (self.calls.get? ticket).any fun call => call.ends self.session reply
  | .endSessionTimer => true
  | _ => false

end Ending

section Calm

def SecurityState.live (state : SecurityState) : Bool :=
  state ∈ [SecurityState.encryptedUnverified, .verified]

structure Calm (before after : SessionController) : Prop where
  epoch : after.secureEpoch = before.secureEpoch
  secure : after.secure = before.secure
  phase : after.view.phase = .active → before.view.phase = .active
  security : after.view.security.live → before.view.security.live ∨ before.secure ≠ none

/-- Nothing of a secure session is left. -/
structure Closed (session : SessionController) : Prop where
  secure : session.secure = none
  phase : session.view.phase ≠ .active
  security : session.view.security.live = false

variable {before middle after : SessionController}

/-- The epochs, the channel, the local key and the startup stay, nothing is
verified that was not, and no work comes up that prepares an epoch. -/
structure Steady (before after : SessionController) : Prop where
  lifecycle : after.lifecycleEpoch = before.lifecycleEpoch
  epoch : after.secureEpoch = before.secureEpoch
  secure : after.secure = before.secure
  key : after.localPublicKey = before.localPublicKey
  verified : after.view.security = .verified → before.view.security = .verified
  startup : after.startupInFlight = before.startupInFlight
  duties : after.duties ⊆ before.duties

structure Kept (before after : SessionController) : Prop
    extends Calm before after, Steady before after

theorem Calm.trans (first : Calm before middle) (second : Calm middle after) :
    Calm before after where
  epoch := second.epoch.trans first.epoch
  secure := second.secure.trans first.secure
  phase active := first.phase (second.phase active)
  security live := by
    rcases second.security live with kept | channel
    · exact first.security kept
    · exact Or.inr (first.secure ▸ channel)

theorem Kept.of_core (same : after.core = before.core) : Kept before after where
  epoch := congrArg Core.secureEpoch same
  secure := congrArg Core.secure same
  phase active := (congrArg Core.phase same).symm.trans active
  security live := by
    have kept : after.view.security = before.view.security := congrArg Core.security same
    rw [kept] at live
    exact Or.inl live
  lifecycle := congrArg Core.lifecycleEpoch same
  key := congrArg Core.localPublicKey same
  verified agreed := (congrArg Core.security same).symm.trans agreed
  startup := congrArg Core.startupInFlight same
  duties := by
    have kept : after.duties = before.duties := congrArg Core.duties same
    rw [kept]
    exact List.Subset.refl _

theorem Calm.of_core (same : after.core = before.core) : Calm before after := (Kept.of_core same).toCalm

theorem Calm.of_heard (same : after.core = { before.core with duties := after.duties }) :
    Calm before after where
  epoch := congrArg Core.secureEpoch same
  secure := congrArg Core.secure same
  phase active := (congrArg Core.phase same).symm.trans active
  security live := by
    have kept : after.view.security = before.view.security := congrArg Core.security same
    rw [kept] at live
    exact Or.inl live

theorem Calm.andThen (first : Calm before middle) (same : after.core = middle.core) :
    Calm before after :=
  first.trans (Calm.of_core same)

theorem Steady.trans (first : Steady before middle) (second : Steady middle after) :
    Steady before after where
  lifecycle := second.lifecycle.trans first.lifecycle
  epoch := second.epoch.trans first.epoch
  secure := second.secure.trans first.secure
  key := second.key.trans first.key
  verified agreed := first.verified (second.verified agreed)
  startup := second.startup.trans first.startup
  duties := List.Subset.trans second.duties first.duties

theorem Kept.refl (session : SessionController) : Kept session session := Kept.of_core rfl

theorem Kept.trans (first : Kept before middle) (second : Kept middle after) :
    Kept before after :=
  { first.toCalm.trans second.toCalm, first.toSteady.trans second.toSteady with }

theorem Kept.andThen (first : Kept before middle) (same : after.core = middle.core) :
    Kept before after :=
  first.trans (Kept.of_core same)

/-- A turn that only writes another security state than these. -/
theorem Kept.of_unverified (view : SessionViewState)
    (phase : view.phase = before.view.phase) (dead : view.security.live = false) :
    Kept before { before with view } where
  epoch := rfl
  secure := rfl
  phase active := phase.symm.trans active
  security live := by
    rw [dead] at live
    cases live
  lifecycle := rfl
  key := rfl
  verified agreed := by
    have live : view.security.live = true := by
      rw [show view.security = .verified from agreed]
      rfl
    rw [dead] at live
    cases live
  startup := rfl
  duties := List.Subset.refl _

/-- The first work is taken out of the queue. -/
theorem Kept.of_shift {work : Work} {rest : List Work} (queue : before.inbound = work :: rest) :
    Kept before { before with inbound := rest } where
  epoch := rfl
  secure := rfl
  phase := id
  security := Or.inl
  lifecycle := rfl
  key := rfl
  verified := id
  startup := rfl
  duties := by
    intro other member
    simp only [SessionController.duties, queue, List.mem_filter] at member ⊢
    exact ⟨List.mem_cons_of_mem work member.1, member.2⟩

theorem Closed.of_core (closed : Closed before) (same : after.core = before.core) :
    Closed after where
  secure := (congrArg Core.secure same).trans closed.secure
  phase := by
    have kept : after.view.phase = before.view.phase := congrArg Core.phase same
    rw [kept]
    exact closed.phase
  security := by
    have kept : after.view.security = before.view.security := congrArg Core.security same
    rw [kept]
    exact closed.security

end Calm

namespace SessionController

variable (self : SessionController)

section Teardown

@[simp] theorem tearDown_secure : self.tearDown.secure = none := rfl

@[simp] theorem tearDown_view : self.tearDown.view = self.view := by
  simp only [tearDown, transportChanged]
  split <;> rfl

theorem disconnect_closed (notice : String) : Closed (self.disconnect false notice) := by
  constructor <;> simp [disconnect, SecurityState.live]

theorem start_closed (code : String) (phase : StartPhase) (profileId : TransportProfileId) :
    Closed (self.start code phase profileId) := by
  constructor
  · rfl
  · cases phase <;> simp [start, StartPhase.phase]
  · rfl

theorem startupFailed_closed (message : String) (dead : self.view.security.live = false) :
    Closed (self.startupFailed message) := by
  constructor
  · rfl
  · simp [startupFailed]
  · simpa [startupFailed, disconnect] using dead

theorem freshEpoch_closed (notice : String) : Closed (self.freshEpoch notice) := by
  constructor <;> simp [freshEpoch, SecurityState.live]

end Teardown

section Requests

/-- What a public method does. -/
inductive Performed (request : Request) : SessionController × Option LocalCall → Prop where
  | other {after : SessionController} {next : Option LocalCall} :
      request.ends self = false → Kept self after →
      (∀ call, next = some call → call.startup = false) → Performed request (after, next)
  | opened (phase : StartPhase) (notice : String) :
      request.ends self = false → self.startupInFlight = false →
      Performed request
        ({ self with
            startupInFlight := true
            view := { self.view with phase := phase.phase, notice := some notice } },
          some (.lookingUp phase))
  | marked {after : SessionController} :
      request = .markVerified true → self.secure ≠ none →
      after.core = { self.core with security := .verified } → Performed request (after, none)
  | torn (silent : Bool) (notice : String) :
      request.ends self = true → Performed request (self.disconnect silent notice, none)

variable {self}

theorem Performed.of_kept {request : Request} {turned : SessionController × Option LocalCall}
    (lasting : request.ends self = false) (kept : Kept self turned.1)
    (plain : ∀ call, turned.2 = some call → call.startup = false) :
    Performed self request turned :=
  .other lasting kept plain

theorem Performed.same {request : Request} {turned : SessionController × Option LocalCall}
    (lasting : request.ends self = false) (same : turned.1.core = self.core)
    (plain : ∀ call, turned.2 = some call → call.startup = false) :
    Performed self request turned :=
  .of_kept lasting (Kept.of_core same) plain

variable (self)

theorem beginStartup_performed {request : Request} (lasting : request.ends self = false)
    (phase : StartPhase) (notice : String) :
    Performed self request (self.beginStartup phase notice) := by
  unfold beginStartup
  split
  · exact Performed.same lasting rfl (by simp)
  · rename_i free
    exact .opened phase notice lasting (Bool.eq_false_iff.mpr free)

theorem sendText_kept (body : Utf16) : Kept self (self.sendText body).1 := by
  simp only [sendText]
  split
  · exact Kept.refl self
  · split
    · exact Kept.of_unverified _ rfl rfl
    · split
      · exact Kept.refl self
      · apply Kept.of_core
        simp

theorem sendText_plain (body : Utf16) :
    ∀ call, (self.sendText body).2 = some call → call.startup = false := by
  simp only [sendText]
  split
  · simp
  · split
    · simp
    · split <;> simp [LocalCall.startup]

theorem offerFile_core (file : File) : (self.offerFile file).1.core = self.core := by
  simp only [offerFile]
  split
  · exact core_setNotice self _
  · split
    · rfl
    · exact core_withSender _ _

theorem offerFile_plain (file : File) :
    ∀ call, (self.offerFile file).2 = some call → call.startup = false := by
  simp only [offerFile]
  split
  · simp
  · split <;> simp [LocalCall.startup]

theorem cancelFile_core (fileId : String) : (self.cancelFile fileId).1.core = self.core := by
  simp only [cancelFile]
  split
  · rfl
  · split <;> simp

theorem cancelFile_plain (fileId : String) :
    ∀ call, (self.cancelFile fileId).2 = some call → call.startup = false := by
  simp only [cancelFile]
  split
  · simp
  · split <;> simp [LocalCall.startup]

theorem removeFile_core (fileId : String) : (self.removeFile fileId).core = self.core := by
  simp only [removeFile]
  split
  · rfl
  · split <;> simp

theorem startVoice_core : self.startVoice.1.core = self.core := by
  simp only [startVoice]
  split
  · exact core_setNotice self _
  · split
    · rfl
    · exact core_updateFilePauseForVoice _

theorem startVoice_plain : ∀ call, self.startVoice.2 = some call → call.startup = false := by
  simp only [startVoice]
  split
  · simp
  · split <;> simp [LocalCall.startup]

theorem stopVoice_core : self.stopVoice.1.core = self.core := by
  simp only [stopVoice]
  split <;> simp

theorem stopVoice_plain : ∀ call, self.stopVoice.2 = some call → call.startup = false := by
  simp only [stopVoice]
  split <;> simp [LocalCall.startup]

theorem toggleMute_core : self.toggleMute.core = self.core := by
  unfold toggleMute
  split <;> rfl

theorem markVerified_performed (agrees : Bool) :
    Performed self (.markVerified agrees) (self.markVerified agrees, none) := by
  simp only [markVerified]
  split
  · exact .other rfl (Kept.of_unverified _ rfl rfl) (by simp)
  · rename_i channel
    split
    · refine .other rfl (Kept.andThen ?_ (core_addSystem _ _ _)) (by simp)
      exact Kept.of_unverified _ rfl rfl
    · rename_i agreed
      refine .marked ?_ channel ((core_sendApp _ _ _ _).trans (core_addSystem _ _ _))
      simpa using agreed

theorem setProfile_plain (id : TransportProfileId) :
    (self.perform (.setProfile id)).2 = none := by
  simp only [perform]
  split <;> rfl

theorem setProfile_kept (id : TransportProfileId) : Kept self (self.perform (.setProfile id)).1 := by
  simp only [perform]
  split
  · exact Kept.refl self
  · exact ⟨⟨rfl, rfl, fun active => active, fun live => Or.inl live⟩, rfl, rfl, fun agreed => agreed,
      rfl, List.Subset.refl _⟩

theorem endChatForBoth_performed (sent : Bool) :
    Performed self (.endChatForBoth sent) (self.endChatForBoth sent, none) := by
  unfold endChatForBoth
  split
  · rename_i idle
    have lasting : self.endsAtOnce sent = false := by
      rw [endsAtOnce, decide_eq_false_iff_not]
      rintro ⟨busy, notEnded, _⟩
      exact idle.elim busy notEnded
    exact Performed.same lasting rfl (by simp)
  · split
    · rename_i now
      exact .torn false _ now
    · rename_i later
      exact Performed.same (Bool.eq_false_iff.mpr later) rfl (by simp)

theorem perform_performed (request : Request) : Performed self request (self.perform request) := by
  cases request with
  | setProfile id =>
      exact Performed.of_kept rfl (setProfile_kept self id) (by simp [setProfile_plain])
  | createRoom => exact beginStartup_performed self rfl _ _
  | joinRoom code =>
      simp only [perform]
      split
      · exact Performed.same rfl rfl (by simp)
      · exact beginStartup_performed self rfl _ _
  | sendText body =>
      exact Performed.of_kept rfl (sendText_kept self body) (sendText_plain self body)
  | offerFile file => exact Performed.same rfl (offerFile_core self file) (offerFile_plain self file)
  | acceptFile fileId => exact Performed.same rfl (core_onReceiver self _) (by simp [perform])
  | rejectFile fileId => exact Performed.same rfl (core_onReceiver self _) (by simp [perform])
  | cancelFile fileId =>
      exact Performed.same rfl (cancelFile_core self fileId) (cancelFile_plain self fileId)
  | removeFile fileId => exact Performed.same rfl (removeFile_core self fileId) (by simp [perform])
  | startVoice => exact Performed.same rfl (startVoice_core self) (startVoice_plain self)
  | stopVoice => exact Performed.same rfl (stopVoice_core self) (stopVoice_plain self)
  | toggleMute => exact Performed.same rfl (toggleMute_core self) (by simp [perform])
  | enableAudioPlayback => exact Performed.same rfl rfl (by simp [perform, LocalCall.startup])
  | markVerified agrees => exact markVerified_performed self agrees
  | endChatForBoth sent => exact endChatForBoth_performed self sent
  | disconnect => exact .torn false _ rfl
  | unload => exact .torn true _ rfl

/-- A request that ends no epoch leaves the secure session as it is. -/
theorem perform_calm {request : Request} (lasting : request.ends self = false) :
    Calm self (self.perform request).1 := by
  have performed := perform_performed self request
  generalize self.perform request = turned at performed
  cases performed with
  | other _ kept _ => exact kept.toCalm
  | opened phase notice _ _ =>
      refine ⟨rfl, rfl, fun active => ?_, fun live => Or.inl live⟩
      cases phase <;> cases active
  | marked _ channel same =>
      exact ⟨congrArg Core.secureEpoch same, congrArg Core.secure same,
        fun active => (congrArg Core.phase same).symm.trans active, fun _ => Or.inr channel⟩
  | torn silent notice ends =>
      rw [lasting] at ends
      cases ends

end Requests

section LocalCalls

theorem offered_core (fileId : String) (queued voiceActive : Bool) :
    (self.offered fileId queued voiceActive).core = self.core := by
  simp only [offered]
  split <;> simp

theorem voiceStarted_core (sampleRate : Nat) : (self.voiceStarted sampleRate).core = self.core :=
  (core_sendApp _ _ _ _).trans (core_addSystem _ _ _)

theorem voiceFailed_core (reason : String) : (self.voiceFailed reason).core = self.core :=
  (core_addSystem _ _ _).trans (core_updateFilePauseForVoice _)

theorem voiceStopped_core : self.voiceStopped.core = self.core :=
  (core_addSystem _ _ _).trans (core_updateFilePauseForVoice _)

theorem newKey_calm (bytes : Bytes) : Calm self (self.newKey bytes) :=
  ⟨rfl, rfl, id, Or.inl⟩

theorem roomEntered_kept (notice : String) :
    Kept self { self with view := { self.view with phase := .waiting, notice := some notice } } :=
  ⟨⟨rfl, rfl, fun active => (by cases active), Or.inl⟩, rfl, rfl, id, rfl, List.Subset.refl _⟩

/-- What a turn of a user's call does. A startup that goes on has a next call; one
that ends either reaches the `catch` or leaves the session as it is. -/
inductive Settled (call : LocalCall) (reply : Reply) : SessionController × Option LocalCall → Prop where
  | other {after : SessionController} {next : Option LocalCall} :
      call.startup = false → Kept self after →
      (∀ further, next = some further → further.startup = false) →
      Settled call reply (after, next)
  | failed (message : String) : call.startup = true → call.fails self reply = true →
      Settled call reply (self.startupFailed message, none)
  | started (code : String) (phase : StartPhase) (profileId : TransportProfileId) :
      call = .lookingUp phase → reply = .room code profileId →
      Settled call reply (self.start code phase profileId,
        some (.configuring (self.start code phase profileId).lifecycleEpoch))
  | configured (lifecycle : Nat) : call = .configuring lifecycle → reply = .done →
      Settled call reply (self, some (.generating lifecycle))
  | keyed (bytes : Bytes) : call = .generating self.lifecycleEpoch → reply = .key bytes →
      Settled call reply (self.newKey bytes, some (.connecting self.lifecycleEpoch))
  | entered (announcement : Announcement) {after : SessionController} :
      call = .connecting self.lifecycleEpoch → reply = .done → Kept self after →
      Settled call reply (after, some (.greeting announcement))
  | elapsed {after : SessionController} :
      call.startup = true → call.ends self reply = false →
      (∀ lifecycle, call ≠ .configuring lifecycle) → call ≠ .generating self.lifecycleEpoch →
      Kept self after → Settled call reply (after.startupDone, none)

variable {self} {digest : Bytes → String} {call : LocalCall} {reply : Reply}
  {turned : SessionController × Option LocalCall}

theorem Settled.same (plain : call.startup = false) (same : turned.1.core = self.core)
    (ended : turned.2 = none) : Settled self call reply turned :=
  .other plain (Kept.of_core same) (by simp [ended])

theorem settleLocal_settled (settled : self.settleLocal digest call reply = some turned) :
    Settled self call reply turned := by
  unfold settleLocal at settled
  split at settled
  · cases settled
    exact .failed _ rfl rfl
  · cases settled
    exact .started _ _ _ rfl rfl
  · cases settled
    exact .failed _ rfl rfl
  · cases settled
    exact .configured _ rfl rfl
  · cases settled
    exact .failed _ rfl rfl
  · split at settled
    · -- The room was left while the key was being made.
      rename_i stale
      cases settled
      exact .elapsed rfl rfl (by simp) (fun same => stale (LocalCall.generating.inj same))
        (Kept.refl self)
    · rename_i current
      cases settled
      rw [not_not.mp current]
      exact .keyed _ rfl rfl
  · cases settled
    exact .failed _ rfl rfl
  · split at settled
    · cases settled
      exact .elapsed rfl rfl (by simp) (by simp) (Kept.refl self)
    · rename_i current
      dsimp only at settled
      split at settled
      · cases settled
        rw [not_not.mp current]
        exact .entered _ rfl rfl ((roomEntered_kept self _).andThen (core_sendInitialHandshake _))
      · cases settled
        exact .elapsed rfl rfl (by simp) (by simp)
          ((roomEntered_kept self _).andThen (core_sendInitialHandshake _))
  · obtain ⟨result, answered, rfl⟩ := Option.map_eq_some_iff.mp settled
    cases result with
    | ok done =>
        refine .elapsed rfl ?_ (by simp) (by simp) (Kept.refl self)
        simp [LocalCall.ends, LocalCall.fails, answered]
    | error message =>
        refine .failed message rfl ?_
        simp [LocalCall.fails, answered]
  · cases settled
    refine Settled.same rfl ?_ rfl
    dsimp only
    split <;> rfl
  · cases settled
    exact Settled.same rfl (offered_core self _ _ _) rfl
  · obtain ⟨sender, _, rfl⟩ := Option.map_eq_some_iff.mp settled
    dsimp only
    split
    · exact Settled.same rfl ((offered_core _ _ _ _).trans (core_withSender self _)) rfl
    · refine .other rfl (Kept.of_core (core_withSender self _)) ?_
      simp [LocalCall.startup]
  · cases settled
    exact Settled.same rfl (core_startNextQueuedFileIfAllowed self) rfl
  · cases settled
    exact Settled.same rfl (voiceFailed_core self _) rfl
  · cases settled
    exact Settled.same rfl (voiceStarted_core self _) rfl
  · cases settled
    exact Settled.same rfl (voiceStopped_core self) rfl
  · cases settled
    exact Settled.same rfl rfl rfl
  · cases settled

/-- A turn of a user's call that ends no epoch leaves the secure session as it is. -/
theorem settleLocal_calm (settled : self.settleLocal digest call reply = some turned)
    (lasting : call.ends self reply = false) : Calm self turned.1 := by
  cases settleLocal_settled settled with
  | other _ kept _ => exact kept.toCalm
  | failed message _ fails => simp [LocalCall.ends, fails] at lasting
  | started code phase profileId looking found =>
      rw [looking, found] at lasting
      cases lasting
  | configured lifecycle _ _ => exact (Kept.refl self).toCalm
  | keyed bytes _ _ => exact newKey_calm self bytes
  | entered announcement _ _ kept => exact kept.toCalm
  | elapsed _ _ _ _ kept => exact ⟨kept.epoch, kept.secure, kept.phase, kept.security⟩

/-- One that ends an epoch leaves nothing of the secure session, unless it fails
while the room is displayed as secure. -/
theorem settleLocal_closed (settled : self.settleLocal digest call reply = some turned)
    (ends : call.ends self reply = true)
    (kept : self.view.security.live = true → call.fails self reply = false) : Closed turned.1 := by
  cases settleLocal_settled settled with
  | failed message _ fails =>
      apply startupFailed_closed
      rw [Bool.eq_false_iff]
      intro live
      rw [kept live] at fails
      cases fails
  | started code phase profileId _ _ => exact start_closed self code phase profileId
  | elapsed _ lasting _ _ _ =>
      rw [lasting] at ends
      cases ends
  | other plain _ _ =>
      cases call with
      | lookingUp phase => cases plain
      | configuring lifecycle => cases plain
      | generating lifecycle => cases plain
      | connecting lifecycle => cases plain
      | greeting locals => cases plain
      | _ => cases ends
  | configured lifecycle waited answered =>
      rw [waited, answered] at ends
      cases ends
  | keyed bytes waited answered =>
      rw [waited, answered] at ends
      cases ends
  | entered announcement waited answered _ =>
      rw [waited, answered] at ends
      cases ends

end LocalCalls

end SessionController

section Between

/-- The events that run an inbound handler. -/
def Event.serial : Event → Bool
  | .begin => true
  | .resume _ => true
  | _ => false

variable {digest : Bytes → String} {before after : Loop} {event : Event} {outputs : List Moment}

/-- What an event between two turns of the inbound handlers does. -/
structure Passes (before : Loop) (event : Event) (after : Loop) (outputs : List Moment) : Prop where
  running : after.running = before.running
  silent : outputs = []
  calm : before.endsEpoch event = false → Calm before.session after.session

theorem Passes.of_core {session : SessionController} (same : session.core = before.session.core)
    (stepped : before.withSession session = (after, outputs)) :
    Passes before event after outputs := by
  cases stepped
  exact ⟨rfl, rfl, fun _ => Calm.of_core same⟩

theorem Loop.step_passes (stepped : before.step digest event = some (after, outputs))
    (between : event.serial = false) : Passes before event after outputs := by
  cases event with
  | request request =>
      cases stepped
      exact ⟨rfl, rfl, fun lasting => before.session.perform_calm lasting⟩
  | settle ticket reply =>
      obtain ⟨⟨call, rest⟩, taken, settled⟩ := Option.bind_eq_some_iff.mp stepped
      obtain ⟨turned, answered, same⟩ := Option.map_eq_some_iff.mp settled
      cases same
      refine ⟨rfl, rfl, fun lasting => SessionController.settleLocal_calm answered ?_⟩
      simpa [endsEpoch, (Callbacks.take_eq_some.mp taken).1] using lasting
  | begin => cases between
  | resume reply => cases between
  | transportStatus status =>
      cases stepped
      exact ⟨rfl, rfl, fun _ => Calm.of_heard (before.session.core_transportChanged status)⟩
  | relayEvent relayed =>
      cases stepped
      exact ⟨rfl, rfl, fun _ => Calm.of_heard rfl⟩
  | envelope packet =>
      exact Passes.of_core (before.session.core_routeEnvelope packet) (Option.some.inj stepped)
  | endSessionTimer =>
      simp only [step] at stepped
      split at stepped
      · cases stepped
        -- The timer of a remote end tears the session down, which is an end of the epoch.
        exact ⟨rfl, rfl, fun lasting => by cases lasting⟩
      · cases stepped
  | voiceIdleTimer =>
      simp only [step] at stepped
      split at stepped
      · cases stepped
      · apply Passes.of_core _ (Option.some.inj stepped)
        split <;> rfl
  | senderCall ticket outcome =>
      simp only [step] at stepped
      split at stepped
      · cases stepped
      · obtain ⟨turned, _, same⟩ := Option.map_eq_some_iff.mp stepped
        exact Passes.of_core (before.session.core_withSender turned) same
  | senderTimer ticket =>
      obtain ⟨turned, _, same⟩ := Option.map_eq_some_iff.mp stepped
      exact Passes.of_core (before.session.core_withSender turned) same
  | receiverCall ticket outcome =>
      simp only [step] at stepped
      split at stepped
      · cases stepped
      · obtain ⟨turned, _, same⟩ := Option.map_eq_some_iff.mp stepped
        exact Passes.of_core (before.session.core_withReceiver turned) same
  | reliableSent id ok =>
      obtain ⟨turned, _, same⟩ := Option.map_eq_some_iff.mp stepped
      exact Passes.of_core (before.session.core_withReliable turned) same
  | reliableTimer handle =>
      obtain ⟨turned, _, same⟩ := Option.map_eq_some_iff.mp stepped
      exact Passes.of_core (before.session.core_withReliable turned) same
  | tick elapsed =>
      simp only [step] at stepped
      obtain ⟨turned, _, same⟩ := Option.map_eq_some_iff.mp stepped
      exact Passes.of_core (before.session.core_withReliable turned) same

end Between

section Samples

/-- X25519 keys: the base point for the peer, another point for us. -/
def sampleKey (first : UInt8) : Bytes := first :: List.replicate 31 0

def sampleHash : String := "00000000000000000000000000000000"

def sampleHandshake : HandshakeMessage :=
  ⟨bytesToBase64Url (sampleKey 9), .balanced, sampleHash, appVersion, featureFlags⟩

/-- The user creates a room and its socket opens. -/
def roomEntered : List Event :=
  [.request .createRoom, .settle 0 (.room "ABCD-EFGH" .balanced), .settle 1 .done,
    .settle 2 (.key (sampleKey 8)), .transportStatus .connecting, .begin,
    .transportStatus .connected, .settle 3 .done, .begin, .settle 4 (.flag true)]

/-- The handshake of the peer, up to the await of the phrase. -/
def handshakeTaken : List Event :=
  roomEntered ++ [.envelope (.handshake 0 (some sampleHandshake)), .begin, .resume (.flag true),
    .resume (.text sampleHash), .resume .done]

def sampleText : TranscriptItem := ⟨"msg_1", .text, .peer, utf16 "hello", 7, some .sent, none, none⟩

/-- A text of the peer in the room that is now secure, up to the await of its ACK. -/
def textTaken : List Event :=
  handshakeTaken ++ [.resume (.text "river lunar"), .envelope (.data 2), .begin,
    .resume (.message (.reliable (.msg "1" .text ⟨.text "msg_1" (utf16 "hello") 7, rfl⟩ 7 1)))]

end Samples

end OnlyTwo.Session
