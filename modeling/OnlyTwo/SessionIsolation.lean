import OnlyTwo.SessionEpoch

/-!
Messages and epochs. `onEnvelope` compares epochs once, right after decryption.
The handler then awaits again: the send of an ACK, the digest of a file, the
audio device, a cancelled transfer. As long as no epoch ends while a handler is
suspended there, what it shows belongs to the epoch its message was decrypted
in. Nothing else guards it: a chat that is closed while the ACK of a text is
being sent shows that text in the closed room.
-/

namespace OnlyTwo.Session

open Bytes FileProtocol FileSender FileReceiver Reliable AppMessages

/-- The handler will show something once it is resumed. Before the epochs are
compared, and once the rest is empty, it cannot. -/
def MessageStage.pending : MessageStage → Bool
  | .decrypting _ _ => false
  | .returning => false
  | _ => true

def Loop.handling (self : Loop) : Bool :=
  match self.running with
  | some (.message call) => call.stage.pending
  | _ => false

/-- No epoch ends while a decrypted message is being handled. -/
def Undisturbed (loop : Loop) (event : Event) : Prop :=
  loop.handling = true → loop.endsEpoch event = false

instance (loop : Loop) (event : Event) : Decidable (Undisturbed loop event) :=
  inferInstanceAs (Decidable (_ → _))

/-- A handler that will show something belongs to the current epoch. -/
def Attached (loop : Loop) : Prop :=
  ∀ call, loop.running = some (.message call) → call.stage.pending = true →
    call.epoch = loop.session.secureEpoch

namespace SessionController

variable {self : SessionController} {digest : Bytes → String} {call : MessageCall} {reply : Reply}

section Shown

theorem shown_voiceTurnOver (queued : Bool) :
    Loop.shown (self.voiceTurnOver queued) = Loop.shown self := by
  simp only [voiceTurnOver, scheduleInboundVoice]
  split
  · split
    · split <;> rfl
    · rfl
  · rfl

theorem shown_packetDropped : Loop.shown self.packetDropped = Loop.shown self := by
  simp only [packetDropped]
  split <;> rfl

end Shown

section Turns

variable {turned : SessionController × Progress MessageStage}

theorem resumeMessage_core (resumed : self.resumeMessage digest call reply = some turned) :
    turned.1.core = self.core := by
  unfold resumeMessage at resumed
  split at resumed
  · cases resumed
    rfl
  · split at resumed
    · cases resumed
      rfl
    · split at resumed
      · cases resumed
        rfl
      · cases resumed
        exact core_handleAppMessage self _
  · obtain ⟨receipt, _, rfl⟩ := Option.map_eq_some_iff.mp resumed
    dsimp only
    split
    · exact core_withReliable self _
    · exact (core_handleCore _ _).trans (core_withReliable self _)
  · cases resumed
    exact core_startNextQueuedFileIfAllowed self
  · cases resumed
    exact core_onReceiver self _
  · cases resumed
    exact core_startNextQueuedFileIfAllowed self
  · obtain ⟨receiver, _, rfl⟩ := Option.map_eq_some_iff.mp resumed
    exact core_awaitReceiver self receiver
  · cases resumed
    rfl
  · split at resumed
    · cases resumed
      rfl
    · cases resumed
      exact core_addSystem _ _ _
  · cases resumed
    rfl
  · cases resumed

/-- The one comparison of epochs: a handler that is not yet attached and whose
epoch has ended does nothing and goes no further. -/
theorem resumeMessage_stale (resumed : self.resumeMessage digest call reply = some turned)
    (detached : call.stage.pending = false) (stale : call.epoch ≠ self.secureEpoch) :
    turned.1 = self ∧ ∀ stage, turned.2 ≠ .waits stage := by
  obtain ⟨epoch, queued, stage⟩ := call
  cases stage with
  | decrypting secure streamId =>
      cases reply with
      | error message =>
          cases resumed
          exact ⟨rfl, fun _ same => by cases same⟩
      | message message =>
          simp only [resumeMessage] at resumed
          rw [if_pos (Or.inl stale)] at resumed
          cases resumed
          exact ⟨rfl, fun _ same => by cases same⟩
      | _ => cases resumed
  | returning =>
      cases reply with
      | done =>
          cases resumed
          exact ⟨rfl, fun _ same => by cases same⟩
      | _ => cases resumed
  | _ => cases detached

theorem messageProgress_shown (finished : ∀ stage, turned.2 ≠ .waits stage) :
    Loop.shown (messageProgress call turned).1 = Loop.shown turned.1 := by
  obtain ⟨session, progress⟩ := turned
  cases progress with
  | finished => exact shown_voiceTurnOver call.queued
  | thrown message => exact (shown_voiceTurnOver call.queued).trans shown_packetDropped
  | waits stage => exact absurd rfl (finished stage)

theorem messageProgress_core (call : MessageCall)
    (turned : SessionController × Progress MessageStage) :
    (messageProgress call turned).1.core = turned.1.core := by
  obtain ⟨session, progress⟩ := turned
  cases progress with
  | finished => exact core_voiceTurnOver session call.queued
  | thrown message =>
      exact (core_voiceTurnOver _ call.queued).trans (core_packetDropped session)
  | waits stage => rfl

/-- A call that goes on stays the call it was. -/
theorem messageProgress_call {next : InboundCall}
    (goes : (messageProgress call turned).2 = some next) :
    ∃ stage, turned.2 = .waits stage ∧ next = .message { call with stage } := by
  obtain ⟨session, progress⟩ := turned
  cases progress with
  | finished => cases goes
  | thrown message => cases goes
  | waits stage => exact ⟨stage, rfl, (Option.some.inj goes).symm⟩

end Turns

section Beginning

theorem handshakeProgress_not_message {turned : SessionController × Progress HandshakeCall} :
    (handshakeProgress turned).2 ≠ some (.message call) := by
  obtain ⟨session, progress⟩ := turned
  cases progress <;> simp [handshakeProgress]

theorem controlProgress_not_message {turned : SessionController × Option ControlStage} :
    (controlProgress turned).2 ≠ some (.message call) := by
  obtain ⟨session, stage⟩ := turned
  cases stage <;> simp [controlProgress]

theorem onEnvelope_message {packet : Packet} {epoch : Nat} {queued : Bool}
    (begun : (self.onEnvelope packet epoch queued).2 = some (.message call)) :
    call.stage.pending = false := by
  simp only [onEnvelope] at begun
  split at begun
  · cases begun
  · split at begun
    · split at begun
      · cases begun
      · exact absurd begun handshakeProgress_not_message
    · split at begun
      · cases begun
      · cases begun
        rfl

/-- A handler starts before the comparison of the epochs. -/
theorem beginWork_message {work : Work} (begun : (self.beginWork work).2 = some (.message call)) :
    call.stage.pending = false := by
  cases work with
  | status lifecycle status =>
      simp only [beginWork] at begun
      split at begun
      · exact absurd begun controlProgress_not_message
      · cases begun
  | relay lifecycle event =>
      simp only [beginWork] at begun
      split at begun
      · exact absurd begun controlProgress_not_message
      · cases begun
  | envelope packet epoch => exact onEnvelope_message begun
  | voice =>
      simp only [beginWork, processOneInboundVoice] at begun
      split at begun
      · cases begun
      · exact onEnvelope_message begun

theorem beginWork_shown {work : Work} {epoch : Nat}
    (origin : work.origin self.secureEpoch = .message epoch) (stale : epoch ≠ self.secureEpoch) :
    Loop.shown (self.beginWork work).1 = Loop.shown self := by
  cases work with
  | status lifecycle status => cases origin
  | relay lifecycle event => cases origin
  | voice =>
      cases origin
      exact absurd rfl stale
  | envelope packet routed =>
      cases packet with
      | handshake streamId payload => cases origin
      | data streamId =>
          cases origin
          simp only [beginWork, onEnvelope, if_pos stale]
          exact shown_voiceTurnOver false

end Beginning

end SessionController

section Runs

variable {digest : Bytes → String} {before after : Loop} {event : Event} {outputs : List Moment}

theorem Loop.changed_mem_moments {session turned : SessionController} {origin : Origin}
    {decrypted now : Nat} (recorded : .changed decrypted now ∈ moments session turned origin) :
    origin = .message decrypted ∧ now = session.secureEpoch ∧ shown session ≠ shown turned := by
  cases origin with
  | control => simp [moments] at recorded
  | handshake epoch =>
      simp only [moments] at recorded
      split at recorded <;> simp at recorded
  | message epoch =>
      simp only [moments] at recorded
      split at recorded
      · simp only [List.mem_singleton, Moment.changed.injEq] at recorded
        exact ⟨by rw [recorded.1], recorded.2, ‹_›⟩
      · simp at recorded

/-- A turn of a message handler: what it shows belongs to its epoch, and if it
waits again, it is still attached. -/
theorem SessionController.resumeMessage_attached {session : SessionController} {call : MessageCall}
    {reply : Reply} {turned : SessionController × Progress MessageStage}
    (resumed : session.resumeMessage digest call reply = some turned)
    (attached : call.stage.pending = true → call.epoch = session.secureEpoch) :
    (Loop.shown session ≠ Loop.shown (messageProgress call turned).1 →
      call.epoch = session.secureEpoch) ∧
      ∀ stage, turned.2 = .waits stage → call.epoch = turned.1.secureEpoch := by
  have same : turned.1.secureEpoch = session.secureEpoch :=
    congrArg Core.secureEpoch (resumeMessage_core resumed)
  by_cases current : call.epoch = session.secureEpoch
  · exact ⟨fun _ => current, fun _ _ => current.trans same.symm⟩
  · have detached : call.stage.pending = false := by
      rw [Bool.eq_false_iff]
      exact fun pending => current (attached pending)
    obtain ⟨idle, gone⟩ := resumeMessage_stale resumed detached current
    constructor
    · intro changed
      rw [messageProgress_shown gone, idle] at changed
      exact absurd rfl changed
    · intro stage waits
      exact absurd waits (gone stage)

/-- One event of an undisturbed loop. -/
theorem Loop.step_attached (attached : Attached before) (allowed : Undisturbed before event)
    (stepped : before.step digest event = some (after, outputs)) :
    Attached after ∧ ∀ decrypted now, .changed decrypted now ∈ outputs → now = decrypted := by
  by_cases serial : event.serial = true
  · cases event with
    | begin =>
        simp only [step] at stepped
        split at stepped
        · rename_i work rest idle queue
          cases stepped
          constructor
          · intro call running pending
            rw [SessionController.beginWork_message running] at pending
            cases pending
          · intro decrypted now recorded
            obtain ⟨origin, rfl, changed⟩ := changed_mem_moments recorded
            by_contra stale
            have kept : shown ({ before.session with inbound := rest }.beginWork work).1 =
                shown before.session :=
              SessionController.beginWork_shown origin (Ne.symm stale)
            exact changed kept.symm
        · cases stepped
    | resume reply =>
        obtain ⟨call, running, resumed⟩ := Option.bind_eq_some_iff.mp stepped
        obtain ⟨turned, answered, same⟩ := Option.map_eq_some_iff.mp resumed
        cases same
        cases call with
        -- Control work and handshakes show nothing of a message.
        | control stage =>
            obtain ⟨inner, _, rfl⟩ := Option.map_eq_some_iff.mp answered
            constructor
            · intro call next
              exact absurd next SessionController.controlProgress_not_message
            · intro decrypted now recorded
              cases (changed_mem_moments recorded).1
        | handshake call =>
            obtain ⟨inner, _, rfl⟩ := Option.map_eq_some_iff.mp answered
            constructor
            · intro call next
              exact absurd next SessionController.handshakeProgress_not_message
            · intro decrypted now recorded
              cases (changed_mem_moments recorded).1
        | message call =>
            obtain ⟨inner, answer, rfl⟩ := Option.map_eq_some_iff.mp answered
            obtain ⟨shows, waits⟩ :=
              SessionController.resumeMessage_attached answer (attached call running)
            constructor
            · intro next goes _
              obtain ⟨stage, waiting, same⟩ := SessionController.messageProgress_call goes
              cases same
              have kept := SessionController.messageProgress_core call inner
              exact (waits stage waiting).trans (congrArg Core.secureEpoch kept).symm
            · intro decrypted now recorded
              obtain ⟨origin, rfl, changed⟩ := changed_mem_moments recorded
              cases origin
              exact (shows changed).symm
    | _ => cases serial
  · -- An event outside the inbound loop: the epoch is calm while a message is being handled.
    have passes := step_passes stepped (Bool.eq_false_iff.mpr serial)
    constructor
    · intro call running pending
      rw [passes.running] at running
      have handling : before.handling = true := by simp [handling, running, pending]
      rw [(passes.calm (allowed handling)).epoch]
      exact attached call running pending
    · intro decrypted now recorded
      rw [passes.silent] at recorded
      simp at recorded

/-- In an undisturbed run, a message changes what the user sees only in the epoch
it was decrypted in. -/
theorem messages_stay_in_epoch (digest : Bytes → String) {finish : Loop} {history : List Moment}
    (run : Machine.Run (machine digest) Undisturbed Loop.create finish history)
    {decrypted now : Nat} (changed : .changed decrypted now ∈ history) : now = decrypted := by
  have holds := run.invariant
    (fun loop past => Attached loop ∧
      ∀ decrypted now, .changed decrypted now ∈ past → now = decrypted)
    ⟨fun call running => by simp [Loop.create] at running, by simp⟩
    (by
      intro before past event after outputs holds allowed stepped
      obtain ⟨attached, recorded⟩ := Loop.step_attached holds.1 allowed stepped
      refine ⟨attached, fun decrypted now member => ?_⟩
      rcases List.mem_append.mp member with old | new
      · exact holds.2 decrypted now old
      · exact recorded decrypted now new)
  exact holds.2 decrypted now changed

def closedAfterText : List Event := textTaken ++ [.resume (.flag true), .request .disconnect]

/-- A text whose handler ends before the room is closed. -/
theorem text_stays_in_epoch :
    ∃ finish history decrypted now,
      Machine.Run (machine fun _ => "digest") Undisturbed Loop.create finish history ∧
      .changed decrypted now ∈ history ∧ now = decrypted := by
  have ran : ((machine fun _ => "digest").execute Loop.create closedAfterText).map Prod.snd =
      some [.installed 1 1, .installed 1 1, .changed 1 1] := by
    decide +kernel
  have admitted : (machine fun _ => "digest").Along Undisturbed Loop.create closedAfterText := by
    decide +kernel
  obtain ⟨⟨finish, history⟩, executed, rfl⟩ := Option.map_eq_some_iff.mp ran
  have run := Machine.execute_run _ admitted executed
  have changed : Moment.changed 1 1 ∈ [Moment.installed 1 1, .installed 1 1, .changed 1 1] := by simp
  exact ⟨finish, _, 1, 1, run, changed, messages_stay_in_epoch _ run changed⟩

/-- The room is closed while the ACK of a text is being sent. The send fails, and
the text appears in the closed room. -/
theorem text_shown_after_disconnect :
    ∃ finish history,
      Machine.Run (machine fun _ => "digest") Machine.Unrestricted Loop.create finish history ∧
      .changed 1 2 ∈ history ∧ finish.session.secureEpoch = 2 ∧
      finish.session.view.phase = .ended ∧ finish.session.view.transcript = [sampleText] := by
  have ran : ((machine fun _ => "digest").execute Loop.create
      (textTaken ++ [.request .disconnect, .resume (.flag false)])).map (fun result =>
        (result.2, result.1.session.secureEpoch, result.1.session.view.phase,
          result.1.session.view.transcript)) =
      some ([.installed 1 1, .installed 1 1, .changed 1 2], 2, .ended, [sampleText]) := by
    decide +kernel
  obtain ⟨⟨finish, history⟩, executed, same⟩ := Option.map_eq_some_iff.mp ran
  simp only [Prod.mk.injEq] at same
  obtain ⟨recorded, epoch, ended, shown⟩ := same
  refine ⟨finish, history, Machine.execute_run _ (Machine.along_unrestricted _ _) executed, ?_, epoch,
    ended, shown⟩
  rw [recorded]
  simp

end Runs

end OnlyTwo.Session
