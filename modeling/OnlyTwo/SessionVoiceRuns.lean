import OnlyTwo.SessionVoice

/-!
Voice over whole runs of the session. Unless a silent disconnect comes while the user talks or a
microphone opens after its session, files are paused exactly while there is voice, and no chunk
is read then. A frame in the queue of inbound frames is always going to be looked at.
-/

namespace OnlyTwo.Session

open Bytes FileProtocol FileSender FileReceiver Reliable AppMessages

/-- Whether `processOneInboundVoice` made the call. -/
def InboundCall.queued : InboundCall → Bool
  | .message call => call.queued
  | _ => false

namespace SessionController

variable {self : SessionController}

section Queue

/-- The frames that wait are looked at: their work is queued, or the running call looks after them
when it ends. -/
structure Attended (session : SessionController) (busy : Bool) : Prop where
  scheduled : session.inboundVoice.items ≠ [] → session.inboundVoiceScheduled = true
  served : session.inboundVoiceScheduled = true → .voice ∈ session.inbound ∨ busy = true
  packets : ∀ item ∈ session.inboundVoice.items, item.value = .data 4

variable {busy : Bool}

theorem Attended.thinned {after : SessionController} (attended : Attended self busy)
    (thinned : Thinned self after) : Attended after busy where
  scheduled holds := by
    obtain ⟨item, member⟩ := List.exists_mem_of_ne_nil _ holds
    exact (thinned.scheduled holds).trans
      (attended.scheduled (List.ne_nil_of_mem (thinned.frames member)))
  served scheduled := (attended.served (thinned.fewer scheduled)).imp_left thinned.works
  packets item member := attended.packets item (thinned.frames member)

theorem scheduleInboundVoice_attended (self : SessionController) {session : SessionController}
    (same : session.inboundVoiceScheduled = self.inboundVoiceScheduled)
    (inbound : session.inbound = self.inbound)
    (served : self.inboundVoiceScheduled = true → .voice ∈ self.inbound ∨ busy = true)
    (packets : ∀ item ∈ session.inboundVoice.items, item.value = .data 4) :
    Attended session.scheduleInboundVoice busy := by
  unfold scheduleInboundVoice
  split
  · rename_i scheduled
    exact ⟨fun _ => scheduled, fun holds => inbound ▸ served (same ▸ holds), packets⟩
  · exact ⟨fun _ => rfl, fun _ => Or.inl (List.mem_append_right _ List.mem_cons_self), packets⟩

theorem routeEnvelope_attended (attended : Attended self busy) (packet : Packet) :
    Attended (self.routeEnvelope packet) busy := by
  unfold routeEnvelope
  split
  · unfold queueInboundVoice
    split
    · exact attended
    · refine scheduleInboundVoice_attended self rfl rfl attended.served ?_
      intro item member
      rcases List.mem_append.mp (VoiceFreshnessQueue.trimOverflow_subset _ member) with older | newest
      · exact attended.packets item older
      · rw [List.mem_singleton.mp newest]
  · have queued : Thinned self (self.enqueueInbound (.envelope packet self.secureEpoch)) :=
      .of_audio (audio_enqueueInbound self (by simp))
    exact attended.thinned queued

/-- Whoever looked at the queue has it looked at again while frames are left. -/
theorem voiceTurnOver_attended
    (packets : ∀ item ∈ self.inboundVoice.items, item.value = .data 4) :
    Attended (self.voiceTurnOver true) busy := by
  simp only [voiceTurnOver, if_true]
  split
  · exact scheduleInboundVoice_attended { self with inboundVoiceScheduled := false } rfl rfl
      Bool.false_ne_true.elim packets
  · rename_i empty
    refine ⟨fun holds => absurd (List.length_pos_iff.mpr holds) empty, Bool.false_ne_true.elim, packets⟩

theorem onEnvelope_gentle (self : SessionController) (packet : Packet) (epoch : Nat) :
    Gentle self (self.onEnvelope packet epoch false).1 := by
  refine .of_aside ?_ (onEnvelope_aside packet epoch false)
  simp only [onEnvelope]
  split
  · rfl
  · split
    · split
      · exact audio_packetDropped self
      · rw [audio_handshakeProgress, audio_handleHandshake]
    · split <;> rfl

theorem onEnvelope_unqueued (packet : Packet) (epoch : Nat) :
    (self.onEnvelope packet epoch false).2.any InboundCall.queued = false := by
  simp only [onEnvelope]
  split
  · rfl
  · split
    · split
      · rfl
      · generalize self.handleHandshake epoch _ = turned
        obtain ⟨session, progress⟩ := turned
        cases progress <;> rfl
    · split <;> rfl

theorem voiceTurnOver_talking (self : SessionController) (queued : Bool) :
    (self.voiceTurnOver queued).talking = self.talking := by
  simp only [voiceTurnOver, scheduleInboundVoice]
  split
  · split <;> rfl
  · rfl

theorem onEnvelope_talking (self : SessionController) (packet : Packet) (epoch : Nat)
    (queued : Bool) : (self.onEnvelope packet epoch queued).1.talking = self.talking := by
  simp only [onEnvelope]
  split
  · exact voiceTurnOver_talking self queued
  · split
    · split
      · exact talking_of_audio (audio_packetDropped self)
      · exact talking_of_audio ((audio_handshakeProgress _).trans (audio_handleHandshake self _ _))
    · split
      · exact voiceTurnOver_talking self queued
      · rfl

theorem messageProgress_talking (call : MessageCall)
    (turned : SessionController × Progress MessageStage) :
    (messageProgress call turned).1.talking = turned.1.talking := by
  obtain ⟨session, progress⟩ := turned
  cases progress with
  | waits stage => rfl
  | finished => exact voiceTurnOver_talking session _
  | thrown message =>
      exact (voiceTurnOver_talking _ _).trans (talking_of_audio (audio_packetDropped session))

theorem messageProgress_attended {call : MessageCall}
    {turned : SessionController × Progress MessageStage}
    (attended : Attended turned.1 call.queued) :
    Attended (messageProgress call turned).1
      ((messageProgress call turned).2.any InboundCall.queued) := by
  have afterwards (session : SessionController) (attended : Attended session call.queued) :
      Attended (session.voiceTurnOver call.queued) false := by
    cases queued : call.queued with
    | true => exact voiceTurnOver_attended attended.packets
    | false =>
        rw [queued] at attended
        exact attended
  obtain ⟨session, progress⟩ := turned
  cases progress with
  | waits stage => exact attended
  | finished => exact afterwards session attended
  | thrown message =>
      exact afterwards _ (attended.thinned (.of_audio (audio_packetDropped session)))

theorem resumeInbound_steered {digest : Bytes → String} {call : InboundCall} {reply : Reply}
    {turned : SessionController × Option InboundCall}
    (resumed : self.resumeInbound digest reply call = some turned) : Steered self turned.1 := by
  cases call with
  | control stage =>
      obtain ⟨finished, answered, rfl⟩ := Option.map_eq_some_iff.mp resumed
      exact (resumeControl_played answered).steered trivial
  | handshake call =>
      obtain ⟨finished, answered, rfl⟩ := Option.map_eq_some_iff.mp resumed
      have same := (audio_handshakeProgress (finished.1, call.progress finished.2)).trans
        (audio_resumeHandshake answered)
      exact (Gentle.of_aside same ((resumeHandshake_aside answered).trans
        (handshakeProgress_aside (finished.1, call.progress finished.2)))).steered
  | message call =>
      obtain ⟨finished, answered, rfl⟩ := Option.map_eq_some_iff.mp resumed
      exact ((resumeMessage_played answered).steered trivial).kept
        (messageProgress_talking call finished) (messageProgress_aside call finished).sender

theorem resumeInbound_attended {digest : Bytes → String} {call : InboundCall} {reply : Reply}
    {turned : SessionController × Option InboundCall} (attended : Attended self call.queued)
    (resumed : self.resumeInbound digest reply call = some turned) :
    Attended turned.1 (turned.2.any InboundCall.queued) := by
  cases call with
  | control stage =>
      obtain ⟨⟨session, next⟩, answered, rfl⟩ := Option.map_eq_some_iff.mp resumed
      have played : Played True self session := resumeControl_played answered
      have kept := attended.thinned played.thinned
      cases next <;> exact kept
  | handshake call =>
      obtain ⟨⟨session, next⟩, answered, rfl⟩ := Option.map_eq_some_iff.mp resumed
      have kept := attended.thinned (.of_audio ((audio_handshakeProgress
        (session, call.progress next)).trans (audio_resumeHandshake answered)))
      cases next <;> exact kept
  | message call =>
      obtain ⟨finished, answered, rfl⟩ := Option.map_eq_some_iff.mp resumed
      have played : Played True self finished.1 := resumeMessage_played answered
      exact messageProgress_attended (attended.thinned played.thinned)

theorem processOneInboundVoice_attended
    (packets : ∀ item ∈ self.inboundVoice.items, item.value = .data 4)
    (scheduled : self.inboundVoice.items ≠ [] → self.inboundVoiceScheduled = true) :
    Attended self.processOneInboundVoice.1
      (self.processOneInboundVoice.2.any InboundCall.queued) := by
  obtain ⟨gone, taken, parts, _, _, values, _⟩ := self.inboundVoice.shiftFresh_parts self.now
  have left : (self.inboundVoice.shiftFresh self.now).queue.items ⊆ self.inboundVoice.items := by
    rw [parts]
    exact List.subset_append_right _ _
  have shifted : ∀ item ∈ (self.inboundVoice.shiftFresh self.now).queue.items, item.value = .data 4 :=
    fun item member => packets item (left member)
  simp only [processOneInboundVoice]
  split
  · exact voiceTurnOver_attended shifted
  · rename_i packet found
    have returned : packet ∈ taken.map QueueItem.value := by
      rw [values, found]
      exact List.mem_singleton_self _
    obtain ⟨item, member, rfl⟩ := List.mem_map.mp returned
    have fresh : item ∈ self.inboundVoice.items := by
      rw [parts]
      exact List.mem_append_left _ (List.mem_append_right _ member)
    rw [packets item fresh, onEnvelope, if_neg (by simp)]
    dsimp only
    split
    · exact voiceTurnOver_attended shifted
    · refine ⟨fun holds => ?_, fun _ => Or.inr rfl, shifted⟩
      obtain ⟨other, member⟩ := List.exists_mem_of_ne_nil _ holds
      exact scheduled (List.ne_nil_of_mem (left member))

theorem beginWork_steered (self : SessionController) (work : Work) :
    Steered self (self.beginWork work).1 := by
  have refl : Steered self self := (Gentle.refl self).steered
  cases work with
  | status lifecycle status =>
      simp only [beginWork]
      split
      · exact (onConnectionStatus_played self status).steered trivial
      · exact refl
  | relay lifecycle event =>
      simp only [beginWork]
      split
      · exact (onRelayEvent_played self event).steered trivial
      · exact refl
  | envelope packet epoch => exact (onEnvelope_gentle self packet epoch).steered
  | voice =>
      simp only [beginWork, processOneInboundVoice]
      split
      · exact refl.kept (voiceTurnOver_talking _ true) (voiceTurnOver_aside _ true).sender
      · exact refl.kept (onEnvelope_talking _ _ _ true) (onEnvelope_aside _ _ true).sender

/-- The next work of the queue is taken off and begun. -/
theorem beginWork_attended {work : Work} {rest : List Work} (attended : Attended self false)
    (inbound : self.inbound = work :: rest) :
    Attended ({ self with inbound := rest }.beginWork work).1
      (({ self with inbound := rest }.beginWork work).2.any InboundCall.queued) := by
  have taken (other : work ≠ .voice) : Attended { self with inbound := rest } false := by
    refine attended.thinned ⟨List.Subset.refl _, fun _ => rfl, id, fun waits => ?_⟩
    exact (List.mem_cons.mp (inbound ▸ waits)).resolve_left other.symm
  cases work with
  | status lifecycle status =>
      have kept := taken (by simp)
      simp only [beginWork]
      split
      · have played : Played True _ _ := onConnectionStatus_played { self with inbound := rest } status
        revert played
        generalize onConnectionStatus _ status = turned
        intro played
        obtain ⟨session, stage⟩ := turned
        cases stage <;> exact kept.thinned played.thinned
      · exact kept
  | relay lifecycle event =>
      have kept := taken (by simp)
      simp only [beginWork]
      split
      · have played : Played True _ _ := onRelayEvent_played { self with inbound := rest } event
        revert played
        generalize onRelayEvent _ event = turned
        intro played
        obtain ⟨session, stage⟩ := turned
        cases stage <;> exact kept.thinned played.thinned
      · exact kept
  | envelope packet epoch =>
      have kept := taken (by simp)
      simp only [beginWork, onEnvelope_unqueued]
      exact kept.thinned (onEnvelope_gentle _ packet epoch).thinned
  | voice => exact processOneInboundVoice_attended attended.packets attended.scheduled

end Queue

end SessionController

section Runs

open SessionController

/-- A call of `processOneInboundVoice` is running. -/
def Loop.playsQueued (loop : Loop) : Bool := loop.running.any InboundCall.queued

/-- The microphone of a `startVoice` opens. -/
def Loop.opens (loop : Loop) : Event → Bool
  | .settle ticket (.sampleRate _) => loop.calls.get? ticket = some .startingVoice
  | _ => false

structure Polite (loop : Loop) (event : Event) : Prop where
  tears : loop.tears event = true → loop.session.isVoiceActive = false
  opens : loop.opens event = true → loop.session.isVoiceActive = true

instance (loop : Loop) (event : Event) : Decidable (Polite loop event) :=
  decidable_of_iff (_ ∧ _) ⟨fun ⟨tears, opens⟩ => ⟨tears, opens⟩, fun ⟨tears, opens⟩ => ⟨tears, opens⟩⟩

/-- What comes from outside, apart from packets. -/
def Event.outer : Event → Bool
  | .begin | .resume _ | .envelope _ => false
  | _ => true

variable {digest : Bytes → String} {before after : Loop} {event : Event} {outputs : List Moment}

theorem Loop.step_outer (outer : event.outer = true)
    (stepped : before.step digest event = some (after, outputs)) :
    after.running = before.running ∧
      Played (Polite before event) before.session after.session := by
  cases event with
  | begin => cases outer
  | resume reply => cases outer
  | envelope packet => cases outer
  | request request =>
      cases stepped
      refine ⟨rfl, perform_played fun same meets => meets.tears ?_⟩
      rw [same]
      rfl
  | settle ticket reply =>
      obtain ⟨⟨call, rest⟩, taken, settled⟩ := Option.bind_eq_some_iff.mp stepped
      obtain ⟨turned, answered, same⟩ := Option.map_eq_some_iff.mp settled
      cases same
      obtain ⟨found, rfl⟩ := Callbacks.take_eq_some.mp taken
      refine ⟨rfl, settleLocal_played (fun fails meets => meets.tears ?_) ?_ answered⟩
      · rw [tears, found]
        exact fails
      · rintro rate rfl rfl meets
        exact meets.opens (decide_eq_true found)
  | transportStatus status =>
      cases stepped
      exact ⟨rfl, (Gentle.of_aside (audio_transportChanged _ status)
        (transportChanged_aside _ status)).played⟩
  | relayEvent event =>
      cases stepped
      exact ⟨rfl, .of_same (audio_enqueueInbound _ (by simp)) rfl⟩
  | endSessionTimer =>
      simp only [step] at stepped
      split at stepped
      · cases stepped
        exact ⟨rfl, disconnect_played _⟩
      · cases stepped
  | voiceIdleTimer =>
      simp only [step] at stepped
      split at stepped
      · cases stepped
      · cases stepped
        refine ⟨rfl, ?_⟩
        dsimp only [withSession]
        split
        · rename_i failed
          refine Gentle.played ⟨⟨List.Subset.refl _, fun _ => rfl, id, id⟩, ?_, .refl _⟩
          -- A failed microphone was silent before.
          simp only [talking, isVoiceActive, failed]
          rfl
        · exact .of_same rfl rfl
  | senderCall ticket outcome =>
      simp only [step] at stepped
      split at stepped
      · cases stepped
      · obtain ⟨turned, settled, same⟩ := Option.map_eq_some_iff.mp stepped
        cases same
        exact ⟨rfl, (withSender_gentle (turn_hushed settled (Or.inl ⟨_, _, rfl⟩)).uncut).played⟩
  | senderTimer ticket =>
      obtain ⟨turned, fired, same⟩ := Option.map_eq_some_iff.mp stepped
      cases same
      exact ⟨rfl, (withSender_gentle (turn_hushed fired (Or.inr ⟨_, rfl⟩)).uncut).played⟩
  | receiverCall ticket outcome =>
      simp only [step] at stepped
      split at stepped
      · cases stepped
      · obtain ⟨turned, _, same⟩ := Option.map_eq_some_iff.mp stepped
        cases same
        exact ⟨rfl, (withReceiver_gentle _ turned).played⟩
  | reliableSent id ok =>
      obtain ⟨turned, _, same⟩ := Option.map_eq_some_iff.mp stepped
      cases same
      exact ⟨rfl, (withReliable_gentle _ turned).played⟩
  | reliableTimer handle =>
      obtain ⟨turned, _, same⟩ := Option.map_eq_some_iff.mp stepped
      cases same
      exact ⟨rfl, (withReliable_gentle _ turned).played⟩
  | tick elapsed =>
      simp only [step] at stepped
      obtain ⟨turned, _, same⟩ := Option.map_eq_some_iff.mp stepped
      cases same
      exact ⟨rfl, (withReliable_gentle _ turned).played⟩

theorem Loop.step_steered (polite : Polite before event)
    (stepped : before.step digest event = some (after, outputs)) :
    Steered before.session after.session := by
  cases outer : event.outer with
  | true => exact (Loop.step_outer outer stepped).2.steered polite
  | false =>
      cases event with
      | begin =>
          simp only [step] at stepped
          split at stepped
          · rename_i work rest _ _
            cases stepped
            have steered := beginWork_steered { before.session with inbound := rest } work
            exact ⟨steered.tuned, steered.quiet⟩
          · cases stepped
      | resume reply =>
          obtain ⟨call, running, resumed⟩ := Option.bind_eq_some_iff.mp stepped
          obtain ⟨turned, answered, same⟩ := Option.map_eq_some_iff.mp resumed
          cases same
          exact resumeInbound_steered answered
      | envelope packet =>
          cases stepped
          have steered : Steered before.session before.session := (Gentle.refl _).steered
          refine steered.kept ?_ (routeEnvelope_aside _ packet).sender
          simp only [routeEnvelope, queueInboundVoice, scheduleInboundVoice]
          split
          · split
            · rfl
            · split <;> rfl
          · rfl
      | _ => cases outer

theorem Loop.step_attended (attended : Attended before.session before.playsQueued)
    (stepped : before.step digest event = some (after, outputs)) :
    Attended after.session after.playsQueued := by
  cases outer : event.outer with
  | true =>
      obtain ⟨running, played⟩ := Loop.step_outer outer stepped
      rw [playsQueued, running]
      exact attended.thinned played.thinned
  | false =>
      cases event with
      | begin =>
          simp only [step] at stepped
          split at stepped
          · rename_i work rest idle inbound
            cases stepped
            rw [playsQueued, idle] at attended
            exact beginWork_attended attended inbound
          · cases stepped
      | resume reply =>
          obtain ⟨call, running, resumed⟩ := Option.bind_eq_some_iff.mp stepped
          obtain ⟨turned, answered, same⟩ := Option.map_eq_some_iff.mp resumed
          cases same
          rw [playsQueued, running] at attended
          exact resumeInbound_attended attended answered
      | envelope packet =>
          cases stepped
          exact routeEnvelope_attended attended packet
      | _ => cases outer

/-- In every run a frame that waits in the queue of inbound frames is a packet of the voice stream,
and its work is queued, unless the running call looks after it. -/
theorem waiting_frames_attended {loop : Loop} {history : List Moment}
    (run : (machine digest).Run Machine.Unrestricted Loop.create loop history)
    (waits : loop.session.inboundVoice.items ≠ []) :
    (∀ item ∈ loop.session.inboundVoice.items, item.value = .data 4) ∧
      (.voice ∈ loop.session.inbound ∨ loop.playsQueued = true) := by
  have kept : Attended loop.session loop.playsQueued := by
    apply run.state_invariant fun loop => Attended loop.session loop.playsQueued
    · exact ⟨fun holds => absurd rfl holds, Bool.false_ne_true.elim, nofun⟩
    · exact fun before event after outputs attended _ stepped => Loop.step_attended attended stepped
  exact ⟨kept.packets, kept.served (kept.scheduled waits)⟩

/-- Two voice packets in a secure room; the first one is being decrypted. -/
def framesQueued : List Event :=
  handshakeTaken ++ [.resume (.text "river lunar"), .envelope (.data 4), .envelope (.data 4), .begin]

theorem second_frame_attended :
    ∃ loop history, (machine fun _ => "digest").Run Machine.Unrestricted Loop.create loop history ∧
      loop.session.inboundVoice.items.length = 1 ∧
      (∀ item ∈ loop.session.inboundVoice.items, item.value = .data 4) ∧
      (.voice ∈ loop.session.inbound ∨ loop.playsQueued = true) := by
  have ran : ((machine fun _ => "digest").execute Loop.create framesQueued).map (fun result =>
      result.1.session.inboundVoice.items.length) = some 1 := by
    decide +kernel
  obtain ⟨⟨loop, history⟩, executed, same⟩ := Option.map_eq_some_iff.mp ran
  have run := Machine.execute_run _ (Machine.along_unrestricted _ _) executed
  refine ⟨loop, history, run, same, waiting_frames_attended run ?_⟩
  exact List.ne_nil_of_length_pos (same ▸ Nat.one_pos)

theorem run_tuned {loop : Loop} {history : List Moment}
    (run : (machine digest).Run Polite Loop.create loop history) : Tuned loop.session := by
  apply run.state_invariant fun loop => Tuned loop.session
  · rfl
  · exact fun before event after outputs tuned polite stepped =>
      (Loop.step_steered polite stepped).tuned tuned

/-- Files are paused exactly while there is voice on either side. -/
theorem pause_follows_voice {loop : Loop} {history : List Moment}
    (run : (machine digest).Run Polite Loop.create loop history) :
    loop.session.sender.globalPaused =
      (loop.session.isVoiceActive || loop.session.remoteVoiceActive) :=
  run_tuned run

/-- The user offers a file, the peer accepts it, and its first chunk is read. -/
def chunkRead : List Event :=
  handshakeTaken ++ [.resume (.text "river lunar"),
    .request (.offerFile ⟨utf16 "b.txt", utf16 "text/plain", [1, 2]⟩), .settle 5 (.flag true),
    .settle 6 (.flag true), .envelope (.data 1), .begin,
    .resume (.message (.reliable (.msg "1" .control ⟨.file (.accept "file_3"), rfl⟩ 7 1))),
    .resume (.flag true)]

theorem started_voice_pauses :
    ∃ loop history, (machine fun _ => "digest").Run Polite Loop.create loop history ∧
      loop.session.view.voice = .active ∧ loop.session.sender.globalPaused =
        (loop.session.isVoiceActive || loop.session.remoteVoiceActive) := by
  have ran : ((machine fun _ => "digest").execute Loop.create
      (chunkRead ++ [.request .startVoice, .settle 7 (.sampleRate 48000)])).map (fun result =>
        result.1.session.view.voice) = some .active := by
    decide +kernel
  have along : (machine fun _ => "digest").Along Polite Loop.create
      (chunkRead ++ [.request .startVoice, .settle 7 (.sampleRate 48000)]) := by
    decide +kernel
  obtain ⟨⟨loop, history⟩, executed, same⟩ := Option.map_eq_some_iff.mp ran
  have run := Machine.execute_run _ along executed
  exact ⟨loop, history, run, same, pause_follows_voice run⟩

/-- A step that leaves voice on either side does not read a chunk of any file. -/
theorem voice_reads_no_chunk {history : List Moment}
    (run : (machine digest).Run Polite Loop.create before history) (polite : Polite before event)
    (stepped : (machine digest).step before event = some (after, outputs))
    (talking : (after.session.isVoiceActive || after.session.remoteVoiceActive) = true)
    {ticket : Nat} {fileId : String} {index attempts : Nat}
    (reads : after.session.sender.calls.get? ticket = some (.slicing fileId index attempts)) :
    before.session.sender.calls.get? ticket = some (.slicing fileId index attempts) :=
  (Loop.step_steered polite stepped).quiet (run_tuned run) talking ticket _ rfl reads

/-- Voice starts while a chunk is read; the call that reads it is an old one. -/
theorem started_voice_keeps_chunk :
    ∃ before history after outputs,
      (machine fun _ => "digest").Run Polite Loop.create before history ∧
      (machine fun _ => "digest").step before (.request .startVoice) = some (after, outputs) ∧
      after.session.sender.calls.get? 2 = some (.slicing "file_3" 0 1) ∧
      before.session.sender.calls.get? 2 = some (.slicing "file_3" 0 1) := by
  have ran : (((machine fun _ => "digest").execute Loop.create chunkRead).bind fun result =>
      (machine fun _ => "digest").step result.1 (.request .startVoice)).map (fun turned =>
        (turned.1.session.isVoiceActive || turned.1.session.remoteVoiceActive,
          turned.1.session.sender.calls.get? 2)) = some (true, some (.slicing "file_3" 0 1)) := by
    decide +kernel
  have along : (machine fun _ => "digest").Along Polite Loop.create chunkRead := by
    decide +kernel
  obtain ⟨⟨after, outputs⟩, turned, same⟩ := Option.map_eq_some_iff.mp ran
  obtain ⟨⟨before, history⟩, executed, stepped⟩ := Option.bind_eq_some_iff.mp turned
  simp only [Prod.mk.injEq] at same
  have run := Machine.execute_run _ along executed
  have polite : Polite before (.request .startVoice) :=
    ⟨(fun tears => by cases tears), (fun opens => by cases opens)⟩
  exact ⟨before, history, after, outputs, run, stepped, same.2,
    voice_reads_no_chunk run polite stepped same.1 same.2⟩

end Runs

end OnlyTwo.Session
