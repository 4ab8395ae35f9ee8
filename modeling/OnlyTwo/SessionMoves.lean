import OnlyTwo.SessionTurns

/-!
What one event of the loop can do to the epochs, the channel, the local key and
the calls that wait for the crypto worker, together with what it asks of the
transport and of the worker. Every later result about runs is a case analysis
over `Move`.
-/

namespace OnlyTwo.Session

open Bytes FileProtocol FileSender FileReceiver Reliable AppMessages

/-- The calls that empty no queue, close no socket and give the worker nothing to do. -/
def Outcall.light : Outcall → Bool
  | .setProfile _ => true
  | .endSession _ => true
  | .announce _ _ => true
  | _ => false

section Moves

/-- The request the running preparation waits for, and its lifecycle. -/
def Loop.preparing (self : Loop) : Option (Chore × Nat) :=
  match self.running with
  | some (.control stage) => stage.chore
  | _ => none

/-- A handshake is being handled and has not installed its channel yet. -/
def Loop.agreeing (self : Loop) : Bool :=
  match self.running with
  | some (.handshake call) => call.stage.early
  | _ => false

/-- The same calls of `createRoom` and `joinRoom` are suspended. -/
structure SameStartups (before after : Callbacks LocalCall) : Prop where
  held : ∀ ticket call, call.startup = true →
    (after.get? ticket = some call ↔ before.get? ticket = some call)
  next : before.next ≤ after.next

/-- The transport reports something. -/
def Event.hears : Event → Bool
  | .transportStatus _ => true
  | .relayEvent _ => true
  | _ => false

def Event.resumes : Event → Bool
  | .resume _ => true
  | _ => false

inductive Move (before : Loop) (event : Event) (after : Loop) : Prop where
  | rest : Steady before.session after.session → SameStartups before.calls after.calls →
      after.preparing = before.preparing →
      (after.agreeing = true → before.agreeing = true ∨
        before.session.localPublicKey ≠ none ∧ before.session.secure = none) →
      (∀ outcall ∈ before.outcalls event, outcall.light = true) →
      (event.resumes = true → before.preparing = none) → Move before event after
  | heard : event.hears = true →
      after.session.core = { before.session.core with duties := after.session.duties } →
      after.running = before.running → after.calls = before.calls → before.outcalls event = [] →
      Move before event after
  | marked : event = .request (.markVerified true) → before.session.secure ≠ none →
      after.session.core = { before.session.core with security := .verified } →
      after.running = before.running → after.calls = before.calls → before.outcalls event = [] →
      Move before event after
  | installed (channel : SecureChannel) (peerKey : Bytes) : before.agreeing = true →
      after.session.core = { before.session.core with
        secure := some channel
        peerPublicKey := some peerKey } →
      after.agreeing = false → before.preparing = none → after.preparing = none →
      after.calls = before.calls → before.outcalls event = [] → Move before event after
  | torn (first : List Outcall) (forgetSlot : Bool) : Torn before.session after.session →
      after.session.startupInFlight = before.session.startupInFlight →
      after.calls = before.calls → after.preparing = before.preparing →
      (after.agreeing = true → before.agreeing = true) →
      before.outcalls event = first ++ SessionController.tearDownCalls forgetSlot →
      (∀ outcall ∈ first, outcall.light = true) → event.resumes = false → Move before event after
  | opened (phase : StartPhase) : before.session.startupInFlight = false →
      after.session.core = { before.session.core with
        startupInFlight := true
        phase := phase.phase } →
      after.running = before.running → after.calls = (before.calls.add (.lookingUp phase)).1 →
      (∀ outcall ∈ before.outcalls event, outcall.light = true) → event.resumes = false →
      Move before event after
  | failed (ticket : Nat) (call : LocalCall) (reply : Reply) (first : List Outcall) :
      event = .settle ticket reply → before.calls.get? ticket = some call → call.startup = true →
      Torn before.session after.session → after.session.startupInFlight = false →
      after.running = before.running → after.calls = before.calls.remove ticket →
      before.outcalls event = first ++ SessionController.tearDownCalls false →
      (∀ outcall ∈ first, outcall.light = true) → Move before event after
  | started (ticket : Nat) (code : String) (phase : StartPhase) (profileId : TransportProfileId) :
      event = .settle ticket (.room code profileId) →
      before.calls.get? ticket = some (.lookingUp phase) →
      after.session = before.session.start code phase profileId →
      after.running = before.running →
      after.calls =
        ((before.calls.remove ticket).add (.configuring after.session.lifecycleEpoch)).1 →
      before.outcalls event = SessionController.startCalls profileId → Move before event after
  | configured (ticket lifecycle : Nat) : event = .settle ticket .done →
      before.calls.get? ticket = some (.configuring lifecycle) → after.session = before.session →
      after.running = before.running →
      after.calls = ((before.calls.remove ticket).add (.generating lifecycle)).1 →
      before.outcalls event = [.ask .generateIdentity true] → Move before event after
  | keyed (ticket : Nat) (bytes : Bytes) : event = .settle ticket (.key bytes) →
      before.calls.get? ticket = some (.generating before.session.lifecycleEpoch) →
      after.session = before.session.newKey bytes → after.running = before.running →
      after.calls =
        ((before.calls.remove ticket).add (.connecting before.session.lifecycleEpoch)).1 →
      before.outcalls event = [.connect before.session.view.roomCode] → Move before event after
  | entered (ticket : Nat) (announcement : Announcement) : event = .settle ticket .done →
      before.calls.get? ticket = some (.connecting before.session.lifecycleEpoch) →
      Steady before.session after.session → after.running = before.running →
      after.calls = ((before.calls.remove ticket).add (.greeting announcement)).1 →
      before.outcalls event = [] → Move before event after
  | elapsed (ticket : Nat) (call : LocalCall) (reply : Reply) (middle : SessionController) :
      event = .settle ticket reply → before.calls.get? ticket = some call → call.startup = true →
      (∀ lifecycle, call ≠ .configuring lifecycle) →
      call ≠ .generating before.session.lifecycleEpoch → Steady before.session middle →
      after.session = middle.startupDone → after.running = before.running →
      after.calls = before.calls.remove ticket →
      (∀ outcall ∈ before.outcalls event, outcall.light = true) → Move before event after
  | prepares (work : Work) (rest : List Work) (preparation : Preparation) :
      event = .begin → before.running = none → before.session.inbound = work :: rest →
      work.prepares = true → work.lifecycle = some before.session.lifecycleEpoch →
      Fresh before.session after.session →
      after.running = some (.control (.resetting preparation)) →
      preparation.lifecycle = before.session.lifecycleEpoch → after.calls = before.calls →
      before.outcalls event = [.clearQueuedPackets, .ask .reset true] → Move before event after
  | configures (preparation : Preparation) (reply : Reply) : event = .resume reply →
      before.running = some (.control (.resetting preparation)) →
      preparation.lifecycle = before.session.lifecycleEpoch → after.session = before.session →
      after.running = some (.control (.configuring preparation)) → after.calls = before.calls →
      before.outcalls event = [.ask .configure true] → Move before event after
  | generates (preparation : Preparation) : event = .resume .done →
      before.running = some (.control (.configuring preparation)) → after.session = before.session →
      after.running = some (.control (.generating preparation)) → after.calls = before.calls →
      before.outcalls event = [.ask .generateIdentity true] → Move before event after
  | rekeyed (preparation : Preparation) (bytes : Bytes) : event = .resume (.key bytes) →
      before.running = some (.control (.generating preparation)) →
      preparation.lifecycle = before.session.lifecycleEpoch →
      Steady (before.session.newKey bytes) after.session → after.preparing = none →
      after.agreeing = false → after.calls = before.calls → before.outcalls event = [] →
      Move before event after
  | prepared (reply : Reply) (pending : Chore × Nat) : event = .resume reply →
      before.preparing = some pending → Steady before.session after.session →
      after.preparing = none → after.agreeing = false → after.calls = before.calls →
      before.outcalls event = [] → Move before event after

end Moves

section Light

namespace SessionController

variable (self : SessionController)

theorem announcedCalls_light (locals : Announcement) (reply : Reply) :
    ∀ outcall ∈ self.announcedCalls locals reply, outcall.light = true := by
  intro outcall member
  cases reply with
  | flag accepted =>
      simp only [announcedCalls] at member
      split at member
      · cases member
      · cases List.mem_singleton.mp member
        rfl
  | _ => cases member

theorem performCalls_light {request : Request} (lasting : request.ends self = false) :
    ∀ outcall ∈ self.performCalls request, outcall.light = true := by
  intro outcall member
  cases request with
  | setProfile id =>
      simp only [performCalls] at member
      split at member
      · cases member
      · cases List.mem_singleton.mp member
        rfl
  | endChatForBoth sent =>
      simp only [Request.ends] at lasting
      simp only [performCalls, lasting] at member
      split at member
      · cases member
      · cases List.mem_singleton.mp member
        rfl
  | disconnect => cases lasting
  | unload => cases lasting
  | _ => cases member

theorem performCalls_tears {request : Request} (ends : request.ends self = true) :
    ∃ first forgetSlot, self.performCalls request = first ++ tearDownCalls forgetSlot ∧
      ∀ outcall ∈ first, outcall.light = true := by
  cases request with
  | disconnect => exact ⟨[], false, rfl, by simp⟩
  | unload => exact ⟨[], false, rfl, by simp⟩
  | endChatForBoth sent =>
      have now : self.endsAtOnce sent = true := ends
      have busy : ¬(self.view.phase = .idle ∨ self.view.phase = .ended) := by
        simp only [endsAtOnce, decide_eq_true_eq] at now
        exact not_or.mpr ⟨now.1, now.2.1⟩
      refine ⟨[.endSession sent], true, ?_, by simp [Outcall.light]⟩
      simp [performCalls, if_neg busy, now]
  | _ => cases ends

theorem settleCalls_tears {call : LocalCall} {reply : Reply} (fails : call.fails self reply = true) :
    ∃ first, self.settleCalls call reply = first ++ tearDownCalls false ∧
      ∀ outcall ∈ first, outcall.light = true := by
  cases call with
  | greeting locals =>
      refine ⟨self.announcedCalls locals reply, ?_, self.announcedCalls_light locals reply⟩
      simp only [LocalCall.fails] at fails
      simp only [settleCalls]
      split
      · rfl
      · rename_i other
        split at fails
        · rename_i message answered
          exact absurd answered (other message)
        · cases fails
  | lookingUp phase => cases reply <;> first | exact ⟨[], rfl, by simp⟩ | cases fails
  | configuring lifecycle => cases reply <;> first | exact ⟨[], rfl, by simp⟩ | cases fails
  | generating lifecycle => cases reply <;> first | exact ⟨[], rfl, by simp⟩ | cases fails
  | connecting lifecycle => cases reply <;> first | exact ⟨[], rfl, by simp⟩ | cases fails
  | _ => cases fails

theorem settleCalls_light {call : LocalCall} {reply : Reply} (lasting : call.ends self reply = false)
    (settled : ∀ lifecycle, call ≠ .configuring lifecycle)
    (stale : call ≠ .generating self.lifecycleEpoch) :
    ∀ outcall ∈ self.settleCalls call reply, outcall.light = true := by
  intro outcall member
  cases call with
  | greeting locals =>
      simp only [LocalCall.ends, LocalCall.fails, Bool.or_false] at lasting
      simp only [settleCalls] at member
      split at member
      · rename_i message answered
        simp [answered] at lasting
      · exact self.announcedCalls_light locals reply outcall member
  | configuring lifecycle => exact absurd rfl (settled lifecycle)
  | generating lifecycle =>
      cases reply with
      | error message => cases lasting
      | key bytes =>
          have other : lifecycle ≠ self.lifecycleEpoch := by
            rintro rfl
            exact stale rfl
          simp only [settleCalls, if_pos other] at member
          cases member
      | _ => cases member
  | lookingUp phase =>
      cases reply with
      | error message => cases lasting
      | room code profileId => cases lasting
      | _ => cases member
  | connecting lifecycle =>
      cases reply with
      | error message => cases lasting
      | _ => cases member
  | _ => cases member

theorem settleCalls_other {call : LocalCall} {reply : Reply} (plain : call.startup = false) :
    self.settleCalls call reply = [] := by
  cases call with
  | lookingUp phase => cases plain
  | configuring lifecycle => cases plain
  | generating lifecycle => cases plain
  | connecting lifecycle => cases plain
  | greeting locals => cases plain
  | _ => rfl

end SessionController

end Light

section Startups

variable {calls : Callbacks LocalCall} {call : LocalCall}

theorem SameStartups.refl (calls : Callbacks LocalCall) : SameStartups calls calls :=
  ⟨fun _ _ _ => Iff.rfl, le_rfl⟩

theorem SameStartups.add (plain : call.startup = false) : SameStartups calls (calls.add call).1 := by
  refine ⟨fun ticket other startup => ?_, Nat.le_succ _⟩
  rw [Callbacks.get?_add]
  split
  · rename_i new
    constructor
    · intro found
      cases found
      rw [plain] at startup
      cases startup
    · intro found
      have := Callbacks.get?_lt found
      omega
  · exact Iff.rfl

theorem SameStartups.remove {ticket : Nat} (found : calls.get? ticket = some call)
    (plain : call.startup = false) : SameStartups calls (calls.remove ticket) := by
  refine ⟨fun other startup isStartup => ?_, le_rfl⟩
  rw [Callbacks.get?_remove]
  split
  · rename_i same
    constructor
    · intro gone
      cases gone
    · intro kept
      rw [same, found] at kept
      cases kept
      rw [plain] at isStartup
      cases isStartup
  · exact Iff.rfl

theorem SameStartups.trans {first second third : Callbacks LocalCall}
    (one : SameStartups first second) (two : SameStartups second third) :
    SameStartups first third where
  held ticket call startup := (two.held ticket call startup).trans (one.held ticket call startup)
  next := one.next.trans two.next

/-- A turn that suspends no call of a startup. -/
theorem SameStartups.suspend (loop : Loop) {turned : SessionController × Option LocalCall}
    (plain : ∀ call, turned.2 = some call → call.startup = false) :
    SameStartups loop.calls (loop.suspend turned).calls := by
  obtain ⟨session, next⟩ := turned
  cases next with
  | none => exact SameStartups.refl _
  | some call => exact SameStartups.add (plain call rfl)

end Startups

namespace Loop

variable {digest : Bytes → String} {before after : Loop} {event : Event} {outputs : List Moment}

/-- An event that touches neither the calls nor the running handler. -/
theorem move_of_core {session : SessionController} (same : session.core = before.session.core)
    (between : event.resumes = false) (still : before.outcalls event = [])
    (stepped : before.withSession session = (after, outputs)) : Move before event after := by
  cases stepped
  exact .rest (Kept.of_core same).toSteady (SameStartups.refl _) rfl Or.inl (by simp [still])
    (by simp [between])

theorem request_moves (request : Request) :
    Move before (.request request) (before.suspend (before.session.perform request)) := by
  have performed := before.session.perform_performed request
  generalize before.session.perform request = turned at performed
  cases performed with
  | other lasting kept plain =>
      exact .rest kept.toSteady (SameStartups.suspend before plain) rfl Or.inl
        (before.session.performCalls_light lasting) (by simp [Event.resumes])
  | opened phase notice lasting free =>
      exact .opened phase free rfl rfl rfl (before.session.performCalls_light lasting) rfl
  | marked asked channel same =>
      subst asked
      exact .marked rfl channel same rfl rfl rfl
  | torn silent notice ends =>
      obtain ⟨first, forgetSlot, calls, light⟩ := before.session.performCalls_tears ends
      exact .torn first forgetSlot (before.session.disconnect_torn silent notice)
        (before.session.disconnect_startup silent notice) rfl rfl id calls light rfl

theorem settle_moves {ticket : Nat} {reply : Reply} {call : LocalCall}
    {turned : SessionController × Option LocalCall}
    (found : before.calls.get? ticket = some call)
    (settled : before.session.settleLocal digest call reply = some turned) :
    Move before (.settle ticket reply)
      ({ before with calls := before.calls.remove ticket }.suspend turned) := by
  have calls : before.outcalls (.settle ticket reply) = before.session.settleCalls call reply := by
    simp [outcalls, found]
  cases SessionController.settleLocal_settled settled with
  | other plain kept further =>
      have silent := calls.trans (before.session.settleCalls_other plain)
      refine .rest kept.toSteady ?_ rfl Or.inl (by simp [silent]) (by simp [Event.resumes])
      refine (SameStartups.remove found plain).trans ?_
      exact SameStartups.suspend { before with calls := before.calls.remove ticket } further
  | failed message startup fails =>
      obtain ⟨first, tears, light⟩ := before.session.settleCalls_tears fails
      exact .failed ticket call reply first rfl found startup
        (before.session.startupFailed_torn message) rfl rfl rfl (calls.trans tears) light
  | started code phase profileId looking answered =>
      subst looking answered
      exact .started ticket code phase profileId rfl found rfl rfl rfl calls
  | configured lifecycle waited answered =>
      subst waited answered
      exact .configured ticket lifecycle rfl found rfl rfl rfl calls
  | keyed bytes waited answered =>
      subst waited answered
      refine .keyed ticket bytes rfl found rfl rfl rfl (calls.trans ?_)
      simp [SessionController.settleCalls]
  | entered announcement waited answered kept =>
      subst waited answered
      exact .entered ticket announcement rfl found kept.toSteady rfl rfl calls
  | elapsed startup lasting configured stale kept =>
      refine .elapsed ticket call reply _ rfl found startup configured stale kept.toSteady rfl rfl rfl ?_
      rw [calls]
      exact before.session.settleCalls_light lasting configured stale

theorem begin_moves {work : Work} {rest : List Work} (free : before.running = none)
    (queue : before.session.inbound = work :: rest) :
    Move before .begin
      { before with
        session := ({ before.session with inbound := rest }.beginWork work).1
        running := ({ before.session with inbound := rest }.beginWork work).2 } := by
  have shifted := Kept.of_shift queue
  have calls : before.outcalls .begin =
      ({ before.session with inbound := rest } : SessionController).beginCalls work := by
    simp only [outcalls, queue]
    cases work <;> rfl
  have begun : SessionController.Begun { before.session with inbound := rest } work
      ({ before.session with inbound := rest }.beginWork work) :=
    SessionController.beginWork_begun work
  generalize ({ before.session with inbound := rest } : SessionController).beginWork work = turned
    at begun
  cases begun with
  | fresh preparation prepares current lifecycle fresh asks =>
      exact .prepares work rest preparation rfl free queue prepares current (fresh.of_kept shifted)
        rfl lifecycle rfl (calls.trans asks)
  | torn torn startup tears =>
      refine .torn [] true (torn.of_kept shifted) startup rfl ?_ ?_ (calls.trans tears) (by simp) rfl
      · simp [preparing, free]
      · simp [agreeing]
  | @control turned kept settled silent =>
      obtain ⟨session, stage⟩ := turned
      refine .rest (shifted.trans kept).toSteady (SameStartups.refl _) ?_ ?_
        (by simp [calls.trans silent]) (by simp [Event.resumes])
      · cases stage with
        | none => simp [preparing, free, SessionController.controlProgress]
        | some stage => simp [preparing, free, SessionController.controlProgress, settled stage rfl]
      · cases stage <;> simp [agreeing, SessionController.controlProgress]
  | packet kept other bare silent =>
      refine .rest (shifted.trans kept).toSteady (SameStartups.refl _) ?_ ?_
        (by simp [calls.trans silent]) (by simp [Event.resumes])
      · have idle : before.preparing = none := by simp [preparing, free]
        rw [idle]
        cases goes : turned.2 with
        | none => simp [preparing]
        | some call =>
            cases call with
            | control stage => exact absurd goes (other stage)
            | handshake call => rfl
            | message call => rfl
      · simp only [agreeing, free]
        split
        · rename_i call running
          exact fun _ => Or.inr (bare call running)
        · simp

theorem resume_control_moves {stage : ControlStage} {reply : Reply}
    {turned : SessionController × Option ControlStage}
    (running : before.running = some (.control stage))
    (resumed : before.session.resumeControl stage reply = some turned) :
    Move before (.resume reply)
      { before with
        session := (SessionController.controlProgress turned).1
        running := (SessionController.controlProgress turned).2 } := by
  have calls : before.outcalls (.resume reply) = before.session.controlCalls stage reply := by
    simp [outcalls, running, SessionController.resumeCalls]
  have preparingNow : before.preparing = stage.chore := by simp [preparing, running]
  have later : ∀ next, turned.2 = next → (∀ stage, next = some stage → stage.chore = none) →
      Loop.preparing { before with running := next.map .control } = none := by
    intro next same settled
    cases next with
    | none => rfl
    | some stage => exact settled stage rfl
  -- A control stage never agrees on a session; only handshakes do.
  have calm : Loop.agreeing { before with running := turned.2.map .control } = false := by
    cases turned.2 <;> rfl
  cases SessionController.resumeControl_controlled resumed with
  | configures preparation waited current =>
      subst waited
      refine .configures preparation reply rfl running current rfl rfl rfl (calls.trans ?_)
      simp [SessionController.controlCalls, current]
  | generates preparation waited answered =>
      subst waited answered
      exact .generates preparation rfl running rfl rfl rfl calls
  | keyed preparation bytes waited answered current kept settled =>
      subst waited answered
      exact .rekeyed preparation bytes rfl running current kept.toSteady (later _ rfl settled) calm
        rfl calls
  | other stale failed kept settled =>
      cases pending : stage.chore with
      | none =>
          refine .rest kept.toSteady (SameStartups.refl _)
            ((later _ rfl settled).trans (preparingNow.trans pending).symm)
            (fun agreeing => ?_) ?_ (fun _ => preparingNow.trans pending)
          · cases calm.symm.trans agreeing
          · rw [calls]
            cases stage with
            | announcing preparation locals => exact before.session.announcedCalls_light locals reply
            | greeting locals unpauses => exact before.session.announcedCalls_light locals reply
            | sharing sequel => simp [SessionController.controlCalls]
            | _ => cases pending
      | some waits =>
          -- A preparation that stops here has asked the worker for nothing more.
          refine .prepared reply waits rfl (preparingNow.trans pending) kept.toSteady
            (later _ rfl settled) calm rfl (calls.trans ?_)
          cases stage with
          | resetting preparation => simp [SessionController.controlCalls, stale preparation rfl]
          | configuring preparation =>
              cases reply with
              | done => exact absurd rfl (failed preparation rfl)
              | _ => rfl
          | generating preparation => cases reply <;> rfl
          | _ => cases pending

theorem resume_handshake_moves {call : HandshakeCall} {reply : Reply}
    {turned : SessionController × Progress HandshakeStage}
    (running : before.running = some (.handshake call))
    (resumed : before.session.resumeHandshake call reply = some turned) :
    Move before (.resume reply)
      { before with
        session := (SessionController.handshakeProgress (turned.1, call.progress turned.2)).1
        running := (SessionController.handshakeProgress (turned.1, call.progress turned.2)).2 } := by
  have calls : before.outcalls (.resume reply) =
      before.session.resumeCalls reply (.handshake call) := by
    simp [outcalls, running]
  have agreeingNow : before.agreeing = call.stage.early := by simp [agreeing, running]
  have idle : before.preparing = none := by simp [preparing, running]
  cases SessionController.resumeHandshake_shaken resumed with
  | installed key waited answered =>
      refine .installed _ call.peerKey (agreeingNow.trans (by rw [waited]; rfl)) rfl rfl idle rfl
        rfl (calls.trans ?_)
      simp [SessionController.resumeCalls, waited]
  | other steady early =>
      have core := SessionController.handshakeProgress_core (turned.1, call.progress turned.2)
      refine .rest (steady.trans (Kept.of_core core).toSteady) (SameStartups.refl _) ?_ ?_ ?_
        (fun _ => idle)
      · rw [idle]
        cases turned.2 <;> rfl
      · intro agreeing
        rw [agreeingNow]
        cases progress : turned.2 with
        | waits stage => exact Or.inl (early stage progress)
        | finished =>
            rw [progress] at agreeing
            cases agreeing
        | thrown message =>
            rw [progress] at agreeing
            cases agreeing
      · rw [calls]
        simp only [SessionController.resumeCalls]
        split
        · rename_i locals _
          exact before.session.announcedCalls_light locals reply
        · simp

theorem resume_message_moves {call : MessageCall} {reply : Reply}
    {turned : SessionController × Progress MessageStage}
    (running : before.running = some (.message call))
    (resumed : before.session.resumeMessage digest call reply = some turned) :
    Move before (.resume reply)
      { before with
        session := (SessionController.messageProgress call turned).1
        running := (SessionController.messageProgress call turned).2 } := by
  have core := (SessionController.messageProgress_core call turned).trans
    (SessionController.resumeMessage_core resumed)
  have goes : ∀ next, (SessionController.messageProgress call turned).2 = some next →
      ∃ call, next = .message call := by
    intro next follows
    obtain ⟨stage, _, same⟩ := SessionController.messageProgress_call follows
    exact ⟨_, same⟩
  refine .rest (Kept.of_core core).toSteady (SameStartups.refl _) ?_ ?_ ?_
    (fun _ => by simp [preparing, running])
  · simp only [preparing, running]
    split
    · rename_i stage same
      obtain ⟨_, other⟩ := goes _ same
      cases other
    · rfl
  · simp only [agreeing]
    split
    · rename_i shaken same
      obtain ⟨_, other⟩ := goes _ same
      cases other
    · simp
  · simp [outcalls, running, SessionController.resumeCalls]

theorem step_moves (stepped : before.step digest event = some (after, outputs)) :
    Move before event after := by
  cases event with
  | request request =>
      cases stepped
      exact request_moves request
  | settle ticket reply =>
      obtain ⟨⟨call, rest⟩, taken, settled⟩ := Option.bind_eq_some_iff.mp stepped
      obtain ⟨turned, answered, same⟩ := Option.map_eq_some_iff.mp settled
      obtain ⟨found, rfl⟩ := Callbacks.take_eq_some.mp taken
      cases same
      exact settle_moves found answered
  | begin =>
      simp only [step] at stepped
      split at stepped
      · rename_i work rest free queue
        cases stepped
        exact begin_moves free queue
      · cases stepped
  | resume reply =>
      obtain ⟨call, running, resumed⟩ := Option.bind_eq_some_iff.mp stepped
      obtain ⟨turned, answered, same⟩ := Option.map_eq_some_iff.mp resumed
      cases same
      cases call with
      | control stage =>
          obtain ⟨inner, answer, rfl⟩ := Option.map_eq_some_iff.mp answered
          exact resume_control_moves running answer
      | handshake call =>
          obtain ⟨inner, answer, rfl⟩ := Option.map_eq_some_iff.mp answered
          exact resume_handshake_moves running answer
      | message call =>
          obtain ⟨inner, answer, rfl⟩ := Option.map_eq_some_iff.mp answered
          exact resume_message_moves running answer
  | transportStatus status =>
      cases stepped
      exact .heard rfl (before.session.core_transportChanged status) rfl rfl rfl
  | relayEvent relayed =>
      cases stepped
      exact .heard rfl rfl rfl rfl rfl
  | envelope packet =>
      exact move_of_core (before.session.core_routeEnvelope packet) rfl rfl (Option.some.inj stepped)
  | endSessionTimer =>
      simp only [step] at stepped
      split at stepped
      · cases stepped
        exact .torn [] true (before.session.disconnect_torn false _)
          (before.session.disconnect_startup false _) rfl rfl id rfl (by simp) rfl
      · cases stepped
  | voiceIdleTimer =>
      simp only [step] at stepped
      split at stepped
      · cases stepped
      · refine move_of_core ?_ rfl rfl (Option.some.inj stepped)
        split <;> rfl
  | senderCall ticket outcome =>
      simp only [step] at stepped
      split at stepped
      · cases stepped
      · obtain ⟨turned, _, same⟩ := Option.map_eq_some_iff.mp stepped
        exact move_of_core (before.session.core_withSender turned) rfl rfl same
  | senderTimer ticket =>
      obtain ⟨turned, _, same⟩ := Option.map_eq_some_iff.mp stepped
      exact move_of_core (before.session.core_withSender turned) rfl rfl same
  | receiverCall ticket outcome =>
      simp only [step] at stepped
      split at stepped
      · cases stepped
      · obtain ⟨turned, _, same⟩ := Option.map_eq_some_iff.mp stepped
        exact move_of_core (before.session.core_withReceiver turned) rfl rfl same
  | reliableSent id ok =>
      obtain ⟨turned, _, same⟩ := Option.map_eq_some_iff.mp stepped
      exact move_of_core (before.session.core_withReliable turned) rfl rfl same
  | reliableTimer handle =>
      obtain ⟨turned, _, same⟩ := Option.map_eq_some_iff.mp stepped
      exact move_of_core (before.session.core_withReliable turned) rfl rfl same
  | tick elapsed =>
      simp only [step] at stepped
      obtain ⟨turned, _, same⟩ := Option.map_eq_some_iff.mp stepped
      exact move_of_core (before.session.core_withReliable turned) rfl rfl same

end Loop

end OnlyTwo.Session
