import OnlyTwo.Client
import OnlyTwo.PacketFlow
import OnlyTwo.ReplayWindow
import OnlyTwo.SessionMoves

/-!
The packets in the scheduler belong to the current epoch. A call that was suspended
in the worker or in the profile hash compares epochs before it hands its frame to
the connection, and whatever advances `secureEpoch` empties the scheduler in the same
turn, after the last frame of that turn. So each lane holds the end of what was
queued on it, and all of that in the current epoch.
-/

namespace OnlyTwo.Client

open Bytes AppMessages
open Session (SessionController Loop Outcall Chore PublicKey SecureChannel Packet Move Announcement)
open Transport (WebSocketConnection Buffered Envelope Output QueuedPacket PacketScheduler
  transportLimits)

section Queued

def queuedOn (lane : LaneName) (history : List Note) : List Queued :=
  history.filterMap fun
    | .queued entry => if entry.packet.lane = lane then some entry else none
    | .announced _ _ => none

/-- The packet was queued in this epoch, and its channel or its key was the
session's own at that moment. -/
def Queued.Current (entry : Queued) (epoch : Nat) : Prop :=
  entry.secureEpoch = epoch ∧
    match entry.source with
    | .encrypted channel => entry.secure = some channel
    | .handshake key => entry.localPublicKey = some key

/-- Every lane holds the packets that were queued on it last, all of them current. -/
def Fed (scheduler : PacketScheduler) (history : List Note) (epoch : Nat) : Prop :=
  ∀ lane, ∃ recent, recent <:+ queuedOn lane history ∧
    recent.map Queued.packet = scheduler.packets lane ∧ ∀ entry ∈ recent, entry.Current epoch

variable {before after : PacketScheduler} {history notes : List Note} {epoch : Nat}

theorem queuedOn_append (lane : LaneName) (first second : List Note) :
    queuedOn lane (first ++ second) = queuedOn lane first ++ queuedOn lane second :=
  List.filterMap_append

theorem mem_queuedOn {lane : LaneName} {entry : Queued} :
    entry ∈ queuedOn lane notes ↔ .queued entry ∈ notes ∧ entry.packet.lane = lane := by
  simp only [queuedOn, List.mem_filterMap]
  constructor
  · rintro ⟨note, member, found⟩
    cases note with
    | queued other =>
        simp only [Option.ite_none_right_eq_some, Option.some.injEq] at found
        obtain ⟨same, rfl⟩ := found
        exact ⟨member, same⟩
    | announced key held => cases found
  · rintro ⟨member, same⟩
    exact ⟨.queued entry, member, by simp [same]⟩

theorem Fed.of_empty (empty : ∀ lane, after.packets lane = []) : Fed after history epoch :=
  fun lane => ⟨[], List.nil_suffix, by simp [empty lane], by simp⟩

/-- Packets leave the heads of the lanes and current ones join at their ends. -/
theorem Fed.extend (fed : Fed before history epoch)
    (flows : ∀ lane, after.packets lane <:+
      before.packets lane ++ (queuedOn lane notes).map Queued.packet)
    (current : ∀ entry, .queued entry ∈ notes → entry.Current epoch) :
    Fed after (history ++ notes) epoch := by
  intro lane
  obtain ⟨recent, ends, held, fresh⟩ := fed lane
  obtain ⟨gone, split⟩ := flows lane
  rw [← held, ← List.map_append] at split
  obtain ⟨left, kept, whole, _, rest⟩ := List.map_eq_append_iff.mp split.symm
  refine ⟨kept, ?_, rest, ?_⟩
  · rw [queuedOn_append]
    obtain ⟨earlier, same⟩ := ends
    refine ⟨earlier ++ left, ?_⟩
    rw [← same, List.append_assoc, ← whole, List.append_assoc]
  · intro entry member
    have joined : entry ∈ recent ++ queuedOn lane notes := by
      rw [whole]
      exact List.mem_append_right left member
    rcases List.mem_append.mp joined with old | new
    · exact fresh entry old
    · exact current entry (mem_queuedOn.mp new).1

theorem Fed.drained (fed : Fed before history epoch) (drained : PacketScheduler.Drained before after) :
    Fed after history epoch := by
  have extended : Fed after (history ++ []) epoch :=
    fed.extend (fun lane => by simpa [queuedOn] using drained lane) (by simp)
  simpa using extended

end Queued

namespace Endpoint

section Calls

variable {surroundings : Surroundings} {outside : Outside} {caller : Caller}
  {profileId : TransportProfileId} {self : Endpoint}

/-- What some calls of a turn add to the lanes. -/
structure Feeds (start : Endpoint) (called : Called) : Prop where
  loop : called.endpoint.loop = start.loop
  flows : ∀ lane, called.endpoint.transport.scheduler.packets lane <:+
    start.transport.scheduler.packets lane ++ (queuedOn lane called.notes).map Queued.packet
  current : ∀ entry, .queued entry ∈ called.notes →
    entry.Current start.loop.session.secureEpoch

theorem Feeds.of_drained {called : Called} (loop : called.endpoint.loop = self.loop)
    (silent : called.notes = [])
    (drained : PacketScheduler.Drained self.transport.scheduler called.endpoint.transport.scheduler) :
    Feeds self called := by
  refine ⟨loop, fun lane => ?_, by simp [silent]⟩
  simpa [silent, queuedOn] using drained lane

theorem send_flows (source : Source) (env : Envelope) (buffered : Buffered) (lane : LaneName) :
    (self.send source env buffered).1.transport.scheduler.packets lane <:+
      self.transport.scheduler.packets lane ++
        (queuedOn lane (self.send source env buffered).2).map Queued.packet := by
  have sent := self.transport.send_packets buffered env lane
  simp only [send]
  cases packed : Transport.packEnvelope env self.transport.profile with
  | error reason => simpa [packed, queuedOn] using sent
  | ok bytes =>
      simp only [packed] at sent ⊢
      by_cases taken : .answered true ∈ (self.transport.send env buffered).2
      · by_cases same : lane = env.lane
        · simpa [queuedOn, taken, same] using sent
        · simpa [queuedOn, taken, same, Ne.symm same] using sent
      · simpa [queuedOn, taken] using sent

/-- A packet is queued as the session that sends it is. -/
theorem send_queued {source : Source} {env : Envelope} {buffered : Buffered} {entry : Queued}
    (noted : .queued entry ∈ (self.send source env buffered).2) :
    entry.source = source ∧ entry.secureEpoch = self.loop.session.secureEpoch ∧
      entry.secure = self.loop.session.secure ∧
      entry.localPublicKey = self.loop.session.localPublicKey := by
  simp only [send] at noted
  split at noted
  · split at noted
    · cases List.mem_singleton.mp noted
      exact ⟨rfl, rfl, rfl, rfl⟩
    · cases noted
  · cases noted

theorem send_announced {source : Source} {env : Envelope} {buffered : Buffered} {key : PublicKey}
    {held : Option Bytes} : .announced key held ∉ (self.send source env buffered).2 := by
  simp only [send]
  split
  · split <;> simp
  · simp

theorem call_feeds {outcall : Outcall} {called : Called}
    (own : ∀ key accepted, outcall = .announce key accepted →
      self.loop.session.localPublicKey = some key)
    (ran : self.call surroundings outside caller profileId outcall = some called) :
    Feeds self called := by
  cases outcall with
  | disconnect forgetSlot =>
      cases ran
      refine Feeds.of_drained rfl rfl (fun lane => ?_)
      rw [WebSocketConnection.disconnect_packets]
      exact List.nil_suffix
  | clearQueuedPackets =>
      cases ran
      exact Feeds.of_drained rfl rfl PacketScheduler.clear_drained
  | setProfile id =>
      cases ran
      exact Feeds.of_drained rfl rfl (self.transport.setProfile_drains outside.buffered _)
  | connect code =>
      cases ran
      exact Feeds.of_drained rfl rfl (self.transport.connect_drains code _ _)
  | endSession sent =>
      simp only [call] at ran
      split at ran
      · cases ran
        exact Feeds.of_drained rfl rfl self.transport.endSession_drains
      · cases ran
  | announce key accepted =>
      simp only [call] at ran
      split at ran
      · cases ran
        refine ⟨rfl, fun lane => ?_, fun entry noted => ?_⟩
        · simpa [queuedOn] using self.send_flows _ _ outside.buffered lane
        · simp only [List.mem_cons, reduceCtorEq, false_or] at noted
          obtain ⟨source, epoch, _, known⟩ := send_queued noted
          refine ⟨epoch, ?_⟩
          rw [source]
          exact known.trans (own key accepted rfl)
      · cases ran
  | ask chore awaited =>
      cases ran
      exact Feeds.of_drained rfl rfl (PacketScheduler.Drained.refl _)

theorem Feeds.trans {first later : Called} (one : Feeds self first)
    (two : Feeds first.endpoint later) :
    Feeds self ⟨later.endpoint, first.notes ++ later.notes, first.heard ++ later.heard⟩ where
  loop := two.loop.trans one.loop
  flows lane := by
    obtain ⟨gone, same⟩ := one.flows lane
    refine (two.flows lane).trans ⟨gone, ?_⟩
    rw [← List.append_assoc, same, queuedOn_append, List.map_append, List.append_assoc]
  current entry noted := by
    rcases List.mem_append.mp noted with old | new
    · exact one.current entry old
    · have fresh := two.current entry new
      rw [one.loop] at fresh
      exact fresh

theorem calls_feeds {outcalls : List Outcall} {called : Called}
    (own : ∀ key accepted, .announce key accepted ∈ outcalls →
      self.loop.session.localPublicKey = some key)
    (ran : self.calls surroundings outside caller profileId outcalls = some called) :
    Feeds self called := by
  induction outcalls generalizing self called with
  | nil =>
      cases ran
      exact Feeds.of_drained rfl rfl (PacketScheduler.Drained.refl _)
  | cons outcall rest ih =>
      simp only [calls] at ran
      split at ran
      · cases ran
      · rename_i first took
        obtain ⟨later, went, rfl⟩ := Option.map_eq_some_iff.mp ran
        have one := call_feeds (fun key accepted same => own key accepted (by simp [same])) took
        refine one.trans (ih (fun key accepted member => ?_) went)
        rw [one.loop]
        exact own key accepted (List.mem_cons_of_mem outcall member)

theorem calls_append {first rest : List Outcall} {called : Called}
    (ran : self.calls surroundings outside caller profileId (first ++ rest) = some called) :
    ∃ one two, self.calls surroundings outside caller profileId first = some one ∧
      one.endpoint.calls surroundings outside caller profileId rest = some two ∧
      called.endpoint = two.endpoint ∧ called.notes = one.notes ++ two.notes ∧
      called.heard = one.heard ++ two.heard := by
  induction first generalizing self called with
  | nil => exact ⟨⟨self, [], []⟩, called, rfl, ran, rfl, rfl, rfl⟩
  | cons outcall further ih =>
      simp only [List.cons_append, calls] at ran ⊢
      split at ran
      · cases ran
      · rename_i head took
        obtain ⟨later, went, rfl⟩ := Option.map_eq_some_iff.mp ran
        obtain ⟨one, two, began, remaining, same, notes, heard⟩ := ih went
        refine ⟨_, two, Option.map_eq_some_iff.mpr ⟨one, began, rfl⟩, remaining, same, ?_, ?_⟩
        · simp [notes]
        · simp [heard]

/-- Handshakes are the only packets a turn of the session sends itself. -/
theorem calls_silent {outcalls : List Outcall} {called : Called}
    (quiet : ∀ key accepted, .announce key accepted ∉ outcalls)
    (ran : self.calls surroundings outside caller profileId outcalls = some called) :
    called.notes = [] := by
  induction outcalls generalizing self called with
  | nil =>
      cases ran
      rfl
  | cons outcall rest ih =>
      simp only [calls] at ran
      split at ran
      · cases ran
      · rename_i first took
        obtain ⟨later, went, rfl⟩ := Option.map_eq_some_iff.mp ran
        have later := ih (fun key accepted member => quiet key accepted (by simp [member])) went
        have silent : first.notes = [] := by
          cases outcall with
          | announce key accepted => exact absurd List.mem_cons_self (quiet key accepted)
          | endSession sent =>
              simp only [call] at took
              split at took
              · cases took
                rfl
              · cases took
          | _ =>
              cases took
              rfl
        simp [silent, later]

/-- The calls that empty the scheduler. -/
def clears : Outcall → Bool
  | .disconnect _ => true
  | .clearQueuedPackets => true
  | _ => false

/-- A turn that empties the scheduler and announces nothing after it. -/
def Clears (outcalls : List Outcall) : Prop :=
  ∃ first clearing rest, outcalls = first ++ clearing :: rest ∧ clears clearing = true ∧
    ∀ key accepted, .announce key accepted ∉ rest

theorem calls_cleared {outcalls : List Outcall} {called : Called} (clearing : Clears outcalls)
    (ran : self.calls surroundings outside caller profileId outcalls = some called)
    (lane : LaneName) : called.endpoint.transport.scheduler.packets lane = [] := by
  obtain ⟨first, outcall, rest, rfl, empties, quiet⟩ := clearing
  obtain ⟨one, two, _, went, same, _, _⟩ := calls_append ran
  rw [same]
  simp only [calls] at went
  split at went
  · cases went
  · rename_i cleared took
    obtain ⟨later, remaining, rfl⟩ := Option.map_eq_some_iff.mp went
    have empty : cleared.endpoint.transport.scheduler.packets lane = [] := by
      cases outcall with
      | disconnect forgetSlot =>
          cases took
          exact WebSocketConnection.disconnect_packets _ forgetSlot lane
      | clearQueuedPackets =>
          cases took
          exact WebSocketConnection.clearQueuedPackets_packets _ lane
      | _ => cases empties
    have feeds := calls_feeds (fun key accepted member => absurd member (quiet key accepted)) remaining
    have flows := feeds.flows lane
    rw [empty, calls_silent quiet remaining] at flows
    exact List.suffix_nil.mp (by simpa [queuedOn] using flows)

end Calls

section Session

variable {surroundings : Surroundings} {before after : Loop} {event : Session.Event}

theorem Clears.of_tears {outcalls first : List Outcall} {forgetSlot : Bool}
    (tears : outcalls = first ++ SessionController.tearDownCalls forgetSlot) : Clears outcalls :=
  ⟨first, .disconnect forgetSlot, [.ask .reset false], tears, rfl, by simp⟩

/-- A turn of the session that ends an epoch empties the scheduler. -/
theorem move_clears (move : Move before event after) :
    after.session.secureEpoch = before.session.secureEpoch ∨ Clears (before.outcalls event) := by
  cases move with
  | rest steady => exact Or.inl steady.epoch
  | heard _ same => exact Or.inl (congrArg Session.Core.secureEpoch same)
  | marked _ _ same => exact Or.inl (congrArg Session.Core.secureEpoch same)
  | installed _ _ _ same => exact Or.inl (congrArg Session.Core.secureEpoch same)
  | torn first forgetSlot _ _ _ _ _ tears => exact Or.inr (Clears.of_tears tears)
  | opened _ _ same => exact Or.inl (congrArg Session.Core.secureEpoch same)
  | failed _ _ _ first _ _ _ _ _ _ _ tears => exact Or.inr (Clears.of_tears tears)
  | started ticket code phase profileId _ _ _ _ _ asks =>
      refine Or.inr ⟨[], .disconnect false,
        [.ask .reset false, .setProfile profileId, .ask .configure true], asks, rfl, by simp⟩
  | configured _ _ _ _ same => exact Or.inl (by rw [same])
  | keyed _ _ _ _ same => exact Or.inl (by rw [same]; rfl)
  | entered _ _ _ _ steady => exact Or.inl steady.epoch
  | elapsed _ _ _ _ _ _ _ _ _ steady same =>
      rw [same]
      exact Or.inl steady.epoch
  | prepares _ _ _ _ _ _ _ _ _ _ _ _ asks =>
      exact Or.inr ⟨[], .clearQueuedPackets, [.ask .reset true], asks, rfl, by simp⟩
  | configures _ _ _ _ _ same => exact Or.inl (by rw [same])
  | generates _ _ _ same => exact Or.inl (by rw [same])
  | rekeyed _ _ _ _ _ steady => exact Or.inl steady.epoch
  | prepared _ _ _ _ steady => exact Or.inl steady.epoch

theorem announcedCalls_own {session : SessionController} {locals : Announcement}
    {reply : Session.Reply} {key : PublicKey} {accepted : Bool}
    (announced : .announce key accepted ∈ session.announcedCalls locals reply) :
    session.localPublicKey = some key ∧ locals.epoch = session.secureEpoch := by
  cases reply with
  | flag taken =>
      simp only [SessionController.announcedCalls] at announced
      split at announced
      · cases announced
      · rename_i current
        simp only [not_or, not_not] at current
        cases List.mem_singleton.mp announced
        exact ⟨current.2.2.1.symm, current.2.1⟩
  | _ => cases announced

/-- The announcement that an event resumes at its profile hash. -/
def hashing (loop : Loop) : Session.Event → Option Announcement
  | .settle ticket _ =>
      match loop.calls.get? ticket with
      | some (.greeting locals) => some locals
      | _ => none
  | .resume _ =>
      match loop.running with
      | some (.control (.announcing _ locals)) => some locals
      | some (.control (.greeting locals _)) => some locals
      | some (.handshake call) =>
          match call.stage with
          | .replying locals => some locals
          | _ => none
      | _ => none
  | _ => none

/-- A handshake is announced by a call that resumes at its profile hash, with the
session's own key and in its epoch. -/
theorem outcalls_announce {loop : Loop} {key : PublicKey} {accepted : Bool}
    (announced : .announce key accepted ∈ loop.outcalls event) :
    ∃ locals, hashing loop event = some locals ∧ loop.session.localPublicKey = some key ∧
      locals.epoch = loop.session.secureEpoch := by
  cases event with
  | request request =>
      cases request with
      | setProfile id =>
          simp only [Loop.outcalls, SessionController.performCalls] at announced
          split at announced <;> simp at announced
      | endChatForBoth sent =>
          simp only [Loop.outcalls, SessionController.performCalls] at announced
          split at announced
          · cases announced
          · split at announced <;> simp [SessionController.tearDownCalls] at announced
      | disconnect => simp [Loop.outcalls, SessionController.performCalls,
          SessionController.tearDownCalls] at announced
      | unload => simp [Loop.outcalls, SessionController.performCalls,
          SessionController.tearDownCalls] at announced
      | _ => cases announced
  | settle ticket reply =>
      simp only [Loop.outcalls] at announced
      split at announced
      · cases announced
      · rename_i call found
        cases call with
        | greeting locals =>
            refine ⟨locals, by simp [hashing, found], ?_⟩
            simp only [SessionController.settleCalls] at announced
            split at announced
            · rcases List.mem_append.mp announced with said | torn
              · exact announcedCalls_own said
              · simp [SessionController.tearDownCalls] at torn
            · exact announcedCalls_own announced
        | generating lifecycle =>
            cases reply with
            | key bytes =>
                simp only [SessionController.settleCalls] at announced
                split at announced <;> simp at announced
            | _ => simp [SessionController.settleCalls, SessionController.tearDownCalls] at announced
        | _ =>
            cases reply <;> simp [SessionController.settleCalls, SessionController.startCalls,
              SessionController.tearDownCalls] at announced
  | begin =>
      simp only [Loop.outcalls] at announced
      split at announced
      · cases announced
      · rename_i work rest queue
        have prepares : .announce key accepted ∉ loop.session.prepareCalls := by
          simp only [SessionController.prepareCalls]
          split <;> simp
        cases work with
        | status lifecycle status =>
            simp only [SessionController.beginCalls] at announced
            split at announced
            · cases status <;> simp only [SessionController.statusCalls] at announced
              · cases announced
              · cases announced
              · split at announced
                · exact absurd announced prepares
                · cases announced
              · exact absurd announced prepares
              · cases announced
            · cases announced
        | relay lifecycle relayed =>
            simp only [SessionController.beginCalls] at announced
            split at announced
            · cases relayed <;> simp only [SessionController.relayCalls] at announced
              · split at announced
                · exact absurd announced prepares
                · cases announced
              · exact absurd announced prepares
              · exact absurd announced prepares
              · simp [SessionController.tearDownCalls] at announced
            · cases announced
        | _ => cases announced
  | resume reply =>
      simp only [Loop.outcalls] at announced
      split at announced
      · cases announced
      · rename_i call running
        cases call with
        | control stage =>
            cases stage with
            | announcing preparation locals =>
                exact ⟨locals, by simp [hashing, running], announcedCalls_own announced⟩
            | greeting locals unpauses =>
                exact ⟨locals, by simp [hashing, running], announcedCalls_own announced⟩
            | resetting preparation =>
                simp only [SessionController.resumeCalls, SessionController.controlCalls] at announced
                split at announced <;> simp at announced
            | _ =>
                cases reply <;> simp [SessionController.resumeCalls,
                  SessionController.controlCalls] at announced
        | handshake call =>
            simp only [SessionController.resumeCalls] at announced
            split at announced
            · rename_i locals stage
              exact ⟨locals, by simp [hashing, running, stage], announcedCalls_own announced⟩
            · cases announced
        | message call => cases announced
  | endSessionTimer => simp [Loop.outcalls, SessionController.tearDownCalls] at announced
  | _ => cases announced

theorem hear_epoch (loop : Loop) (output : Output) :
    (hear surroundings loop output).session.secureEpoch = loop.session.secureEpoch := by
  cases output with
  | status status => exact congrArg Session.Core.secureEpoch (loop.session.core_transportChanged status)
  | relay event => rfl
  | envelope env => exact congrArg Session.Core.secureEpoch (loop.session.core_routeEnvelope _)
  | _ => rfl

theorem heard_epoch (loop : Loop) (outputs : List Output) :
    (outputs.foldl (hear surroundings) loop).session.secureEpoch = loop.session.secureEpoch := by
  induction outputs generalizing loop with
  | nil => rfl
  | cons output rest ih =>
      rw [List.foldl_cons, ih]
      exact hear_epoch loop output

end Session

section Steps

variable {surroundings : Surroundings} {self after : Endpoint} {outside : Outside}
  {notes history : List Note}

/-- The lanes of an endpoint hold current packets only. -/
def Supplied (endpoint : Endpoint) (history : List Note) : Prop :=
  Fed endpoint.transport.scheduler history endpoint.loop.session.secureEpoch

theorem Supplied.of_same (holds : Supplied self history) (loop : after.loop = self.loop)
    (transport : after.transport = self.transport) : Supplied after (history ++ []) := by
  rw [Supplied, List.append_nil, loop, transport]
  exact holds

theorem turn_split {event : Session.Event}
    (turned : self.turn surroundings outside event = some (after, notes)) :
    ∃ next outputs called, self.loop.step surroundings.digest event = some (next, outputs) ∧
      self.calls surroundings outside (self.waiter event) next.session.profile.id
        (self.loop.outcalls event) = some called ∧
      after = { called.endpoint with loop := called.heard.foldl (hear surroundings) next } ∧
      notes = called.notes := by
  obtain ⟨⟨next, outputs⟩, stepped, rest⟩ := Option.bind_eq_some_iff.mp turned
  obtain ⟨called, ran, same⟩ := Option.map_eq_some_iff.mp rest
  cases same
  exact ⟨next, outputs, called, stepped, ran, rfl, rfl⟩

theorem turn_supplied {event : Session.Event} (holds : Supplied self history)
    (turned : self.turn surroundings outside event = some (after, notes)) :
    Supplied after (history ++ notes) := by
  obtain ⟨next, outputs, called, stepped, ran, rfl, rfl⟩ := turn_split turned
  have feeds : Feeds self called := by
    refine calls_feeds (fun key accepted member => ?_) ran
    obtain ⟨_, _, known, _⟩ := outcalls_announce member
    exact known
  unfold Supplied
  rcases move_clears (Loop.step_moves stepped) with same | clears
  · simp only [heard_epoch, same]
    exact holds.extend feeds.flows feeds.current
  · exact Fed.of_empty (calls_cleared clears ran)

theorem encrypted_supplied (holds : Supplied self history) (task : RawSend) (buffered : Buffered)
    (result : Option Sealed) :
    Supplied (self.encrypted task buffered result).1
      (history ++ (self.encrypted task buffered result).2) := by
  cases result with
  | none => exact holds.of_same rfl rfl
  | some result =>
      simp only [encrypted]
      split
      · exact holds.of_same rfl rfl
      · rename_i current
        simp only [not_or, not_not] at current
        refine Fed.extend holds (fun lane => self.send_flows _ _ buffered lane) (fun entry noted => ?_)
        obtain ⟨source, epoch, secure, _⟩ := send_queued noted
        refine ⟨epoch, ?_⟩
        rw [source]
        exact secure.trans current.2.symm

theorem step_supplied {event : Event} (holds : Supplied self history)
    (stepped : self.step surroundings event = some (after, notes)) :
    Supplied after (history ++ notes) := by
  cases event with
  | session event outside =>
      simp only [step] at stepped
      split at stepped
      · cases stepped
      · exact turn_supplied holds stepped
  | transport event =>
      simp only [step] at stepped
      split at stepped
      · rename_i fires
        obtain ⟨⟨transport, outputs⟩, went, same⟩ := Option.map_eq_some_iff.mp stepped
        cases same
        have drained := WebSocketConnection.step_drains
          (fun env buffered sends => by simp [sends, browserFires] at fires) went
        have fed := Fed.drained holds drained
        simpa [Supplied, heard_epoch] using fed
      · cases stepped
  | sendRawApp lane buffered =>
      cases stepped
      refine holds.of_same ?_ ?_
      all_goals
        simp only [sendRawApp]
        split
        · rfl
        · split <;> rfl
  | encrypted ticket result buffered =>
      obtain ⟨⟨task, rest⟩, taken, same⟩ := Option.map_eq_some_iff.mp stepped
      have supplied : Supplied { self with sends := rest } history := holds
      -- The epoch is read again when the encryption has ended.
      have sent := encrypted_supplied supplied task buffered result
      rw [same] at sent
      exact sent
  | ask request =>
      simp only [step] at stepped
      split at stepped
      · cases stepped
        exact holds.of_same rfl rfl
      · cases stepped
  | work entropy failure =>
      simp only [step] at stepped
      split at stepped
      · cases stepped
        exact holds.of_same rfl rfl
      · cases stepped
  | deliver outside =>
      simp only [step] at stepped
      split at stepped
      · rename_i errand rest reply _ _
        -- The reply is taken off the chain before the loop sees it.
        have popped : Supplied { self with chain := rest, answer := none } history := holds
        simp only [deliver] at stepped
        split at stepped
        · cases stepped
          exact popped.of_same rfl rfl
        · exact turn_supplied popped stepped
        · exact turn_supplied popped stepped
      · cases stepped

end Steps

end Endpoint

section Runs
open Endpoint

/-- In every run of a client, each lane of the scheduler holds the packets that were
queued on it last, and all of them were made from a channel that was `this.secure`,
or a key that was `localPublicKey`, while `secureEpoch` had its present value. From
there, a message whose encryption ends after its epoch leaves the connection alone,
and a handshake whose profile hash comes too late is not queued. -/
theorem queue_stays_in_epoch (surroundings : Surroundings) {finish : Endpoint}
    {history : List Note}
    (run : Machine.Run (machine surroundings) Machine.Unrestricted Endpoint.create finish history) :
    (∀ lane, ∃ recent, recent <:+ queuedOn lane history ∧
      recent.map Queued.packet = (finish.transport.scheduler.queues lane).packets ∧
      ∀ entry ∈ recent, entry.Current finish.loop.session.secureEpoch) ∧
    (∀ ticket task result buffered after notes, finish.sends.get? ticket = some task →
      task.epoch ≠ finish.loop.session.secureEpoch →
      (machine surroundings).step finish (.encrypted ticket result buffered) =
        some (after, notes) →
      after.transport = finish.transport ∧ notes = []) ∧
    ∀ event outside locals after notes, hashing finish.loop event = some locals →
      locals.epoch ≠ finish.loop.session.secureEpoch →
      (machine surroundings).step finish (.session event outside) = some (after, notes) →
      notes = [] := by
  have supplied : Supplied finish history := by
    apply run.invariant Supplied
    · exact Fed.of_empty (fun lane => by cases lane <;> rfl)
    · intro before past event after notes holds _ stepped
      exact step_supplied holds stepped
  refine ⟨supplied, ?_, ?_⟩
  · intro ticket task result buffered after notes found late stepped
    obtain ⟨⟨other, rest⟩, taken, same⟩ := Option.map_eq_some_iff.mp stepped
    rw [(Callbacks.take_eq_some.mp taken).1] at found
    cases found
    cases result with
    | none =>
        cases same
        exact ⟨rfl, rfl⟩
    | some result =>
        simp only [encrypted, if_pos (Or.inl late)] at same
        cases same
        exact ⟨rfl, rfl⟩
  · intro event outside locals after notes resumes late stepped
    have turned : finish.turn surroundings outside event = some (after, notes) := by
      simp only [machine, step] at stepped
      split at stepped
      · cases stepped
      · exact stepped
    obtain ⟨next, outputs, called, _, ran, _, rfl⟩ := turn_split turned
    refine calls_silent (fun key accepted member => ?_) ran
    obtain ⟨other, same, _, current⟩ := outcalls_announce member
    rw [resumes] at same
    cases same
    exact late current

end Runs

section Samples

def sampleSurroundings : Surroundings :=
  ⟨fun _ => "digest", CryptoWorker.sampleCrypto, fun _ => some Session.sampleHandshake⟩

def sampleOutside : Outside :=
  ⟨⟨0, 0⟩, "aaaaaaaaaaaaaaaaaaaaaaaaaaaaaaaa", none, ""⟩

/-- The worker answers the next request, with an empty secret. -/
def sampleAnswer : List Event :=
  [.work ⟨[], fun _ => 0, fun _ => 0⟩ none, .deliver sampleOutside]

/-- The user creates a room, the worker makes a key pair and the socket opens. The
greeting still waits for its profile hash. -/
def sampleRoom : List Event :=
  [.session (.request .createRoom) sampleOutside,
    .session (.settle 0 (.room "ABCD-EFGH" .balanced)) sampleOutside] ++
  sampleAnswer ++ sampleAnswer ++ sampleAnswer ++
  [.transport (.opened 0 ⟨0, 0⟩), .session (.settle 3 .done) sampleOutside,
    .session .begin sampleOutside, .session .begin sampleOutside]

def sampleFrame : Bytes :=
  match Transport.packEnvelope { handshakeEnvelope ⟨0, []⟩ .balanced "" with payload := [] }
      (transportLimits .balanced) with
  | .ok bytes => bytes
  | .error _ => []

/-- The peer's handshake arrives twice. The first time no profile hash can be made for the
reply; the second time the room becomes secure. -/
def sampleSecured : List Event :=
  sampleRoom ++ [.transport (.message 0 (.arrayBuffer sampleFrame)),
    .session .begin sampleOutside, .session (.resume (.error "")) sampleOutside,
    .transport (.message 0 (.arrayBuffer sampleFrame)), .session .begin sampleOutside,
    .session (.resume (.text Session.sampleHash)) sampleOutside,
    .session (.resume .done) sampleOutside, .session (.resume (.text "river lunar")) sampleOutside]

/-- A text is encrypted while the browser has too much buffered to send it at once. -/
def sampleSend : List Event :=
  sampleSecured ++ [.sendRawApp .text ⟨0, 0⟩,
    .encrypted 0 (some ⟨2, 1, 1, List.replicate 12 0, [1, 2, 3]⟩) ⟨3 * mb, 3 * mb⟩]

end Samples

/-- The frame of a text waits in its lane, in the epoch of its channel. -/
theorem sample_text_is_current :
    ∃ finish history,
      Machine.Run (machine sampleSurroundings) Machine.Unrestricted Endpoint.create finish history ∧
      (finish.transport.scheduler.queues .text).packets.length = 1 ∧
      ∃ recent, recent <:+ queuedOn .text history ∧
        recent.map Queued.packet = (finish.transport.scheduler.queues .text).packets ∧
        ∀ entry ∈ recent, entry.Current finish.loop.session.secureEpoch := by
  have ran : ((machine sampleSurroundings).execute Endpoint.create sampleSend).map (fun result =>
      (result.1.transport.scheduler.queues .text).packets.length) = some 1 := by
    decide +kernel
  obtain ⟨⟨finish, history⟩, executed, waiting⟩ := Option.map_eq_some_iff.mp ran
  have run := Machine.execute_run _ (Machine.along_unrestricted _ _) executed
  exact ⟨finish, history, run, waiting, (queue_stays_in_epoch _ run).1 .text⟩

end OnlyTwo.Client
