import OnlyTwo.DrainProgress
import OnlyTwo.PacketLanes

/-!
What a client writes to its sockets, over a whole run of the connection: sends,
turns of the drain loop, new profiles, and the browser's events in any order. A
packet that `send` accepts is written at most once, every lane in its order. A
lane other than voice writes all of it as long as nothing clears the queues; a
voice packet may be dropped for a newer one or for a browser that lags behind.
The command of `endSession` is written past the lanes and is left out here.
-/

namespace OnlyTwo.Transport

open Bytes AppMessages
open Lanes (Filed Passes onLane)

inductive Mark where
  | accepted (packet : QueuedPacket)
  | wrote (bytes : Bytes)
  | cleared
  deriving DecidableEq, Repr

def acceptances (history : List Mark) : List QueuedPacket :=
  history.filterMap fun
    | .accepted packet => some packet
    | _ => none

def writes (history : List Mark) : List Bytes :=
  history.filterMap fun
    | .wrote bytes => some bytes
    | _ => none

def sentBytes (outputs : List Output) : List Bytes :=
  outputs.filterMap fun
    | .sent _ bytes => some bytes
    | _ => none

namespace WebSocketConnection

open PacketScheduler

/-- The packet of a `send` that answers true. -/
def accepts (self : WebSocketConnection) (outputs : List Output) : Event → List QueuedPacket
  | .send env _ =>
      match packEnvelope env self.profile with
      | .ok bytes => if .answered true ∈ outputs then [⟨env.lane, bytes⟩] else []
      | .error _ => []
  | _ => []

def drains (outputs : List Output) : Event → List Bytes
  | .endSession => []
  | _ => sentBytes outputs

/-- The events that throw away what waits. -/
def clears (self : WebSocketConnection) : Event → Bool
  | .disconnect _ => true
  | .clearQueuedPackets => true
  | .closed id code reason =>
      match self.sockets[id]? with
      | none => false
      | some socket =>
          self.epoch == socket.currentEpoch && socket.opened &&
            (code == sessionEndedCode || reason == sessionEndedReason || !self.intentionalClose)
  | _ => false

def marks (self : WebSocketConnection) (outputs : List Output) : Occurrence → List Mark
  | .event event =>
      (self.accepts outputs event).map .accepted ++ (drains outputs event).map .wrote ++
        if self.clears event then [.cleared] else []
  | .closing _ => []

/-- The connection with what its wire shows of every event. -/
def wire : Machine WebSocketConnection Occurrence Mark where
  step self occurrence :=
    (self.occur occurrence).map fun turn => (turn.1, self.marks turn.2 occurrence)

/-- The profiles are those of the table. -/
def Shipped (_ : WebSocketConnection) : Occurrence → Prop
  | .event (.setProfile profile _) => ∃ id, profile = transportLimits id
  | _ => True

variable {self : WebSocketConnection} {turn : Turn} {lossy : LaneName → Prop}
  {joined : List QueuedPacket}

/-- A lane that may drop packets is lossy. -/
def Lasting (lossy : LaneName → Prop) (profile : TransportLimits) : Prop :=
  ∀ lane, ¬ lossy lane → (profile.lanes lane).dropPolicy = .fail

/-- Every packet waits on its own lane. -/
abbrev Laned (self : WebSocketConnection) : Prop :=
  Filed QueuedPacket.lane self.scheduler.packets

/-- What a turn writes is what the lanes let out. -/
structure Carries (lossy : LaneName → Prop) (state : WebSocketConnection)
    (joined : List QueuedPacket) (turn : Turn) : Prop where
  profile : turn.1.scheduler.profile = state.scheduler.profile
  filed : turn.1.Laned
  passes : ∃ left, left.map QueuedPacket.bytes = sentBytes turn.2 ∧
    Passes QueuedPacket.lane lossy state.scheduler.packets joined left turn.1.scheduler.packets

section Turns

theorem Laned.of_same {state : WebSocketConnection} (filed : self.Laned)
    (same : state.scheduler = self.scheduler) : state.Laned := by
  unfold Laned
  rw [same]
  exact filed

theorem Carries.of_same (filed : self.Laned)
    (same : turn.1.scheduler = self.scheduler) (silent : sentBytes turn.2 = []) :
    Carries lossy self [] turn := by
  constructor
  · rw [same]
  · exact Laned.of_same filed same
  · refine ⟨[], silent.symm, ?_⟩
    rw [same]
    exact .refl

/-- One turn after another; the second one lets nothing in. -/
theorem Carries.andThen {next : WebSocketConnection → Turn}
    (first : Carries lossy self joined turn)
    (second : ∀ state : WebSocketConnection, state.Laned →
      Carries lossy state [] (next state)) :
    Carries lossy self joined (andThen turn next) := by
  have later := second turn.1 first.filed
  obtain ⟨left, written, passes⟩ := first.passes
  obtain ⟨gone, more, rest⟩ := later.passes
  refine ⟨later.profile.trans first.profile, later.filed, left ++ gone, ?_, ?_⟩
  · rw [List.map_append, written, more]
    exact (List.filterMap_append ..).symm
  · have whole := passes.trans rest
    rw [List.append_nil] at whole
    exact whole

theorem Carries.from {before : WebSocketConnection} (carries : Carries lossy before joined turn)
    (same : before.scheduler = self.scheduler) : Carries lossy self joined turn := by
  constructor
  · rw [← same]
    exact carries.profile
  · exact carries.filed
  · rw [← same]
    exact carries.passes

theorem next_passes {packet : QueuedPacket} {scheduler after : PacketScheduler}
    (filed : Filed QueuedPacket.lane scheduler.packets)
    (served : scheduler.next = some (packet, after)) :
    after.profile = scheduler.profile ∧ Filed QueuedPacket.lane after.packets ∧
      Passes QueuedPacket.lane lossy scheduler.packets [] [packet] after.packets := by
  obtain ⟨lane, rest, _, held, rfl⟩ := next_shift served
  have named : packet.lane = lane := filed lane packet (held ▸ List.mem_cons_self)
  rw [shift_update]
  refine ⟨shift_profile _ _ _ _, ?_, .serve held named⟩
  apply filed.update
  intro other member
  exact filed lane other (held ▸ List.mem_cons_of_mem packet member)

/-- The loop serves the lanes one packet at a time; only a voice packet may go unwritten. -/
theorem drainLoop_carries (self : WebSocketConnection) (voice : lossy .voice)
    (buffered : Buffered) (turns : Nat) (filed : self.Laned) :
    Carries lossy self [] (self.drainLoop buffered turns) := by
  induction turns generalizing self with
  | zero => exact .of_same filed rfl rfl
  | succ turns ih =>
      simp only [drainLoop]
      split
      · exact .of_same filed rfl rfl
      · split
        · exact .of_same filed rfl rfl
        · split
          · exact .of_same filed rfl rfl
          · rename_i packet scheduler served
            obtain ⟨profile, after, passes⟩ : scheduler.profile = self.scheduler.profile ∧
                Filed QueuedPacket.lane scheduler.packets ∧ Passes QueuedPacket.lane lossy
                  self.scheduler.packets [] [packet] scheduler.packets := next_passes filed served
            split
            · rename_i lost
              have rest : Carries lossy { self with scheduler := scheduler } []
                  ({ self with scheduler := scheduler }.drainLoop buffered turns) := ih _ after
              obtain ⟨left, written, later⟩ := rest.passes
              have gone : lossy packet.lane := lost.1 ▸ voice
              exact ⟨rest.profile.trans profile, rest.filed, left, written,
                (passes.trans later).lose gone⟩
            · split
              · exact ⟨profile, after, [packet], rfl, passes⟩
              · exact ⟨profile, after, [packet], rfl, passes⟩

theorem drain_carries (self : WebSocketConnection) (voice : lossy .voice) (buffered : Buffered)
    (filed : self.Laned) :
    Carries lossy self [] (self.drain buffered) := by
  unfold drain
  split
  · exact .of_same filed rfl rfl
  · exact Carries.from (drainLoop_carries { self.clearDrainTimer with draining := true } voice
      buffered _ filed) rfl

theorem setStatus_carries {state : WebSocketConnection} (filed : self.Laned)
    (same : state.scheduler = self.scheduler) (status : Session.ConnectionStatus) :
    Carries lossy self [] (state.setStatus status) := by
  apply Carries.of_same filed ((setStatus_scheduler state status).trans same)
  unfold setStatus
  split <;> rfl

theorem resolveOnce_carries (self : WebSocketConnection) (filed : self.Laned) (id : Nat)
    (socket : Socket) : Carries lossy self [] (self.resolveOnce id socket) := by
  unfold resolveOnce
  split
  · exact .of_same filed rfl rfl
  · apply Carries.of_same filed rfl
    split <;> rfl

theorem rejectOnce_carries (self : WebSocketConnection) (filed : self.Laned) (id : Nat)
    (socket : Socket) (reason : String) :
    Carries lossy self [] (self.rejectOnce id socket reason) := by
  unfold rejectOnce
  split
  · exact .of_same filed rfl rfl
  · simp only
    split
    · exact .of_same filed rfl rfl
    · exact .of_same filed rfl rfl

theorem openConnection_carries (self : WebSocketConnection) (filed : self.Laned)
    (reconnecting : Bool) (failure : Option String) :
    Carries lossy self [] (self.openConnection reconnecting failure) := by
  unfold openConnection
  simp only
  refine Carries.andThen (setStatus_carries filed ?_ _) fun state filed => ?_
  · exact closeSocket_scheduler _
  · cases failure with
    | none => exact .of_same filed rfl rfl
    | some reason =>
        simp only
        split
        · exact .of_same filed rfl rfl
        · exact .of_same filed rfl rfl

theorem scheduleReconnect_carries (self : WebSocketConnection) (filed : self.Laned) :
    Carries lossy self [] self.scheduleReconnect := by
  unfold scheduleReconnect
  split
  · exact .of_same filed rfl rfl
  · split
    · exact setStatus_carries filed rfl .failed
    · refine Carries.andThen (setStatus_carries filed ?_ _) fun state filed => ?_
      · rfl
      · exact .of_same filed rfl rfl

/-- Clearing loses what waits on every lane. -/
theorem clearQueuedPackets_carries (all : ∀ lane, lossy lane) :
    Carries lossy self [] (self.clearQueuedPackets, []) := by
  refine ⟨clear_profile _, ?_, [], rfl, ?_⟩
  · intro lane packet member
    rw [clearQueuedPackets_packets] at member
    cases member
  · exact .of_suffix clear_drained fun lane kept => absurd (all lane) kept

theorem disconnect_carries (all : ∀ lane, lossy lane) (forgetSlot : Bool) :
    Carries lossy self [] (self.disconnect forgetSlot) := by
  have cleared : Carries lossy { self with intentionalClose := true }.clearReconnectTimer []
      ({ self with intentionalClose := true }.clearReconnectTimer.clearQueuedPackets, []) :=
    clearQueuedPackets_carries all
  have dropped : Carries lossy self [] _ := cleared.from (clearReconnectTimer_scheduler _)
  have closes (state : WebSocketConnection)
      (filed : state.Laned) :
      Carries lossy state [] ((if forgetSlot then state.closeSocket.forgetSlotToken
        else state.closeSocket).setStatus .disconnected) := by
    have same : (if forgetSlot then state.closeSocket.forgetSlotToken
        else state.closeSocket).scheduler = state.scheduler := by
      split <;> simp
    exact setStatus_carries filed same .disconnected
  exact dropped.andThen closes

end Turns

section Events

theorem onOpen_carries (self : WebSocketConnection) (voice : lossy .voice) (filed : self.Laned)
    (id : Nat) (socket : Socket) (buffered : Buffered) :
    Carries lossy self [] (self.onOpen id socket buffered) := by
  unfold onOpen
  split
  · exact .of_same filed rfl rfl
  · simp only
    refine ((setStatus_carries filed ?_ .connected).andThen fun state filed =>
      drain_carries state voice buffered filed).andThen fun state filed =>
        resolveOnce_carries state filed id socket
    rfl

theorem onError_carries (self : WebSocketConnection) (filed : self.Laned) (id : Nat)
    (socket : Socket) : Carries lossy self [] (self.onError id socket) := by
  unfold onError
  split
  · exact rejectOnce_carries _ filed id socket _
  · exact .of_same filed rfl rfl

/-- A close in use that is not our own clears the queues. -/
theorem onClose_carries (self : WebSocketConnection) (filed : self.Laned) (id : Nat)
    (socket : Socket) (code : Nat) (reason : String)
    (clearing : self.epoch = socket.currentEpoch → socket.opened = true →
      code = sessionEndedCode ∨ reason = sessionEndedReason ∨ self.intentionalClose = false →
      ∀ lane, lossy lane) :
    Carries lossy self [] (self.onClose id socket code reason) := by
  unfold onClose
  split
  · exact .of_same filed rfl rfl
  · rename_i current
    rw [not_not] at current
    simp only
    have dropped : (if self.ws = some id then { self with ws := none } else self).scheduler =
        self.scheduler := by
      split <;> rfl
    generalize (if self.ws = some id then { self with ws := none } else self) = state at dropped ⊢
    suffices carries : Carries lossy state [] _ from carries.from dropped
    replace filed : state.Laned := Laned.of_same filed dropped
    split
    · exact rejectOnce_carries _ filed id socket _
    · rename_i opened
      have inUse : socket.opened = true := by simpa using opened
      split
      · rename_i ended
        have all := clearing current inUse (ended.imp_right Or.inl)
        let marked := { state with intentionalClose := true }
        have quiet : Carries lossy marked [] (marked.clearQueuedPackets, []) :=
          clearQueuedPackets_carries all
        have cleared : Carries lossy marked []
            (marked.clearQueuedPackets, [.relay .sessionEnded]) :=
          ⟨quiet.profile, quiet.filed, quiet.passes⟩
        exact Carries.andThen (cleared.from rfl) fun next filed => setStatus_carries filed rfl _
      · split
        · exact setStatus_carries filed rfl .disconnected
        · rename_i unasked
          have all := clearing current inUse (Or.inr (Or.inr (Bool.eq_false_iff.mpr unasked)))
          have cleared : Carries lossy state [] (state.clearQueuedPackets, []) :=
            clearQueuedPackets_carries all
          exact cleared.andThen fun next filed => scheduleReconnect_carries _ filed

theorem onMessage_carries (self : WebSocketConnection) (filed : self.Laned)
    (socket : Socket) (data : MessageData) :
    Carries lossy self [] (self.onMessage socket data) := by
  cases data with
  | other => exact .of_same filed rfl rfl
  | arrayBuffer bytes =>
      simp only [onMessage]
      split
      · exact .of_same filed rfl rfl
      · split
        · split
          · exact .of_same filed rfl rfl
          · exact .of_same filed rfl rfl
        · split
          · exact .of_same filed rfl rfl
          · exact .of_same filed rfl rfl

theorem onReconnectTimer_carries (self : WebSocketConnection) (filed : self.Laned)
    (timer : Nat) (failure : Option String) :
    Carries lossy self [] (self.onReconnectTimer timer failure) := by
  simp only [onReconnectTimer]
  split
  · exact .of_same filed rfl rfl
  · exact (openConnection_carries { self with timers := self.timers.erase timer } filed true
      failure).from rfl

/-- A packet that is taken joins its lane, and what had to make room for it was on a lossy one. -/
theorem enqueue_passes {scheduler : PacketScheduler} (lasting : Lasting lossy scheduler.profile)
    (filed : Filed QueuedPacket.lane scheduler.packets) (packet : QueuedPacket) :
    (scheduler.enqueue packet).1.profile = scheduler.profile ∧
      Filed QueuedPacket.lane (scheduler.enqueue packet).1.packets ∧
      Passes QueuedPacket.lane lossy scheduler.packets
        (if (scheduler.enqueue packet).2.ok then [packet] else []) []
        (scheduler.enqueue packet).1.packets := by
  have shed (dropped : Nat)
      (drops : 0 < dropped → (scheduler.profile.lanes packet.lane).dropPolicy = .dropOldest) :
      Passes QueuedPacket.lane lossy scheduler.packets [] []
        (scheduler.shed packet.lane dropped).packets := by
    apply Passes.of_suffix
    · intro lane
      rw [shed_packets]
      split
      · rename_i same
        rw [same]
        exact List.drop_suffix _ _
      · exact List.suffix_rfl
    · intro lane kept
      rw [shed_packets]
      split
      · rename_i same
        have none : dropped = 0 := by
          by_contra some
          have policy := drops (Nat.pos_of_ne_zero some)
          rw [lasting packet.lane (same ▸ kept)] at policy
          cases policy
        rw [none, same, List.drop_zero]
      · rfl
  have fewer (dropped : Nat) :
      Filed QueuedPacket.lane (scheduler.shed packet.lane dropped).packets := by
    intro lane other member
    rw [shed_packets] at member
    split at member
    · rename_i same
      exact same ▸ filed packet.lane other (List.mem_of_mem_drop member)
    · exact filed lane other member
  have ended := enqueue_cases scheduler packet
  generalize scheduler.enqueue packet = result at ended ⊢
  cases ended with
  | oversized => exact ⟨rfl, filed, .refl⟩
  | accepted dropped fits bound drops room =>
      have pushed : ((scheduler.shed packet.lane dropped).push packet).packets =
          Function.update (scheduler.shed packet.lane dropped).packets packet.lane
            ((scheduler.shed packet.lane dropped).packets packet.lane ++ [packet]) := by
        rw [shed_push_update]
        funext lane
        rw [Function.update_apply, Function.update_apply, shed_packets, if_pos rfl, shed_packets]
        split <;> rfl
      refine ⟨by simp, ?_, ?_⟩
      · rw [pushed]
        apply (fewer dropped).update
        intro other member
        rcases List.mem_append.mp member with older | new
        · exact fewer dropped _ other older
        · rw [List.mem_singleton.mp new]
      · rw [pushed]
        exact (shed dropped drops).trans (.join packet)
  | full dropped fits bound keeps drops overflow =>
      refine ⟨by simp, fewer dropped, shed dropped fun some => ?_⟩
      by_contra other
      rw [keeps other] at some
      exact absurd some (lt_irrefl 0)

theorem send_carries (self : WebSocketConnection) (voice : lossy .voice)
    (lasting : Lasting lossy self.scheduler.profile) (filed : self.Laned) (env : Envelope)
    (buffered : Buffered) :
    Carries lossy self (self.accepts (self.send env buffered).2 (.send env buffered))
      (self.send env buffered) := by
  simp only [accepts, send]
  cases packEnvelope env self.profile with
  | error reason =>
      simp only
      split
      · exact .of_same filed rfl rfl
      · exact .of_same filed rfl rfl
  | ok bytes =>
      simp only
      split
      · exact .of_same filed rfl rfl
      · obtain ⟨profile, after, passes⟩ := enqueue_passes lasting filed ⟨env.lane, bytes⟩
        split
        · rename_i ok
          rw [if_pos ok] at passes
          let stored := { self with scheduler := (self.scheduler.enqueue ⟨env.lane, bytes⟩).1 }
          have queued : Carries lossy self [⟨env.lane, bytes⟩] (stored, []) :=
            ⟨profile, after, [], rfl, passes⟩
          have answers (state : WebSocketConnection) (filed : state.Laned) :
              Carries lossy state [] (state, [.answered true]) := .of_same filed rfl rfl
          have drained := (queued.andThen fun state filed =>
            drain_carries state voice buffered filed).andThen answers
          have said : Output.answered true ∈
              (andThen (stored.drain buffered) fun self => (self, [.answered true])).2 := by
            simp [WebSocketConnection.andThen]
          rw [if_pos said]
          exact drained
        · rename_i refused
          rw [if_neg refused] at passes
          have silent : ¬ Output.answered true ∈ [Output.answered false] := by decide
          rw [if_neg silent]
          exact ⟨profile, after, [], rfl, passes⟩

end Events

section Runs

/-- What an event does to the lanes. A new profile leaves the packets where they are. -/
theorem step_carries {event : Event} (lasting : Lasting (· = .voice) self.scheduler.profile)
    (filed : self.Laned) (shipped : Shipped self (.event event)) (other : event ≠ .endSession)
    (stepped : self.step event = some turn) :
    ∃ before : WebSocketConnection, before.scheduler.packets = self.scheduler.packets ∧
      Lasting (· = .voice) before.scheduler.profile ∧
      Carries (fun lane => lane = .voice ∨ self.clears event = true) before
        (self.accepts turn.2 event) turn := by
  have voice : LaneName.voice = .voice ∨ self.clears event = true := Or.inl rfl
  cases event with
  | setProfile profile buffered =>
      obtain ⟨id, rfl⟩ := shipped
      let before := { self with
        profile := transportLimits id
        scheduler := self.scheduler.setProfile (transportLimits id) }
      have same : before.scheduler.packets = self.scheduler.packets :=
        funext (self.scheduler.setProfile_packets (transportLimits id))
      have laned : before.Laned := by
        unfold Laned
        rw [same]
        exact filed
      refine ⟨before, same, (transportLimits_tiered id).lasting, ?_⟩
      obtain rfl := Option.some.inj stepped
      exact drain_carries before voice buffered laned
  | endSession => exact absurd rfl other
  | connect code slotToken failure =>
      refine ⟨self, rfl, lasting, ?_⟩
      obtain rfl := Option.some.inj stepped
      exact Carries.from (openConnection_carries { self with
        code := code
        slotToken := slotToken
        intentionalClose := false
        reconnectAttempts := 0 } filed false failure) rfl
  | disconnect forgetSlot =>
      refine ⟨self, rfl, lasting, ?_⟩
      obtain rfl := Option.some.inj stepped
      exact disconnect_carries (fun _ => Or.inr rfl) forgetSlot
  | clearQueuedPackets =>
      refine ⟨self, rfl, lasting, ?_⟩
      obtain rfl := Option.some.inj stepped
      exact clearQueuedPackets_carries fun _ => Or.inr rfl
  | send env buffered =>
      refine ⟨self, rfl, lasting, ?_⟩
      obtain rfl := Option.some.inj stepped
      exact send_carries self voice (fun lane kept => lasting lane fun same => kept (Or.inl same))
        filed env buffered
  | opened id buffered =>
      obtain ⟨socket, known, ran⟩ := Option.map_eq_some_iff.mp stepped
      refine ⟨self, rfl, lasting, ?_⟩
      subst ran
      exact Carries.from (onOpen_carries (self.modifySocket id fun socket =>
        if socket.readyState = .connecting then { socket with readyState := .open } else socket)
        voice filed id socket buffered) rfl
  | errored id =>
      obtain ⟨socket, known, ran⟩ := Option.map_eq_some_iff.mp stepped
      refine ⟨self, rfl, lasting, ?_⟩
      subst ran
      exact onError_carries self filed id socket
  | closed id code reason =>
      obtain ⟨socket, known, ran⟩ := Option.map_eq_some_iff.mp stepped
      refine ⟨self, rfl, lasting, ?_⟩
      subst ran
      refine Carries.from (onClose_carries (self.modifySocket id fun socket =>
        { socket with readyState := .closed }) filed id socket code reason ?_) rfl
      intro current opened ends lane
      refine Or.inr ?_
      have epoch : self.epoch = socket.currentEpoch := current
      have asked : code = sessionEndedCode ∨ reason = sessionEndedReason ∨
        self.intentionalClose = false := ends
      simpa [clears, known, epoch, opened, or_assoc] using asked
  | message id data =>
      obtain ⟨socket, known, ran⟩ := Option.map_eq_some_iff.mp stepped
      refine ⟨self, rfl, lasting, ?_⟩
      subst ran
      exact onMessage_carries self filed socket data
  | reconnectTimer timer failure =>
      simp only [step] at stepped
      split at stepped
      · refine ⟨self, rfl, lasting, ?_⟩
        obtain rfl := Option.some.inj stepped
        exact onReconnectTimer_carries self filed timer failure
      · cases stepped
  | caught =>
      simp only [step] at stepped
      split at stepped
      · refine ⟨self, rfl, lasting, ?_⟩
        obtain rfl := Option.some.inj stepped
        exact Carries.from (scheduleReconnect_carries
          { self with rejections := self.rejections - 1 } filed) rfl
      · cases stepped
  | drainTimer buffered =>
      simp only [step] at stepped
      split at stepped
      · refine ⟨self, rfl, lasting, ?_⟩
        obtain rfl := Option.some.inj stepped
        exact Carries.from (drain_carries self.clearDrainTimer voice buffered filed) rfl
      · cases stepped
  | yielded buffered =>
      simp only [step] at stepped
      split at stepped
      · refine ⟨self, rfl, lasting, ?_⟩
        obtain rfl := Option.some.inj stepped
        exact Carries.from (drainLoop_carries { self with yields := self.yields - 1 } voice buffered
          _ filed) rfl
      · cases stepped

theorem acceptances_append (history later : List Mark) :
    acceptances (history ++ later) = acceptances history ++ acceptances later :=
  List.filterMap_append ..

theorem writes_append (history later : List Mark) :
    writes (history ++ later) = writes history ++ writes later :=
  List.filterMap_append ..

theorem acceptances_marks (outputs : List Output) (event : Event) :
    acceptances (self.marks outputs (.event event)) = self.accepts outputs event := by
  simp only [marks, acceptances, List.filterMap_append, List.filterMap_map]
  split <;> simp

theorem writes_marks (outputs : List Output) (event : Event) :
    writes (self.marks outputs (.event event)) = drains outputs event := by
  simp only [marks, writes, List.filterMap_append, List.filterMap_map]
  split <;> simp

theorem cleared_marks (outputs : List Output) (event : Event) :
    .cleared ∈ self.marks outputs (.event event) ↔ self.clears event = true := by
  simp [marks]

/-- What the wire has shown since `start`. -/
structure Conveyed (start state : WebSocketConnection) (history : List Mark) : Prop where
  lasting : Lasting (· = .voice) state.scheduler.profile
  filed : state.Laned
  passes : ∃ written : List QueuedPacket, written.map QueuedPacket.bytes = writes history ∧
    Passes QueuedPacket.lane (fun lane => lane = .voice ∨ .cleared ∈ history)
      start.scheduler.packets (acceptances history) written state.scheduler.packets

theorem Conveyed.same {start after : WebSocketConnection} {history : List Mark}
    (conveyed : Conveyed start self history) (same : after.scheduler = self.scheduler) :
    Conveyed start after history := by
  refine ⟨same ▸ conveyed.lasting, Laned.of_same conveyed.filed same, ?_⟩
  rw [same]
  exact conveyed.passes

theorem Conveyed.occur {start : WebSocketConnection} {history : List Mark}
    {occurrence : Occurrence} (conveyed : Conveyed start self history)
    (shipped : Shipped self occurrence) (stepped : self.occur occurrence = some turn) :
    Conveyed start turn.1 (history ++ self.marks turn.2 occurrence) := by
  cases occurrence with
  | closing id =>
      obtain ⟨socket, known, ran⟩ := Option.map_eq_some_iff.mp stepped
      subst ran
      rw [marks, List.append_nil]
      exact conveyed.same rfl
  | event event =>
      by_cases ends : event = .endSession
      · -- The command leaves the lanes alone, and nothing is marked.
        subst ends
        obtain rfl := Option.some.inj stepped
        have silent : self.marks self.endSession.2 (.event .endSession) = [] := rfl
        rw [silent, List.append_nil]
        refine conveyed.same ?_
        simp only [endSession]
        split <;> simp
      · obtain ⟨before, packets, lasting, carries⟩ :=
          step_carries conveyed.lasting conveyed.filed shipped ends stepped
        obtain ⟨written, sent, passes⟩ := conveyed.passes
        obtain ⟨left, more, later⟩ := carries.passes
        refine ⟨carries.profile ▸ lasting, carries.filed, written ++ left, ?_, ?_⟩
        · have shown : drains turn.2 event = sentBytes turn.2 := by
            cases event <;> first | rfl | exact absurd rfl ends
          rw [List.map_append, sent, more, writes_append, writes_marks, shown]
        · rw [acceptances_append, acceptances_marks]
          rw [packets] at later
          refine (passes.mono ?_).trans (later.mono ?_)
          · exact fun lane => Or.imp_right (List.mem_append_left _)
          · intro lane
            apply Or.imp_right
            exact fun clears => List.mem_append_right _ ((cleared_marks _ _).mpr clears)

theorem run_conveyed {start finish : WebSocketConnection} {history : List Mark}
    (begins : Conveyed start start []) (run : wire.Run Shipped start finish history) :
    Conveyed start finish history := by
  apply run.invariant (Conveyed start) begins
  intro before past occurrence after marks conveyed shipped stepped
  obtain ⟨turn, occurred, shown⟩ := Option.map_eq_some_iff.mp stepped
  cases shown
  exact conveyed.occur shipped occurred

/-- From any state the connection can be in: what it writes are packets it held or has accepted,
every lane in its order and each packet at most once. Unless the queues are cleared, a lane other
than voice has written all of them but those that still wait. -/
theorem wire_keeps_order {id : TransportProfileId} {middle finish : WebSocketConnection}
    {past history : List Mark}
    (earlier : wire.Run Shipped (create (transportLimits id)) middle past)
    (run : wire.Run Shipped middle finish history) :
    ∃ written : List QueuedPacket, written.map QueuedPacket.bytes = writes history ∧
      (∀ lane, (onLane QueuedPacket.lane lane written ++ finish.scheduler.packets lane).Sublist
        (middle.scheduler.packets lane ++ onLane QueuedPacket.lane lane (acceptances history))) ∧
      (.cleared ∉ history → ∀ lane, lane ≠ .voice →
        onLane QueuedPacket.lane lane written ++ finish.scheduler.packets lane =
          middle.scheduler.packets lane ++
            onLane QueuedPacket.lane lane (acceptances history)) := by
  have reached : Conveyed (create (transportLimits id)) middle past := by
    refine run_conveyed ⟨(transportLimits_tiered id).lasting, ?_, [], rfl, .refl⟩ earlier
    intro lane packet member
    cases lane <;> cases member
  have conveyed : Conveyed middle finish history :=
    run_conveyed ⟨reached.lasting, reached.filed, [], rfl, .refl⟩ run
  obtain ⟨written, sent, passes⟩ := conveyed.passes
  refine ⟨written, sent, passes.order, fun kept lane other => passes.whole lane ?_⟩
  exact fun lost => lost.elim other kept

/-- A text packet leaves at once and two more wait; the browser lags, and of two voice packets
none is taken. Then the loop goes on, first with the control packet that came last. -/
def sampleTraffic : List Occurrence :=
  let packet (lane : LaneName) (payload : Bytes) : Envelope :=
    { protocolVersion := 2, outerType := .data, flags := 0, streamId := 2, sequence := 0,
      counter := 0, nonce := List.replicate 12 0, payload := payload, lane := lane }
  [.event (.send (packet .text [1]) ⟨0, 0⟩), .event (.send (packet .text [2]) ⟨0, 0⟩),
    .event (.send (packet .voice [3]) ⟨0, 0⟩), .event (.send (packet .control [4]) ⟨0, 0⟩),
    .event (.yielded ⟨70000, 70000⟩), .event (.yielded ⟨70000, 70000⟩)]

def sampleSocket : List Occurrence :=
  [.event (.connect "code" "token" none), .event (.opened 0 ⟨0, 0⟩)]

theorem sample_traffic_in_order :
    ∃ (finish : WebSocketConnection) (history : List Mark) (written : List QueuedPacket),
      written.map QueuedPacket.bytes = writes history ∧
      (writes history).map List.getLast? = [some 1, some 4, some 2] ∧
      onLane QueuedPacket.lane .text written ++ finish.scheduler.packets .text =
        onLane QueuedPacket.lane .text (acceptances history) := by
  have ran : ((wire.execute (create (transportLimits .balanced)) sampleSocket).bind fun opened =>
      (wire.execute opened.1 sampleTraffic).map fun result => (opened.1.scheduler.packets .text,
        decide (Mark.cleared ∉ result.2), (writes result.2).map List.getLast?)) =
          some ([], true, [some 1, some 4, some 2]) := by
    decide +kernel
  obtain ⟨⟨middle, past⟩, opening, rest⟩ := Option.bind_eq_some_iff.mp ran
  obtain ⟨⟨finish, history⟩, executed, reached⟩ := Option.map_eq_some_iff.mp rest
  simp only [Prod.mk.injEq, decide_eq_true_eq] at reached
  obtain ⟨empty, kept, lasts⟩ := reached
  have opens : ∀ occurrence ∈ sampleSocket, ∀ state, Shipped state occurrence := by
    simp [sampleSocket, Shipped]
  have sends : ∀ occurrence ∈ sampleTraffic, ∀ state, Shipped state occurrence := by
    simp [sampleTraffic, Shipped]
  have earlier := Machine.execute_run _ (Machine.along_of_forall _ _ opens) opening
  have run := Machine.execute_run _ (Machine.along_of_forall _ _ sends) executed
  obtain ⟨written, sent, _, whole⟩ := wire_keeps_order earlier run
  refine ⟨finish, history, written, sent, lasts, ?_⟩
  have text := whole kept .text (by decide)
  rwa [empty, List.nil_append] at text

end Runs

end WebSocketConnection

end OnlyTwo.Transport
