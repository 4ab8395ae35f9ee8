import OnlyTwo.WebSocketConnection

/-!
Where the packets of the scheduler come from and go to. Every lane is a queue:
packets leave at its head, a packet that is sent joins at its end, and nothing else
happens to it. So what a lane holds is always the end of what was queued on it.
-/

namespace OnlyTwo.Transport

open Bytes AppMessages

namespace PacketScheduler

variable {scheduler before middle after : PacketScheduler}

def packets (scheduler : PacketScheduler) (lane : LaneName) : List QueuedPacket :=
  (scheduler.queues lane).packets

/-- Some packets have left the heads of the lanes. -/
def Drained (before after : PacketScheduler) : Prop :=
  ∀ lane, after.packets lane <:+ before.packets lane

theorem Drained.refl (scheduler : PacketScheduler) : Drained scheduler scheduler :=
  fun _ => List.suffix_rfl

theorem Drained.trans (first : Drained before middle) (second : Drained middle after) :
    Drained before after :=
  fun lane => (second lane).trans (first lane)

@[simp] theorem queues_setQueue (queue : LaneQueue) (lane other : LaneName) :
    (scheduler.setQueue queue lane).queues other =
      if other = lane then queue else scheduler.queues other := by
  cases lane <;> cases other <;> rfl

theorem packets_setQueue (queue : LaneQueue) (lane other : LaneName) :
    (scheduler.setQueue queue lane).packets other =
      if other = lane then queue.packets else scheduler.packets other := by
  simp only [packets, queues_setQueue]
  split <;> rfl

theorem shift_packets (lane other : LaneName) (removed : QueuedPacket) (rest : List QueuedPacket) :
    (scheduler.shift lane removed rest).packets other =
      if other = lane then rest else scheduler.packets other :=
  packets_setQueue _ lane other

theorem push_packets (packet : QueuedPacket) (lane : LaneName) :
    (scheduler.push packet).packets lane =
      scheduler.packets lane ++ if lane = packet.lane then [packet] else [] := by
  unfold push
  rw [packets_setQueue]
  split
  · rename_i same
    rw [same]
    rfl
  · exact (List.append_nil _).symm

theorem shift_drained {lane : LaneName} {removed : QueuedPacket} {rest : List QueuedPacket}
    (held : scheduler.packets lane = removed :: rest) :
    Drained scheduler (scheduler.shift lane removed rest) := by
  intro other
  rw [shift_packets]
  split
  · rename_i same
    rw [same, held]
    exact List.suffix_cons removed rest
  · exact List.suffix_rfl

theorem clearLane_packets (lane other : LaneName) :
    (scheduler.clearLane lane).packets other =
      if other = lane then [] else scheduler.packets other :=
  packets_setQueue _ lane other

@[simp] theorem clear_packets (lane : LaneName) : scheduler.clear.packets lane = [] := by
  simp only [clear, laneNames, List.foldl_cons, List.foldl_nil, clearLane_packets]
  cases lane <;> simp

theorem clear_drained : Drained scheduler scheduler.clear := by
  intro lane
  rw [clear_packets]
  exact List.nil_suffix

theorem next_drained {packet : QueuedPacket} (served : scheduler.next = some (packet, after)) :
    Drained scheduler after := by
  unfold next at served
  split at served
  · cases served
  · split at served
    · cases served
    · rename_i lane _ head rest held
      cases served
      exact shift_drained held

theorem push_suffix (packet : QueuedPacket) (lane : LaneName) :
    (scheduler.push packet).packets lane <:+
      scheduler.packets lane ++ if true = true ∧ lane = packet.lane then [packet] else [] := by
  rw [push_packets]
  simp

/-- The loop of `enqueue` over the packets of the lane. -/
theorem makeRoom_packets {packet : QueuedPacket} (dropped : Nat) (left : List QueuedPacket)
    (held : scheduler.packets packet.lane = left) (lane : LaneName) :
    (scheduler.makeRoom packet dropped left).1.packets lane <:+
      scheduler.packets lane ++
        if (scheduler.makeRoom packet dropped left).2.ok = true ∧ lane = packet.lane then [packet]
        else [] := by
  induction left generalizing scheduler dropped with
  | nil =>
      simp only [makeRoom]
      split
      · simp
      · exact push_suffix packet lane
  | cons removed rest ih =>
      simp only [makeRoom]
      split
      · split
        · have remaining : (scheduler.shift packet.lane removed rest).packets packet.lane = rest := by
            rw [shift_packets, if_pos rfl]
          obtain ⟨gone, same⟩ := shift_drained held lane
          refine (ih (dropped + 1) remaining).trans ⟨gone, ?_⟩
          rw [← List.append_assoc, same]
        · simp
      · exact push_suffix packet lane

theorem enqueue_packets (packet : QueuedPacket) (lane : LaneName) :
    (scheduler.enqueue packet).1.packets lane <:+
      scheduler.packets lane ++
        if (scheduler.enqueue packet).2.ok = true ∧ lane = packet.lane then [packet] else [] := by
  unfold enqueue
  split
  · simp
  · exact makeRoom_packets 0 _ rfl lane

end PacketScheduler

namespace WebSocketConnection

open PacketScheduler

variable {self : WebSocketConnection}

/-- A turn after which the lanes hold no packet they did not hold before. -/
def Drains (self : WebSocketConnection) (turn : Turn) : Prop :=
  Drained self.scheduler turn.1.scheduler

theorem Drains.of_same {turn : Turn} (same : turn.1.scheduler = self.scheduler) :
    self.Drains turn := by
  unfold Drains
  rw [same]
  exact Drained.refl _

theorem Drains.andThen {turn : Turn} {next : WebSocketConnection → Turn} (first : self.Drains turn)
    (second : ∀ state : WebSocketConnection, state.Drains (next state)) :
    self.Drains (andThen turn next) :=
  Drained.trans first (second turn.1)

section Parts
variable (self) (buffered : Buffered)

@[simp] theorem setStatus_scheduler (status : Session.ConnectionStatus) :
    (self.setStatus status).1.scheduler = self.scheduler := by
  unfold setStatus
  split <;> rfl

@[simp] theorem closeSocket_scheduler : self.closeSocket.scheduler = self.scheduler := by
  unfold closeSocket
  split <;> rfl

@[simp] theorem clearReconnectTimer_scheduler :
    self.clearReconnectTimer.scheduler = self.scheduler := by
  unfold clearReconnectTimer
  split <;> rfl

@[simp] theorem forgetSlotToken_scheduler : self.forgetSlotToken.scheduler = self.scheduler := by
  unfold forgetSlotToken
  split <;> rfl

@[simp] theorem clearQueuedPackets_packets (lane : LaneName) :
    self.clearQueuedPackets.scheduler.packets lane = [] :=
  clear_packets lane

theorem resolveOnce_drains (id : Nat) (socket : Socket) :
    self.Drains (self.resolveOnce id socket) := by
  apply Drains.of_same
  unfold resolveOnce
  split <;> rfl

theorem rejectOnce_drains (id : Nat) (socket : Socket) (reason : String) :
    self.Drains (self.rejectOnce id socket reason) := by
  apply Drains.of_same
  unfold rejectOnce
  split
  · rfl
  · split <;> rfl

theorem openConnection_drains (reconnecting : Bool) (failure : Option String) :
    self.Drains (self.openConnection reconnecting failure) := by
  apply Drains.of_same
  simp only [openConnection, andThen]
  cases failure with
  | none => simp
  | some reason =>
      simp only
      split <;> simp

theorem scheduleReconnect_drains : self.Drains self.scheduleReconnect := by
  apply Drains.of_same
  unfold scheduleReconnect
  split
  · rfl
  · split
    · simp
    · simp [andThen]

/-- The drain loop only takes packets out. -/
theorem drainLoop_drains (turns : Nat) : self.Drains (self.drainLoop buffered turns) := by
  induction turns generalizing self with
  | zero => exact Drained.refl _
  | succ turns ih =>
      simp only [drainLoop]
      split
      · exact Drained.refl _
      · split
        · exact Drained.refl _
        · split
          · exact Drained.refl _
          · rename_i packet scheduler served
            have taken : Drained self.scheduler scheduler := next_drained served
            split
            · exact Drained.trans taken (ih _)
            · split
              · exact taken
              · exact taken

theorem drain_drains : self.Drains (self.drain buffered) := by
  unfold drain
  split
  · exact Drained.refl _
  · exact drainLoop_drains { self.clearDrainTimer with draining := true } buffered _

theorem onOpen_drains (id : Nat) (socket : Socket) :
    self.Drains (self.onOpen id socket buffered) := by
  unfold onOpen
  split
  · exact Drained.refl _
  · have opened : ∀ state : WebSocketConnection, state.Drains (state.setStatus .connected) :=
      fun state => Drains.of_same (state.setStatus_scheduler .connected)
    exact ((opened _).andThen fun state => state.drain_drains buffered).andThen
      fun state => state.resolveOnce_drains id socket

theorem onError_drains (id : Nat) (socket : Socket) : self.Drains (self.onError id socket) := by
  unfold onError
  split
  · exact self.rejectOnce_drains id socket _
  · exact Drained.refl _

theorem onClose_drains (id : Nat) (socket : Socket) (code : Nat) (reason : String) :
    self.Drains (self.onClose id socket code reason) := by
  unfold onClose
  split
  · exact Drained.refl _
  · simp only
    have dropped : (if self.ws = some id then { self with ws := none } else self).scheduler =
        self.scheduler := by
      split <;> rfl
    generalize (if self.ws = some id then { self with ws := none } else self) = state at dropped ⊢
    unfold Drains
    rw [← dropped]
    split
    · exact state.rejectOnce_drains id socket _
    · split
      · have cleared : state.Drains ({ state with intentionalClose := true }.clearQueuedPackets,
            [.relay .sessionEnded]) := clear_drained
        exact cleared.andThen fun next => Drains.of_same (next.setStatus_scheduler .disconnected)
      · split
        · exact Drains.of_same (state.setStatus_scheduler .disconnected)
        · exact Drained.trans clear_drained state.clearQueuedPackets.scheduleReconnect_drains

theorem onMessage_drains (socket : Socket) (data : MessageData) :
    self.Drains (self.onMessage socket data) := by
  apply Drains.of_same
  unfold onMessage
  split
  · rfl
  · split
    · rfl
    · split
      · simp only
        split <;> rfl
      · split <;> rfl

theorem setProfile_drains (profile : TransportLimits) :
    self.Drains (self.setProfile profile buffered) :=
  drain_drains { self with
    profile := profile
    scheduler := self.scheduler.setProfile profile } buffered

theorem endSession_drains : self.Drains self.endSession := by
  apply Drains.of_same
  simp only [endSession]
  split <;> simp

theorem connect_drains (code slotToken : String) (failure : Option String) :
    self.Drains (self.connect code slotToken failure) :=
  openConnection_drains { self with
    code := code
    slotToken := slotToken
    intentionalClose := false
    reconnectAttempts := 0 } false failure

theorem onReconnectTimer_drains (timer : Nat) (failure : Option String) :
    self.Drains (self.onReconnectTimer timer failure) := by
  simp only [onReconnectTimer]
  split
  · exact Drained.refl _
  · exact openConnection_drains { self with timers := self.timers.erase timer } true failure

/-- `disconnect` leaves no packet behind. -/
theorem disconnect_packets (forgetSlot : Bool) (lane : LaneName) :
    (self.disconnect forgetSlot).1.scheduler.packets lane = [] := by
  simp only [disconnect, setStatus_scheduler]
  split <;> simp

/-- What `send` adds to a lane: the packed envelope, if it answers so. -/
theorem send_packets (env : Envelope) (lane : LaneName) :
    (self.send env buffered).1.scheduler.packets lane <:+
      self.scheduler.packets lane ++
        match packEnvelope env self.profile with
        | .ok bytes =>
            if .answered true ∈ (self.send env buffered).2 ∧ lane = env.lane then [⟨env.lane, bytes⟩]
            else []
        | .error _ => [] := by
  unfold send
  cases packEnvelope env self.profile with
  | error reason =>
      simp only
      split <;> simp
  | ok bytes =>
      simp only
      split
      · simp
      · have queued := self.scheduler.enqueue_packets ⟨env.lane, bytes⟩ lane
        split
        · rename_i ok
          -- The drain runs at once and may take the new packet with it.
          have drained := drain_drains { self with
            scheduler := (self.scheduler.enqueue ⟨env.lane, bytes⟩).1 } buffered lane
          have added := drained.trans queued
          simpa [andThen, ok] using added
        · rename_i refused
          simp only [refused, Bool.false_eq_true, false_and, if_false, List.append_nil] at queued
          simpa using queued

end Parts

/-- Packets join by `send` alone. -/
theorem step_drains {event : Event} {after : WebSocketConnection} {outputs : List Output}
    (other : ∀ env buffered, event ≠ .send env buffered)
    (stepped : self.step event = some (after, outputs)) :
    Drained self.scheduler after.scheduler := by
  cases event with
  | connect code slotToken failure =>
      have drains := self.connect_drains code slotToken failure
      rw [Drains, Option.some.inj stepped] at drains
      exact drains
  | disconnect forgetSlot =>
      have cleared := self.disconnect_packets forgetSlot
      rw [Option.some.inj stepped] at cleared
      intro lane
      rw [cleared lane]
      exact List.nil_suffix
  | clearQueuedPackets =>
      rw [← (Prod.mk.inj (Option.some.inj stepped)).1]
      exact clear_drained
  | endSession =>
      have drains := self.endSession_drains
      rw [Drains, Option.some.inj stepped] at drains
      exact drains
  -- A new profile may shed packets, and the drain goes on under it.
  | setProfile profile buffered =>
      have drains := self.setProfile_drains buffered profile
      rw [Drains, Option.some.inj stepped] at drains
      exact drains
  | send env buffered => exact absurd rfl (other env buffered)
  | opened id buffered =>
      obtain ⟨socket, known, ran⟩ := Option.map_eq_some_iff.mp stepped
      have drains := onOpen_drains (self.modifySocket id fun socket =>
        if socket.readyState = .connecting then { socket with readyState := .open } else socket)
        buffered id socket
      rw [Drains, ran] at drains
      exact drains
  | errored id =>
      obtain ⟨socket, known, ran⟩ := Option.map_eq_some_iff.mp stepped
      have drains := self.onError_drains id socket
      rw [Drains, ran] at drains
      exact drains
  | closed id code reason =>
      obtain ⟨socket, known, ran⟩ := Option.map_eq_some_iff.mp stepped
      have drains := onClose_drains
        (self.modifySocket id fun socket => { socket with readyState := .closed }) id socket code
        reason
      rw [Drains, ran] at drains
      exact drains
  | message id data =>
      obtain ⟨socket, known, ran⟩ := Option.map_eq_some_iff.mp stepped
      have drains := self.onMessage_drains socket data
      rw [Drains, ran] at drains
      exact drains
  | reconnectTimer timer failure =>
      simp only [step] at stepped
      split at stepped
      · have drains := self.onReconnectTimer_drains timer failure
        rw [Drains, Option.some.inj stepped] at drains
        exact drains
      · cases stepped
  | caught =>
      simp only [step] at stepped
      split at stepped
      · have drains := scheduleReconnect_drains { self with rejections := self.rejections - 1 }
        rw [Drains, Option.some.inj stepped] at drains
        exact drains
      · cases stepped
  | drainTimer buffered =>
      simp only [step] at stepped
      split at stepped
      · have drains := drain_drains self.clearDrainTimer buffered
        rw [Drains, Option.some.inj stepped] at drains
        exact drains
      · cases stepped
  | yielded buffered =>
      simp only [step] at stepped
      split at stepped
      · have drains := drainLoop_drains { self with yields := self.yields - 1 } buffered
          (self.queuedCount + 1)
        rw [resumeDrain, Option.some.injEq] at stepped
        rw [Drains, stepped] at drains
        exact drains
      · cases stepped

end WebSocketConnection

end OnlyTwo.Transport
