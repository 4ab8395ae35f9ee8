import OnlyTwo.PacketLanes
import OnlyTwo.SocketStates

/-!
Queued packets are never stranded. One drain loop at a time holds the flag, and
between two turns it is the loop that waits in its yield (`single`); the socket in
use belongs to the last call of `open`, so its `open` event is heard (`current`).
Every end of the loop leaves no open socket, an empty scheduler, an armed timer or
a yield behind, and what empties the timer empties the scheduler too (`awake`). The
browser may begin to close a socket at any time without an event.
-/

namespace OnlyTwo.Transport

open Bytes AppMessages

namespace WebSocketConnection

open PacketScheduler

variable {self after : WebSocketConnection} {buffered : Buffered}

def idle (self : WebSocketConnection) : Prop :=
  ∀ lane, self.scheduler.packets lane = []

/-- Someone will look at the queued packets, or there is nothing to do. -/
def Awake (self : WebSocketConnection) : Prop :=
  self.openSocket = none ∨ self.idle ∨ self.draining = true ∨ self.drainTimer = true

structure Steady (connection : WebSocketConnection) : Prop where
  single : connection.yields = if connection.draining then 1 else 0
  current : ∀ id, connection.ws = some id →
    ∃ socket, connection.sockets[id]? = some socket ∧ socket.currentEpoch = connection.epoch

structure Lively (connection : WebSocketConnection) : Prop extends Steady connection where
  awake : connection.Awake

section Frames

/-- Neither the sockets nor anything of the drain loop has changed. -/
structure Still (before after : WebSocketConnection) : Prop where
  ws : after.ws = before.ws
  sockets : after.sockets = before.sockets
  epoch : after.epoch = before.epoch
  scheduler : after.scheduler = before.scheduler
  drainTimer : after.drainTimer = before.drainTimer
  draining : after.draining = before.draining
  yields : after.yields = before.yields

theorem openSocket_congr (ws : after.ws = self.ws) (sockets : after.sockets = self.sockets) :
    after.openSocket = self.openSocket := by
  simp only [openSocket, ws, sockets]

theorem Steady.still (steady : self.Steady) (still : Still self after) : after.Steady := by
  constructor
  · rw [still.yields, still.draining]
    exact steady.single
  · rw [still.ws, still.sockets, still.epoch]
    exact steady.current

theorem Lively.still (lively : self.Lively) (still : Still self after) : after.Lively := by
  refine ⟨lively.toSteady.still still, ?_⟩
  unfold Awake idle
  rw [openSocket_congr still.ws still.sockets, still.scheduler, still.draining, still.drainTimer]
  exact lively.awake

theorem setStatus_still (self : WebSocketConnection) (status : Session.ConnectionStatus) :
    Still self (self.setStatus status).1 := by
  unfold setStatus
  split <;> exact ⟨rfl, rfl, rfl, rfl, rfl, rfl, rfl⟩

theorem scheduleReconnect_still (self : WebSocketConnection) :
    Still self self.scheduleReconnect.1 := by
  unfold scheduleReconnect
  split
  · exact ⟨rfl, rfl, rfl, rfl, rfl, rfl, rfl⟩
  · split
    · exact self.setStatus_still .failed
    · have told := setStatus_still
        { self with reconnectAttempts := self.reconnectAttempts + 1 } .reconnecting
      exact ⟨told.ws, told.sockets, told.epoch, told.scheduler, told.drainTimer, told.draining,
        told.yields⟩

theorem forgetSlotToken_still (self : WebSocketConnection) : Still self self.forgetSlotToken := by
  unfold forgetSlotToken
  split <;> exact ⟨rfl, rfl, rfl, rfl, rfl, rfl, rfl⟩

theorem endSession_still (self : WebSocketConnection) : Still self self.endSession.1 := by
  simp only [endSession]
  split <;> exact self.forgetSlotToken_still

theorem onMessage_still (self : WebSocketConnection) (socket : Socket) (data : MessageData) :
    Still self (self.onMessage socket data).1 := by
  unfold onMessage
  split
  · exact ⟨rfl, rfl, rfl, rfl, rfl, rfl, rfl⟩
  · split
    · exact ⟨rfl, rfl, rfl, rfl, rfl, rfl, rfl⟩
    · split
      · simp only
        split <;> exact ⟨rfl, rfl, rfl, rfl, rfl, rfl, rfl⟩
      · split <;> exact ⟨rfl, rfl, rfl, rfl, rfl, rfl, rfl⟩

end Frames

section Sockets

/-- A change of a socket that opens none. -/
structure Shuts (change : Socket → Socket) : Prop where
  epoch : ∀ socket, (change socket).currentEpoch = socket.currentEpoch
  opens : ∀ socket, (change socket).readyState = .open → socket.readyState = .open

theorem Steady.modifySocket (steady : self.Steady) (id : Nat) (change : Socket → Socket)
    (keeps : ∀ socket, (change socket).currentEpoch = socket.currentEpoch) :
    (self.modifySocket id change).Steady := by
  constructor
  · exact steady.single
  · intro used inUse
    obtain ⟨socket, known, epoch⟩ := steady.current used inUse
    by_cases same : id = used
    · refine ⟨change socket, ?_, (keeps socket).trans epoch⟩
      simp [WebSocketConnection.modifySocket, known, same]
    · refine ⟨socket, ?_, epoch⟩
      simp [WebSocketConnection.modifySocket, known, same]

theorem openSocket_other {id : Nat} (change : Socket → Socket) (other : self.ws ≠ some id) :
    (self.modifySocket id change).openSocket = self.openSocket := by
  have ws : (self.modifySocket id change).ws = self.ws := rfl
  unfold openSocket
  rw [ws]
  cases inUse : self.ws with
  | none => rfl
  | some used =>
      have different : id ≠ used := fun same => other (same ▸ inUse)
      have kept : (self.modifySocket id change).sockets[used]? = self.sockets[used]? := by
        simp [WebSocketConnection.modifySocket, different]
      simp only [kept]

theorem openSocket_shuts (id : Nat) {change : Socket → Socket} (shuts : Shuts change)
    (closed : self.openSocket = none) : (self.modifySocket id change).openSocket = none := by
  unfold openSocket at closed ⊢
  simp only [WebSocketConnection.modifySocket, List.getElem?_modify]
  cases inUse : self.ws with
  | none => rfl
  | some used =>
      rw [inUse] at closed
      simp only at closed ⊢
      cases known : self.sockets[used]? with
      | none => rfl
      | some socket =>
          simp only [known] at closed ⊢
          have shut : socket.readyState ≠ .open := by
            intro opened
            simp [opened] at closed
          by_cases same : id = used
          · have kept : (change socket).readyState ≠ .open := fun opened =>
              shut (shuts.opens socket opened)
            simp [same, kept]
          · simp [same, shut]

theorem Lively.modifySocket (lively : self.Lively) (id : Nat) {change : Socket → Socket}
    (shuts : Shuts change) : (self.modifySocket id change).Lively := by
  refine ⟨lively.toSteady.modifySocket id change shuts.epoch, ?_⟩
  rcases lively.awake with none | awake
  · exact Or.inl (openSocket_shuts id shuts none)
  · exact Or.inr awake

theorem close_shuts : Shuts Socket.close := by
  constructor
  · intro socket
    unfold Socket.close
    split <;> rfl
  · intro socket
    unfold Socket.close
    split
    · exact fun opened => opened
    · exact fun opened => nomatch opened

theorem settle_shuts : Shuts fun socket => { socket with settled := true } :=
  ⟨fun _ => rfl, fun _ opened => opened⟩

/-- A connection without a socket in use. -/
theorem Steady.unused (single : after.yields = if after.draining then 1 else 0)
    (unused : after.ws = none) : after.Lively := by
  refine ⟨⟨single, ?_⟩, Or.inl ?_⟩
  · rw [unused]
    exact fun _ impossible => nomatch impossible
  · simp [openSocket, unused]

theorem Steady.clearQueuedPackets (steady : self.Steady) : self.clearQueuedPackets.Lively :=
  ⟨⟨steady.single, steady.current⟩, Or.inr (Or.inl self.clearQueuedPackets_packets)⟩

theorem Lively.resolveOnce (lively : self.Lively) (id : Nat) (socket : Socket) :
    (self.resolveOnce id socket).1.Lively := by
  unfold WebSocketConnection.resolveOnce
  split
  · exact lively
  · exact lively.modifySocket id settle_shuts

theorem Lively.rejectOnce (lively : self.Lively) (id : Nat) (socket : Socket) (reason : String) :
    (self.rejectOnce id socket reason).1.Lively := by
  have told := lively.modifySocket id settle_shuts
  unfold WebSocketConnection.rejectOnce
  split
  · exact lively
  · split
    · exact told.still ⟨rfl, rfl, rfl, rfl, rfl, rfl, rfl⟩
    · exact told

end Sockets

section Drains

theorem queuedCount_next {packet : QueuedPacket} {scheduler : PacketScheduler}
    (served : self.scheduler.next = some (packet, scheduler)) :
    { self with scheduler := scheduler }.queuedCount + 1 = self.queuedCount := by
  obtain ⟨lane, rest, _, held, rfl⟩ := next_shift served
  have length := congrArg List.length held
  cases lane <;>
    simp [queuedCount, laneNames, shift, setQueue, queues, packets] at length ⊢ <;> omega

/-- The loop holds the flag; with enough turns it ends with someone awake. -/
theorem drainLoop_lively (current : ∀ id, self.ws = some id →
      ∃ socket, self.sockets[id]? = some socket ∧ socket.currentEpoch = self.epoch)
    (draining : self.draining = true) (yields : self.yields = 0) (turns : Nat)
    (enough : self.queuedCount < turns) : (self.drainLoop buffered turns).1.Lively := by
  induction turns generalizing self with
  | zero => exact absurd enough (Nat.not_lt_zero _)
  | succ turns ih =>
      simp only [drainLoop]
      split
      · rename_i shut
        exact ⟨⟨yields, current⟩, Or.inl shut⟩
      · split
        · exact ⟨⟨yields, current⟩, Or.inr (Or.inr (Or.inr rfl))⟩
        · split
          · rename_i none
            exact ⟨⟨yields, current⟩, Or.inr (Or.inl (next_none.mp none))⟩
          · rename_i packet scheduler served
            have fewer := queuedCount_next served
            split
            · exact ih current draining yields (by omega)
            · split
              · exact ⟨⟨yields, current⟩, Or.inr (Or.inr (Or.inr rfl))⟩
              · refine ⟨⟨?_, current⟩, Or.inr (Or.inr (Or.inl draining))⟩
                simp [draining, yields]

/-- Whatever the packets and the timer were, `drain` leaves someone awake. -/
theorem Steady.drain (steady : self.Steady) (buffered : Buffered) :
    (self.drain buffered).1.Lively := by
  unfold WebSocketConnection.drain
  split
  · rename_i stopped
    rcases stopped with draining | shut
    · exact ⟨steady, Or.inr (Or.inr (Or.inl draining))⟩
    · exact ⟨steady, Or.inl shut⟩
  · rename_i free
    have single := steady.single
    rw [if_neg fun draining => free (Or.inl draining)] at single
    have current : ∀ id, { self.clearDrainTimer with draining := true }.ws = some id → _ :=
      steady.current
    exact drainLoop_lively current rfl single _ (Nat.lt_succ_self _)

theorem Steady.setProfile (steady : self.Steady) (profile : TransportLimits)
    (buffered : Buffered) : (self.setProfile profile buffered).1.Lively := by
  have set : { self with
      profile := profile
      scheduler := self.scheduler.setProfile profile }.Steady :=
    ⟨steady.single, steady.current⟩
  exact set.drain buffered

theorem Steady.resumeDrain (steady : self.Steady) (waiting : 0 < self.yields)
    (buffered : Buffered) : (self.resumeDrain buffered).1.Lively := by
  have single := steady.single
  have draining : self.draining = true := by
    by_contra free
    rw [if_neg free] at single
    omega
  rw [if_pos draining] at single
  have none : self.yields - 1 = 0 := by omega
  have current : ∀ id, { self with yields := self.yields - 1 }.ws = some id → _ := steady.current
  exact drainLoop_lively current draining none _ (Nat.lt_succ_self _)

/-- A refused packet leaves no packet in lanes that were empty. -/
theorem Lively.refused {packet : QueuedPacket} (lively : self.Lively)
    (refused : ¬ (self.scheduler.enqueue packet).2.ok = true) :
    { self with scheduler := (self.scheduler.enqueue packet).1 }.Lively := by
  refine ⟨⟨lively.single, lively.current⟩, ?_⟩
  rcases lively.awake with shut | idle | awake
  · exact Or.inl shut
  · refine Or.inr (Or.inl fun lane => ?_)
    have held := self.scheduler.enqueue_packets packet lane
    rw [idle lane, if_neg fun both => refused both.1, List.nil_append] at held
    exact List.suffix_nil.mp held
  · exact Or.inr (Or.inr awake)

theorem Lively.send (lively : self.Lively) (env : Envelope) (buffered : Buffered) :
    (self.send env buffered).1.Lively := by
  unfold WebSocketConnection.send
  split
  · exact lively
  · split
    · exact lively
    · rename_i bytes _
      simp only
      split
      · have stored : { self with
            scheduler := (self.scheduler.enqueue ⟨env.lane, bytes⟩).1 }.Steady :=
          ⟨lively.single, lively.current⟩
        exact stored.drain buffered
      · rename_i refused
        exact lively.refused refused

end Drains

section Events

theorem Lively.openConnection (lively : self.Lively) (reconnecting : Bool)
    (failure : Option String) : (self.openConnection reconnecting failure).1.Lively := by
  have single := lively.single
  simp only [WebSocketConnection.openConnection, andThen]
  generalize told : ({ self with epoch := self.epoch + 1 }.closeSocket.setStatus
    (if reconnecting = true then Session.ConnectionStatus.reconnecting else .connecting)).1 = state
  have still : Still { self with epoch := self.epoch + 1 }.closeSocket state :=
    told ▸ setStatus_still _ _
  have kept : state.yields = if state.draining then 1 else 0 := by
    rw [still.yields, still.draining]
    unfold closeSocket
    split <;> exact single
  cases failure with
  | some reason =>
      have unused : state.ws = none := by
        rw [still.ws]
        exact closeSocket_ws _
      simp only
      split <;> exact Steady.unused kept unused
  | none =>
      -- The new socket is still connecting.
      refine ⟨⟨kept, ?_⟩, Or.inl ?_⟩
      · intro id inUse
        cases inUse
        exact ⟨_, List.getElem?_concat_length, rfl⟩
      · simp [openSocket]

theorem Lively.connect (lively : self.Lively) (code slotToken : String)
    (failure : Option String) : (self.connect code slotToken failure).1.Lively := by
  have set : { self with
      code := code
      slotToken := slotToken
      intentionalClose := false
      reconnectAttempts := 0 }.Lively :=
    lively.still ⟨rfl, rfl, rfl, rfl, rfl, rfl, rfl⟩
  exact set.openConnection false failure

theorem Lively.disconnect (lively : self.Lively) (forgetSlot : Bool) :
    (self.disconnect forgetSlot).1.Lively := by
  have single := lively.single
  simp only [WebSocketConnection.disconnect]
  generalize named : ({ self with intentionalClose := true }.clearReconnectTimer.clearQueuedPackets
    ).closeSocket = closed
  have unused : closed.ws = none := named ▸ closeSocket_ws _
  have kept : closed.yields = if closed.draining then 1 else 0 := by
    rw [← named]
    unfold closeSocket clearReconnectTimer
    split <;> split <;> exact single
  have done : closed.Lively := Steady.unused kept unused
  cases forgetSlot with
  | false => exact done.still (setStatus_still _ _)
  | true => exact (done.still closed.forgetSlotToken_still).still (setStatus_still _ _)

theorem Lively.onReconnectTimer (lively : self.Lively) (timer : Nat) (failure : Option String) :
    (self.onReconnectTimer timer failure).1.Lively := by
  have fired : { self with timers := self.timers.erase timer }.Lively :=
    lively.still ⟨rfl, rfl, rfl, rfl, rfl, rfl, rfl⟩
  simp only [WebSocketConnection.onReconnectTimer]
  split
  · exact fired
  · exact fired.openConnection true failure

theorem Lively.onError (lively : self.Lively) (id : Nat) (socket : Socket) :
    (self.onError id socket).1.Lively := by
  unfold WebSocketConnection.onError
  split
  · exact lively.rejectOnce id socket _
  · exact lively

theorem Lively.onClose (lively : self.Lively) (id : Nat) (socket : Socket) (code : Nat)
    (reason : String) : (self.onClose id socket code reason).1.Lively := by
  unfold WebSocketConnection.onClose
  split
  · exact lively
  · have dropped : (if self.ws = some id then { self with ws := none } else self).Lively := by
      split
      · exact Steady.unused lively.single rfl
      · exact lively
    generalize (if self.ws = some id then { self with ws := none } else self) = state at dropped ⊢
    simp only
    split
    · exact dropped.rejectOnce id socket _
    · split
      · have intended : { state with intentionalClose := true }.Lively :=
          dropped.still ⟨rfl, rfl, rfl, rfl, rfl, rfl, rfl⟩
        exact intended.toSteady.clearQueuedPackets.still (setStatus_still _ _)
      · split
        · exact dropped.still (setStatus_still _ _)
        · exact dropped.toSteady.clearQueuedPackets.still (scheduleReconnect_still _)

theorem Steady.heard (steady : self.Steady) (id : Nat) (socket : Socket) (buffered : Buffered) :
    (andThen (andThen (({ self with reconnectAttempts := 0 }.modifySocket id fun socket =>
      { socket with opened := true }).setStatus .connected) fun self => self.drain buffered)
        fun self => self.resolveOnce id socket).1.Lively := by
  have counted : { self with reconnectAttempts := 0 }.Steady :=
    ⟨steady.single, steady.current⟩
  have opened := counted.modifySocket id (fun socket => { socket with opened := true })
    (fun _ => rfl)
  have told := opened.still (setStatus_still _ .connected)
  exact (told.drain buffered).resolveOnce id socket

/-- The `open` event of the socket in use starts a drain; that of another socket
changes nothing. -/
theorem Lively.opened (lively : self.Lively) {id : Nat} {socket : Socket}
    (known : self.sockets[id]? = some socket) (buffered : Buffered) :
    ((self.modifySocket id fun socket =>
      if socket.readyState = .connecting then { socket with readyState := .open }
      else socket).onOpen id socket buffered).1.Lively := by
  have steady := lively.toSteady.modifySocket id (fun socket =>
    if socket.readyState = .connecting then { socket with readyState := .open } else socket)
    (fun socket => by split <;> rfl)
  unfold onOpen
  split
  · rename_i stale
    have other : self.ws ≠ some id := by
      intro inUse
      obtain ⟨current, found, epoch⟩ := lively.current id inUse
      rw [known] at found
      cases found
      exact stale epoch.symm
    refine ⟨steady, ?_⟩
    unfold Awake
    rw [openSocket_other _ other]
    exact lively.awake
  · exact steady.heard id socket buffered

theorem Lively.step (lively : self.Lively) {event : Event} {outputs : List Output}
    (stepped : self.step event = some (after, outputs)) : after.Lively := by
  cases event with
  | connect code slotToken failure =>
      have kept := lively.connect code slotToken failure
      rw [Option.some.inj stepped] at kept
      exact kept
  | disconnect forgetSlot =>
      have kept := lively.disconnect forgetSlot
      rw [Option.some.inj stepped] at kept
      exact kept
  | clearQueuedPackets =>
      cases stepped
      exact lively.toSteady.clearQueuedPackets
  | endSession =>
      have kept := lively.still self.endSession_still
      rw [Option.some.inj stepped] at kept
      exact kept
  | setProfile profile buffered =>
      have kept := lively.toSteady.setProfile profile buffered
      rw [Option.some.inj stepped] at kept
      exact kept
  | send env buffered =>
      have kept := lively.send env buffered
      rw [Option.some.inj stepped] at kept
      exact kept
  | opened id buffered =>
      obtain ⟨socket, known, ran⟩ := Option.map_eq_some_iff.mp stepped
      have kept := lively.opened known buffered
      rw [ran] at kept
      exact kept
  | errored id =>
      obtain ⟨socket, known, ran⟩ := Option.map_eq_some_iff.mp stepped
      have kept := lively.onError id socket
      rw [ran] at kept
      exact kept
  | closed id code reason =>
      obtain ⟨socket, known, ran⟩ := Option.map_eq_some_iff.mp stepped
      -- Whatever the handler does, the socket has stopped being open.
      have shut : Shuts fun socket => { socket with readyState := .closed } :=
        ⟨fun _ => rfl, fun _ opened => nomatch opened⟩
      have kept := (lively.modifySocket id shut).onClose id socket code reason
      rw [ran] at kept
      exact kept
  | message id data =>
      obtain ⟨socket, known, ran⟩ := Option.map_eq_some_iff.mp stepped
      have kept := lively.still (self.onMessage_still socket data)
      rw [ran] at kept
      exact kept
  | reconnectTimer timer failure =>
      simp only [WebSocketConnection.step] at stepped
      split at stepped
      · have kept := lively.onReconnectTimer timer failure
        rw [Option.some.inj stepped] at kept
        exact kept
      · cases stepped
  | caught =>
      simp only [WebSocketConnection.step] at stepped
      split at stepped
      · have counted : { self with rejections := self.rejections - 1 }.Lively :=
          lively.still ⟨rfl, rfl, rfl, rfl, rfl, rfl, rfl⟩
        have kept := counted.still (scheduleReconnect_still _)
        rw [Option.some.inj stepped] at kept
        exact kept
      · cases stepped
  | drainTimer buffered =>
      simp only [WebSocketConnection.step] at stepped
      split at stepped
      · have cleared : self.clearDrainTimer.Steady := ⟨lively.single, lively.current⟩
        have kept := cleared.drain buffered
        rw [Option.some.inj stepped] at kept
        exact kept
      · cases stepped
  | yielded buffered =>
      simp only [WebSocketConnection.step] at stepped
      split at stepped
      · rename_i waiting
        have kept := lively.toSteady.resumeDrain waiting buffered
        rw [Option.some.inj stepped] at kept
        exact kept
      · cases stepped

end Events

section Runs

/-- An event of the connection, or the browser begins to close a socket, which is
seen in its `readyState` only. -/
inductive Occurrence where
  | event (event : Event)
  | closing (socket : Nat)
  deriving DecidableEq, Repr

def occur (self : WebSocketConnection) : Occurrence → Option Turn
  | .event event => self.step event
  | .closing id => (self.sockets[id]?).map fun _ => (self.modifySocket id Socket.close, [])

def browser : Machine WebSocketConnection Occurrence Output where
  step := occur

theorem Lively.occur (lively : self.Lively) {occurrence : Occurrence} {outputs : List Output}
    (stepped : self.occur occurrence = some (after, outputs)) : after.Lively := by
  cases occurrence with
  | event event => exact lively.step stepped
  | closing id =>
      obtain ⟨socket, known, ran⟩ := Option.map_eq_some_iff.mp stepped
      cases ran
      exact lively.modifySocket id close_shuts

theorem create_lively (profile : TransportLimits) : (create profile).Lively :=
  Steady.unused rfl rfl

/-- Between two turns, an open socket with queued packets has a drain loop in its
yield or an armed timer. -/
theorem no_stranded_packets (profile : TransportLimits) {connection : WebSocketConnection}
    {history : List Output}
    (run : browser.Run Machine.Unrestricted (create profile) connection history)
    (opened : connection.openSocket ≠ none)
    (queued : ∃ lane, connection.scheduler.packets lane ≠ []) :
    0 < connection.yields ∨ connection.drainTimer = true := by
  have lively : connection.Lively := by
    apply run.state_invariant Lively (create_lively profile)
    intro before event next outputs holds _ stepped
    exact holds.occur stepped
  rcases lively.awake with shut | idle | draining | armed
  · exact absurd shut opened
  · obtain ⟨lane, waits⟩ := queued
    exact absurd (idle lane) waits
  · have single := lively.single
    rw [if_pos draining] at single
    exact Or.inl (by omega)
  · exact Or.inr armed

/-- Two packets are sent on an open socket: the first leaves at once, and the loop
waits with the second queued. -/
def sampleBacklog : List Occurrence :=
  let packet : Envelope :=
    { protocolVersion := 2, outerType := .data, flags := 0, streamId := 2, sequence := 0,
      counter := 0, nonce := List.replicate 12 0, payload := [1, 2, 3], lane := .text }
  [.event (.connect "code" "token" none), .event (.opened 0 ⟨0, 0⟩), .event (.send packet ⟨0, 0⟩),
    .event (.send packet ⟨0, 0⟩)]

theorem sample_backlog_waits :
    ∃ connection history,
      browser.Run Machine.Unrestricted (create (transportLimits .balanced)) connection history ∧
      connection.scheduler.packets .text ≠ [] ∧
      (0 < connection.yields ∨ connection.drainTimer = true) := by
  have ran : (browser.execute (create (transportLimits .balanced)) sampleBacklog).any (fun result =>
      decide (result.1.openSocket ≠ none ∧ result.1.scheduler.packets .text ≠ [])) = true := by
    decide +kernel
  obtain ⟨⟨connection, history⟩, executed, holds⟩ := (Option.any_eq_true _ _).mp ran
  have run := Machine.execute_run _ (Machine.along_unrestricted _ _) executed
  obtain ⟨opened, queued⟩ := of_decide_eq_true holds
  exact ⟨connection, history, run, queued,
    no_stranded_packets _ run opened ⟨.text, queued⟩⟩

end Runs

end WebSocketConnection

end OnlyTwo.Transport
