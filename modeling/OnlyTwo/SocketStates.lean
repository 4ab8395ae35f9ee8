import OnlyTwo.TransportSilence

/-!
The sockets a connection has made. Only the one in use may be connecting or open:
`open` and `disconnect` close the old socket before they let go of it, and the
handler of `close` lets go of a socket that is closed. So a connection that was told
to disconnect has no socket left that could open or have a message, and all it may
still report is the end of the session.
-/

namespace OnlyTwo.Transport

/-- `close` was called, or the socket is closed. -/
def Socket.ended (socket : Socket) : Bool :=
  socket.readyState = .closing ∨ socket.readyState = .closed

theorem Socket.ended_close (socket : Socket) : socket.close.ended = true := by
  unfold Socket.close
  split
  · rename_i closed
    simp [ended, closed]
  · simp [ended]

namespace WebSocketConnection

variable {self after : WebSocketConnection}

/-- Every socket but the one in use has ended. -/
def Orderly (self : WebSocketConnection) : Prop :=
  ∀ id socket, self.sockets[id]? = some socket → self.ws ≠ some id → socket.ended = true

/-- A turn that leaves the sockets alone. -/
structure Untouched (before : WebSocketConnection) (turn : Turn) : Prop where
  ws : turn.1.ws = before.ws
  sockets : turn.1.sockets = before.sockets

section Parts
variable (self) (buffered : Buffered)

theorem setStatus_untouched (status : Session.ConnectionStatus) :
    self.Untouched (self.setStatus status) := by
  unfold setStatus
  split <;> exact ⟨rfl, rfl⟩

theorem scheduleReconnect_untouched : self.Untouched self.scheduleReconnect := by
  unfold scheduleReconnect
  split
  · exact ⟨rfl, rfl⟩
  · split
    · exact self.setStatus_untouched .failed
    · have told := setStatus_untouched
        { self with reconnectAttempts := self.reconnectAttempts + 1 } .reconnecting
      exact ⟨told.ws, told.sockets⟩

theorem drainLoop_untouched (turns : Nat) : self.Untouched (self.drainLoop buffered turns) := by
  induction turns generalizing self with
  | zero => exact ⟨rfl, rfl⟩
  | succ turns ih =>
      simp only [drainLoop]
      split
      · exact ⟨rfl, rfl⟩
      · split
        · exact ⟨rfl, rfl⟩
        · split
          · exact ⟨rfl, rfl⟩
          · rename_i packet scheduler served
            split
            · have rest := ih { self with scheduler := scheduler }
              exact ⟨rest.ws, rest.sockets⟩
            · split <;> exact ⟨rfl, rfl⟩

theorem drain_untouched : self.Untouched (self.drain buffered) := by
  unfold drain
  split
  · exact ⟨rfl, rfl⟩
  · have drained := drainLoop_untouched { self.clearDrainTimer with draining := true } buffered
      (self.queuedCount + 1)
    exact ⟨drained.ws, drained.sockets⟩

theorem setProfile_untouched (profile : TransportLimits) :
    self.Untouched (self.setProfile profile buffered) := by
  have drained := drain_untouched { self with
    profile := profile
    scheduler := self.scheduler.setProfile profile } buffered
  exact ⟨drained.ws, drained.sockets⟩

theorem forgetSlotToken_untouched : self.Untouched (self.forgetSlotToken, []) := by
  unfold forgetSlotToken
  split <;> exact ⟨rfl, rfl⟩

theorem endSession_untouched : self.Untouched self.endSession := by
  have forgotten := self.forgetSlotToken_untouched
  simp only [endSession]
  split <;> exact ⟨forgotten.ws, forgotten.sockets⟩

theorem send_untouched (env : Envelope) : self.Untouched (self.send env buffered) := by
  unfold send
  split
  · exact ⟨rfl, rfl⟩
  · split
    · exact ⟨rfl, rfl⟩
    · rename_i bytes _
      simp only
      split
      · have drained := drain_untouched { self with
          scheduler := (self.scheduler.enqueue ⟨env.lane, bytes⟩).1 } buffered
        exact ⟨drained.ws, drained.sockets⟩
      · exact ⟨rfl, rfl⟩

theorem onMessage_untouched (socket : Socket) (data : MessageData) :
    self.Untouched (self.onMessage socket data) := by
  unfold onMessage
  split
  · exact ⟨rfl, rfl⟩
  · split
    · exact ⟨rfl, rfl⟩
    · split
      · split <;> exact ⟨rfl, rfl⟩
      · split <;> exact ⟨rfl, rfl⟩

end Parts

section Orderly
variable {buffered : Buffered} {event : Event} {outputs : List Output}

theorem Orderly.of_same (orderly : self.Orderly) (ws : after.ws = self.ws)
    (sockets : after.sockets = self.sockets) : after.Orderly := by
  intro id socket known spare
  rw [sockets] at known
  rw [ws] at spare
  exact orderly id socket known spare

theorem Orderly.untouched {turn : Turn} (orderly : self.Orderly) (same : self.Untouched turn) :
    turn.1.Orderly :=
  orderly.of_same same.ws same.sockets

theorem Orderly.modifySocket (orderly : self.Orderly) (id : Nat) {change : Socket → Socket}
    (keeps : ∀ socket, socket.ended = true → (change socket).ended = true) :
    (self.modifySocket id change).Orderly := by
  intro other socket known spare
  simp only [WebSocketConnection.modifySocket, List.getElem?_modify] at known
  obtain ⟨old, found, changed⟩ := Option.map_eq_some_iff.mp known
  have ended := orderly other old found spare
  rw [← changed]
  split
  · exact keeps old ended
  · exact ended

/-- The socket that a connection lets go of has ended. -/
theorem Orderly.drop (orderly : self.Orderly) {id : Nat}
    (ended : ∀ socket, self.sockets[id]? = some socket → socket.ended = true) :
    Orderly (if self.ws = some id then { self with ws := none } else self) := by
  split
  · rename_i used
    intro other socket known _
    by_cases same : id = other
    · subst same
      exact ended socket known
    · exact orderly other socket known (by simp [used, same])
  · exact orderly

theorem Orderly.closeSocket (orderly : self.Orderly) : self.closeSocket.Orderly := by
  unfold WebSocketConnection.closeSocket
  split
  · exact orderly
  · rename_i old used
    intro id socket known _
    simp only [WebSocketConnection.modifySocket, List.getElem?_modify] at known
    obtain ⟨before, found, changed⟩ := Option.map_eq_some_iff.mp known
    rw [← changed]
    split
    · exact before.ended_close
    · rename_i other
      exact orderly id before found (by simpa [used] using other)

theorem closeSocket_ws (self : WebSocketConnection) : self.closeSocket.ws = none := by
  unfold closeSocket
  split
  · assumption
  · rfl

theorem Orderly.openConnection (orderly : self.Orderly) (reconnecting : Bool)
    (failure : Option String) : (self.openConnection reconnecting failure).1.Orderly := by
  have counted : ({ self with epoch := self.epoch + 1 } : WebSocketConnection).Orderly :=
    orderly.of_same rfl rfl
  have closed := counted.closeSocket
  have free := closeSocket_ws { self with epoch := self.epoch + 1 }
  simp only [WebSocketConnection.openConnection, andThen]
  generalize ({ self with epoch := self.epoch + 1 } : WebSocketConnection).closeSocket = state
    at closed free ⊢
  have told := state.setStatus_untouched (if reconnecting then .reconnecting else .connecting)
  have quiet := closed.untouched told
  have dropped := told.ws.trans free
  generalize (state.setStatus (if reconnecting then .reconnecting else .connecting)).1 = next
    at quiet dropped ⊢
  cases failure with
  | none =>
      intro id socket known spare
      rcases Nat.lt_or_ge id next.sockets.length with old | new
      · rw [List.getElem?_append_left old] at known
        exact quiet id socket known (by simp [dropped])
      · rw [List.getElem?_append_right new] at known
        have first : id - next.sockets.length = 0 := by
          simpa using (List.getElem?_eq_some_iff.mp known).1
        exact absurd (congrArg some (by omega)) spare
  | some reason =>
      cases reconnecting with
      | true => exact quiet.of_same rfl rfl
      | false => exact quiet

theorem Orderly.disconnect (orderly : self.Orderly) (forgetSlot : Bool) :
    (self.disconnect forgetSlot).1.Orderly := by
  have cleared : ({ self with intentionalClose := true } : WebSocketConnection
      ).clearReconnectTimer.clearQueuedPackets.Orderly := by
    unfold clearReconnectTimer
    split <;> exact orderly.of_same rfl rfl
  have closed := cleared.closeSocket
  unfold WebSocketConnection.disconnect
  refine Orderly.untouched ?_ (setStatus_untouched _ .disconnected)
  split
  · exact closed.untouched (forgetSlotToken_untouched _)
  · exact closed

theorem Orderly.resolveOnce (orderly : self.Orderly) (id : Nat) (socket : Socket) :
    (self.resolveOnce id socket).1.Orderly := by
  unfold WebSocketConnection.resolveOnce
  split
  · exact orderly
  · exact orderly.modifySocket id fun _ ended => ended

theorem Orderly.rejectOnce (orderly : self.Orderly) (id : Nat) (socket : Socket)
    (reason : String) : (self.rejectOnce id socket reason).1.Orderly := by
  have told : (self.modifySocket id fun socket => { socket with settled := true }).Orderly :=
    orderly.modifySocket id fun _ ended => ended
  unfold WebSocketConnection.rejectOnce
  split
  · exact orderly
  · split
    · exact told.of_same rfl rfl
    · exact told

theorem Orderly.onOpen (orderly : self.Orderly) (id : Nat) (socket : Socket) :
    (self.onOpen id socket buffered).1.Orderly := by
  unfold WebSocketConnection.onOpen
  split
  · exact orderly
  · have opened : (({ self with reconnectAttempts := 0 } : WebSocketConnection).modifySocket id
        fun socket => { socket with opened := true }).Orderly :=
      Orderly.modifySocket (orderly.of_same rfl rfl) id fun _ ended => ended
    have told := opened.untouched (setStatus_untouched _ .connected)
    exact (told.untouched (drain_untouched _ buffered)).resolveOnce id socket

theorem Orderly.onClose (orderly : self.Orderly) {id : Nat}
    (ended : ∀ socket, self.sockets[id]? = some socket → socket.ended = true) (socket : Socket)
    (code : Nat) (reason : String) : (self.onClose id socket code reason).1.Orderly := by
  have dropped := orderly.drop ended
  unfold WebSocketConnection.onClose
  split
  · exact orderly
  · simp only
    generalize (if self.ws = some id then { self with ws := none } else self) = state at dropped ⊢
    split
    · exact dropped.rejectOnce id socket _
    · split
      · have cleared : ({ state with intentionalClose := true } : WebSocketConnection
            ).clearQueuedPackets.Orderly := dropped.of_same rfl rfl
        have told := setStatus_untouched
          ({ state with intentionalClose := true } : WebSocketConnection).clearQueuedPackets
          .disconnected
        exact cleared.of_same told.ws told.sockets
      · split
        · exact dropped.untouched (state.setStatus_untouched .disconnected)
        · have cleared : state.clearQueuedPackets.Orderly := dropped.of_same rfl rfl
          exact cleared.untouched state.clearQueuedPackets.scheduleReconnect_untouched

theorem Orderly.step (orderly : self.Orderly) (stepped : self.step event = some (after, outputs)) :
    after.Orderly := by
  have turned : ∀ turn : Turn, some turn = some (after, outputs) → turn.1.Orderly → after.Orderly := by
    rintro turn same kept
    cases same
    exact kept
  cases event with
  | connect code slotToken failure =>
      have aimed : ({ self with
          code := code
          slotToken := slotToken
          intentionalClose := false
          reconnectAttempts := 0 } : WebSocketConnection).Orderly := orderly.of_same rfl rfl
      exact turned _ stepped (aimed.openConnection false failure)
  | disconnect forgetSlot => exact turned _ stepped (orderly.disconnect forgetSlot)
  | clearQueuedPackets => exact turned _ stepped (orderly.of_same rfl rfl)
  | endSession => exact turned _ stepped (orderly.untouched self.endSession_untouched)
  | setProfile profile buffered =>
      exact turned _ stepped (orderly.untouched (self.setProfile_untouched buffered profile))
  | send env buffered =>
      exact turned _ stepped (orderly.untouched (self.send_untouched buffered env))
  | opened id buffered =>
      obtain ⟨socket, _, ran⟩ := Option.map_eq_some_iff.mp stepped
      refine turned _ (congrArg some ran) (Orderly.onOpen (orderly.modifySocket id ?_) id socket)
      intro other ended
      split
      · rename_i connecting
        -- A socket that opens had not ended.
        simp [Socket.ended, connecting] at ended
      · exact ended
  | errored id =>
      obtain ⟨socket, _, ran⟩ := Option.map_eq_some_iff.mp stepped
      refine turned _ (congrArg some ran) ?_
      unfold onError
      split
      · exact orderly.rejectOnce id socket _
      · exact orderly
  | closed id code reason =>
      obtain ⟨socket, _, ran⟩ := Option.map_eq_some_iff.mp stepped
      refine turned _ (congrArg some ran) (Orderly.onClose (orderly.modifySocket id ?_) ?_ socket _ _)
      · -- The browser has closed it already; the handler only drops it.
        intro other _
        simp [Socket.ended]
      · intro other known
        simp only [WebSocketConnection.modifySocket, List.getElem?_modify] at known
        obtain ⟨_, _, changed⟩ := Option.map_eq_some_iff.mp known
        simp [← changed, Socket.ended]
  | message id data =>
      obtain ⟨socket, _, ran⟩ := Option.map_eq_some_iff.mp stepped
      exact turned _ (congrArg some ran) (orderly.untouched (self.onMessage_untouched socket data))
  | reconnectTimer timer failure =>
      simp only [WebSocketConnection.step] at stepped
      split at stepped
      · have fired : ({ self with timers := self.timers.erase timer } : WebSocketConnection
            ).Orderly := orderly.of_same rfl rfl
        refine turned _ stepped ?_
        simp only [onReconnectTimer]
        split
        · exact fired
        · exact fired.openConnection true failure
      · cases stepped
  | caught =>
      simp only [WebSocketConnection.step] at stepped
      split at stepped
      · have caught : ({ self with rejections := self.rejections - 1 } : WebSocketConnection
            ).Orderly := orderly.of_same rfl rfl
        exact turned _ stepped (caught.untouched (scheduleReconnect_untouched _))
      · cases stepped
  | drainTimer buffered =>
      simp only [WebSocketConnection.step] at stepped
      split at stepped
      · have fired : self.clearDrainTimer.Orderly := orderly.of_same rfl rfl
        exact turned _ stepped (fired.untouched (drain_untouched _ buffered))
      · cases stepped
  | yielded buffered =>
      simp only [WebSocketConnection.step] at stepped
      split at stepped
      · have resumed : ({ self with yields := self.yields - 1 } : WebSocketConnection).Orderly :=
          orderly.of_same rfl rfl
        exact turned _ stepped (resumed.untouched (drainLoop_untouched _ buffered _))
      · cases stepped

end Orderly

end WebSocketConnection

end OnlyTwo.Transport
