import OnlyTwo.WebSocketConnection

/-!
A connection that was told to disconnect. `disconnect` drops the socket and marks
the close as intended, which silences timers, failed attempts and the drain loop.
The handlers of the socket itself look at the epoch only, and `disconnect` does
not advance it, so the last socket may still be heard.
-/

namespace OnlyTwo.Transport

/-- What tells nobody anything, makes no socket and leaves the status alone. -/
def Output.quiet : Output → Bool
  | .status _ | .relay _ | .envelope _ | .created _ => false
  | .sent .. | .answered _ | .resolved | .rejected _ => true

def Event.connects : Event → Bool
  | .connect .. => true
  | _ => false

namespace WebSocketConnection

/-- What `disconnect` leaves behind. -/
structure Down (connection : WebSocketConnection) : Prop where
  intended : connection.intentionalClose = true
  dropped : connection.ws = none
  offline : connection.status = .disconnected

/-- The socket was made by the last call of `open`. -/
def current (self : WebSocketConnection) (id : Nat) : Bool :=
  match self.sockets[id]? with
  | none => false
  | some socket => self.epoch == socket.currentEpoch

/-- The socket had opened. -/
def wasOpened (self : WebSocketConnection) (id : Nat) : Bool :=
  match self.sockets[id]? with
  | none => false
  | some socket => socket.opened

/-- Some handler is called for these bytes. -/
def understands (self : WebSocketConnection) : MessageData → Bool
  | .other => false
  | .arrayBuffer bytes =>
      (decodeRelayEvent bytes).isSome ||
        match unpackEnvelope bytes self.profile with
        | .ok _ => true
        | .error _ => false

/-- The late events of the last socket: it opens, it has a message, or the relay
closes it for good after it had opened. -/
def disturbs (self : WebSocketConnection) : Event → Bool
  | .opened id _ => self.current id
  | .closed id code reason =>
      self.current id && self.wasOpened id &&
        (code == sessionEndedCode || reason == sessionEndedReason)
  | .message id data => self.current id && self.understands data
  | _ => false

/-- No new `connect`, and nothing more of the last socket than its quiet events. -/
def Undisturbed (self : WebSocketConnection) (event : Event) : Prop :=
  event.connects = false ∧ self.disturbs event = false

instance decidableUndisturbed (self : WebSocketConnection) (event : Event) :
    Decidable (self.Undisturbed event) :=
  inferInstanceAs (Decidable (_ ∧ _))

section Down
variable {self after : WebSocketConnection} {event : Event} {outputs : List Output}
  {buffered : Buffered}

/-- A turn of a connection that is down and stays so without a sound. -/
def Silent (turn : Turn) : Prop := turn.1.Down ∧ ∀ output ∈ turn.2, output.quiet = true

theorem Down.silent (down : self.Down) {notes : List Output}
    (quiet : ∀ output ∈ notes, output.quiet = true) : Silent (self, notes) := ⟨down, quiet⟩

theorem Down.still (down : self.Down) : Silent (self, []) :=
  down.silent fun _ member => by cases member

theorem Down.of_same (down : self.Down) (intended : after.intentionalClose = self.intentionalClose)
    (dropped : after.ws = self.ws) (offline : after.status = self.status) : after.Down :=
  ⟨intended.trans down.intended, dropped.trans down.dropped, offline.trans down.offline⟩

theorem Down.openSocket (down : self.Down) : self.openSocket = none := by
  simp [WebSocketConnection.openSocket, down.dropped]

theorem Down.drainLoop (down : self.Down) (turns : Nat) :
    self.drainLoop buffered turns = (self.stopDraining, []) := by
  cases turns with
  | zero => rfl
  | succ turns => simp [WebSocketConnection.drainLoop, down.openSocket]

theorem Down.drain (down : self.Down) : self.drain buffered = (self, []) := by
  simp [WebSocketConnection.drain, down.openSocket]

theorem Down.scheduleReconnect (down : self.Down) : self.scheduleReconnect = (self, []) := by
  simp [WebSocketConnection.scheduleReconnect, down.intended]

theorem Down.setStatus (down : self.Down) : self.setStatus .disconnected = (self, []) := by
  simp [WebSocketConnection.setStatus, down.offline]

theorem Down.modifySocket (down : self.Down) (id : Nat) (change : Socket → Socket) :
    (self.modifySocket id change).Down :=
  down.of_same rfl rfl rfl

theorem Down.clearQueuedPackets (down : self.Down) : self.clearQueuedPackets.Down :=
  down.of_same rfl rfl rfl

theorem Down.forgetSlotToken (down : self.Down) : self.forgetSlotToken.Down := by
  unfold WebSocketConnection.forgetSlotToken
  split
  · exact down
  · exact down.of_same rfl rfl rfl

theorem Down.rejectOnce (down : self.Down) (id : Nat) (socket : Socket) (reason : String) :
    Silent (self.rejectOnce id socket reason) := by
  unfold WebSocketConnection.rejectOnce
  split
  · exact down.still
  · split
    · exact Down.still (down.of_same rfl rfl rfl)
    · apply Down.silent (down.modifySocket id _)
      simp [Output.quiet]

/-- Whatever the state was, `disconnect` brings it down. -/
theorem disconnect_down (self : WebSocketConnection) (forgetSlot : Bool) :
    (self.disconnect forgetSlot).1.Down := by
  have cleared : ∀ state : WebSocketConnection,
      state.clearReconnectTimer.intentionalClose = state.intentionalClose := by
    intro state
    unfold clearReconnectTimer
    split <;> rfl
  have closed : ∀ state : WebSocketConnection, state.closeSocket.ws = none ∧
      state.closeSocket.intentionalClose = state.intentionalClose := by
    intro state
    unfold closeSocket
    split
    · rename_i absent
      exact ⟨absent, rfl⟩
    · exact ⟨rfl, rfl⟩
  have forgotten : ∀ state : WebSocketConnection, state.forgetSlotToken.ws = state.ws ∧
      state.forgetSlotToken.intentionalClose = state.intentionalClose := by
    intro state
    unfold WebSocketConnection.forgetSlotToken
    split <;> exact ⟨rfl, rfl⟩
  have told : ∀ state : WebSocketConnection, state.intentionalClose = true → state.ws = none →
      (state.setStatus .disconnected).1.Down := by
    intro state intended dropped
    unfold WebSocketConnection.setStatus
    split
    · rename_i offline
      exact ⟨intended, dropped, offline⟩
    · exact ⟨intended, dropped, rfl⟩
  unfold disconnect
  apply told
  · split
    · rw [(forgotten _).2, (closed _).2]
      exact cleared _
    · rw [(closed _).2]
      exact cleared _
  · split
    · rw [(forgotten _).1, (closed _).1]
    · exact (closed _).1

theorem Down.disconnect (down : self.Down) (forgetSlot : Bool) :
    Silent (self.disconnect forgetSlot) := by
  refine ⟨disconnect_down self forgetSlot, ?_⟩
  have offline : ∀ state : WebSocketConnection, state.status = .disconnected →
      (state.setStatus .disconnected).2 = [] := by
    intro state same
    simp [WebSocketConnection.setStatus, same]
  unfold WebSocketConnection.disconnect
  rw [offline]
  · intro output member
    cases member
  · have kept : ∀ state : WebSocketConnection, state.status = .disconnected →
        state.clearReconnectTimer.clearQueuedPackets.closeSocket.status = .disconnected := by
      intro state same
      unfold clearReconnectTimer closeSocket
      split <;> split <;> exact same
    split
    · unfold WebSocketConnection.forgetSlotToken
      split <;> exact kept _ down.offline
    · exact kept _ down.offline

theorem Down.endSession (down : self.Down) : Silent self.endSession := by
  simp only [WebSocketConnection.endSession, down.forgetSlotToken.openSocket]
  apply Down.silent down.forgetSlotToken
  simp [Output.quiet]

theorem Down.send (down : self.Down) (env : Envelope) : Silent (self.send env buffered) := by
  have refused : ∀ state : WebSocketConnection, state.Down → ∀ ok : Bool,
      Silent (state, [.answered ok]) := by
    intro state same ok
    apply same.silent
    simp [Output.quiet]
  unfold WebSocketConnection.send
  split
  · exact refused self down false
  · split
    · exact refused self down false
    · rename_i bytes _
      have stored : ({ self with
          scheduler := (self.scheduler.enqueue ⟨env.lane, bytes⟩).1 } : WebSocketConnection).Down :=
        down.of_same rfl rfl rfl
      simp only
      split
      · simp only [stored.drain, andThen]
        exact refused _ stored true
      · exact refused _ stored false

theorem Down.onOpen (down : self.Down) {id : Nat} {socket : Socket}
    (stale : self.epoch ≠ socket.currentEpoch) : Silent (self.onOpen id socket buffered) := by
  rw [WebSocketConnection.onOpen, if_pos stale]
  exact down.still

theorem Down.onError (down : self.Down) (id : Nat) (socket : Socket) :
    Silent (self.onError id socket) := by
  unfold WebSocketConnection.onError
  split
  · exact down.rejectOnce id socket _
  · exact down.still

theorem Down.onClose (down : self.Down) {id code : Nat} {socket : Socket} {reason : String}
    (harmless : self.epoch = socket.currentEpoch → socket.opened = true →
      ¬ (code = sessionEndedCode ∨ reason = sessionEndedReason)) :
    Silent (self.onClose id socket code reason) := by
  unfold WebSocketConnection.onClose
  split
  · exact down.still
  · rename_i latest
    have same : (if self.ws = some id then { self with ws := none } else self) = self := by
      simp [down.dropped]
    simp only [same]
    split
    · exact down.rejectOnce id socket _
    · rename_i opened
      rw [if_neg (harmless (not_not.mp latest) (by simpa using opened)), if_pos down.intended,
        down.setStatus]
      exact down.still

theorem Down.onMessage (down : self.Down) {socket : Socket} {data : MessageData}
    (harmless : self.epoch = socket.currentEpoch → self.understands data = false) :
    Silent (self.onMessage socket data) := by
  unfold WebSocketConnection.onMessage
  split
  · exact down.still
  · rename_i bytes
    split
    · exact down.still
    · rename_i latest
      have lost := harmless (not_not.mp latest)
      simp only [understands, Bool.or_eq_false_iff, Option.isSome_eq_false_iff,
        Option.isNone_iff_eq_none] at lost
      rw [lost.1]
      cases unpacked : unpackEnvelope bytes self.profile with
      | ok env =>
          rw [unpacked] at lost
          cases lost.2
      | error reason => exact down.still

/-- Nothing but the last socket is heard of. -/
theorem Down.step (down : self.Down) (undisturbed : self.Undisturbed event)
    (stepped : self.step event = some (after, outputs)) : Silent (after, outputs) := by
  obtain ⟨noConnect, harmless⟩ := undisturbed
  cases event with
  | connect code slotToken failure => cases noConnect
  | disconnect forgetSlot =>
      rw [← Option.some.inj stepped]
      exact down.disconnect forgetSlot
  | clearQueuedPackets =>
      rw [← Option.some.inj stepped]
      exact down.clearQueuedPackets.still
  | endSession =>
      rw [← Option.some.inj stepped]
      exact down.endSession
  | setProfile profile buffered =>
      rw [← Option.some.inj stepped]
      -- The socket is gone, so the drain that follows finds nothing to write to.
      have adopted : ({ self with
          profile := profile
          scheduler := self.scheduler.setProfile profile } : WebSocketConnection).Down :=
        down.of_same rfl rfl rfl
      simp only [setProfile, adopted.drain]
      exact adopted.still
  | send env buffered =>
      rw [← Option.some.inj stepped]
      exact down.send env
  | opened id buffered =>
      obtain ⟨socket, known, ran⟩ := Option.map_eq_some_iff.mp stepped
      simp only [disturbs, current, known, beq_eq_false_iff_ne] at harmless
      rw [← ran]
      exact Down.onOpen (down.modifySocket id _) harmless
  | errored id =>
      obtain ⟨socket, known, ran⟩ := Option.map_eq_some_iff.mp stepped
      rw [← ran]
      exact down.onError id socket
  | closed id code reason =>
      obtain ⟨socket, known, ran⟩ := Option.map_eq_some_iff.mp stepped
      rw [← ran]
      apply Down.onClose (down.modifySocket id _)
      intro latest opened ended
      have latest : self.epoch = socket.currentEpoch := latest
      simp [disturbs, current, wasOpened, known, latest, opened] at harmless
      rcases ended with code | reason
      · exact harmless.1 code
      · exact harmless.2 reason
  | message id data =>
      obtain ⟨socket, known, ran⟩ := Option.map_eq_some_iff.mp stepped
      rw [← ran]
      apply down.onMessage
      intro latest
      simpa [disturbs, current, known, latest] using harmless
  | reconnectTimer timer failure =>
      simp only [WebSocketConnection.step] at stepped
      split at stepped
      · rw [← Option.some.inj stepped]
        have fired : ({ self with timers := self.timers.erase timer } : WebSocketConnection).Down :=
          down.of_same rfl rfl rfl
        -- A timer that slipped through finds the close intended.
        rw [onReconnectTimer, if_pos fired.intended]
        exact fired.still
      · cases stepped
  | caught =>
      simp only [WebSocketConnection.step] at stepped
      split at stepped
      · rw [← Option.some.inj stepped]
        have caught : ({ self with rejections := self.rejections - 1 } : WebSocketConnection).Down :=
          down.of_same rfl rfl rfl
        simp only [caught.scheduleReconnect]
        exact caught.still
      · cases stepped
  | drainTimer buffered =>
      simp only [WebSocketConnection.step] at stepped
      split at stepped
      · rw [← Option.some.inj stepped]
        have fired : self.clearDrainTimer.Down := down.of_same rfl rfl rfl
        simp only [fired.drain]
        exact fired.still
      · cases stepped
  | yielded buffered =>
      simp only [WebSocketConnection.step] at stepped
      split at stepped
      · rw [← Option.some.inj stepped]
        have resumed : ({ self with yields := self.yields - 1 } : WebSocketConnection).Down :=
          down.of_same rfl rfl rfl
        simp only [resumeDrain, resumed.drainLoop]
        exact Down.still (down.of_same rfl rfl rfl)
      · cases stepped

theorem onOpen_loud {id : Nat} {socket : Socket} (offline : self.status = .disconnected)
    (latest : self.epoch = socket.currentEpoch) :
    .status .connected ∈ (self.onOpen id socket buffered).2 := by
  rw [onOpen, if_neg (not_not.mpr latest)]
  have online : ∀ state : WebSocketConnection, state.status = .disconnected →
      .status .connected ∈ (state.setStatus .connected).2 := by
    intro state offline
    simp [WebSocketConnection.setStatus, offline]
  exact List.mem_append_left _ (List.mem_append_left _ (online _ offline))

theorem onClose_loud {id code : Nat} {socket : Socket} {reason : String}
    (latest : self.epoch = socket.currentEpoch) (opened : socket.opened = true)
    (ended : code = sessionEndedCode ∨ reason = sessionEndedReason) :
    .relay .sessionEnded ∈ (self.onClose id socket code reason).2 := by
  rw [onClose, if_neg (not_not.mpr latest)]
  simp [opened, ended, andThen]

theorem onMessage_loud {socket : Socket} {data : MessageData}
    (latest : self.epoch = socket.currentEpoch) (read : self.understands data = true) :
    ∃ output ∈ (self.onMessage socket data).2, output.quiet = false := by
  cases data with
  | other => cases read
  | arrayBuffer bytes =>
      rw [onMessage, if_neg (not_not.mpr latest)]
      simp only [understands] at read
      cases relayed : decodeRelayEvent bytes with
      | some event => exact ⟨.relay event, by simp, rfl⟩
      | none =>
          cases unpacked : unpackEnvelope bytes self.profile with
          | ok env => exact ⟨.envelope env, by simp, rfl⟩
          | error reason => simp [relayed, unpacked] at read

/-- And it is heard whenever it has something to say. -/
theorem Down.disturbed (down : self.Down) (disturbs : self.disturbs event = true)
    (stepped : self.step event = some (after, outputs)) :
    ∃ output ∈ outputs, output.quiet = false := by
  cases event with
  | opened id buffered =>
      obtain ⟨socket, known, ran⟩ := Option.map_eq_some_iff.mp stepped
      simp only [WebSocketConnection.disturbs, current, known, beq_iff_eq] at disturbs
      obtain ⟨_, rfl⟩ := Prod.mk.inj ran
      exact ⟨_, onOpen_loud down.offline disturbs, rfl⟩
  | closed id code reason =>
      obtain ⟨socket, known, ran⟩ := Option.map_eq_some_iff.mp stepped
      simp only [WebSocketConnection.disturbs, current, wasOpened, known, Bool.and_eq_true,
        beq_iff_eq, Bool.or_eq_true] at disturbs
      obtain ⟨⟨latest, opened⟩, ended⟩ := disturbs
      obtain ⟨_, rfl⟩ := Prod.mk.inj ran
      exact ⟨_, onClose_loud latest opened ended, rfl⟩
  | message id data =>
      obtain ⟨socket, known, ran⟩ := Option.map_eq_some_iff.mp stepped
      simp only [WebSocketConnection.disturbs, current, known, Bool.and_eq_true,
        beq_iff_eq] at disturbs
      obtain ⟨latest, read⟩ := disturbs
      obtain ⟨_, rfl⟩ := Prod.mk.inj ran
      exact onMessage_loud latest read
  | _ => cases disturbs

end Down

end WebSocketConnection

section Runs
open WebSocketConnection

/-- After `disconnect`, until the next `connect`: in a run whose events are all
undisturbed nobody hears anything, no socket is made and the status stays. An
event of a socket or a timer is silent there exactly if it is undisturbed. -/
theorem disconnected_stays_silent (connection : WebSocketConnection) (forgetSlot : Bool)
    (after : WebSocketConnection) (history : List Output)
    (run : machine.Run Undisturbed (connection.disconnect forgetSlot).1 after history) :
    after.status = .disconnected ∧ (∀ output ∈ history, output.quiet = true) ∧
    ∀ event next outputs, event.connects = false → machine.step after event =
        some (next, outputs) →
      ((next.status = .disconnected ∧ ∀ output ∈ outputs, output.quiet = true) ↔
        after.disturbs event = false) := by
  have silent : after.Down ∧ ∀ output ∈ history, output.quiet = true := by
    apply run.invariant (fun state past => state.Down ∧ ∀ output ∈ past, output.quiet = true)
    · exact (disconnect_down connection forgetSlot).still
    · rintro before past event after outputs ⟨down, quiet⟩ undisturbed stepped
      obtain ⟨kept, hushed⟩ := down.step undisturbed stepped
      refine ⟨kept, ?_⟩
      intro output member
      rcases List.mem_append.mp member with old | new
      · exact quiet output old
      · exact hushed output new
  refine ⟨silent.1.offline, silent.2, ?_⟩
  intro event next outputs noConnect stepped
  constructor
  · rintro ⟨_, hushed⟩
    apply Bool.eq_false_iff.mpr
    intro disturbs
    obtain ⟨output, member, loud⟩ := silent.1.disturbed disturbs stepped
    rw [hushed output member] at loud
    cases loud
  · intro harmless
    obtain ⟨kept, hushed⟩ := silent.1.step ⟨noConnect, harmless⟩ stepped
    exact ⟨kept.offline, hushed⟩

end Runs

section Samples

/-- A connection that is up. -/
def sampleOnline : List Event :=
  [.connect "ROOM-0001" "aaaaaaaaaaaaaaaaaaaaaaaaaaaaaaaa" none, .opened 0 ⟨0, 0⟩]

end Samples

theorem sample_close_is_silent :
    ∃ online history after outputs,
      machine.execute (.create (transportLimits .balanced)) sampleOnline =
        some (online, history) ∧ online.status = .connected ∧
      machine.execute (online.disconnect false).1 [.closed 0 1005 "", .errored 0] =
        some (after, outputs) ∧
      after.status = .disconnected ∧ ∀ output ∈ outputs, output.quiet = true := by
  have reached : (machine.execute (.create (transportLimits .balanced)) sampleOnline).map
      (fun result => (result.1.status, (machine.execute (result.1.disconnect false).1
        [.closed 0 1005 "", .errored 0]).isSome, decide (machine.Along
          WebSocketConnection.Undisturbed (result.1.disconnect false).1
            [.closed 0 1005 "", .errored 0]))) = some (.connected, true, true) := by
    decide +kernel
  obtain ⟨⟨online, history⟩, ran, shown⟩ := Option.map_eq_some_iff.mp reached
  simp only [Prod.mk.injEq] at shown
  obtain ⟨connected, goes, along⟩ := shown
  obtain ⟨⟨after, outputs⟩, went⟩ := Option.isSome_iff_exists.mp goes
  have silent := disconnected_stays_silent online false after outputs
    (Machine.execute_run _ (of_decide_eq_true along) went)
  exact ⟨online, history, after, outputs, ran, connected, went, silent.1, silent.2.1⟩

/-- The relay has ended the room; its close arrives after the `disconnect`. -/
theorem late_close_is_heard :
    ∃ online history after outputs,
      machine.Run Machine.Unrestricted (.create (transportLimits .balanced)) online history ∧
      machine.step (online.disconnect false).1 (.closed 0 4000 "session ended") =
        some (after, outputs) ∧
      .relay .sessionEnded ∈ outputs := by
  have reached : (machine.execute (.create (transportLimits .balanced)) sampleOnline).map
      (fun result => (machine.step (result.1.disconnect false).1
        (.closed 0 4000 "session ended")).map fun turn =>
          decide (.relay .sessionEnded ∈ turn.2)) = some (some true) := by decide +kernel
  obtain ⟨⟨online, history⟩, ran, shown⟩ := Option.map_eq_some_iff.mp reached
  obtain ⟨⟨after, outputs⟩, went, heard⟩ := Option.map_eq_some_iff.mp shown
  exact ⟨online, history, after, outputs,
    Machine.execute_run sampleOnline (Machine.along_unrestricted _ _) ran, went,
    of_decide_eq_true heard⟩

end OnlyTwo.Transport
