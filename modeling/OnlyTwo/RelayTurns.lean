import OnlyTwo.Relay

/-!
Every way out of an operation. `Turn` has one constructor for each exit of `Hub.run`,
with what later proofs need of the way to it; what operations do to rooms, sockets and
goroutines is proved by cases over it and never unfolds an operation again.
-/

namespace OnlyTwo.Relay

namespace Hub

section Frames
variable (hub : Hub)

@[simp] theorem outcome_hub (next : List Op) (notes : List Note) :
    (hub.outcome next notes).hub = hub := rfl

@[simp] theorem outcome_notes (next : List Op) (notes : List Note) :
    (hub.outcome next notes).notes = notes := rfl

@[simp] theorem outcome_next (next : List Op) (notes : List Note) :
    (hub.outcome next notes).next = next := rfl

@[simp] theorem outcome_spawned (next : List Op) (notes : List Note) :
    (hub.outcome next notes).spawned = [] := rfl

@[simp] theorem withStore_store (store : Store) : (hub.withStore store).store = store := rfl

@[simp] theorem withStore_connections (store : Store) :
    (hub.withStore store).connections = hub.connections := rfl

@[simp] theorem withStore_connsByIp (store : Store) :
    (hub.withStore store).connsByIp = hub.connsByIp := rfl

@[simp] theorem withStore_config (store : Store) :
    (hub.withStore store).config = hub.config := rfl

@[simp] theorem withStore_changes (store : Store) :
    (hub.withStore store).changes = hub.changes := rfl

@[simp] theorem countChange_store : hub.countChange.store = hub.store := rfl

@[simp] theorem countChange_connections :
    hub.countChange.connections = hub.connections := rfl

@[simp] theorem countChange_config : hub.countChange.config = hub.config := rfl

@[simp] theorem countChange_changes : hub.countChange.changes = hub.changes + 1 := rfl

@[simp] theorem modifyConnection_store (id : Nat) (change : Connection → Connection) :
    (hub.modifyConnection id change).store = hub.store := rfl

@[simp] theorem modifyConnection_config (id : Nat) (change : Connection → Connection) :
    (hub.modifyConnection id change).config = hub.config := rfl

@[simp] theorem modifyConnection_connsByIp (id : Nat) (change : Connection → Connection) :
    (hub.modifyConnection id change).connsByIp = hub.connsByIp := rfl

@[simp] theorem modifyConnection_changes (id : Nat) (change : Connection → Connection) :
    (hub.modifyConnection id change).changes = hub.changes := rfl

@[simp] theorem modifyConnection_connections (id : Nat) (change : Connection → Connection) :
    (hub.modifyConnection id change).connections = hub.connections.modify id change := rfl

/-- The operations an operation turns into, in its own goroutine and in new ones. -/
def brought (outcome : Outcome) : List Op := outcome.next ++ outcome.spawned.flatten

@[simp] theorem brought_outcome (next : List Op) (notes : List Note) :
    brought (hub.outcome next notes) = next := by
  simp [brought]

/-- The test in `SendPriority` is one that `WriteMessage` makes again. -/
theorem sendPriority_eq (id : Nat) (kind : RelayKind) (answer : Answer) :
    hub.sendPriority id kind answer = hub.writeMessage id (.control kind) answer := by
  unfold sendPriority writeMessage
  split
  · rename_i closed
    simp [closed]
  · rfl

end Frames

/-- What an operation left of a room, put back into the store. -/
def withRoom (hub : Hub) (session : Nat) (room : Session) : Hub :=
  hub.withStore (hub.store.update session room)

/-- An operation, what the outside contributes to it, and what comes of it. -/
inductive Turn (hub : Hub) : Op → Answer → Outcome → Prop where
  | exhausted (profileId creatorIp : String) (answer : Answer) :
      Turn hub (.attempt profileId creatorIp 0) answer (hub.outcome [] [.refused .sessionExists])
  | undrawn (profileId creatorIp : String) (left : Nat) :
      Turn hub (.attempt profileId creatorIp (left + 1)) .failed (hub.outcome [] [])
  | drawn (profileId creatorIp : String) (left : Nat) (bytes : List UInt8) :
      Turn hub (.attempt profileId creatorIp (left + 1)) (.random bytes)
        (hub.outcome (hub.beginCreate (randomRoomCode bytes) profileId creatorIp left).1
          (hub.beginCreate (randomRoomCode bytes) profileId creatorIp left).2)
  | locked (pass : Pass) (answer : Answer) :
      Turn hub (.lock pass) answer
        ((hub.withStore { hub.store with locked := true }).outcome
          [.scan pass hub.store.sessions.keys []] [])
  | passed (pass : Pass) (remaining : List String) (closing : List Nat) (answer : Answer)
      (code : String) :
      Turn hub (.scan pass remaining closing) answer
        (hub.outcome [.scan pass (remaining.erase code) closing] [])
  | picked (pass : Pass) (remaining : List String) (closing : List Nat) (answer : Answer)
      (code : String) (session : Nat) : hub.store.isExpired session = true →
      Turn hub (.scan pass remaining closing) answer
        (hub.outcome [.drop code session,
          .scan pass (remaining.erase code) (closing ++ [session])] [])
  | swept (now : Time) (remaining : List String) (closing : List Nat) (answer : Answer) :
      Turn hub (.scan (.sweep now) remaining closing) answer
        ((hub.withStore { hub.store.concludeSweep now with locked := false }).outcome
          (closing.map Op.closeSession) [])
  | created (request : CreateRequest) (remaining : List String) (closing : List Nat)
      (answer : Answer) (after : Store) (session : Nat) :
      hub.store.concludeCreate request hub.config.maxSessionsPerIp = (after, .ok session) →
      Turn hub (.scan (.create request) remaining closing) answer
        ((hub.withStore { after with locked := false }).outcome (closing.map Op.closeSession)
          [.created session request.code request.profileId request.creatorIp request.now
            hub.store.clock])
  | rejected (request : CreateRequest) (remaining : List String) (closing : List Nat)
      (answer : Answer) (after : Store) (error : SessionError) :
      hub.store.concludeCreate request hub.config.maxSessionsPerIp = (after, .error error) →
      Turn hub (.scan (.create request) remaining closing) answer
        ((hub.withStore { after with locked := false }).outcome (closing.map Op.closeSession)
          [.refused error])
  | retried (request : CreateRequest) (remaining : List String) (closing : List Nat)
      (answer : Answer) (after : Store) (error : SessionError) :
      hub.store.concludeCreate request hub.config.maxSessionsPerIp = (after, .error error) →
      Turn hub (.scan (.create request) remaining closing) answer
        ((hub.withStore { after with locked := false }).outcome
          (closing.map Op.closeSession ++
            [.attempt request.profileId request.creatorIp request.retries]) [])
  | dropped (code : String) (session : Nat) (answer : Answer) :
      Turn hub (.drop code session) answer (hub.dropSession code session)
  | closed (session : Nat) (answer : Answer) (room : Session) :
      hub.store.heap[session]? = some room →
      Turn hub (.closeSession session) answer
        ((hub.withRoom session room.drainConnections.1).outcome
          (closeAll room.drainConnections.2) [.drained session room.drainConnections.2 false])
  | emptied (session : Nat) (answer : Answer) (room : Session) :
      hub.store.heap[session]? = some room →
      Turn hub (.drainConnections session) answer
        ((hub.withRoom session room.drainConnections.1).outcome
          (closeAll room.drainConnections.2) [.drained session room.drainConnections.2 false])
  | drained (session : Nat) (answer : Answer) (room : Session) :
      hub.store.heap[session]? = some room →
      Turn hub (.drain session) answer
        ((hub.withRoom session room.drainConnections.1).outcome
          (endAll session room.drainConnections.2) [.drained session room.drainConnections.2 true])
  | missed (purpose : Purpose) (code : String) (started : Time) (answer : Answer) :
      Turn hub (.lookup purpose code started) answer
        (hub.outcome (hub.unavailable purpose) [.missed code])
  | found (purpose : Purpose) (code : String) (started : Time) (answer : Answer)
      (session : Nat) : hub.store.sessions.get? code = some session →
      Turn hub (.lookup purpose code started) answer
        (hub.outcome [.check purpose code session] [.found session code started hub.store.clock])
  | expired (purpose : Purpose) (code : String) (session : Nat) (answer : Answer) :
      hub.store.isExpired session = true →
      Turn hub (.check purpose code session) answer
        (hub.outcome (.forget code session :: hub.unavailable purpose) [.missed code])
  | informed (code : String) (session : Nat) (answer : Answer) :
      Turn hub (.check .inform code session) answer (hub.outcome [] [.looked session code])
  | attaching (conn : Nat) (code : String) (session : Nat) (answer : Answer) :
      Turn hub (.check (.attach conn) code session) answer
        (hub.outcome [.join conn session] [.looked session code])
  | forgot (code : String) (session : Nat) (answer : Answer) :
      hub.store.removes code (some session) = true →
      Turn hub (.forget code session) answer
        { hub := hub.withStore (hub.store.drop code), next := [],
          spawned := [[.closeSession session]],
          notes := [.expired code session (hub.store.attached session)] }
  | superseded (code : String) (session : Nat) (answer : Answer) :
      Turn hub (.forget code session) answer
        { hub := hub, next := [], spawned := [[.closeSession session]], notes := [] }
  | removed (code : String) (expected : Option Nat) (answer : Answer) :
      Turn hub (.removeSession code expected) answer
        ((hub.withStore (hub.store.removeSession code expected)).outcome [] [])
  | unended (code : String) (session : Nat) (answer : Answer) :
      Turn hub (.endRegistry code session) answer (hub.outcome [] [])
  | buried (code : String) (session : Nat) (answer : Answer) (after : Store) :
      hub.store.endSession code session = some after →
      Turn hub (.endRegistry code session) answer
        ((hub.withStore after).outcome [] [.tombstoned code session hub.store.clock])
  | unadded (session : Nat) (endpoint : Endpoint) (answer : Answer) :
      Turn hub (.addConnection session endpoint) answer (hub.outcome [] [])
  | added (session : Nat) (endpoint : Endpoint) (answer : Answer) (room joined : Session)
      (result : AddResult) : hub.store.heap[session]? = some room →
      room.addConnection endpoint hub.store.clock answer.index = .ok (joined, result) →
      Turn hub (.addConnection session endpoint) answer
        ((hub.withRoom session joined).outcome [] [.attached endpoint session])
  | unremoved (session : Nat) (slotToken : String) (id : Nat) (answer : Answer) :
      Turn hub (.removeConnection session slotToken id) answer (hub.outcome [] [])
  | taken (session : Nat) (slotToken : String) (id : Nat) (answer : Answer)
      (room remaining : Session) (peer : Option Endpoint) :
      hub.store.heap[session]? = some room →
      room.removeConnection slotToken id hub.store.clock answer.index = some (remaining, peer) →
      Turn hub (.removeConnection session slotToken id) answer
        ((hub.withRoom session remaining).outcome [] [])
  | busy (ip code slotToken : String) (answer : Answer) : hub.reserveIp ip = none →
      Turn hub (.reserve ip code slotToken) answer (hub.outcome [] [])
  | reserved (ip code slotToken : String) (answer : Answer) (after : Hub) :
      hub.reserveIp ip = some after →
      Turn hub (.reserve ip code slotToken) answer (after.outcome [.upgrade ip code slotToken] [])
  | unopened (ip code slotToken : String) :
      Turn hub (.upgrade ip code slotToken) .failed (hub.outcome [.release ip] [])
  | opened (ip code slotToken : String) (answer : Answer) : answer ≠ .failed →
      Turn hub (.upgrade ip code slotToken) answer
        ({ hub with connections := hub.connections ++ [newConnection slotToken ip] }.outcome
          [.lookup (.attach hub.connections.length) code hub.store.clock] [])
  | unseated (conn session : Nat) (answer : Answer) :
      Turn hub (.join conn session) answer (hub.outcome (hub.unavailable (.attach conn)) [])
  | seated (conn session : Nat) (answer : Answer) (socket : Connection) (room joined : Session)
      (result : AddResult) : hub.connections[conn]? = some socket →
      hub.store.heap[session]? = some room →
      room.addConnection ⟨conn, socket.slotToken⟩ hub.store.clock answer.index =
        .ok (joined, result) →
      Turn hub (.join conn session) answer
        (((hub.withRoom session joined).modifyConnection conn fun socket =>
            { socket with session := some session }).countChange.outcome
          (announceJoin conn hub.changes result ++ [.enter conn])
          [.attached ⟨conn, socket.slotToken⟩ session])
  | entered (conn : Nat) (answer : Answer) :
      Turn hub (.enter conn) answer
        { hub := hub, next := [.read conn], spawned := [[.pump conn]], notes := [] }
  | hungUp (conn : Nat) (socket : Connection) : hub.connections[conn]? = some socket →
      Turn hub (.read conn) (.incoming .failed) (hub.outcome (leave conn socket) [])
  | unsupported (conn : Nat) (socket : Connection) : hub.connections[conn]? = some socket →
      Turn hub (.read conn) (.incoming .unsupported)
        (hub.outcome (.write conn (.close 1003 "binary only") :: leave conn socket) [])
  | asked (conn : Nat) (socket : Connection) (data : Bytes) :
      hub.connections[conn]? = some socket → parseRelayControl data = some .sessionEnd →
      Turn hub (.read conn) (.incoming (.binary data))
        (hub.outcome (.endSession conn :: leave conn socket) [])
  | invalid (conn : Nat) (socket : Connection) (data : Bytes) (kind : RelayKind) :
      hub.connections[conn]? = some socket → parseRelayControl data = some kind →
      Turn hub (.read conn) (.incoming (.binary data))
        (hub.outcome
          (.write conn (.close 1008 "invalid relay command") :: leave conn socket) [])
  | ignored (conn : Nat) (socket : Connection) (data : Bytes) :
      hub.connections[conn]? = some socket → parseRelayControl data = none →
      Turn hub (.read conn) (.incoming (.binary data)) (hub.outcome [.read conn] [])
  | took (conn : Nat) (socket : Connection) (data : Bytes) :
      hub.connections[conn]? = some socket → parseRelayControl data = none →
      Turn hub (.read conn) (.incoming (.binary data))
        (hub.outcome [.relay conn data, .read conn] [])
  | unheard (conn : Nat) (data : Bytes) (answer : Answer) :
      Turn hub (.relay conn data) answer (hub.outcome [] [])
  | handed (conn : Nat) (data : Bytes) (answer : Answer) (session : Nat) (socket : Connection)
      (room : Session) (peer : Endpoint) : hub.connections[conn]? = some socket →
      socket.session = some session → hub.store.heap[session]? = some room →
      room.peerOf conn hub.store.clock answer.index = some peer →
      Turn hub (.relay conn data) answer
        (hub.outcome [.deliver peer.id data] [.handed conn peer session])
  | sent (target : Nat) (data : Bytes) (answer : Answer) :
      Turn hub (.deliver target data) answer ((hub.send target data).outcome [] [])
  | stayed (conn : Nat) (answer : Answer) :
      Turn hub (.endSession conn) answer (hub.outcome [] [])
  | ended (conn : Nat) (answer : Answer) (socket : Connection) (session : Nat) (room : Session)
      (after : Store) : hub.connections[conn]? = some socket → socket.session = some session →
      hub.store.heap[session]? = some room →
      hub.store.endSession room.code session = some after →
      Turn hub (.endSession conn) answer
        ((hub.withStore after).outcome [.drain session]
          [.tombstoned room.code session hub.store.clock])
  | finished (session : Nat) (endpoints : List Endpoint) (answer : Answer) :
      Turn hub (.finish session endpoints) answer (hub.outcome [] [.finished session])
  | absent (conn : Nat) (answer : Answer) : Turn hub (.detach conn) answer (hub.outcome [] [])
  | left (conn : Nat) (answer : Answer) (socket : Connection) (session : Nat)
      (room remaining : Session) (peer : Option Endpoint) :
      hub.connections[conn]? = some socket → socket.session = some session →
      hub.store.heap[session]? = some room →
      room.removeConnection socket.slotToken conn hub.store.clock answer.index =
        some (remaining, peer) →
      Turn hub (.detach conn) answer
        ((hub.withRoom session remaining).countChange.outcome
          (peer.toList.map fun peer => Op.priority peer.id .peerDisconnected hub.changes) [])
  | released (ip : String) (answer : Answer) :
      Turn hub (.release ip) answer ((hub.releaseIp ip).outcome [] [])
  | shut (target : Nat) (answer : Answer) :
      Turn hub (.close target) answer ((hub.closeConnection target).outcome [] [])
  | gone (target : Nat) (kind : RelayKind) (answer : Answer) : hub.isClosed target = true →
      Turn hub (.closeWithControl target kind) answer
        (hub.outcome [.close target] [.unsent target true])
  | parted (target : Nat) (kind : RelayKind) (answer : Answer) (frames : List Frame) :
      frames ⊆ [.control kind, .close 4000 "session ended"] → .control kind ∈ frames →
      Turn hub (.closeWithControl target kind) answer
        ((hub.writeFrames target frames).outcome [.close target] [])
  | unparted (target : Nat) (kind : RelayKind) (answer : Answer) (frames : List Frame) :
      frames ⊆ [.close 4000 "session ended"] →
      Turn hub (.closeWithControl target kind) answer
        ((hub.writeFrames target frames).outcome [.close target] [.unsent target false])
  | told (target : Nat) (kind : RelayKind) (change : Nat) (answer : Answer) :
      Turn hub (.priority target kind change) answer
        ((hub.sendPriority target kind answer).outcome [] [])
  | wrote (target : Nat) (frame : Frame) (answer : Answer) :
      Turn hub (.write target frame) answer ((hub.writeMessage target frame answer).outcome [] [])
  | unpinged (conn : Nat) (socket : Connection) : hub.connections[conn]? = some socket →
      Turn hub (.pump conn) .failed (hub.outcome [.close conn] [])
  | lost (conn fault : Nat) (socket : Connection) (data : Bytes) (rest : List Bytes) :
      hub.connections[conn]? = some socket → socket.sendChan = data :: rest →
      socket.loses fault = true →
      Turn hub (.pump conn) (.pick fault)
        ((hub.modifyConnection conn fun socket => { socket with
          sendChan := rest }).outcome [.close conn] [])
  | pumped (conn fault : Nat) (socket : Connection) (data : Bytes) (rest : List Bytes) :
      hub.connections[conn]? = some socket → socket.sendChan = data :: rest →
      socket.loses fault = false →
      Turn hub (.pump conn) (.pick fault)
        ((hub.modifyConnection conn fun socket => { socket with
          sendChan := rest
          written := socket.written ++ [.data data] }).outcome [.pump conn] [])
  | stopped (conn : Nat) (answer : Answer) : answer ≠ .failed → (∀ fault, answer ≠ .pick fault) →
      Turn hub (.pump conn) answer (hub.outcome [] [])

section Turns
variable {hub : Hub} {outcome : Outcome} {answer : Answer} {conn session : Nat} {code : String}

theorem attempt_turn {profileId creatorIp : String} {left : Nat}
    (ran : hub.attempt profileId creatorIp left answer = some outcome) :
    hub.Turn (.attempt profileId creatorIp left) answer outcome := by
  simp only [attempt] at ran
  split at ran
  · cases ran
    exact .exhausted _ _ _
  · cases ran
    exact .undrawn _ _ _
  · split at ran <;> cases ran
    exact .drawn _ _ _ _
  · cases ran

theorem conclude_turn (pass : Pass) (remaining : List String) (closing : List Nat) :
    hub.Turn (.scan pass remaining closing) answer (hub.conclude pass closing) := by
  cases pass with
  | sweep now => exact .swept now remaining closing answer
  | create request =>
      simp only [conclude]
      cases concluded : hub.store.concludeCreate request hub.config.maxSessionsPerIp with
      | mk after result =>
          cases result with
          | ok session => exact .created request remaining closing answer after session concluded
          | error error =>
              dsimp only
              split
              · exact .retried request remaining closing answer after error concluded
              · exact .rejected request remaining closing answer after error concluded

theorem scan_turn (pass : Pass) (remaining : List String) (closing : List Nat) :
    hub.Turn (.scan pass remaining closing) answer (hub.scan pass remaining closing answer) := by
  simp only [scan]
  split
  · exact conclude_turn pass remaining closing
  · split
    · exact .passed _ _ _ _ _
    · split
      · rename_i expired
        exact .picked _ _ _ _ _ _ expired
      · exact .passed _ _ _ _ _

theorem lookup_turn {purpose : Purpose} {started : Time}
    (ran : hub.lookup purpose code started = some outcome) :
    hub.Turn (.lookup purpose code started) answer outcome := by
  simp only [lookup] at ran
  split at ran
  · cases ran
    exact .missed _ _ _ _
  · split at ran
    · cases ran
    · split at ran
      · cases ran
        exact .missed _ _ _ _
      · rename_i listed
        cases ran
        exact .found _ _ _ _ _ listed

theorem check_turn (purpose : Purpose) :
    hub.Turn (.check purpose code session) answer (hub.check purpose code session) := by
  simp only [check]
  split
  · rename_i expired
    exact .expired _ _ _ _ expired
  · cases purpose with
    | inform => exact .informed _ _ _
    | attach => exact .attaching _ _ _ _

theorem forget_turn (ran : hub.forget code session = some outcome) :
    hub.Turn (.forget code session) answer outcome := by
  simp only [forget] at ran
  split at ran <;> cases ran
  by_cases removes : hub.store.removes code (some session) = true
  · simp only [removes, if_true, Store.removeSession]
    exact .forgot _ _ _ removes
  · simp only [removes, if_false, Store.removeSession, Bool.false_eq_true]
    exact .superseded _ _ _

theorem endRegistry_turn (ran : hub.endRegistry code session [] = some outcome) :
    hub.Turn (.endRegistry code session) answer outcome := by
  simp only [endRegistry] at ran
  split at ran
  · cases ran
  · split at ran
    · cases ran
      exact .unended _ _ _
    · rename_i after ended
      cases ran
      exact .buried _ _ _ after ended

theorem endSession_turn (ran : hub.endSession conn = some outcome) :
    hub.Turn (.endSession conn) answer outcome := by
  simp only [endSession] at ran
  split at ran
  · cases ran
  · rename_i socket known
    split at ran
    · cases ran
      exact .stayed _ _
    · rename_i session own
      split at ran
      · cases ran
        exact .stayed _ _
      · rename_i room found
        simp only [endRegistry] at ran
        split at ran
        · cases ran
        · split at ran
          · cases ran
            exact .stayed _ _
          · rename_i after ended
            cases ran
            exact .ended conn answer socket session room after known own found ended

theorem addConnection_turn {endpoint : Endpoint}
    (ran : hub.addConnection session endpoint answer = some outcome) :
    hub.Turn (.addConnection session endpoint) answer outcome := by
  obtain ⟨room, found, rfl⟩ := Option.map_eq_some_iff.mp ran
  split
  · exact .unadded _ _ _
  · rename_i added accepted
    exact .added session endpoint answer room added.1 added.2 found accepted

theorem removeConnection_turn {slotToken : String} {id : Nat}
    (ran : hub.removeConnection session slotToken id answer = some outcome) :
    hub.Turn (.removeConnection session slotToken id) answer outcome := by
  obtain ⟨room, found, rfl⟩ := Option.map_eq_some_iff.mp ran
  split
  · exact .unremoved _ _ _ _
  · rename_i removed taken
    exact .taken session slotToken id answer room removed.1 removed.2 found taken

theorem reserve_turn (ip slotToken : String) :
    hub.Turn (.reserve ip code slotToken) answer (hub.reserve ip code slotToken) := by
  simp only [reserve]
  split
  · rename_i full
    exact .busy _ _ _ _ full
  · rename_i reserved free
    exact .reserved _ _ _ _ reserved free

theorem upgrade_turn (ip slotToken : String) :
    hub.Turn (.upgrade ip code slotToken) answer (hub.upgrade ip code slotToken answer) := by
  simp only [upgrade]
  split
  · rename_i failed
    subst failed
    exact .unopened _ _ _
  · rename_i opened
    exact .opened _ _ _ _ opened

theorem join_turn (ran : hub.join conn session answer = some outcome) :
    hub.Turn (.join conn session) answer outcome := by
  simp only [join] at ran
  split at ran
  · rename_i socket room known found
    split at ran
    · cases ran
      exact .unseated _ _ _
    · rename_i added accepted
      cases ran
      exact .seated conn session answer socket room added.1 added.2 known found accepted
  · cases ran

theorem readLoop_turn (ran : hub.readLoop conn answer = some outcome) :
    hub.Turn (.read conn) answer outcome := by
  simp only [readLoop] at ran
  split at ran
  · rename_i socket known
    cases ran
    exact .hungUp conn socket known
  · rename_i socket known
    cases ran
    exact .unsupported conn socket known
  · rename_i socket data known
    split at ran
    · rename_i asked
      cases ran
      exact .asked conn socket data known asked
    · rename_i kind _ parsed
      cases ran
      exact .invalid conn socket data kind known parsed
    · rename_i refused
      split at ran <;> cases ran
      · exact .ignored conn socket data known refused
      · exact .took conn socket data known refused
  · cases ran

theorem relayFrame_turn {data : Bytes} (ran : hub.relayFrame conn data answer = some outcome) :
    hub.Turn (.relay conn data) answer outcome := by
  simp only [relayFrame] at ran
  split at ran
  · cases ran
  · rename_i session own
    obtain ⟨socket, known, same⟩ := Option.bind_eq_some_iff.mp own
    obtain ⟨room, found, rfl⟩ := Option.map_eq_some_iff.mp ran
    split
    · exact .unheard _ _ _
    · rename_i peer chosen
      exact .handed conn data answer session socket room peer known same found chosen

theorem detach_turn (ran : hub.detach conn answer = some outcome) :
    hub.Turn (.detach conn) answer outcome := by
  obtain ⟨socket, known, rfl⟩ := Option.map_eq_some_iff.mp ran
  split
  · exact .absent _ _
  · rename_i session own
    split
    · exact .absent _ _
    · rename_i room found
      split
      · exact .absent _ _
      · rename_i removed taken
        exact .left conn answer socket session room removed.1 removed.2 known own found taken

/-- Of the two frames of a farewell, any may be missing. -/
theorem farewell_subset (kind : RelayKind) (answer : Answer) :
    farewell kind answer ⊆ [.control kind, .close 4000 "session ended"] := by
  unfold farewell
  split <;> simp

theorem closeWithControl_turn (kind : RelayKind) :
    hub.Turn (.closeWithControl conn kind) answer (hub.closeWithControl conn kind answer) := by
  simp only [closeWithControl]
  split
  · rename_i closed
    exact .gone _ _ _ closed
  · have written := farewell_subset kind answer
    split
    · rename_i member
      exact .parted _ _ _ _ written member
    · rename_i failed
      apply Turn.unparted
      intro frame member
      rcases List.mem_cons.mp (written member) with rfl | other
      · exact absurd member failed
      · exact other

theorem writeLoop_turn (ran : hub.writeLoop conn answer = some outcome) :
    hub.Turn (.pump conn) answer outcome := by
  simp only [writeLoop] at ran
  split at ran
  · rename_i socket known
    cases ran
    exact .unpinged conn socket known
  · rename_i socket fault known
    split at ran
    · cases ran
    · rename_i data rest queued
      split at ran <;> cases ran
      · rename_i loses
        exact .lost conn fault socket data rest known queued loses
      · rename_i keeps
        exact .pumped conn fault socket data rest known queued (by simpa using keeps)
  · rename_i known failed picked
    split at ran <;> cases ran
    exact .stopped conn _ failed picked
  · cases ran

/-- Whatever runs takes one of the turns. -/
theorem run_turn {op : Op} (ran : hub.run op answer = some outcome) :
    hub.Turn op answer outcome := by
  cases op with
  | attempt => exact attempt_turn ran
  | lock pass =>
      simp only [run, lock] at ran
      split at ran <;> cases ran
      exact .locked pass answer
  | scan pass remaining closing => cases ran; exact scan_turn pass remaining closing
  | drop code session => cases ran; exact .dropped code session answer
  | closeSession session =>
      obtain ⟨room, found, rfl⟩ := Option.map_eq_some_iff.mp ran
      exact .closed session answer room found
  | lookup => exact lookup_turn ran
  | check purpose => cases ran; exact check_turn purpose
  | forget => exact forget_turn ran
  | removeSession code expected =>
      simp only [run, removeSession] at ran
      split at ran <;> cases ran
      exact .removed code expected answer
  | endRegistry => exact endRegistry_turn ran
  | addConnection => exact addConnection_turn ran
  | removeConnection => exact removeConnection_turn ran
  | drainConnections session =>
      obtain ⟨room, found, rfl⟩ := Option.map_eq_some_iff.mp ran
      exact .emptied session answer room found
  | reserve ip code slotToken => cases ran; exact reserve_turn ip slotToken
  | upgrade ip code slotToken => cases ran; exact upgrade_turn ip slotToken
  | join => exact join_turn ran
  | enter conn => cases ran; exact .entered conn answer
  | read => exact readLoop_turn ran
  | relay => exact relayFrame_turn ran
  | deliver target data => cases ran; exact .sent target data answer
  | endSession => exact endSession_turn ran
  | drain session =>
      obtain ⟨room, found, rfl⟩ := Option.map_eq_some_iff.mp ran
      exact .drained session answer room found
  | finish session endpoints => cases ran; exact .finished session endpoints answer
  | detach => exact detach_turn ran
  | release ip => cases ran; exact .released ip answer
  | close target => cases ran; exact .shut target answer
  | closeWithControl target kind => cases ran; exact closeWithControl_turn kind
  | priority target kind change => cases ran; exact .told target kind change answer
  | write target frame => cases ran; exact .wrote target frame answer
  | pump => exact writeLoop_turn ran

end Turns

end Hub

end OnlyTwo.Relay
