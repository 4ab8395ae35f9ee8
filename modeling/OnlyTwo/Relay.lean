import OnlyTwo.Bytes
import OnlyTwo.Machine
import OnlyTwo.RelayRegistry

/-!
The relay's goroutines, after internal/ws/hub.go, internal/ws/connection.go and
internal/ws/control.go. A goroutine is the list of operations it has still to do;
each operation is one section under one lock, what is written under one, or one
read, and the scheduler may run the goroutines in any order between operations. An
operation answers with the operations it turns into, which run before the rest of
its goroutine.

The identifiers that `randomID` draws are taken to be distinct, so a socket is
named by its place in the list of sockets.
-/

namespace OnlyTwo.Relay

section Control

/-- Control frames are four bytes, of which the last names the kind. `sessionEnd` is
the only kind a client may send; the relay sends the others. -/
inductive RelayKind where
  | peerPresent
  | peerDisconnected
  | peerRejoined
  | sessionEnd
  | sessionEnded
  deriving DecidableEq

def RelayKind.byte : RelayKind → UInt8
  | .peerPresent => 1
  | .peerDisconnected => 2
  | .peerRejoined => 3
  | .sessionEnd => 4
  | .sessionEnded => 5

def RelayKind.all : List RelayKind :=
  [.peerPresent, .peerDisconnected, .peerRejoined, .sessionEnd, .sessionEnded]

def relayControlFrame (kind : RelayKind) : Bytes := [79, 82, 1, kind.byte]

/-- The last byte is in the range from `relayPeerPresent` to `relaySessionEnded`
exactly when it is the byte of a kind. -/
def parseRelayControl (data : Bytes) : Option RelayKind :=
  match data with
  | [79, 82, 1, last] => RelayKind.all.find? fun kind => kind.byte == last
  | _ => none

theorem parseRelayControl_frame (kind : RelayKind) :
    parseRelayControl (relayControlFrame kind) = some kind := by
  cases kind <;> rfl

end Control

structure Config where
  maxSessionsPerIp : Int
  maxConnectionsPerIp : Int
  sendBufferSize : Nat
  deriving DecidableEq

/-- What is written to a socket. -/
inductive Frame where
  | control (kind : RelayKind)
  | data (bytes : Bytes)
  | close (code : Nat) (reason : String)
  deriving DecidableEq

/-- The pattern `^[a-f0-9]{32}$`. -/
def validSlotToken (token : String) : Bool :=
  token.toList.length == 32 && token.toList.all fun char =>
    (decide ('a' ≤ char) && decide (char ≤ 'f')) || (decide ('0' ≤ char) && decide (char ≤ '9'))

structure Connection where
  slotToken : String
  ip : String
  session : Option Nat
  closed : Bool
  sendChan : List Bytes
  written : List Frame
  deriving DecidableEq

def newConnection (slotToken ip : String) : Connection where
  slotToken := slotToken
  ip := ip
  session := none
  closed := false
  sendChan := []
  written := []

/-- The write of the frame that `writeLoop` has received fails. -/
def Connection.loses (conn : Connection) (fault : Nat) : Bool := conn.closed || fault != 0

/-- The loop that holds the registry's lock, with the clock reading made before. -/
inductive Pass where
  | create (request : CreateRequest)
  | sweep (now : Time)
  deriving DecidableEq

/-- Who called `GetSession`. -/
inductive Purpose where
  | inform
  | attach (conn : Nat)
  deriving DecidableEq

/-- The number in `priority` counts the changes of membership: it tells which one
the frame reports and steers nothing. The time in `lookup` is
the one at which the call started. -/
inductive Op where
  | attempt (profileId creatorIp : String) (left : Nat)
  | lock (pass : Pass)
  | scan (pass : Pass) (remaining : List String) (closing : List Nat)
  | drop (code : String) (session : Nat)
  | closeSession (session : Nat)
  | lookup (purpose : Purpose) (code : String) (started : Time)
  | check (purpose : Purpose) (code : String) (session : Nat)
  | forget (code : String) (session : Nat)
  | removeSession (code : String) (expected : Option Nat)
  | endRegistry (code : String) (session : Nat)
  | addConnection (session : Nat) (endpoint : Endpoint)
  | removeConnection (session : Nat) (slotToken : String) (id : Nat)
  | drainConnections (session : Nat)
  | reserve (ip code slotToken : String)
  | upgrade (ip code slotToken : String)
  | join (conn session : Nat)
  | enter (conn : Nat)
  | read (conn : Nat)
  | relay (conn : Nat) (data : Bytes)
  | deliver (target : Nat) (data : Bytes)
  | endSession (conn : Nat)
  | drain (session : Nat)
  | finish (session : Nat) (endpoints : List Endpoint)
  | detach (conn : Nat)
  | release (ip : String)
  | close (target : Nat)
  | closeWithControl (target : Nat) (kind : RelayKind)
  | priority (target : Nat) (kind : RelayKind) (change : Nat)
  | write (target : Nat) (frame : Frame)
  | pump (conn : Nat)
  deriving DecidableEq

inductive Incoming where
  | failed
  | unsupported
  | binary (data : Bytes)
  deriving DecidableEq

/-- What the outside contributes to an operation: the order of a map, the message
that was read, random bytes, or a failure. -/
inductive Answer where
  | pick (index : Nat)
  | failed
  | incoming (message : Incoming)
  | random (bytes : List UInt8)
  deriving DecidableEq

def Answer.index : Answer → Nat
  | .pick index => index
  | _ => 0

/-- The entry points: the methods of the registry and of a session as a caller
may use them, `CreateRoom`, `RoomInfo`, and the handler of a WebSocket request. -/
inductive Call where
  | createSession (profileId creatorIp : String)
  | createSessionWithCode (code profileId creatorIp : String)
  | getSession (code : String)
  | sweepExpired
  | serveHTTP (ip code slotToken : String)
  | endSession (code : String) (session : Nat)
  | removeSession (code : String) (expected : Option Nat)
  | addConnection (session : Nat) (endpoint : Endpoint)
  | removeConnection (session : Nat) (slotToken : String) (id : Nat)
  | drainConnections (session : Nat)
  deriving DecidableEq

/-- The moments the properties speak of. A creation that succeeds and a lookup that
finds its code name the time they started and the time they read the maps;
`looked` is the answer `true` of that lookup. `expired` is a removal by an expiry
path with the sockets attached at that moment, and `ending` tells the drain of
`Hub.EndSession` from that of `Close`. `unsent` is a farewell that has not reached
its socket, which was closed already or whose write has failed. -/
inductive Note where
  | created (session : Nat) (code profileId creatorIp : String) (started decided : Time)
  | refused (error : SessionError)
  | found (session : Nat) (code : String) (started decided : Time)
  | looked (session : Nat) (code : String)
  | missed (code : String)
  | tombstoned (code : String) (session : Nat) (moment : Time)
  | expired (code : String) (session : Nat) (attached : List Endpoint)
  | attached (endpoint : Endpoint) (session : Nat)
  | drained (session : Nat) (endpoints : List Endpoint) (ending : Bool)
  | finished (session : Nat)
  | unsent (target : Nat) (closed : Bool)
  | handed (source : Nat) (target : Endpoint) (session : Nat)
  deriving DecidableEq

structure Hub where
  config : Config
  store : Store
  connections : List Connection
  connsByIp : InsertionMap String Nat
  changes : Nat
  threads : List (List Op)
  deriving DecidableEq

def newHub (config : Config) (ttl : Time) : Hub where
  config := config
  store := newRegistry ttl
  connections := []
  connsByIp := .empty
  changes := 0
  threads := []

/-- What an operation leaves behind: the state, what its goroutine does next, and
the goroutines it started. -/
structure Outcome where
  hub : Hub
  next : List Op
  spawned : List (List Op)
  notes : List Note

namespace Hub

def outcome (hub : Hub) (next : List Op) (notes : List Note) : Outcome :=
  { hub := hub, next := next, spawned := [], notes := notes }

def modifyConnection (hub : Hub) (id : Nat) (change : Connection → Connection) : Hub :=
  { hub with connections := hub.connections.modify id change }

def withStore (hub : Hub) (store : Store) : Hub := { hub with store := store }

/-- The membership of a room has changed once more. -/
def countChange (hub : Hub) : Hub := { hub with changes := hub.changes + 1 }

section Sockets

def isClosed (hub : Hub) (id : Nat) : Bool :=
  match hub.connections[id]? with
  | none => true
  | some conn => conn.closed

def closeConnection (hub : Hub) (id : Nat) : Hub :=
  hub.modifyConnection id fun conn => { conn with closed := true }

def writeFrames (hub : Hub) (id : Nat) (frames : List Frame) : Hub :=
  hub.modifyConnection id fun conn => { conn with written := conn.written ++ frames }

/-- `WriteMessage`: nothing reaches a socket that is closed, and a write may fail.
The callers ignore its error. -/
def writeMessage (hub : Hub) (id : Nat) (frame : Frame) (answer : Answer) : Hub :=
  if hub.isClosed id || answer == .failed then hub
  else hub.writeFrames id [frame]

def sendPriority (hub : Hub) (id : Nat) (kind : RelayKind) (answer : Answer) : Hub :=
  if hub.isClosed id then hub
  else hub.writeMessage id (.control kind) answer

/-- What gets through of the two writes of `CloseWithControl`, either of which may fail. -/
def farewell (kind : RelayKind) : Answer → List Frame
  | .failed => []
  | .pick 1 => [.control kind]
  | .pick 2 => [.close 4000 "session ended"]
  | _ => [.control kind, .close 4000 "session ended"]

/-- `CloseWithControl`. It does not look at `closed`, and it drops both errors. -/
def closeWithControl (hub : Hub) (id : Nat) (kind : RelayKind) (answer : Answer) : Outcome :=
  if hub.isClosed id then hub.outcome [.close id] [.unsent id true]
  else
    let frames := farewell kind answer
    (hub.writeFrames id frames).outcome [.close id]
      (if .control kind ∈ frames then [] else [.unsent id false])

/-- `Send`: a full buffer drops the frame. -/
def send (hub : Hub) (id : Nat) (data : Bytes) : Hub :=
  if hub.isClosed id then hub
  else hub.modifyConnection id fun conn =>
    if conn.sendChan.length < hub.config.sendBufferSize then
      { conn with sendChan := conn.sendChan ++ [data] }
    else conn

/-- One turn of `writeLoop`: a failed ping, a queued frame, or the end of the socket's
context. -/
def writeLoop (hub : Hub) (id : Nat) (answer : Answer) : Option Outcome :=
  match hub.connections[id]?, answer with
  | some _, .failed => some (hub.outcome [.close id] [])
  | some conn, .pick fault =>
      match conn.sendChan with
      | [] => none
      | data :: rest =>
          if conn.loses fault then
            -- The frame has left the channel and is written nowhere.
            some ((hub.modifyConnection id fun conn => { conn with
              sendChan := rest }).outcome [.close id] [])
          else
            some ((hub.modifyConnection id fun conn => { conn with
              sendChan := rest
              written := conn.written ++ [.data data] }).outcome [.pump id] [])
  | some conn, _ => if conn.closed then some (hub.outcome [] []) else none
  | none, _ => none

end Sockets

section Addresses

def reserveIp (hub : Hub) (ip : String) : Option Hub :=
  let count := (hub.connsByIp.get? ip).getD 0
  if 0 < hub.config.maxConnectionsPerIp ∧ hub.config.maxConnectionsPerIp ≤ count then none
  else some { hub with connsByIp := hub.connsByIp.set ip (count + 1) }

def releaseIp (hub : Hub) (ip : String) : Hub :=
  if ip = "" then hub
  else
    let count := (hub.connsByIp.get? ip).getD 0
    if count ≤ 1 then { hub with connsByIp := hub.connsByIp.delete ip }
    else { hub with connsByIp := hub.connsByIp.set ip (count - 1) }

end Addresses

section Registry

/-- The checks and the clock reading before `CreateSessionWithCode` takes the lock. -/
def beginCreate (hub : Hub) (code profileId creatorIp : String) (retries : Nat) :
    List Op × List Note :=
  if codeValid : validCode code = true then
    if profileValid : validProfileId profileId = true then
      ([.lock (.create
        ⟨code, profileId, creatorIp, hub.store.clock, retries, codeValid, profileValid⟩)], [])
    else ([], [.refused .invalidProfile])
  else ([], [.refused .sessionNotFound])

/-- One turn of the loop of `CreateSession`. -/
def attempt (hub : Hub) (profileId creatorIp : String) (left : Nat) (answer : Answer) :
    Option Outcome :=
  match left, answer with
  | 0, _ => some (hub.outcome [] [.refused .sessionExists])
  | _ + 1, .failed => some (hub.outcome [] [])
  | left + 1, .random bytes =>
      if bytes.length = 8 then
        let begun := hub.beginCreate (randomRoomCode bytes) profileId creatorIp left
        some (hub.outcome begun.1 begun.2)
      else none
  | _ + 1, _ => none

def lock (hub : Hub) (pass : Pass) : Option Outcome :=
  if hub.store.locked then none
  else
    some ((hub.withStore { hub.store with locked := true }).outcome
      [.scan pass hub.store.sessions.keys []] [])

/-- What holds the lock lets go of it. -/
def conclude (hub : Hub) (pass : Pass) (closing : List Nat) : Outcome :=
  let closes := closing.map Op.closeSession
  match pass with
  | .sweep now =>
      (hub.withStore { hub.store.concludeSweep now with locked := false }).outcome closes []
  | .create request =>
      let concluded := hub.store.concludeCreate request hub.config.maxSessionsPerIp
      let unlocked := hub.withStore { concluded.1 with locked := false }
      match concluded.2 with
      | .ok session => unlocked.outcome closes
          [.created session request.code request.profileId request.creatorIp request.now
            hub.store.clock]
      | .error error =>
          -- The code was drawn at random, so `CreateSession` draws another one.
          if error = .sessionExists ∧ 0 < request.retries then
            unlocked.outcome
              (closes ++ [.attempt request.profileId request.creatorIp request.retries]) []
          else unlocked.outcome closes [.refused error]

/-- One turn of the loop over the live rooms. -/
def scan (hub : Hub) (pass : Pass) (remaining : List String) (closing : List Nat)
    (answer : Answer) : Outcome :=
  match choose answer.index remaining with
  | none => hub.conclude pass closing
  | some code =>
      let rest := remaining.erase code
      match hub.store.sessions.get? code with
      | none => hub.outcome [.scan pass rest closing] []
      | some session =>
          if hub.store.isExpired session then
            hub.outcome [.drop code session, .scan pass rest (closing ++ [session])] []
          else hub.outcome [.scan pass rest closing] []

def dropSession (hub : Hub) (code : String) (session : Nat) : Outcome :=
  (hub.withStore (hub.store.drop code)).outcome []
    [.expired code session (hub.store.attached session)]

/-- `DrainConnections` of a room, and what becomes of its endpoints. -/
def drainInto (hub : Hub) (session : Nat) (ending : Bool)
    (follow : List Endpoint → List Op) : Option Outcome :=
  (hub.store.heap[session]?).map fun room =>
    let drained := room.drainConnections
    (hub.withStore (hub.store.update session drained.1)).outcome
      (follow drained.2) [.drained session drained.2 ending]

def closeAll (endpoints : List Endpoint) : List Op :=
  endpoints.map fun endpoint => .close endpoint.id

/-- The loop of `Hub.EndSession` over the endpoints it drained. -/
def endAll (session : Nat) (endpoints : List Endpoint) : List Op :=
  endpoints.map (fun endpoint => Op.closeWithControl endpoint.id .sessionEnded) ++
    [.finish session endpoints]

/-- What a failed lookup means for its caller. -/
def unavailable (hub : Hub) : Purpose → List Op
  | .inform => []
  | .attach conn =>
      match hub.connections[conn]? with
      | none => []
      | some socket =>
          [.write conn (.close 1008 "session unavailable"), .release socket.ip]

def lookup (hub : Hub) (purpose : Purpose) (code : String) (started : Time) :
    Option Outcome :=
  if validCode code = false then
    some (hub.outcome (hub.unavailable purpose) [.missed code])
  else if hub.store.locked then none
  else
    match hub.store.sessions.get? code with
    | none => some (hub.outcome (hub.unavailable purpose) [.missed code])
    | some session =>
        some (hub.outcome [.check purpose code session]
          [.found session code started hub.store.clock])

def check (hub : Hub) (purpose : Purpose) (code : String) (session : Nat) : Outcome :=
  if hub.store.isExpired session then
    hub.outcome (.forget code session :: hub.unavailable purpose) [.missed code]
  else
    hub.outcome
      (match purpose with
        | .inform => []
        | .attach conn => [.join conn session])
      [.looked session code]

/-- `RemoveSession` of a lookup that found its room expired, and `go s.Close()`. -/
def forget (hub : Hub) (code : String) (session : Nat) : Option Outcome :=
  if hub.store.locked then none
  else
    some
      { hub := hub.withStore (hub.store.removeSession code (some session))
        next := []
        spawned := [[.closeSession session]]
        notes :=
          if hub.store.removes code (some session) then
            [.expired code session (hub.store.attached session)]
          else [] }

def removeSession (hub : Hub) (code : String) (expected : Option Nat) : Option Outcome :=
  if hub.store.locked then none
  else some ((hub.withStore (hub.store.removeSession code expected)).outcome [] [])

/-- `Registry.EndSession`, with what follows its answer `true`. -/
def endRegistry (hub : Hub) (code : String) (session : Nat) (next : List Op) :
    Option Outcome :=
  if hub.store.locked then none
  else
    match hub.store.endSession code session with
    | none => some (hub.outcome [] [])
    | some store =>
        some ((hub.withStore store).outcome next
          [.tombstoned code session hub.store.clock])

end Registry

section Rooms

def addConnection (hub : Hub) (session : Nat) (endpoint : Endpoint) (answer : Answer) :
    Option Outcome :=
  (hub.store.heap[session]?).map fun room =>
    match room.addConnection endpoint hub.store.clock answer.index with
    | .error _ => hub.outcome [] []
    | .ok added =>
        (hub.withStore (hub.store.update session added.1)).outcome []
          [.attached endpoint session]

def removeConnection (hub : Hub) (session : Nat) (slotToken : String) (id : Nat)
    (answer : Answer) : Option Outcome :=
  (hub.store.heap[session]?).map fun room =>
    match room.removeConnection slotToken id hub.store.clock answer.index with
    | none => hub.outcome [] []
    | some removed => (hub.withStore (hub.store.update session removed.1)).outcome [] []

/-- The presence frames of `AttachConnection`. -/
def announceJoin (conn change : Nat) (result : AddResult) : List Op :=
  let replaced := result.replaced.toList.map fun old => Op.close old.id
  match result.peer with
  | none => replaced
  | some peer =>
      let event := if result.replaced.isSome then RelayKind.peerRejoined else .peerPresent
      replaced ++ [.priority peer.id event change, .priority conn .peerPresent change]

/-- `AttachConnection` once it has its room. -/
def join (hub : Hub) (conn session : Nat) (answer : Answer) : Option Outcome :=
  match hub.connections[conn]?, hub.store.heap[session]? with
  | some socket, some room =>
      let endpoint := ⟨conn, socket.slotToken⟩
      match room.addConnection endpoint hub.store.clock answer.index with
      | .error _ => some (hub.outcome (hub.unavailable (.attach conn)) [])
      | .ok added =>
          let joined := (hub.withStore (hub.store.update session added.1)).modifyConnection
            conn fun socket => { socket with session := some session }
          some (joined.countChange.outcome
            (announceJoin conn hub.changes added.2 ++ [.enter conn])
            [.attached endpoint session])
  | _, _ => none

/-- `DetachConnection` up to `releaseIP`. -/
def detach (hub : Hub) (conn : Nat) (answer : Answer) : Option Outcome :=
  (hub.connections[conn]?).map fun socket =>
    match socket.session with
    | none => hub.outcome [] []
    | some session =>
        match hub.store.heap[session]? with
        | none => hub.outcome [] []
        | some room =>
            match room.removeConnection socket.slotToken conn hub.store.clock answer.index with
            | none => hub.outcome [] []
            | some removed =>
                (hub.withStore (hub.store.update session removed.1)).countChange.outcome
                  (removed.2.toList.map fun peer =>
                    Op.priority peer.id .peerDisconnected hub.changes) []

/-- `Hub.EndSession`. -/
def endSession (hub : Hub) (conn : Nat) : Option Outcome :=
  match hub.connections[conn]? with
  | none => none
  | some socket =>
      match socket.session with
      | none => some (hub.outcome [] [])
      | some session =>
          match hub.store.heap[session]? with
          | none => some (hub.outcome [] [])
          | some room => hub.endRegistry room.code session [.drain session]

end Rooms

section Handler

/-- `reserveIP` and the refusal of a busy address. -/
def reserve (hub : Hub) (ip code slotToken : String) : Outcome :=
  match hub.reserveIp ip with
  | none => hub.outcome [] []
  | some reserved => reserved.outcome [.upgrade ip code slotToken] []

/-- The upgrade and `newConnection`, either of which may fail. -/
def upgrade (hub : Hub) (ip code slotToken : String) (answer : Answer) : Outcome :=
  if answer = .failed then hub.outcome [.release ip] []
  else
    let opened := { hub with connections := hub.connections ++ [newConnection slotToken ip] }
    opened.outcome
      [.lookup (.attach hub.connections.length) code hub.store.clock] []

/-- What follows the return of `readLoop`. -/
def leave (conn : Nat) (socket : Connection) : List Op :=
  [.close conn, .detach conn, .release socket.ip]

/-- One turn of `readLoop`. -/
def readLoop (hub : Hub) (conn : Nat) (answer : Answer) : Option Outcome :=
  match hub.connections[conn]?, answer with
  | some socket, .incoming .failed => some (hub.outcome (leave conn socket) [])
  | some socket, .incoming .unsupported =>
      some (hub.outcome (.write conn (.close 1003 "binary only") :: leave conn socket) [])
  | some socket, .incoming (.binary data) =>
      match parseRelayControl data with
      | some .sessionEnd => some (hub.outcome (.endSession conn :: leave conn socket) [])
      | some _ =>
          some (hub.outcome
            (.write conn (.close 1008 "invalid relay command") :: leave conn socket) [])
      | none =>
          -- Nothing is relayed for a socket that is in no room.
          if socket.session = none then some (hub.outcome [.read conn] [])
          else some (hub.outcome [.relay conn data, .read conn] [])
  | _, _ => none

/-- The frame a socket sent goes to whom `PeerOf` names. -/
def relayFrame (hub : Hub) (conn : Nat) (data : Bytes) (answer : Answer) :
    Option Outcome :=
  match (hub.connections[conn]?).bind Connection.session with
  | none => none
  | some session =>
      (hub.store.heap[session]?).map fun room =>
        match room.peerOf conn hub.store.clock answer.index with
        | none => hub.outcome [] []
        | some peer => hub.outcome [.deliver peer.id data] [.handed conn peer session]

end Handler

def run (hub : Hub) (op : Op) (answer : Answer) : Option Outcome :=
  match op with
  | .attempt profileId creatorIp left => hub.attempt profileId creatorIp left answer
  | .lock pass => hub.lock pass
  | .scan pass remaining closing => some (hub.scan pass remaining closing answer)
  | .drop code session => some (hub.dropSession code session)
  | .closeSession session =>
      hub.drainInto session false closeAll
  | .lookup purpose code started => hub.lookup purpose code started
  | .check purpose code session => some (hub.check purpose code session)
  | .forget code session => hub.forget code session
  | .removeSession code expected => hub.removeSession code expected
  | .endRegistry code session => hub.endRegistry code session []
  | .addConnection session endpoint => hub.addConnection session endpoint answer
  | .removeConnection session slotToken id => hub.removeConnection session slotToken id answer
  | .drainConnections session =>
      hub.drainInto session false closeAll
  | .reserve ip code slotToken => some (hub.reserve ip code slotToken)
  | .upgrade ip code slotToken => some (hub.upgrade ip code slotToken answer)
  | .join conn session => hub.join conn session answer
  | .enter conn =>
      some { hub := hub, next := [.read conn], spawned := [[.pump conn]], notes := [] }
  | .read conn => hub.readLoop conn answer
  | .relay conn data => hub.relayFrame conn data answer
  | .deliver target data => some ((hub.send target data).outcome [] [])
  | .endSession conn => hub.endSession conn
  | .drain session =>
      hub.drainInto session true (endAll session)
  | .finish session _ => some (hub.outcome [] [.finished session])
  | .detach conn => hub.detach conn answer
  | .release ip => some ((hub.releaseIp ip).outcome [] [])
  | .close target => some ((hub.closeConnection target).outcome [] [])
  | .closeWithControl target kind => some (hub.closeWithControl target kind answer)
  | .priority target kind _ => some ((hub.sendPriority target kind answer).outcome [] [])
  | .write target frame => some ((hub.writeMessage target frame answer).outcome [] [])
  | .pump conn => hub.writeLoop conn answer

/-- The first operations of a call, and what it answers without any. -/
def begin (hub : Hub) : Call → List Op × List Note
  | .createSession profileId creatorIp =>
      if validProfileId profileId = false then ([], [.refused .invalidProfile])
      else ([.attempt profileId creatorIp 64], [])
  | .createSessionWithCode code profileId creatorIp =>
      hub.beginCreate code profileId creatorIp 0
  | .getSession code => ([.lookup .inform code hub.store.clock], [])
  | .sweepExpired => ([.lock (.sweep hub.store.clock)], [])
  | .serveHTTP ip code slotToken =>
      if validCode code = false || validSlotToken slotToken = false then ([], [])
      else ([.reserve ip code slotToken], [])
  | .endSession code session => ([.endRegistry code session], [])
  | .removeSession code expected => ([.removeSession code expected], [])
  | .addConnection session endpoint => ([.addConnection session endpoint], [])
  | .removeConnection session slotToken id => ([.removeConnection session slotToken id], [])
  | .drainConnections session => ([.drainConnections session], [])

end Hub

inductive Event where
  | tick (elapsed : Nat)
  | call (call : Call)
  | step (thread : Nat) (answer : Answer)
  deriving DecidableEq

namespace Hub

def step (hub : Hub) : Event → Option (Hub × List Note)
  | .tick elapsed =>
      some (hub.withStore { hub.store with clock := hub.store.clock + elapsed }, [])
  | .call call =>
      let begun := hub.begin call
      some ({ hub with threads := hub.threads ++ [begun.1] }, begun.2)
  | .step thread answer =>
      match hub.threads[thread]? with
      | some (op :: rest) =>
          (hub.run op answer).map fun outcome =>
            ({ outcome.hub with
                threads := hub.threads.set thread (outcome.next ++ rest) ++ outcome.spawned },
              outcome.notes)
      | _ => none

end Hub

def machine : Machine Hub Event Note where
  step := Hub.step

end OnlyTwo.Relay
