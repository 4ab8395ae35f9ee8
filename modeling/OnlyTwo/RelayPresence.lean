import OnlyTwo.RelayBoard
import OnlyTwo.RelayEnding
import OnlyTwo.RelayPeers

/-!
Presence frames against membership. The goroutines of the hub are projected onto
the board, and every step of a run in which presence frames are written in the
order of the changes they report is a move there. The frames are written after
the lock of the room is released, so the order is not a matter of course: a frame
about a socket that left may be written after the one about its successor.
-/

namespace OnlyTwo.Relay

def Frame.presence : Frame → Option Bool
  | .control kind => kind.presence
  | _ => none

/-- The presence frames written to a socket, oldest first. -/
def Connection.presence (socket : Connection) : List Bool :=
  socket.written.filterMap Frame.presence

def Connection.face (socket : Connection) : Face :=
  ⟨socket.slotToken, socket.session, socket.presence⟩

def Store.seats (store : Store) (session : Nat) : InsertionMap String Endpoint :=
  match store.heap[session]? with
  | none => .empty
  | some room => room.conns

namespace Hub

def board (hub : Hub) : Board where
  face id := (hub.connections[id]?).map Connection.face
  seats := hub.store.seats
  due id kind change := hub.Has (.priority id kind change)
  changes := hub.changes

/-- The socket sits in its slot. -/
def seated (hub : Hub) (id : Nat) : Bool :=
  match hub.connections[id]? with
  | none => false
  | some socket =>
      match socket.session with
      | none => false
      | some session =>
          match (hub.store.seats session).get? socket.slotToken with
          | none => false
          | some holder => holder.id == id

/-- No presence frame for the socket is due that reports an earlier change. -/
def oldest (hub : Hub) (target change : Nat) : Bool :=
  hub.threads.all fun ops => ops.all fun op =>
    match op with
    | .priority other _ number => other != target || decide (change ≤ number)
    | _ => true

/-- If the event writes a presence frame to a socket that still has its seat, the
socket is open, the write does not fail, and no older frame for it is waiting. -/
def orderly (hub : Hub) : Event → Bool
  | .step thread answer =>
      match hub.threads[thread]? with
      | some (.priority target _ change :: _) =>
          !hub.seated target ||
            (!hub.isClosed target && answer != .failed && hub.oldest target change)
      | _ => true
  | _ => true

/-- Presence frames are written by `priority` only, and it writes nothing else. -/
def regular : Op → Bool
  | .write _ frame => frame.presence.isNone
  | .closeWithControl _ kind => kind.presence.isNone
  | .priority _ kind _ => kind.presence.isSome
  | _ => true

/-- The operations that change who sits where. -/
def reseats : Op → Bool
  | .join .. | .detach _ | .drain _ | .closeSession _ | .addConnection .. | .removeConnection ..
  | .drainConnections _ => true
  | _ => false

section Projection
variable {hub after : Hub} {outcome : Outcome} {answer : Answer} {op : Op} {event : Event}
  {notes : List Note}

theorem regular_step (stepped : hub.step event = some (after, notes))
    (pending : hub.Pending fun op => regular op = true) :
    after.Pending fun op => regular op = true := by
  refine pending_step stepped pending (fun _ same => same) ?_ ?_
  · intro call op _ begins
    cases begins <;> rfl
  · intro op new _ brings
    cases brings with
    | plain op new plain =>
        cases new with
        | write target frame => cases frame <;> first | rfl | cases plain
        | closeWithControl => cases plain
        | priority => cases plain
        | _ => rfl
    | joined conn session peer target kind room joined result socket pick _ _ _ _ which =>
        rcases which with ⟨_, rfl | rfl⟩ | ⟨_, rfl⟩ <;> rfl
    | _ => rfl

theorem face_modify {id : Nat} {change : Connection → Connection}
    (same : ∀ socket : Connection, (change socket).face = socket.face) :
    (hub.modifyConnection id change).board.face = hub.board.face := by
  funext other
  simp only [board, getElem?_modify]
  split
  · rename_i hit
    subst hit
    cases hub.connections[other]? with
    | none => rfl
    | some socket => exact congrArg some (same socket)
  · rfl

theorem face_written {id : Nat} {frames : List Frame}
    (silent : frames.filterMap Frame.presence = []) :
    (hub.writeFrames id frames).board.face = hub.board.face := by
  apply face_modify
  intro socket
  simp [Connection.face, Connection.presence, silent]

theorem face_of_connections (same : after.connections = hub.connections) :
    after.board.face = hub.board.face := by
  funext id
  simp only [board, same]

theorem send_face (id : Nat) (data : Bytes) : (hub.send id data).board.face = hub.board.face := by
  simp only [send]
  split
  · rfl
  · apply face_modify
    intro socket
    split <;> rfl

theorem writeMessage_face (id : Nat) {frame : Frame} (silent : frame.presence = none) :
    (hub.writeMessage id frame answer).board.face = hub.board.face := by
  simp only [writeMessage]
  split
  · rfl
  · exact face_written (by simp [silent])

theorem farewell_face (id : Nat) {kind : RelayKind} {frames : List Frame}
    (quiet : kind.presence = none)
    (among : frames ⊆ [.control kind, .close 4000 "session ended"]) :
    (hub.writeFrames id frames).board.face = hub.board.face := by
  apply face_written
  rw [List.filterMap_eq_nil_iff]
  intro frame member
  rcases List.mem_cons.mp (among member) with rfl | close
  · exact quiet
  · cases List.mem_singleton.mp close
    rfl

/-- The face of a socket changes only when it is opened, seated, or told. -/
theorem run_face (ran : hub.run op answer = some outcome) (usual : regular op = true)
    (opens : ∀ ip code slot, op ≠ .upgrade ip code slot)
    (joins : ∀ conn session, op ≠ .join conn session)
    (tells : ∀ target kind change, op ≠ .priority target kind change) :
    outcome.hub.board.face = hub.board.face := by
  cases run_turn ran with
  | reserved _ _ _ _ after free =>
      cases reserveIp_some hub free
      rfl
  | opened ip code slot => exact absurd rfl (opens ip code slot)
  | seated conn session => exact absurd rfl (joins conn session)
  | told target kind change => exact absurd rfl (tells target kind change)
  | sent target data => exact send_face target data
  | released ip => exact face_of_connections (releaseIp_connections ip)
  | shut => exact face_modify fun _ => rfl
  | parted target kind _ _ among =>
      exact farewell_face target (by simpa [regular] using usual) among
  | unparted target kind _ _ among =>
      exact farewell_face target (by simpa [regular] using usual)
        (List.Subset.trans among (List.subset_cons_self _ _))
  | wrote target frame => exact writeMessage_face target (by simpa [regular] using usual)
  | lost => exact face_modify fun _ => rfl
  | pumped =>
      apply face_modify
      intro socket
      simp [Connection.face, Connection.presence, Frame.presence]
  | _ => rfl

theorem seats_of_heap {store final : Store} (same : final.heap = store.heap) :
    final.seats = store.seats := by
  funext session
  simp only [Store.seats, same]

/-- A new room has nobody in it. -/
theorem seats_append {store final : Store} {room : Session}
    (same : final.heap = store.heap ++ [room]) (empty : room.conns = .empty) :
    final.seats = store.seats := by
  funext session
  simp only [Store.seats, same]
  rcases Nat.lt_trichotomy session store.heap.length with below | rfl | above
  · rw [List.getElem?_append_left below]
  · rw [List.getElem?_concat_length, List.getElem?_eq_none_iff.mpr (Nat.le_refl _)]
    exact empty
  · rw [List.getElem?_eq_none_iff.mpr (by simp; omega),
      List.getElem?_eq_none_iff.mpr (Nat.le_of_lt above)]

theorem concluded_seats {store final : Store} {request : CreateRequest} {most : Int}
    {result : Except SessionError Nat}
    (concluded : store.concludeCreate request most = (final, result)) :
    final.seats = store.seats := by
  obtain ⟨ended, _, ⟨_, _, rfl⟩ | ⟨_, _, _, _, rfl⟩⟩ := Store.concludeCreate_cases concluded
  · rfl
  · exact seats_append rfl rfl

theorem ended_seats {store final : Store} {code : String} {session : Nat}
    (ended : store.endSession code session = some final) : final.seats = store.seats := by
  obtain ⟨_, rfl⟩ := Store.endSession_some ended
  rfl

theorem seats_of_rooms (rooms : hub.Rooms after) :
    after.store.seats = hub.store.seats ∧ after.changes = hub.changes := by
  obtain ⟨store, _, changes⟩ := rooms
  exact ⟨seats_of_heap (by rw [store]), changes⟩

/-- The other operations leave everybody where they sit. -/
theorem run_seats (ran : hub.run op answer = some outcome) (calm : reseats op = false) :
    outcome.hub.store.seats = hub.store.seats ∧ outcome.hub.changes = hub.changes := by
  cases run_turn ran with
  | created _ _ _ _ after _ concluded =>
      have same : after.seats = hub.store.seats := concluded_seats concluded
      exact ⟨same, rfl⟩
  | rejected _ _ _ _ after _ concluded =>
      have same : after.seats = hub.store.seats := concluded_seats concluded
      exact ⟨same, rfl⟩
  | retried _ _ _ _ after _ concluded =>
      have same : after.seats = hub.store.seats := concluded_seats concluded
      exact ⟨same, rfl⟩
  | closed => cases calm
  | emptied => cases calm
  | drained => cases calm
  | removed =>
      refine ⟨?_, rfl⟩
      simp only [outcome_hub, withStore_store, Store.removeSession]
      split <;> rfl
  | buried _ _ _ _ ended => exact ⟨ended_seats ended, rfl⟩
  | unadded => cases calm
  | added => cases calm
  | unremoved => cases calm
  | taken => cases calm
  | reserved _ _ _ _ _ free =>
      cases reserveIp_some hub free
      exact ⟨rfl, rfl⟩
  | unseated => cases calm
  | seated => cases calm
  | sent target data => exact seats_of_rooms (send_rooms hub target data)
  | ended _ _ _ _ _ _ _ _ _ ended => exact ⟨ended_seats ended, rfl⟩
  | absent => cases calm
  | left => cases calm
  | released ip => exact seats_of_rooms (releaseIp_rooms hub ip)
  | told target kind => exact seats_of_rooms (sendPriority_rooms hub target kind answer)
  | wrote target frame => exact seats_of_rooms (writeMessage_rooms hub target frame answer)
  | _ => exact ⟨rfl, rfl⟩

theorem seats_update {store : Store} {session : Nat} {room changed : Session}
    (found : store.heap[session]? = some room) :
    (store.update session changed).seats =
      Function.update store.seats session changed.conns := by
  funext other
  simp only [Store.seats, Store.getElem?_update]
  by_cases same : other = session
  · subst same
    simp [found]
  · rw [if_neg same, Function.update_of_ne same]
    rfl

theorem seats_of_room {store : Store} {session : Nat} {room : Session}
    (found : store.heap[session]? = some room) : store.seats session = room.conns := by
  simp [Store.seats, found]

theorem face_update {id : Nat} {change : Connection → Connection} {socket : Connection}
    (found : hub.connections[id]? = some socket) :
    (hub.modifyConnection id change).board.face =
      Function.update hub.board.face id (some (change socket).face) := by
  funext other
  simp only [board, getElem?_modify]
  by_cases same : other = id
  · subst same
    simp [found]
  · rw [if_neg same, Function.update_of_ne same]

theorem face_opened (slotToken ip : String) (connections : List Connection)
    (same : connections = hub.connections ++ [newConnection slotToken ip]) :
    ({ hub with connections := connections } : Hub).board.face =
      Function.update hub.board.face hub.connections.length (some ⟨slotToken, none, []⟩) := by
  subst same
  funext id
  simp only [board]
  rcases Nat.lt_trichotomy id hub.connections.length with below | rfl | above
  · rw [List.getElem?_append_left below, Function.update_of_ne (Nat.ne_of_lt below)]
  · rw [List.getElem?_concat_length, Function.update_self]
    rfl
  · rw [Function.update_of_ne (Nat.ne_of_gt above),
      List.getElem?_eq_none_iff.mpr (by simp; omega),
      List.getElem?_eq_none_iff.mpr (Nat.le_of_lt above)]

end Projection

/-! A socket is seated at most once: each opened socket has one handler, which
carries it through the lookup and the check into one `AddConnection`. -/
section Tickets
variable {hub after : Hub} {outcome : Outcome} {answer : Answer} {op : Op} {event : Event}
  {notes : List Note}

/-- The operations on the way to a seat for the socket. -/
def joins (conn : Nat) : Op → Bool
  | .lookup (.attach other) _ _ => other == conn
  | .check (.attach other) _ _ => other == conn
  | .join other _ => other == conn
  | _ => false

/-- A socket that exists and has no room may take one. -/
def vacancy : Option Face → Nat
  | none => 0
  | some face => if face.session.isSome then 0 else 1

def Tickets (hub : Hub) : Prop :=
  ∀ conn, hub.threads.flatten.countP (joins conn) ≤ vacancy (hub.board.face conn)

theorem plain_joins {conn : Nat} (plain : op.plain = true) : joins conn op = false := by
  cases op <;> first | rfl | cases plain

theorem countP_joins_plain {conn : Nat} {ops : List Op} (plain : ∀ op ∈ ops, op.plain = true) :
    ops.countP (joins conn) = 0 := by
  apply List.countP_eq_zero.mpr
  intro op member counts
  rw [plain_joins (plain op member)] at counts
  cases counts

theorem announceJoin_joins {conn other change : Nat} {result : AddResult} :
    (announceJoin other change result ++ [Op.enter other]).countP (joins conn) = 0 := by
  apply List.countP_eq_zero.mpr
  intro op member counts
  rcases List.mem_append.mp member with announced | entered
  · rcases announceJoin_cases announced with plain | ⟨_, _, _, _, rfl, _⟩
    · rw [plain_joins plain] at counts
      cases counts
    · cases counts
  · cases List.mem_singleton.mp entered
    cases counts

theorem vacancy_le_one (face : Option Face) : vacancy face ≤ 1 := by
  cases face with
  | none => exact Nat.zero_le _
  | some face =>
      simp only [vacancy]
      split <;> omega

theorem run_tickets (ran : hub.run op answer = some outcome) (usual : regular op = true)
    (conn : Nat) :
    (brought outcome).countP (joins conn) + vacancy (hub.board.face conn) ≤
      [op].countP (joins conn) + vacancy (outcome.hub.board.face conn) := by
  cases op with
  | upgrade ip code slotToken =>
      cases run_turn ran with
      | unopened => simp [joins]
      | opened =>
          rw [brought_outcome, outcome_hub, face_opened slotToken ip _ rfl]
          by_cases own : conn = hub.connections.length
          · subst own
            -- A socket that is being opened had no face, and its ticket is new.
            have fresh : hub.board.face hub.connections.length = none := by
              simp [board]
            rw [Function.update_self, fresh]
            simp [joins, vacancy]
          · rw [Function.update_of_ne own]
            simp [joins, Ne.symm own]
  | join other session =>
      cases run_turn ran with
      | unseated =>
          rw [brought_outcome, countP_joins_plain (unavailable_plain _), outcome_hub]
          omega
      | seated _ _ _ socket room joined result known =>
          rw [brought_outcome, announceJoin_joins]
          have face : (((hub.withRoom session joined).modifyConnection other
              fun socket => { socket with session := some session }).countChange).board.face =
              Function.update hub.board.face other
                (some { socket with session := some session : Connection }.face) :=
            face_update known
          rw [outcome_hub, face]
          by_cases own : conn = other
          · subst own
            -- The ticket is spent, and the socket has a room from now on.
            have small := vacancy_le_one (hub.board.face conn)
            simp only [joins, List.countP_cons, List.countP_nil, BEq.rfl, ↓reduceIte]
            omega
          · rw [Function.update_of_ne own]
            simp
  | lookup purpose code started =>
      rw [run_face ran usual (by simp) (by simp) (by simp)]
      cases run_turn ran with
      | missed =>
          rw [brought_outcome, countP_joins_plain (unavailable_plain purpose)]
          omega
      | found => cases purpose <;> simp [joins, List.countP_cons]
  | check purpose code session =>
      rw [run_face ran usual (by simp) (by simp) (by simp)]
      cases run_turn ran with
      | expired =>
          rw [brought_outcome, List.countP_cons, countP_joins_plain (unavailable_plain purpose)]
          simp [joins]
      | informed => simp
      | attaching => simp [joins, List.countP_cons]
  | priority target kind change =>
      cases ran
      have face : vacancy ((hub.writeMessage target (.control kind) answer).board.face conn) =
          vacancy (hub.board.face conn) := by
        simp only [writeMessage]
        split
        · rfl
        · simp only [writeFrames, board, getElem?_modify]
          split
          · rename_i own
            subst own
            cases hub.connections[conn]? <;> rfl
          · rfl
      rw [brought_outcome, outcome_hub, sendPriority_eq, face, List.countP_nil]
      omega
  | _ =>
      rw [run_face ran usual (by simp) (by simp) (by simp)]
      have none : (brought outcome).countP (joins conn) = 0 := by
        apply List.countP_eq_zero.mpr
        intro new member counts
        cases run_brings ran member with
        | plain _ _ plain =>
            rw [plain_joins plain] at counts
            cases counts
        | _ => cases counts
      omega

theorem tickets_step (stepped : hub.step event = some (after, notes))
    (usual : hub.Pending fun op => regular op = true) (tickets : hub.Tickets) : after.Tickets := by
  intro conn
  have before := tickets conn
  rcases step_cases stepped with ⟨elapsed, rfl, rfl, rfl⟩ | ⟨call, rfl, rfl, rfl⟩ |
    ⟨thread, answer, op, rest, outcome, rfl, found, ran, rfl, rfl⟩
  · exact before
  · have begun : (hub.begin call).1.countP (joins conn) = 0 := by
      apply List.countP_eq_zero.mpr
      intro op member counts
      cases begin_begins member <;> cases counts
    simp only [List.flatten_append, List.flatten_cons, List.flatten_nil, List.append_nil,
      List.countP_append, begun]
    exact before
  · have counted := countP_advance (joins conn) outcome found
    have moved := run_tickets ran (usual _ (List.mem_of_getElem? found) op List.mem_cons_self) conn
    change (hub.advance thread rest outcome).threads.flatten.countP (joins conn) ≤
      vacancy (outcome.hub.board.face conn)
    omega

/-- A socket on its way to a seat has none. -/
theorem Tickets.vacant (tickets : hub.Tickets) {conn : Nat} (held : hub.Has op)
    (way : joins conn op = true) {socket : Connection}
    (known : hub.connections[conn]? = some socket) : socket.session = none := by
  obtain ⟨ops, member, listed⟩ := held
  have positive : 0 < hub.threads.flatten.countP (joins conn) :=
    List.countP_pos_iff.mpr ⟨op, List.mem_flatten_of_mem member listed, way⟩
  have bound := tickets conn
  simp only [board, known, Option.map_some, vacancy, Connection.face] at bound
  split at bound
  · omega
  · rename_i free
    simpa using free

end Tickets

/-! Every step is a move on the board. -/
section Moves
variable {hub after : Hub} {outcome : Outcome} {answer : Answer} {op : Op} {event : Event}
  {notes : List Note} {thread : Nat} {rest : List Op}

/-- Operations that bring no presence frame and are none leave the due ones alone. -/
theorem due_still (found : hub.threads[thread]? = some (op :: rest))
    (other : ∀ target kind change, op ≠ .priority target kind change)
    (none : ∀ target kind change, .priority target kind change ∉ brought outcome)
    (target : Nat) (kind : RelayKind) (change : Nat) :
    (hub.advance thread rest outcome).board.due target kind change ↔
      hub.board.due target kind change := by
  constructor
  · intro held
    rcases has_advance found held with old | new
    · exact old
    · exact absurd new (none target kind change)
  · intro held
    rcases advance_has found held with kept | wrong
    · exact kept
    · exact absurd wrong.symm (other target kind change)

theorem brought_no_priority (ran : hub.run op answer = some outcome)
    (joins : ∀ conn session, op ≠ .join conn session) (leaves : ∀ conn, op ≠ .detach conn)
    (target : Nat) (kind : RelayKind) (change : Nat) :
    .priority target kind change ∉ brought outcome := by
  intro member
  have brings := run_brings ran member
  generalize same : Op.priority target kind change = new at brings
  cases brings with
  | plain _ _ plain =>
      subst same
      cases plain
  | joined conn session => exact joins conn session rfl
  | left conn => exact leaves conn rfl
  | _ => cases same

theorem still_moves (found : hub.threads[thread]? = some (op :: rest))
    (other : ∀ target kind change, op ≠ .priority target kind change)
    (none : ∀ target kind change, .priority target kind change ∉ brought outcome)
    (face : outcome.hub.board.face = hub.board.face)
    (seats : outcome.hub.store.seats = hub.store.seats)
    (changes : outcome.hub.changes = hub.changes) :
    Board.Move hub.board (hub.advance thread rest outcome).board :=
  .still face seats changes (due_still found other none)

theorem drain_moves {session : Nat} {room : Session} {next : List Op}
    (rooms : hub.store.Rooms) (stored : hub.store.heap[session]? = some room)
    (due : ∀ id kind change, (hub.advance thread rest
        ((hub.withRoom session room.drainConnections.1).outcome next notes)).board.due id kind change ↔
      hub.board.due id kind change) :
    Board.Move hub.board (hub.advance thread rest
      ((hub.withRoom session room.drainConnections.1).outcome next notes)).board := by
  refine .emptied session rfl ?_ rfl due
  have empty : room.drainConnections.1.conns = .empty := by
    simp only [Session.drainConnections]
    split
    · rename_i closed
      apply InsertionMap.ext
      exact List.length_eq_zero_iff.mp ((rooms session room stored).shut closed)
    · rfl
  exact (seats_update stored).trans (by rw [empty]; rfl)

theorem occupied_of_others {room : Session} {slot : String} (empty : room.others slot = []) :
    occupied room.conns slot = false := by
  apply Bool.eq_false_iff.mpr
  intro crowded
  obtain ⟨key, member, different⟩ := occupied_iff.mp crowded
  obtain ⟨entry, listed, rfl⟩ := List.mem_map.mp member
  have inside : entry.2 ∈ room.others slot :=
    List.mem_map_of_mem (List.mem_filter.mpr ⟨listed, by simpa using different⟩)
  rw [empty] at inside
  cases inside

theorem get?_of_others {room : Session} {slot : String} {peer : Endpoint}
    (member : peer ∈ room.others slot) :
    ∃ key, key ≠ slot ∧ room.conns.get? key = some peer := by
  obtain ⟨entry, kept, rfl⟩ := List.mem_map.mp member
  obtain ⟨listed, different⟩ := List.mem_filter.mp kept
  exact ⟨entry.1, by simpa using different, (room.conns.get?_eq_some_iff _ _).mpr listed⟩

/-- The frames of a join are due to the peer and to the newcomer. -/
theorem join_announces {conn session : Nat} {result : AddResult}
    (found : hub.threads[thread]? = some (.join conn session :: rest))
    (all : brought outcome = announceJoin conn hub.changes result ++ [.enter conn])
    (count : outcome.hub.changes = hub.changes + 1) :
    hub.board.Announces (hub.advance thread rest outcome).board
      (result.peer.map Endpoint.id) (result.peer.map fun _ => conn) true where
  older := by
    intro id kind change held
    rcases advance_has found held with kept | wrong
    · exact kept
    · cases wrong
  newer := by
    intro id kind change held
    rcases has_advance found held with old | new
    · exact Or.inl old
    · rw [all] at new
      rcases List.mem_append.mp new with announced | entered
      · rcases announceJoin_cases announced with plain | ⟨peer, target, news, chosen, same, which⟩
        · cases plain
        · cases same
          rw [chosen]
          rcases which with ⟨rfl, rfl | rfl⟩ | ⟨rfl, rfl⟩
          · exact Or.inr ⟨rfl, rfl, Or.inl rfl⟩
          · exact Or.inr ⟨rfl, rfl, Or.inl rfl⟩
          · exact Or.inr ⟨rfl, rfl, Or.inr rfl⟩
      · cases List.mem_singleton.mp entered
  told := by
    intro id told
    have peer : ∃ peer, result.peer = some peer ∧ (id = peer.id ∨ id = conn) := by
      rcases told with toPeer | toSelf
      · obtain ⟨peer, chosen, rfl⟩ := Option.map_eq_some_iff.mp toPeer.symm
        exact ⟨peer, chosen, Or.inl rfl⟩
      · obtain ⟨peer, chosen, rfl⟩ := Option.map_eq_some_iff.mp toSelf.symm
        exact ⟨peer, chosen, Or.inr rfl⟩
    obtain ⟨peer, chosen, which⟩ := peer
    have inside : ∃ kind, .priority id kind hub.changes ∈ brought outcome := by
      rw [all]
      simp only [announceJoin, chosen]
      rcases which with rfl | rfl
      · exact ⟨_, List.mem_append_left _ (List.mem_append_right _ List.mem_cons_self)⟩
      · exact ⟨_, List.mem_append_left _ (List.mem_append_right _
          (List.mem_cons_of_mem _ List.mem_cons_self))⟩
    obtain ⟨kind, member⟩ := inside
    exact ⟨kind, advance_has_brought found member⟩
  count := count

theorem join_moves {conn session : Nat} (rooms : hub.store.Rooms) (tickets : hub.Tickets)
    (found : hub.threads[thread]? = some (.join conn session :: rest))
    (ran : hub.run (.join conn session) answer = some outcome) :
    Board.Move hub.board (hub.advance thread rest outcome).board := by
  cases run_turn ran with
  | unseated =>
    refine still_moves found (by simp) ?_ rfl rfl rfl
    intro target kind change member
    rw [brought_outcome] at member
    cases unavailable_plain _ _ member
  | seated _ _ _ socket room joined result known stored accepted =>
    have vacant : socket.session = none :=
      tickets.vacant ⟨_, List.mem_of_getElem? found, List.mem_cons_self⟩ (by simp [joins]) known
    have sound := (Session.addConnection_valid (rooms session room stored) accepted).1
    obtain ⟨_, _, _, _, after, peer, _⟩ := Session.addConnection_ok accepted
    have here : hub.board.seats session = room.conns := seats_of_room stored
    have seats : (hub.store.update session joined).seats =
        Function.update hub.board.seats session joined.conns := seats_update stored
    have face : ((hub.withRoom session joined).modifyConnection conn
        fun socket => { socket with session := some session }).board.face =
          Function.update hub.board.face conn
            (some ⟨socket.slotToken, some session, socket.presence⟩) := face_update known
    have filled : (hub.store.update session joined).seats session = joined.conns := by
      rw [seats, Function.update_self]
    refine .joined conn session socket.slotToken socket.presence result.peer ?_ face ?_ ?_ ?_ ?_
      (join_announces found (brought_outcome _ _ _) rfl)
    · simp [board, known, Connection.face, vacant]
    · exact seats.trans (by rw [here, after])
    · change ((hub.store.update session joined).seats session).size ≤ 2
      rw [filled]
      exact sound.few
    · intro none
      rw [peer, choose_eq_none_iff] at none
      change occupied ((hub.store.update session joined).seats session) socket.slotToken = false
      rw [filled]
      exact occupied_of_others none
    · intro other chosen
      rw [peer] at chosen
      obtain ⟨key, different, held⟩ := get?_of_others (mem_of_choose chosen)
      refine ⟨key, different, ?_⟩
      rw [after] at held
      rw [here, ← held]
      exact (InsertionMap.get?_set_ne _ _ different).symm

/-- The frame of a departure is due to the peer that stays. -/
theorem left_announces {conn : Nat} {peer : Option Endpoint}
    (found : hub.threads[thread]? = some (.detach conn :: rest))
    (all : brought outcome =
      peer.toList.map fun other => Op.priority other.id .peerDisconnected hub.changes)
    (count : outcome.hub.changes = hub.changes + 1) :
    hub.board.Announces (hub.advance thread rest outcome).board (peer.map Endpoint.id) none
      false where
  older := by
    intro id kind change due
    rcases advance_has found due with kept | wrong
    · exact kept
    · cases wrong
  newer := by
    intro id kind change due
    rcases has_advance found due with old | new
    · exact Or.inl old
    · rw [all] at new
      obtain ⟨other, member, wrote⟩ := List.mem_map.mp new
      cases wrote
      rw [Option.mem_toList.mp member]
      exact Or.inr ⟨rfl, rfl, Or.inl rfl⟩
  told := by
    intro id told
    rcases told with toPeer | wrong
    · obtain ⟨other, some, rfl⟩ := Option.map_eq_some_iff.mp toPeer.symm
      refine ⟨.peerDisconnected, advance_has_brought found ?_⟩
      rw [all, some]
      exact List.mem_singleton.mpr rfl
    · cases wrong
  count := count

theorem detach_moves {conn : Nat} (rooms : hub.store.Rooms)
    (found : hub.threads[thread]? = some (.detach conn :: rest))
    (ran : hub.run (.detach conn) answer = some outcome) :
    Board.Move hub.board (hub.advance thread rest outcome).board := by
  cases run_turn ran with
  | absent => exact still_moves found (by simp) (by simp) rfl rfl rfl
  | left _ _ socket session room remaining peer known own stored taken =>
      obtain ⟨⟨current, held, _⟩, after, chosen⟩ := Session.removeConnection_some taken
      have here : hub.board.seats session = room.conns := seats_of_room stored
      have seats : (hub.store.update session remaining).seats =
          Function.update hub.board.seats session (room.conns.delete socket.slotToken) :=
        (seats_update stored).trans (by rw [after]; rfl)
      refine .left session socket.slotToken peer ?_ rfl ?_ ?_ ?_ ?_
        (left_announces found (brought_outcome _ _ _) rfl)
      · rw [here]
        exact InsertionMap.mem_keys_of_get? held
      · exact seats.trans (by rw [here])
      · rw [here]
        exact (rooms session room stored).few
      · intro none
        rw [chosen, choose_eq_none_iff] at none
        have empty : (room.conns.delete socket.slotToken).entries = [] :=
          List.map_eq_nil_iff.mp none
        change ((hub.store.update session remaining).seats session).keys = []
        rw [seats, Function.update_self]
        simp [InsertionMap.keys, empty]
      · intro other some
        rw [chosen] at some
        obtain ⟨entry, listed, rfl⟩ := List.mem_map.mp (mem_of_choose some)
        change ∃ key, ((hub.store.update session remaining).seats session).get? key = _
        rw [seats, Function.update_self]
        exact ⟨entry.1, (InsertionMap.get?_eq_some_iff _ _ _).mpr listed⟩

/-- A socket that sits anywhere sits in its own slot. -/
theorem seated_of_seat (sound : hub.board.Sound) {session target : Nat} {slot : String}
    {endpoint : Endpoint} (held : (hub.store.seats session).get? slot = some endpoint)
    (same : endpoint.id = target) : hub.seated target = true := by
  obtain ⟨face, found, own, room⟩ := sound.seated session slot endpoint held
  obtain ⟨socket, known, rfl⟩ := Option.map_eq_some_iff.mp found
  simp only [Connection.face] at own room
  subst same
  simp [seated, known, room, own, held]

theorem oldest_due {target change number : Nat} {kind : RelayKind}
    (oldest : hub.oldest target change = true) (held : hub.Has (.priority target kind number)) :
    change ≤ number := by
  obtain ⟨ops, member, listed⟩ := held
  simp only [Hub.oldest, List.all_eq_true] at oldest
  have bound := oldest ops member _ listed
  simpa using bound

theorem priority_performed {target change : Nat} {kind : RelayKind}
    (found : hub.threads[thread]? = some (.priority target kind change :: rest))
    (none : brought outcome = []) :
    hub.board.Performed (hub.advance thread rest outcome).board target kind change where
  was := ⟨_, List.mem_of_getElem? found, List.mem_cons_self⟩
  fewer := by
    intro id other number held
    rcases has_advance found held with old | new
    · exact old
    · rw [none] at new
      cases new
  rest := by
    intro id other number held
    rcases advance_has found held with kept | same
    · exact Or.inl kept
    · cases same
      exact Or.inr ⟨rfl, rfl, rfl⟩

theorem priority_moves {target change : Nat} {kind : RelayKind}
    (usual : regular (.priority target kind change) = true) (sound : hub.board.Sound)
    (found : hub.threads[thread]? = some (.priority target kind change :: rest))
    (ordered : hub.orderly (.step thread answer) = true) :
    Board.Move hub.board
      (hub.advance thread rest ((hub.sendPriority target kind answer).outcome [] [])).board := by
  have performed : hub.board.Performed (hub.advance thread rest
      ((hub.sendPriority target kind answer).outcome [] [])).board target kind change :=
    priority_performed found (by simp)
  obtain ⟨face, session, shown, room⟩ := sound.known target kind change performed.was
  obtain ⟨socket, known, rfl⟩ := Option.map_eq_some_iff.mp shown
  obtain ⟨news, meant⟩ := Option.isSome_iff_exists.mp (show kind.presence.isSome = true from usual)
  obtain ⟨store, _, changes⟩ := sendPriority_rooms hub target kind answer
  have seats : (hub.sendPriority target kind answer).store.seats = hub.store.seats :=
    seats_of_heap (by rw [store])
  have wrote : ((hub.writeFrames target [.control kind]).board.face) = Function.update
      hub.board.face target (some { socket.face with presence := socket.presence ++ [news] }) := by
    rw [writeFrames, face_update known]
    simp [Connection.face, Connection.presence, Frame.presence, meant]
  simp only [orderly, found, Bool.or_eq_true, Bool.not_eq_true', Bool.and_eq_true,
    bne_iff_ne] at ordered
  rcases ordered with unseated | ⟨⟨opened, sent⟩, oldest⟩
  · have away : ∀ session slot endpoint, (hub.board.seats session).get? slot = some endpoint →
        endpoint.id ≠ target := by
      intro session slot endpoint held same
      rw [seated_of_seat sound held same] at unseated
      cases unseated
    by_cases lost : (hub.isClosed target || answer == .failed) = true
    · refine .astray target kind change socket.face socket.face shown performed away rfl ?_ seats
        changes
      change (hub.sendPriority target kind answer).board.face = _
      rw [sendPriority_eq, writeMessage, if_pos lost, ← shown, Function.update_eq_self]
    · refine .astray target kind change socket.face
        { socket.face with presence := socket.presence ++ [news] } shown performed away rfl ?_
        seats changes
      change (hub.sendPriority target kind answer).board.face = _
      rw [sendPriority_eq, writeMessage, if_neg lost]
      exact wrote
  · refine .written target kind change socket.face news shown meant performed ?_ ?_ seats changes
    · intro other number held
      exact oldest_due oldest held
    · change (hub.sendPriority target kind answer).board.face = _
      have kept : ¬ (hub.isClosed target || answer == .failed) = true := by
        simp [opened, sent]
      rw [sendPriority_eq, writeMessage, if_neg kept]
      exact wrote

/-- What the projection needs of the hub. -/
structure Regular (hub : Hub) : Prop where
  rooms : hub.store.Rooms
  housed : hub.Housed
  usual : hub.Pending fun op => regular op = true
  tickets : hub.Tickets

theorem call_moves (call : Call) : Board.Move hub.board
    ({ hub with threads := hub.threads ++ [(hub.begin call).1] } : Hub).board := by
  refine .still rfl rfl rfl ?_
  intro id kind change
  constructor
  · rintro ⟨ops, member, listed⟩
    rcases List.mem_append.mp member with old | new
    · exact ⟨ops, old, listed⟩
    · cases List.mem_singleton.mp new
      cases begin_begins listed
  · rintro ⟨ops, member, listed⟩
    exact ⟨ops, List.mem_append_left _ member, listed⟩

/-- Every orderly step of the hub is a move on its board. -/
theorem step_moves (known : hub.Regular) (sound : hub.board.Sound)
    (ordered : hub.orderly event = true) (stepped : hub.step event = some (after, notes)) :
    Board.Move hub.board after.board := by
  rcases step_cases stepped with ⟨elapsed, rfl, rfl, rfl⟩ | ⟨call, rfl, rfl, rfl⟩ |
    ⟨thread, answer, op, rest, outcome, rfl, found, ran, rfl, rfl⟩
  · exact .still rfl rfl rfl (fun _ _ _ => Iff.rfl)
  · exact call_moves call
  · have usual := known.usual _ (List.mem_of_getElem? found) op List.mem_cons_self
    have housed := known.housed _ (List.mem_of_getElem? found) op List.mem_cons_self
    change Board.Move hub.board (hub.advance thread rest outcome).board
    cases op with
    | priority target kind change =>
        cases ran
        exact priority_moves usual sound found ordered
    | join conn session => exact join_moves known.rooms known.tickets found ran
    | detach conn => exact detach_moves known.rooms found ran
    | drain session =>
        have due := due_still found (by simp) (brought_no_priority ran (by simp) (by simp))
        cases run_turn ran with
        | drained _ _ room stored => exact drain_moves known.rooms stored due
    | closeSession session =>
        have due := due_still found (by simp) (brought_no_priority ran (by simp) (by simp))
        cases run_turn ran with
        | closed _ _ room stored => exact drain_moves known.rooms stored due
    | upgrade ip code slotToken =>
        have due := due_still found (by simp) (brought_no_priority ran (by simp) (by simp))
        cases run_turn ran with
        | unopened => exact .still rfl rfl rfl due
        | opened =>
            exact .opened hub.connections.length slotToken (by simp [board])
              (face_opened slotToken ip _ rfl) rfl rfl due
    | addConnection => cases housed
    | removeConnection => cases housed
    | drainConnections => cases housed
    | _ =>
        obtain ⟨seats, changes⟩ := run_seats ran rfl
        exact still_moves found (by simp) (brought_no_priority ran (by simp) (by simp))
          (run_face ran usual (by simp) (by simp) (by simp)) seats changes

theorem regular_of_step (served : Served hub event) (known : hub.Regular)
    (stepped : hub.step event = some (after, notes)) : after.Regular where
  rooms := step_rooms known.rooms stepped
  housed := housed_step served stepped known.housed
  usual := regular_step stepped known.usual
  tickets := tickets_step stepped known.usual known.tickets

theorem newHub_regular (config : Config) (ttl : Time) : (newHub config ttl).Regular where
  rooms := newHub_rooms config ttl
  housed := newHub_pending config ttl
  usual := newHub_pending config ttl
  tickets := fun _ => Nat.le_refl _

/-- Nobody is entering or leaving: the goroutines of the sockets only read and write. -/
def settled (hub : Hub) : Bool :=
  hub.threads.all fun ops => ops.all fun op =>
    match op with
    | .read _ | .pump _ => true
    | _ => false

theorem settled_quiet (quiet : hub.settled = true) {target change : Nat} {kind : RelayKind} :
    ¬ hub.Has (.priority target kind change) := by
  rintro ⟨ops, member, listed⟩
  simp only [settled, List.all_eq_true] at quiet
  have wrong := quiet ops member _ listed
  cases wrong

theorem newHub_sound (config : Config) (ttl : Time) : (newHub config ttl).board.Sound where
  seated := fun _ _ _ held => by cases held
  blank := fun _ _ found => by cases found
  late := by rintro id kind change ⟨ops, member, _⟩; cases member
  known := by rintro id kind change ⟨ops, member, _⟩; cases member
  informed := fun _ _ _ held => by cases held

end Moves

end Hub

section Runs
variable {config : Config} {ttl : Time} {hub : Hub} {history : List Note}

/-- The runs of the server in which presence frames keep the order of the changes
they report. -/
def Orderly (hub : Hub) (event : Event) : Prop := Served hub event ∧ hub.orderly event = true

instance decidableOrderly (hub : Hub) (event : Event) : Decidable (Orderly hub event) :=
  inferInstanceAs (Decidable (_ ∧ _))

/-- The last presence frame a seated socket was written says whether the other slot
is taken, as soon as no frame for it is left to write. -/
theorem presence_matches_membership
    (run : machine.Run Orderly (newHub config ttl) hub history) :
    ∀ session slot endpoint, (hub.store.seats session).get? slot = some endpoint →
      (∀ kind change, ¬ hub.Has (.priority endpoint.id kind change)) →
      ∃ socket, hub.connections[endpoint.id]? = some socket ∧
        lastPresence socket.presence = occupied (hub.store.seats session) slot := by
  have both := run.state_invariant (fun hub => hub.Regular ∧ hub.board.Sound)
    ⟨Hub.newHub_regular config ttl, Hub.newHub_sound config ttl⟩
    (by
      rintro before event after notes ⟨known, sound⟩ ⟨served, ordered⟩ stepped
      exact ⟨Hub.regular_of_step served known stepped,
        (Hub.step_moves known sound ordered stepped).sound sound⟩)
  intro session slot endpoint held quiet
  obtain ⟨face, found, _⟩ := both.2.seated session slot endpoint held
  obtain ⟨socket, known, rfl⟩ := Option.map_eq_some_iff.mp found
  exact ⟨socket, known, (both.2.informed session slot endpoint held).told quiet _ found⟩

end Runs

section Samples

/-- The second socket leaves, and its successor is there and announced before the
goroutine of the first one writes that it has left. -/
def departureToldLate : List Event :=
  roomJoined ++ socketJoined 3 2 secondSlot ++
    .step 3 (.incoming .failed) :: proceed 3 2 ++ socketJoined 5 2 secondSlot ++ proceed 3 2

end Samples

theorem sample_presence_matches :
    ∃ hub history, machine.execute (newHub sampleConfig 10)
        (roomJoined ++ socketJoined 3 2 secondSlot) = some (hub, history) ∧
      hub.settled = true ∧ ∃ socket, hub.connections[0]? = some socket ∧
        lastPresence socket.presence = occupied (hub.store.seats 0) firstSlot := by
  have reached : (machine.execute (newHub sampleConfig 10)
      (roomJoined ++ socketJoined 3 2 secondSlot)).map
      (fun result => (result.1.settled, (result.1.store.seats 0).get? firstSlot)) =
      some (true, some ⟨0, firstSlot⟩) := by decide +kernel
  obtain ⟨⟨hub, history⟩, ran, shown⟩ := Option.map_eq_some_iff.mp reached
  obtain ⟨quiet, held⟩ := Prod.mk.inj shown
  have along : machine.Along Orderly (newHub sampleConfig 10)
      (roomJoined ++ socketJoined 3 2 secondSlot) := by decide +kernel
  exact ⟨hub, history, ran, quiet, presence_matches_membership
    (Machine.execute_run _ along ran) 0 firstSlot ⟨0, firstSlot⟩ held
    fun _ _ => Hub.settled_quiet quiet⟩

/-- Both slots are taken and all is settled, yet the last thing the first socket
was told is that it is alone. -/
theorem stale_departure_frame_is_last :
    ∃ hub history, machine.Run Served (newHub sampleConfig 10) hub history ∧
      hub.settled = true ∧
      (hub.store.seats 0).get? firstSlot = some ⟨0, firstSlot⟩ ∧
      (hub.store.seats 0).get? secondSlot = some ⟨2, secondSlot⟩ ∧
      ∃ socket, hub.connections[0]? = some socket ∧ socket.closed = false ∧
        socket.presence = [true, true, false] := by
  have reached : (machine.execute (newHub sampleConfig 10) departureToldLate).map
      (fun result => (decide (result.1.settled = true ∧
          (result.1.store.seats 0).get? firstSlot = some ⟨0, firstSlot⟩ ∧
          (result.1.store.seats 0).get? secondSlot = some ⟨2, secondSlot⟩),
        (result.1.connections[0]?).map fun socket => (socket.closed, socket.presence))) =
      some (true, some (false, [true, true, false])) := by decide +kernel
  obtain ⟨⟨hub, history⟩, ran, shown⟩ := Option.map_eq_some_iff.mp reached
  obtain ⟨taken, told⟩ := Prod.mk.inj shown
  obtain ⟨quiet, first, second⟩ := of_decide_eq_true taken
  obtain ⟨socket, known, told⟩ := Option.map_eq_some_iff.mp told
  obtain ⟨opened, frames⟩ := Prod.mk.inj told
  have along : machine.Along Served (newHub sampleConfig 10) departureToldLate := by
    decide +kernel
  exact ⟨hub, history, Machine.execute_run departureToldLate along ran, quiet, first, second,
    socket, known, opened, frames⟩

end OnlyTwo.Relay
