import OnlyTwo.RelayInvariant
import OnlyTwo.RelayThreads

/-!
Who a frame is relayed to. `PeerOf` tells sockets apart by their identifier, so
a frame whose socket has lost its slot to a newer socket finds that newer socket
as its peer. Unless the slot of the sender has passed to another socket, the
frame goes to the other slot.
-/

namespace OnlyTwo.Relay

namespace Session

section Peers
variable {session : Session} {conn : Nat} {now : Time} {slot : String} {peer : Endpoint}

theorem mem_peersOf (peers : peer ∈ session.peersOf conn now) :
    peer ∈ session.conns.values ∧ peer.id ≠ conn := by
  simp only [peersOf] at peers
  split at peers
  · cases peers
  · simpa using peers

/-- A room that holds somebody is neither closed nor expired, so `PeerOf` looks. -/
theorem peersOf_of_get? (valid : session.Valid) (held : session.conns.get? slot = some peer)
    (other : peer.id ≠ conn) : peer ∈ session.peersOf conn now := by
  have occupied := size_ne_zero_of_get? held
  have usable : (session.closed || session.expiredLocked now) = false := by
    rw [Bool.or_eq_false_iff]
    constructor
    · cases closed : session.closed with
      | false => rfl
      | true => exact absurd (valid.shut closed) occupied
    · cases expired : session.expiredLocked now with
      | false => rfl
      | true => exact absurd (expiredLocked_iff.mp expired).1 occupied
  have entry := (session.conns.get?_eq_some_iff slot peer).mp held
  simp only [peersOf, usable, Bool.false_eq_true, ↓reduceIte, List.mem_filter, decide_eq_true_eq]
  exact ⟨List.mem_map.mpr ⟨_, entry, rfl⟩, other⟩

theorem get?_of_mem_values (valid : session.Valid) (member : peer ∈ session.conns.values) :
    session.conns.get? peer.slotToken = some peer := by
  obtain ⟨entry, listed, rfl⟩ := List.mem_map.mp member
  have held := (session.conns.get?_eq_some_iff entry.1 entry.2).mpr listed
  rw [(valid.placed entry.1 entry.2 held).1]
  exact held

/-- Whatever order the map is visited in, the answer has another slot than `slot`
exactly when `slot` is free or still belongs to the asking socket. -/
theorem peerOf_other_slot_iff (valid : session.Valid) :
    (∀ pick peer, session.peerOf conn now pick = some peer →
      peer ∈ session.conns.values ∧ peer.slotToken ≠ slot) ↔
      ∀ holder, session.conns.get? slot = some holder → holder.id = conn := by
  constructor
  · intro apart holder held
    apply Classical.byContradiction
    intro replaced
    have listed : holder ∈ session.peersOf conn now := peersOf_of_get? valid held replaced
    obtain ⟨pick, chosen⟩ := exists_choose listed
    exact (apart pick holder chosen).2 (valid.placed slot holder held).1
  · intro own pick peer chosen
    obtain ⟨member, different⟩ := mem_peersOf (mem_of_choose chosen)
    refine ⟨member, ?_⟩
    intro same
    exact different (own peer (same ▸ get?_of_mem_values valid member))

end Peers

end Session

namespace Hub

/-- The slot of a socket is free in its room or still its own. -/
def unreplaced (hub : Hub) (conn : Nat) : Bool :=
  match hub.connections[conn]? with
  | none => true
  | some socket =>
      match socket.session.bind (hub.store.heap[·]?) with
      | none => true
      | some room =>
          match room.conns.get? socket.slotToken with
          | none => true
          | some holder => holder.id == conn

/-- If the event relays a frame, the sender has not been replaced. -/
def relaysUnreplaced (hub : Hub) : Event → Bool
  | .step thread _ =>
      match hub.threads[thread]? with
      | some (.relay conn _ :: _) => hub.unreplaced conn
      | _ => true
  | _ => true

theorem unreplaced_holder {hub : Hub} {conn session : Nat} {socket : Connection} {room : Session}
    (known : hub.connections[conn]? = some socket) (own : socket.session = some session)
    (found : hub.store.heap[session]? = some room) (kept : hub.unreplaced conn = true) :
    ∀ holder, room.conns.get? socket.slotToken = some holder → holder.id = conn := by
  intro holder held
  simpa [unreplaced, known, own, found, held] using kept

end Hub

section Runs
variable {config : Config} {ttl : Time} {hub : Hub} {history : List Note}
  {allowed : Hub → Event → Prop}

theorem newHub_rooms (config : Config) (ttl : Time) : (newHub config ttl).store.Rooms := by
  intro ref session found
  cases found

theorem step_rooms {after : Hub} {event : Event} {notes : List Note} (rooms : hub.store.Rooms)
    (stepped : hub.step event = some (after, notes)) : after.store.Rooms := by
  obtain ⟨reading, performed, _⟩ := Hub.step_section stepped
  exact Store.section_rooms rooms performed

theorem run_rooms (run : machine.Run allowed (newHub config ttl) hub history) :
    hub.store.Rooms := by
  apply run.state_invariant (fun hub => hub.store.Rooms) (newHub_rooms config ttl)
  · intro before event after notes rooms _ stepped
    exact step_rooms rooms stepped

/-- Every frame went to a slot other than its sender's. -/
def Crossed (hub : Hub) (past : List Note) : Prop :=
  ∀ source target session, .handed source target session ∈ past →
    ∃ socket, hub.connections[source]? = some socket ∧ target.slotToken ≠ socket.slotToken

theorem crossed_step {after : Hub} {past notes : List Note} {event : Event}
    (rooms : hub.store.Rooms) (crossed : Crossed hub past)
    (kept : hub.relaysUnreplaced event = true)
    (stepped : hub.step event = some (after, notes)) : Crossed after (past ++ notes) := by
  intro source target session noted
  have now : ∃ socket, hub.connections[source]? = some socket ∧
      target.slotToken ≠ socket.slotToken := by
    rcases List.mem_append.mp noted with old | new
    · exact crossed source target session old
    · rcases Hub.step_cases stepped with ⟨elapsed, rfl, rfl, rfl⟩ | ⟨call, rfl, rfl, rfl⟩ |
        ⟨thread, answer, op, rest, outcome, rfl, found, ran, rfl, rfl⟩
      · cases new
      · obtain ⟨error, wrong⟩ := Hub.begin_refused new
        cases wrong
      · cases Hub.run_tells ran new with
        -- Only `PeerOf` hands frames over.
        | handed conn session data socket room peer pick known own stored chosen =>
            simp only [Hub.relaysUnreplaced, found] at kept
            have holders := Hub.unreplaced_holder known own stored kept
            have apart := (Session.peerOf_other_slot_iff (rooms session room stored)).mpr holders
              pick target chosen
            exact ⟨socket, known, apart.2⟩
  obtain ⟨socket, known, apart⟩ := now
  -- A socket keeps its slot for as long as it lives.
  obtain ⟨socket', known', lasts⟩ := Hub.step_lasts stepped source socket known
  exact ⟨socket', known', lasts.slotToken ▸ apart⟩

/-- In every reachable state, the answers of `PeerOf` are attached to the room of
the asking socket, and they avoid its slot exactly while that slot has not passed
to another socket. In every run that relays only then, each frame went to another
slot than its sender's. -/
theorem relay_avoids_own_slot (config : Config) (ttl : Time) (hub : Hub) (history : List Note) :
    (machine.Run Machine.Unrestricted (newHub config ttl) hub history →
      ∀ (conn session : Nat) (socket : Connection) (room : Session),
        hub.connections[conn]? = some socket → socket.session = some session →
        hub.store.heap[session]? = some room →
        ((∀ pick peer, room.peerOf conn hub.store.clock pick = some peer →
            peer ∈ room.conns.values ∧ peer.slotToken ≠ socket.slotToken) ↔
          ∀ holder, room.conns.get? socket.slotToken = some holder → holder.id = conn)) ∧
    (machine.Run (fun hub event => hub.relaysUnreplaced event = true) (newHub config ttl)
        hub history →
      ∀ source target session, .handed source target session ∈ history →
        ∃ socket, hub.connections[source]? = some socket ∧
          target.slotToken ≠ socket.slotToken) := by
  constructor
  · intro run conn session socket room _ _ found
    exact Session.peerOf_other_slot_iff (run_rooms run session room found)
  · intro run
    have both := run.invariant (fun hub past => hub.store.Rooms ∧ Crossed hub past)
      ⟨newHub_rooms config ttl, fun _ _ _ noted => by cases noted⟩
      (by
        rintro before past event after notes ⟨rooms, crossed⟩ kept stepped
        exact ⟨step_rooms rooms stepped,
          crossed_step rooms crossed kept stepped⟩)
    exact both.2

end Runs

section Samples

/-- A socket reads a data frame and is about to relay it. -/
def frameRead (thread : Nat) : Event := .step thread (.incoming (.binary [7]))

/-- Two sockets in different slots, and a frame from the first. -/
def frameRelayed : List Event :=
  roomJoined ++ socketJoined 3 2 secondSlot ++ frameRead 1 :: proceed 1 1

/-- A frame is read, a newer socket takes the slot of its sender, and then the
frame is relayed. -/
def frameRelayedLate : List Event :=
  roomJoined ++ frameRead 1 :: socketJoined 3 1 firstSlot ++ proceed 1 1

end Samples

theorem sample_frame_crosses :
    ∃ hub history, machine.execute (newHub sampleConfig 10) frameRelayed = some (hub, history) ∧
      .handed 0 ⟨1, secondSlot⟩ 0 ∈ history ∧
      ∃ socket, hub.connections[0]? = some socket ∧ secondSlot ≠ socket.slotToken := by
  have reached : (machine.execute (newHub sampleConfig 10) frameRelayed).map
      (fun result => decide (.handed 0 ⟨1, secondSlot⟩ 0 ∈ result.2)) = some true := by
    decide +kernel
  obtain ⟨⟨hub, history⟩, ran, noted⟩ := Option.map_eq_some_iff.mp reached
  have noted := of_decide_eq_true noted
  have along : machine.Along (fun hub event => hub.relaysUnreplaced event = true)
      (newHub sampleConfig 10) frameRelayed := by decide +kernel
  exact ⟨hub, history, ran, noted, (relay_avoids_own_slot sampleConfig 10 hub history).2
    (Machine.execute_run frameRelayed along ran) 0 ⟨1, secondSlot⟩ 0 noted⟩

/-- The newer socket gets the frame that the older one of its slot had read. -/
theorem frame_returned_to_own_slot :
    ∃ hub history, machine.Run Served (newHub sampleConfig 10) hub history ∧
      ∃ socket, hub.connections[0]? = some socket ∧ socket.slotToken = firstSlot ∧
        .handed 0 ⟨1, firstSlot⟩ 0 ∈ history := by
  have reached : (machine.execute (newHub sampleConfig 10) frameRelayedLate).map
      (fun result => (decide (.handed 0 ⟨1, firstSlot⟩ 0 ∈ result.2),
        (result.1.connections[0]?).map Connection.slotToken)) = some (true, some firstSlot) := by
    decide +kernel
  obtain ⟨⟨hub, history⟩, ran, shown⟩ := Option.map_eq_some_iff.mp reached
  obtain ⟨noted, slot⟩ := Prod.mk.inj shown
  obtain ⟨socket, known, own⟩ := Option.map_eq_some_iff.mp slot
  have along : machine.Along Served (newHub sampleConfig 10) frameRelayedLate := by
    decide +kernel
  exact ⟨hub, history, Machine.execute_run frameRelayedLate along ran, socket, known, own,
    of_decide_eq_true noted⟩

end OnlyTwo.Relay
