import OnlyTwo.EnvelopeCodec
import OnlyTwo.RelayThreads

/-!
Control frames as both ends read them. The relay's `parseRelayControl` and the
client's `decodeType` accept the same bytes, and an envelope is never one of them.
In every run of the relay the frames that come from a participant are none of the
relay's own, and those that the relay makes itself are the events they stand for.
-/

namespace OnlyTwo.Relay

open Transport (RelayControlType decodeType decodeRelayEvent)

/-- The kind as the client names it. -/
def RelayKind.type : RelayKind → RelayControlType
  | .peerPresent => .peerPresent
  | .peerDisconnected => .peerDisconnected
  | .peerRejoined => .peerRejoined
  | .sessionEnd => .sessionEnd
  | .sessionEnded => .sessionEnded

/-- The event a frame of the relay stands for; `sessionEnd` is a command. -/
def RelayKind.event : RelayKind → Option Session.RelayEvent
  | .peerPresent => some .peerPresent
  | .peerDisconnected => some .peerDisconnected
  | .peerRejoined => some .peerRejoined
  | .sessionEnd => none
  | .sessionEnded => some .sessionEnded

section Parsers

theorem find_kind (last : UInt8) :
    (RelayKind.all.find? fun kind => kind.byte == last).map RelayKind.type =
      Transport.relayControlTypeOf last := by
  unfold Transport.relayControlTypeOf
  split
  · rfl
  · rfl
  · rfl
  · rfl
  · rfl
  · rename_i first second third fourth fifth
    have none : RelayKind.all.find? (fun kind => kind.byte == last) = none := by
      simp only [List.find?_eq_none, RelayKind.all, List.mem_cons, List.not_mem_nil, or_false,
        beq_iff_eq]
      rintro kind (rfl | rfl | rfl | rfl | rfl) same
      · exact first same.symm
      · exact second same.symm
      · exact third same.symm
      · exact fourth same.symm
      · exact fifth same.symm
    rw [none]
    rfl

/-- Both parsers accept the same bytes with the same kind. -/
theorem parsers_agree (data : Bytes) :
    (parseRelayControl data).map RelayKind.type = decodeType data := by
  unfold parseRelayControl decodeType
  split
  · rename_i last
    simp only [Transport.relayMagicA, Transport.relayMagicB, Transport.relayVersion, ne_eq,
      not_true_eq_false, or_self, if_false]
    exact find_kind last
  · rename_i other
    split
    · rename_i first second version kind
      rw [if_pos]
      · rfl
      · by_contra known
        simp only [not_or, not_not] at known
        obtain ⟨rfl, rfl, rfl⟩ := known
        exact other kind rfl
    · rfl

theorem parse_none {data : Bytes} (forwarded : parseRelayControl data = none) :
    decodeRelayEvent data = none := by
  have same := parsers_agree data
  rw [forwarded] at same
  rw [decodeRelayEvent, ← same]
  rfl

theorem parse_length {data : Bytes} (long : data.length ≠ 4) : parseRelayControl data = none := by
  unfold parseRelayControl
  split
  · exact absurd rfl long
  · rfl

theorem decode_frame (kind : RelayKind) :
    decodeRelayEvent (relayControlFrame kind) = kind.event := by
  cases kind <;> rfl

end Parsers

section Genuine

/-- What the relay may put on a socket: events of its own, and frames of a
participant that are no control frames. -/
def Frame.Genuine : Frame → Prop
  | .control kind => kind ≠ .sessionEnd
  | .data bytes => parseRelayControl bytes = none
  | .close .. => True

def Op.Genuine : Op → Prop
  | .relay _ data | .deliver _ data => parseRelayControl data = none
  | .priority _ kind _ | .closeWithControl _ kind => kind ≠ .sessionEnd
  | .write _ frame => frame.Genuine
  | _ => True

structure Connection.Genuine (socket : Connection) : Prop where
  queued : ∀ data ∈ socket.sendChan, parseRelayControl data = none
  written : ∀ frame ∈ socket.written, frame.Genuine

namespace Hub

variable {hub after : Hub} {outcome : Outcome} {answer : Answer} {conn session : Nat} {op new : Op}

def Untainted (hub : Hub) : Prop :=
  ∀ socket ∈ hub.connections, socket.Genuine

theorem genuine_of_plain (plain : new.plain = true) : new.Genuine := by
  cases new with
  | write target frame =>
      cases frame with
      | close => trivial
      | _ => cases plain
  | relay => cases plain
  | deliver => cases plain
  | priority => cases plain
  | closeWithControl => cases plain
  | _ => trivial

/-- What an operation turns into is as genuine as the operation: a frame is passed on only
after the parser has refused it, and then byte for byte. -/
theorem brings_genuine (genuine : op.Genuine) (brings : Brings hub op new) : new.Genuine := by
  cases brings with
  | plain _ _ plain => exact genuine_of_plain plain
  | took _ _ refused => exact refused
  | handed => exact genuine
  | joined _ _ _ _ kind _ _ _ _ _ _ _ _ _ which =>
      rcases which with ⟨_, rfl | rfl⟩ | ⟨_, rfl⟩ <;> exact RelayKind.noConfusion
  | left => exact RelayKind.noConfusion
  | drained => exact RelayKind.noConfusion
  | _ => trivial

theorem Untainted.modify (untainted : hub.Untainted) (id : Nat) {change : Connection → Connection}
    (keeps : ∀ socket : Connection, socket.Genuine → (change socket).Genuine) :
    (hub.modifyConnection id change).Untainted := by
  intro socket member
  obtain ⟨place, found⟩ := List.mem_iff_getElem?.mp member
  rw [getElem?_modify] at found
  split at found
  · obtain ⟨old, known, rfl⟩ := Option.map_eq_some_iff.mp found
    exact keeps old (untainted old (List.mem_of_getElem? known))
  · exact untainted socket (List.mem_of_getElem? found)

theorem Untainted.writeFrames (untainted : hub.Untainted) (id : Nat) {frames : List Frame}
    (genuine : ∀ frame ∈ frames, frame.Genuine) : (hub.writeFrames id frames).Untainted := by
  apply untainted.modify
  intro socket holds
  refine ⟨holds.queued, fun frame member => ?_⟩
  rcases List.mem_append.mp member with old | new
  · exact holds.written frame old
  · exact genuine frame new

theorem Untainted.send (untainted : hub.Untainted) (id : Nat) {data : Bytes}
    (refused : parseRelayControl data = none) : (hub.send id data).Untainted := by
  unfold Hub.send
  split
  · exact untainted
  · apply untainted.modify
    intro socket holds
    split
    · refine ⟨fun other member => ?_, holds.written⟩
      rcases List.mem_append.mp member with old | new
      · exact holds.queued other old
      · cases List.mem_singleton.mp new
        exact refused
    · exact holds

theorem Untainted.writeMessage (untainted : hub.Untainted) (id : Nat) {frame : Frame}
    (genuine : frame.Genuine) : (hub.writeMessage id frame answer).Untainted := by
  unfold Hub.writeMessage
  split
  · exact untainted
  · exact untainted.writeFrames id (List.forall_mem_singleton.mpr genuine)

/-- The pump takes what was queued, and writes it or loses it. -/
theorem Untainted.pumped (untainted : hub.Untainted) {socket : Connection} {data : Bytes}
    {rest : List Bytes} (known : hub.connections[conn]? = some socket)
    (queued : socket.sendChan = data :: rest) (frames : List Frame)
    (own : ∀ frame ∈ frames, frame = .data data) :
    (hub.modifyConnection conn fun socket => { socket with
      sendChan := rest
      written := socket.written ++ frames }).Untainted := by
  have genuine := untainted socket (List.mem_of_getElem? known)
  have head : parseRelayControl data = none := genuine.queued data (by simp [queued])
  apply untainted.modify
  intro other holds
  refine ⟨fun waiting member => ?_, fun frame member => ?_⟩
  · exact genuine.queued waiting (by simp [queued, member])
  · rcases List.mem_append.mp member with old | new
    · exact holds.written frame old
    · rw [own frame new]
      exact head

theorem Untainted.opened (untainted : hub.Untainted) (slotToken ip : String) :
    Untainted { hub with connections := hub.connections ++ [newConnection slotToken ip] } := by
  intro socket member
  rcases List.mem_append.mp member with old | new
  · exact untainted socket old
  · cases List.mem_singleton.mp new
    exact ⟨by simp [newConnection], by simp [newConnection]⟩

theorem Untainted.run (untainted : hub.Untainted) (ran : hub.run op answer = some outcome)
    (genuine : op.Genuine) : outcome.hub.Untainted := by
  cases run_turn ran with
  | reserved _ _ _ _ after free =>
      cases reserveIp_some hub free
      exact untainted
  | opened ip code slotToken => exact untainted.opened slotToken ip
  | seated => exact untainted.modify _ fun socket holds => ⟨holds.queued, holds.written⟩
  | sent target => exact untainted.send target genuine
  | released ip =>
      unfold Untainted
      rw [outcome_hub, releaseIp_connections]
      exact untainted
  | shut target => exact untainted.modify target fun socket holds => ⟨holds.queued, holds.written⟩
  | parted target kind _ frames among =>
      refine untainted.writeFrames target fun frame member => ?_
      rcases List.mem_cons.mp (among member) with rfl | close
      · exact genuine
      · cases List.mem_singleton.mp close
        trivial
  | unparted target kind _ frames among =>
      refine untainted.writeFrames target fun frame member => ?_
      cases List.mem_singleton.mp (among member)
      trivial
  | told target kind =>
      rw [outcome_hub, sendPriority_eq]
      exact untainted.writeMessage target genuine
  | wrote target => exact untainted.writeMessage target genuine
  | lost conn _ socket data rest known queued =>
      simpa using untainted.pumped known queued [] (List.forall_mem_nil _)
  | pumped conn _ socket data rest known queued =>
      exact untainted.pumped known queued [.data data] (List.forall_mem_singleton.mpr rfl)
  | _ => exact untainted

theorem begins_genuine {call : Call} (begins : Begins hub call new) : new.Genuine := by
  cases begins <;> trivial

/-- One step of the relay, whichever goroutine takes it. -/
theorem step_genuine {event : Event} {notes : List Note}
    (stepped : hub.step event = some (after, notes))
    (holds : hub.Pending Op.Genuine ∧ hub.Untainted) :
    after.Pending Op.Genuine ∧ after.Untainted := by
  obtain ⟨pending, untainted⟩ := holds
  refine ⟨pending_step stepped pending (fun _ same => same)
    (fun _ _ _ begins => begins_genuine begins) fun _ _ => brings_genuine, ?_⟩
  rcases step_cases stepped with ⟨elapsed, rfl, rfl, rfl⟩ | ⟨call, rfl, rfl, rfl⟩ |
    ⟨thread, answer, first, rest, outcome, rfl, found, ran, rfl, rfl⟩
  · exact untainted
  · exact untainted
  · exact untainted.run ran (pending _ (List.mem_of_getElem? found) first List.mem_cons_self)

end Hub

end Genuine

theorem run_untainted {config : Config} {ttl : Time} {hub : Hub} {history : List Note}
    (run : machine.Run Machine.Unrestricted (newHub config ttl) hub history) : hub.Untainted := by
  have both : hub.Pending Op.Genuine ∧ hub.Untainted := by
    apply run.state_invariant (fun hub => hub.Pending Op.Genuine ∧ hub.Untainted)
    · exact ⟨by simp [Hub.Pending, newHub], by simp [Hub.Untainted, newHub]⟩
    · intro before event after notes holds _ stepped
      exact Hub.step_genuine stepped holds
  exact both.2

/-- A participant cannot make the other side believe in an event of the relay: the
parsers agree, envelopes are no control frames for either side, and in every run of
the relay a frame of a participant on a socket is no event while a frame of the
relay is the event it stands for. -/
theorem events_are_genuine :
    (∀ data, (parseRelayControl data).map RelayKind.type = decodeType data) ∧
    (∀ data, parseRelayControl data = none → decodeRelayEvent data = none) ∧
    (∀ profile bytes env, Transport.unpackEnvelope bytes profile = .ok env →
      parseRelayControl bytes = none ∧ decodeType bytes = none) ∧
    (∀ profile env bytes, Transport.packEnvelope env profile = .ok bytes →
      parseRelayControl bytes = none ∧ decodeType bytes = none) ∧
    ∀ config ttl hub history,
      machine.Run Machine.Unrestricted (newHub config ttl) hub history →
      ∀ socket ∈ hub.connections,
        (∀ bytes, .data bytes ∈ socket.written → decodeRelayEvent bytes = none) ∧
        ∀ kind, .control kind ∈ socket.written →
          ∃ event, kind.event = some event ∧
            decodeRelayEvent (relayControlFrame kind) = some event := by
  have apart : ∀ data : Bytes, data.length ≠ 4 →
      parseRelayControl data = none ∧ decodeType data = none := by
    intro data long
    have refused := parse_length long
    exact ⟨refused, by rw [← parsers_agree, refused]; rfl⟩
  refine ⟨parsers_agree, fun _ => parse_none, ?_, ?_, ?_⟩
  · intro profile bytes env read
    obtain ⟨_, unpacks, _⟩ := Transport.unpackEnvelope_ok.mp read
    have long : 38 ≤ bytes.length := unpacks.long
    exact apart bytes (by omega)
  · intro profile env bytes packed
    obtain ⟨packs, rfl⟩ := Transport.packEnvelope_ok.mp packed
    apply apart
    rw [List.length_append, Transport.headerOf_length _ _ packs.nonce]
    simp only [Envelope.aadBytes]
    omega
  · intro config ttl hub history run socket member
    have genuine := run_untainted run socket member
    refine ⟨fun bytes written => parse_none (genuine.written _ written), fun kind written => ?_⟩
    have event : kind ≠ .sessionEnd := genuine.written _ written
    cases kind with
    | sessionEnd => exact absurd rfl event
    | _ => exact ⟨_, rfl, decode_frame _⟩

end OnlyTwo.Relay
