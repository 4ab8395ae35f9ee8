import OnlyTwo.RelayPeers

/-!
What the relay does to the frames of the participants: `readLoop`, `Send` and `writeLoop` of
internal/ws/connection.go. The goroutine of a socket reads a frame and has `Send` put it into
the buffered channel of the peer before it reads the next one; the peer's `writeLoop` empties
the channel. A frame may be lost on the way, since nobody may be there, the channel may be full
or the write may fail, but none overtakes another, none is doubled and none comes from
elsewhere; a socket loses one frame to a failed write at most, for its `writeLoop` ends with
it. The relay's own outputs do not name the frames, so the same steps are run once more with
them for outputs.
-/

namespace OnlyTwo.Relay

/-- A goroutine has read a frame that is no control frame, `Send` has taken it, or its write
has failed. -/
inductive Passing where
  | took (thread : Nat) (data : Bytes)
  | queued (thread target : Nat) (data : Bytes)
  | lost (target : Nat) (data : Bytes)
  deriving DecidableEq

section Histories

def takenBy (thread : Nat) (history : List Passing) : List Bytes :=
  history.filterMap fun
    | .took source data => if source = thread then some data else none
    | .queued .. | .lost .. => none

def queuedBy (thread : Nat) (history : List Passing) : List Bytes :=
  history.filterMap fun
    | .took .. | .lost .. => none
    | .queued source _ data => if source = thread then some data else none

def queuedFor (target : Nat) (history : List Passing) : List Bytes :=
  history.filterMap fun
    | .took .. | .lost .. => none
    | .queued _ peer data => if peer = target then some data else none

def lostFor (target : Nat) (history : List Passing) : List Bytes :=
  history.filterMap fun
    | .took .. | .queued .. => none
    | .lost peer data => if peer = target then some data else none

theorem lostFor_append (target : Nat) (past passed : List Passing) :
    lostFor target (past ++ passed) = lostFor target past ++ lostFor target passed :=
  List.filterMap_append

theorem queuedFor_append (target : Nat) (past passed : List Passing) :
    queuedFor target (past ++ passed) = queuedFor target past ++ queuedFor target passed :=
  List.filterMap_append

end Histories

def Frame.payload : Frame → Option Bytes
  | .data bytes => some bytes
  | _ => none

/-- The frame of a participant that an operation carries. -/
def Op.load : Op → List Bytes
  | .relay _ data | .deliver _ data => [data]
  | _ => []

def firstLoad : List Op → List Bytes
  | op :: _ => op.load
  | [] => []

/-- The only frames written outside of `writeLoop` are the relay's own. -/
def Op.Closes : Op → Prop
  | .write _ frame => frame.payload = none
  | _ => True

/-- What a socket has been written, and what waits in its channel. -/
def Connection.stream (socket : Connection) : List Bytes × List Bytes :=
  (socket.written.filterMap Frame.payload, socket.sendChan)

/-- The operations on the way to the `writeLoop` of a socket, and the loop itself. -/
def Op.heads (target : Nat) : Op → Bool
  | .lookup (.attach conn) _ _ | .check (.attach conn) _ _ | .join conn _ | .enter conn
  | .pump conn => conn == target
  | _ => false

namespace Hub

def stream (hub : Hub) (target : Nat) : List Bytes × List Bytes :=
  ((hub.connections[target]?).map Connection.stream).getD ([], [])

/-- The frame a goroutine is about to pass on. -/
def loadOf (hub : Hub) (thread : Nat) : List Bytes :=
  ((hub.threads[thread]?).map firstLoad).getD []

/-- The socket is open and has room in its channel. -/
def accepts (hub : Hub) (target : Nat) : Bool :=
  !hub.isClosed target &&
    (hub.connections[target]?).any fun conn => conn.sendChan.length < hub.config.sendBufferSize

def passing (hub : Hub) (thread : Nat) : Op → Answer → List Passing
  | .read _, .incoming (.binary data) =>
      if parseRelayControl data = none then [.took thread data] else []
  | .deliver target data, _ => if hub.accepts target then [.queued thread target data] else []
  | .pump conn, .pick fault =>
      match hub.connections[conn]? with
      | none => []
      | some socket =>
          if socket.loses fault then socket.sendChan.head?.toList.map (Passing.lost conn) else []
  | _, _ => []

def passings (hub : Hub) : Event → List Passing
  | .step thread answer =>
      match hub.threads[thread]? with
      | some (op :: _) => hub.passing thread op answer
      | _ => []
  | _ => []

end Hub

/-- The relay, with the frames that pass through it for outputs. -/
def forwarding : Machine Hub Event Passing where
  step hub event := (hub.step event).map fun result => (result.1, hub.passings event)

namespace Hub

section Channels

variable {hub after : Hub} {outcome : Outcome} {answer : Answer} {op : Op} {thread : Nat}

theorem stream_of_connections (same : after.connections = hub.connections) (target : Nat) :
    after.stream target = hub.stream target := by
  rw [stream, same, stream]

theorem stream_modify (id : Nat) {change : Connection → Connection} (target : Nat)
    (keeps : ∀ socket : Connection, hub.connections[id]? = some socket →
      (change socket).stream = socket.stream) :
    (hub.modifyConnection id change).stream target = hub.stream target := by
  rw [stream, getElem?_modify]
  split
  · rename_i same
    rw [same, stream]
    cases found : hub.connections[id]? with
    | none => rfl
    | some socket => exact keeps socket found
  · rfl

theorem stream_writeFrames (id : Nat) {frames : List Frame} (target : Nat)
    (own : ∀ frame ∈ frames, frame.payload = none) :
    (hub.writeFrames id frames).stream target = hub.stream target := by
  apply stream_modify
  intro socket _
  simp only [Connection.stream, List.filterMap_append]
  rw [List.filterMap_eq_nil_iff.mpr own, List.append_nil]

theorem stream_writeMessage (id : Nat) {frame : Frame} (target : Nat)
    (own : frame.payload = none) :
    (hub.writeMessage id frame answer).stream target = hub.stream target := by
  simp only [writeMessage]
  split
  · rfl
  · exact stream_writeFrames id target (List.forall_mem_singleton.mpr own)

/-- `Send` appends to the channel or drops the frame. -/
theorem stream_send (id : Nat) (data : Bytes) (target : Nat) :
    (hub.send id data).stream target = ((hub.stream target).1,
      (hub.stream target).2 ++ if hub.accepts id ∧ id = target then [data] else []) := by
  unfold send
  split
  · rename_i closed
    rw [if_neg (by simp [accepts, closed]), List.append_nil]
  · rename_i opened
    cases found : hub.connections[id]? with
    | none => simp [isClosed, found] at opened
    | some socket =>
        by_cases room : socket.sendChan.length < hub.config.sendBufferSize
        · have taken : hub.accepts id = true := by
            simp [accepts, opened, found, room]
          rw [stream, getElem?_modify]
          by_cases same : target = id
          · subst same
            simp [found, room, taken, stream, Connection.stream]
          · simp [same, Ne.symm same, stream]
        · have full : hub.accepts id = false := by
            simp [accepts, found, room]
          rw [full, if_neg (by simp), List.append_nil]
          apply stream_modify
          intro other known
          rw [found] at known
          cases known
          rw [if_neg room]

/-- A new socket starts with an empty channel. -/
theorem stream_opened (slotToken ip : String) (target : Nat) :
    ({ hub with connections := hub.connections ++ [newConnection slotToken ip] } : Hub).stream
      target = hub.stream target := by
  rcases Nat.lt_trichotomy target hub.connections.length with below | rfl | above
  · simp only [stream, List.getElem?_append_left below]
  · simp [stream, Connection.stream, newConnection]
  · have absent : hub.connections[target]? = none := List.getElem?_eq_none (Nat.le_of_lt above)
    have still : (hub.connections ++ [newConnection slotToken ip])[target]? = none := by
      apply List.getElem?_eq_none
      rw [List.length_append]
      exact above
    simp only [stream, absent, still]

/-- The pump has taken the first frame out of the channel and written it, or lost it. -/
theorem stream_taken {conn : Nat} {socket : Connection} {data : Bytes} {rest : List Bytes}
    (known : hub.connections[conn]? = some socket) (queued : socket.sendChan = data :: rest)
    (frames : List Frame) :
    (hub.modifyConnection conn fun socket => { socket with
      sendChan := rest
      written := socket.written ++ frames }).stream conn =
        ((hub.stream conn).1 ++ frames.filterMap Frame.payload, rest) ∧
      (hub.stream conn).2 = data :: rest := by
  rw [stream, getElem?_modify, if_pos rfl, stream, known]
  simp [Connection.stream, queued]

/-- What an operation does to what a socket is written and to its channel. -/
inductive Flows (hub : Hub) (op : Op) (outcome : Outcome) (passed : List Passing)
    (target : Nat) : Prop where
  | grows : (outcome.hub.stream target).1 = (hub.stream target).1 →
      (outcome.hub.stream target).2 = (hub.stream target).2 ++ queuedFor target passed →
      lostFor target passed = [] → Flows hub op outcome passed target
  | takes (data : Bytes) : op = .pump target → queuedFor target passed = [] →
      (hub.stream target).2 = data :: (outcome.hub.stream target).2 →
      (outcome.hub.stream target).1 ++ lostFor target passed = (hub.stream target).1 ++ [data] →
      Flows hub op outcome passed target

theorem flows_still {passed : List Passing} {target : Nat}
    (same : outcome.hub.stream target = hub.stream target)
    (none : queuedFor target passed = [] ∧ lostFor target passed = []) :
    Flows hub op outcome passed target := by
  refine .grows (by rw [same]) ?_ none.2
  rw [same, none.1, List.append_nil]

theorem lost_elsewhere {conn target : Nat} (apart : target ≠ conn) (frames : List Bytes) :
    queuedFor target (frames.map (Passing.lost conn)) = [] ∧
      lostFor target (frames.map (Passing.lost conn)) = [] := by
  simp [queuedFor, lostFor, Ne.symm apart]

theorem passing_unpicked {conn : Nat} (picked : ∀ fault, answer ≠ .pick fault) :
    hub.passing thread (.pump conn) answer = [] := by
  cases answer with
  | pick fault => exact absurd rfl (picked fault)
  | _ => rfl

/-- Only `Send` puts a frame into a channel, and only the pump takes one out. -/
theorem run_flows (ran : hub.run op answer = some outcome) (closes : op.Closes) (target : Nat) :
    Flows hub op outcome (hub.passing thread op answer) target := by
  have read : ∀ (data : Bytes) (conn : Nat) (next : List Op),
      Flows hub (.read conn) (hub.outcome next [])
        (hub.passing thread (.read conn) (.incoming (.binary data))) target := by
    intro data conn next
    have same : (hub.outcome next []).hub.stream target = hub.stream target := rfl
    apply flows_still same
    simp only [passing]
    split <;> exact ⟨rfl, rfl⟩
  cases run_turn ran with
  | asked _ _ data => exact read data _ _
  | invalid _ _ data => exact read data _ _
  | ignored _ _ data => exact read data _ _
  | took _ _ data => exact read data _ _
  | reserved _ _ _ _ after free =>
      cases reserveIp_some hub free
      exact flows_still rfl ⟨rfl, rfl⟩
  | opened ip code slotToken => exact flows_still (stream_opened slotToken ip target) ⟨rfl, rfl⟩
  | seated => exact flows_still (stream_modify _ target fun _ _ => rfl) ⟨rfl, rfl⟩
  | sent id data =>
      have grown : (hub.send id data).stream target = ((hub.stream target).1,
          (hub.stream target).2 ++ if hub.accepts id ∧ id = target then [data] else []) :=
        stream_send id data target
      refine .grows (by rw [outcome_hub, grown]) ?_ ?_
      · rw [outcome_hub, grown]
        by_cases taken : hub.accepts id = true
        · by_cases same : id = target
          · subst same
            simp [passing, taken, queuedFor]
          · simp [passing, taken, same, queuedFor]
        · simp [passing, taken, queuedFor]
      · by_cases taken : hub.accepts id = true <;> simp [passing, taken, lostFor]
  | released ip =>
      exact flows_still (stream_of_connections (releaseIp_connections ip) target) ⟨rfl, rfl⟩
  | shut => exact flows_still (stream_modify _ target fun _ _ => rfl) ⟨rfl, rfl⟩
  | parted id kind _ frames among =>
      refine flows_still (stream_writeFrames id target fun frame member => ?_) ⟨rfl, rfl⟩
      rcases List.mem_cons.mp (among member) with rfl | close
      · rfl
      · cases List.mem_singleton.mp close
        rfl
  | unparted id kind _ frames among =>
      refine flows_still (stream_writeFrames id target fun frame member => ?_) ⟨rfl, rfl⟩
      cases List.mem_singleton.mp (among member)
      rfl
  | told id kind =>
      refine flows_still ?_ ⟨rfl, rfl⟩
      rw [outcome_hub, sendPriority_eq]
      exact stream_writeMessage id target rfl
  | wrote id frame => exact flows_still (stream_writeMessage id target closes) ⟨rfl, rfl⟩
  | lost conn fault socket data rest known queued loses =>
      have passed : hub.passing thread (.pump conn) (.pick fault) = [data].map (Passing.lost conn) := by
        simp [passing, known, loses, queued]
      rw [passed]
      by_cases own : target = conn
      · subst own
        obtain ⟨taken, waited⟩ := stream_taken known queued []
        rw [List.filterMap_nil, List.append_nil] at taken
        have left : (hub.modifyConnection target fun socket => { socket with
            sendChan := rest }).stream target = ((hub.stream target).1, rest) := by
          simpa using taken
        refine .takes data rfl rfl ?_ ?_
        · rw [outcome_hub, left, waited]
        · rw [outcome_hub, left]
          simp [lostFor]
      · refine flows_still ?_ (lost_elsewhere own [data])
        rw [outcome_hub, stream, getElem?_modify, if_neg own, stream]
  | pumped conn fault socket data rest known queued keeps =>
      have passed : hub.passing thread (.pump conn) (.pick fault) = [] := by
        simp [passing, known, keeps]
      rw [passed]
      by_cases own : target = conn
      · subst own
        obtain ⟨taken, waited⟩ := stream_taken known queued [.data data]
        refine .takes data rfl rfl ?_ ?_
        · rw [outcome_hub, taken, waited]
        · rw [outcome_hub, taken]
          simp [Frame.payload, lostFor]
      · refine flows_still ?_ ⟨rfl, rfl⟩
        rw [outcome_hub, stream, getElem?_modify, if_neg own, stream]
  | stopped conn _ _ picked =>
      rw [passing_unpicked picked]
      exact flows_still rfl ⟨rfl, rfl⟩
  | _ => exact flows_still rfl ⟨rfl, rfl⟩

end Channels

section Loads

variable {hub after : Hub} {outcome : Outcome} {answer : Answer} {op new : Op}
  {conn session thread : Nat}

theorem closes_of_plain (plain : new.plain = true) : new.Closes := by
  cases new with
  | write target frame =>
      cases frame with
      | close => rfl
      | _ => cases plain
  | _ => trivial

/-- Only `readLoop` hands frames on. -/
def forwards : Op → Bool
  | .read _ | .relay .. => true
  | _ => false

theorem run_load (ran : hub.run op answer = some outcome) (other : forwards op = false) :
    ∀ new ∈ brought outcome, new.load = [] := by
  intro new member
  cases run_brings ran member with
  | plain _ _ plain => cases new <;> first | rfl | cases plain
  | took => cases other
  | handed => cases other
  | _ => rfl

theorem firstLoad_idle {ops : List Op} (idle : ∀ op ∈ ops, op.load = []) : firstLoad ops = [] := by
  cases ops with
  | nil => rfl
  | cons op rest => exact idle op List.mem_cons_self

/-- What one turn of a goroutine hands on is what it held or has just read. -/
structure Forwards (hub : Hub) (thread : Nat) (op : Op) (answer : Answer) (outcome : Outcome)
    (rest : List Op) : Prop where
  later : ∀ new ∈ (outcome.next ++ rest).tail, new.load = []
  spawned : ∀ new ∈ outcome.spawned.flatten, new.load = []
  handed : (queuedBy thread (hub.passing thread op answer) ++
    firstLoad (outcome.next ++ rest)).Sublist
      (op.load ++ takenBy thread (hub.passing thread op answer))

/-- A goroutine that has nothing more to pass on. -/
theorem forwards_idle {rest : List Op} (idle : ∀ new ∈ rest, new.load = [])
    (brings : ∀ new ∈ brought outcome, new.load = [])
    (handed : (queuedBy thread (hub.passing thread op answer)).Sublist
      (op.load ++ takenBy thread (hub.passing thread op answer))) :
    Forwards hub thread op answer outcome rest := by
  have next : ∀ new ∈ outcome.next ++ rest, new.load = [] := by
    intro new member
    rcases List.mem_append.mp member with first | later
    · exact brings new (List.mem_append_left _ first)
    · exact idle new later
  refine ⟨fun new member => next new (List.mem_of_mem_tail member),
    fun new member => brings new (List.mem_append_right _ member), ?_⟩
  rw [firstLoad_idle next, List.append_nil]
  exact handed

theorem readLoop_forwards {rest : List Op} (idle : ∀ new ∈ rest, new.load = [])
    (ran : hub.run (.read conn) answer = some outcome) :
    Forwards hub thread (.read conn) answer outcome rest := by
  have leaves : ∀ socket, ∀ new ∈ leave conn socket, new.load = [] := by
    simp [leave, Op.load]
  cases run_turn ran with
  | hungUp _ socket => exact forwards_idle idle (by simpa using leaves socket) (List.nil_sublist _)
  | unsupported _ socket =>
      exact forwards_idle idle (by simpa [Op.load] using leaves socket) (List.nil_sublist _)
  | asked _ socket data _ asked =>
      exact forwards_idle idle (by simpa [Op.load] using leaves socket)
        (by simp [passing, asked, queuedBy])
  | invalid _ socket data kind _ parsed =>
      exact forwards_idle idle (by simpa [Op.load] using leaves socket)
        (by simp [passing, parsed, queuedBy])
  | ignored _ socket data _ refused =>
      exact forwards_idle idle (by simp [Op.load]) (by simp [passing, refused, queuedBy])
  | took _ socket data _ refused =>
      refine ⟨by simpa [Op.load] using idle, by simp, ?_⟩
      simp [passing, refused, queuedBy, takenBy, firstLoad, Op.load]

theorem relayFrame_forwards {rest : List Op} {data : Bytes} (idle : ∀ new ∈ rest, new.load = [])
    (ran : hub.run (.relay conn data) answer = some outcome) :
    Forwards hub thread (.relay conn data) answer outcome rest := by
  cases run_turn ran with
  | unheard => exact forwards_idle idle (by simp) (List.nil_sublist _)
  | handed => exact ⟨by simpa using idle, by simp, by simp [passing, queuedBy, firstLoad, Op.load]⟩

/-- All that a pump may add to a history is a frame that its socket has lost. -/
theorem passing_pump : ∃ frames : List Bytes,
    hub.passing thread (.pump conn) answer = frames.map (Passing.lost conn) := by
  cases answer with
  | pick fault =>
      simp only [passing]
      split
      · exact ⟨[], rfl⟩
      · split
        · exact ⟨_, rfl⟩
        · exact ⟨[], rfl⟩
  | _ => exact ⟨[], rfl⟩

theorem pump_takes_nothing (other : Nat) :
    takenBy other (hub.passing thread (.pump conn) answer) = [] ∧
      queuedBy other (hub.passing thread (.pump conn) answer) = [] := by
  obtain ⟨frames, passed⟩ : ∃ frames : List Bytes,
      hub.passing thread (.pump conn) answer = frames.map (Passing.lost conn) := passing_pump
  rw [passed]
  simp [takenBy, queuedBy]

theorem run_forwards {rest : List Op} (idle : ∀ new ∈ rest, new.load = [])
    (ran : hub.run op answer = some outcome) : Forwards hub thread op answer outcome rest := by
  cases op with
  | read => exact readLoop_forwards idle ran
  | relay => exact relayFrame_forwards idle ran
  | deliver target data =>
      apply forwards_idle idle (run_load ran rfl)
      by_cases taken : hub.accepts target = true <;> simp [passing, taken, queuedBy, Op.load]
  | pump conn =>
      apply forwards_idle idle (run_load ran rfl)
      rw [(pump_takes_nothing thread).2]
      exact List.nil_sublist _
  | _ => exact forwards_idle idle (run_load ran rfl) (by simp [passing, queuedBy])

end Loads

section Losses

variable {hub : Hub} {outcome : Outcome} {answer : Answer} {op : Op} {thread target : Nat}

/-- Only a pump loses a frame. -/
theorem lostFor_passing (other : ∀ conn, op ≠ .pump conn) :
    lostFor target (hub.passing thread op answer) = [] := by
  unfold passing
  split
  · split <;> rfl
  · split <;> rfl
  · rename_i conn fault
    exact absurd rfl (other conn)
  · rfl

def opened (hub : Hub) (target : Nat) : Nat := if target < hub.connections.length then 1 else 0

theorem opened_mono (ran : hub.run op answer = some outcome) :
    hub.opened target ≤ outcome.hub.opened target := by
  unfold opened
  split
  · rename_i below
    obtain ⟨kept, found, _⟩ := run_lasts ran target _ (List.getElem?_eq_getElem below)
    rw [if_pos (List.getElem?_eq_some_iff.mp found).1]
  · exact Nat.zero_le _

theorem headless_le {ops : List Op} (headless : ∀ new ∈ ops, new.heads target = false)
    (count : Nat) : ops.countP (Op.heads target) ≤ count := by
  have none : ops.countP (Op.heads target) = 0 := by
    apply List.countP_eq_zero.mpr
    intro new member
    simp [headless new member]
  omega

theorem unavailable_headless (purpose : Purpose) :
    ∀ new ∈ hub.unavailable purpose, new.heads target = false := by
  cases purpose with
  | inform => simp [unavailable]
  | attach conn =>
      simp only [unavailable]
      split <;> simp [Op.heads]

theorem announceJoin_headless {conn change : Nat} {result : AddResult} :
    ∀ new ∈ announceJoin conn change result, new.heads target = false := by
  have closes : ∀ new ∈ result.replaced.toList.map fun old => Op.close old.id,
      new.heads target = false := by
    simp [Op.heads]
  simp only [announceJoin]
  split
  · exact closes
  · exact List.forall_mem_append.mpr ⟨closes, by simp [Op.heads]⟩

/-- Opening a socket starts one way to its pump. A way never forks, and it ends when its
pump loses a frame. -/
theorem run_heads (ran : hub.run op answer = some outcome) :
    (brought outcome).countP (Op.heads target) +
        (lostFor target (hub.passing thread op answer)).length + hub.opened target ≤
      [op].countP (Op.heads target) + outcome.hub.opened target := by
  have grown : hub.opened target ≤ outcome.hub.opened target := opened_mono ran
  have lossless : (∀ conn, op ≠ .pump conn) →
      (brought outcome).countP (Op.heads target) ≤ [op].countP (Op.heads target) →
      (brought outcome).countP (Op.heads target) +
          (lostFor target (hub.passing thread op answer)).length + hub.opened target ≤
        [op].countP (Op.heads target) + outcome.hub.opened target := by
    intro other fewer
    rw [lostFor_passing other, List.length_nil]
    omega
  cases run_turn ran with
  | drawn =>
      apply lossless (by simp)
      rw [brought_outcome]
      apply headless_le
      intro new member
      obtain ⟨request, rfl, _⟩ := beginCreate_lock member
      rfl
  | swept => exact lossless (by simp) (headless_le (by simp [Op.heads]) _)
  | created => exact lossless (by simp) (headless_le (by simp [Op.heads]) _)
  | rejected => exact lossless (by simp) (headless_le (by simp [Op.heads]) _)
  | retried => exact lossless (by simp) (headless_le (by simp [Op.heads, or_imp, forall_and]) _)
  | closed => exact lossless (by simp) (headless_le (by simp [closeAll, Op.heads]) _)
  | emptied => exact lossless (by simp) (headless_le (by simp [closeAll, Op.heads]) _)
  | drained =>
      exact lossless (by simp) (headless_le (by simp [endAll, Op.heads, or_imp, forall_and]) _)
  | missed purpose =>
      exact lossless (by simp) (headless_le (by simpa using unavailable_headless purpose) _)
  | found purpose => exact lossless (by simp) (by cases purpose <;> simp [Op.heads])
  | expired purpose =>
      exact lossless (by simp)
        (headless_le (by simpa [Op.heads] using unavailable_headless purpose) _)
  | attaching => exact lossless (by simp) (by simp [Op.heads])
  | opened ip code slotToken answer =>
      have none : lostFor target (hub.passing thread (.upgrade ip code slotToken) answer) = [] :=
        lostFor_passing (by simp)
      rw [none, brought_outcome]
      simp only [List.countP_cons, List.countP_nil, Op.heads, List.length_nil, opened, outcome_hub,
        List.length_append, List.length_cons, beq_iff_eq]
      split_ifs <;> omega
  | unseated conn =>
      exact lossless (by simp) (headless_le (by simpa using unavailable_headless (.attach conn)) _)
  | seated conn session _ _ _ _ result =>
      apply lossless (by simp)
      rw [brought_outcome, List.countP_append]
      have announced : (announceJoin conn hub.changes result).countP (Op.heads target) = 0 :=
        Nat.le_zero.mp (headless_le announceJoin_headless 0)
      simp [announced, Op.heads]
  | entered conn => exact lossless (by simp) (by simp [brought, Op.heads])
  | hungUp => exact lossless (by simp) (headless_le (by simp [leave, Op.heads]) _)
  | unsupported => exact lossless (by simp) (headless_le (by simp [leave, Op.heads]) _)
  | asked => exact lossless (by simp) (headless_le (by simp [leave, Op.heads]) _)
  | invalid => exact lossless (by simp) (headless_le (by simp [leave, Op.heads]) _)
  | left => exact lossless (by simp) (headless_le (by simp [Op.heads]) _)
  | unpinged conn =>
      simp only [passing, lostFor, List.filterMap_nil, List.length_nil]
      have fewer : [Op.close conn].countP (Op.heads target) ≤ 0 := headless_le (by simp [Op.heads]) 0
      rw [brought_outcome]
      omega
  | stopped conn answer _ picked =>
      rw [passing_unpicked picked]
      simp only [brought_outcome, lostFor, List.filterMap_nil, List.length_nil, List.countP_nil]
      omega
  | pumped conn fault socket data rest known queued keeps =>
      have passed : hub.passing thread (.pump conn) (.pick fault) = [] := by
        simp [passing, known, keeps]
      rw [passed, brought_outcome]
      simp only [lostFor, List.filterMap_nil, List.length_nil]
      omega
  | lost conn fault socket data rest known queued loses =>
      have passed : hub.passing thread (.pump conn) (.pick fault) = [.lost conn data] := by
        simp [passing, known, loses, queued]
      rw [passed, brought_outcome]
      have closed : [Op.close conn].countP (Op.heads target) = 0 := by simp [Op.heads]
      have cost : (lostFor target [.lost conn data]).length =
          [Op.pump conn].countP (Op.heads target) := by
        by_cases own : conn = target <;> simp [lostFor, own, Op.heads]
      omega
  | dropped => exact lossless (by simp) (headless_le (by simp [dropSession]) _)
  | _ => exact lossless (by simp) (headless_le (by simp [brought, Op.heads]) _)

end Losses

section Order

variable {hub after : Hub} {outcome : Outcome} {answer : Answer} {op : Op} {event : Event}
  {past passed : List Passing} {thread other target : Nat}

/-- Channels hold what was put into them and is neither written nor lost, and what goroutines
put there is what they have read, less what they dropped. -/
structure InOrder (hub : Hub) (past : List Passing) : Prop where
  idle : ∀ ops ∈ hub.threads, ∀ op ∈ ops.tail, op.load = []
  closes : hub.Pending Op.Closes
  heads : ∀ target, hub.threads.flatten.countP (Op.heads target) +
    (lostFor target past).length ≤ hub.opened target
  channels : ∀ target, (hub.stream target).1 ++ lostFor target past ++ (hub.stream target).2 =
    queuedFor target past
  handed : ∀ thread, (queuedBy thread past ++ hub.loadOf thread).Sublist (takenBy thread past)

theorem newHub_inOrder (config : Config) (ttl : Time) : (newHub config ttl).InOrder [] where
  idle := by simp [newHub]
  closes := newHub_pending config ttl
  heads := by simp [newHub, lostFor]
  channels := by simp [newHub, stream, queuedFor, lostFor]
  handed := by simp [newHub, loadOf, queuedBy, takenBy]

theorem step_closes {notes : List Note} (stepped : hub.step event = some (after, notes))
    (closes : hub.Pending Op.Closes) : after.Pending Op.Closes := by
  refine pending_step stepped closes (fun _ holds => holds) ?_ ?_
  · intro call op _ begins
    cases begins <;> trivial
  · intro op new _ brings
    cases brings with
    | plain _ _ plain => exact closes_of_plain plain
    | _ => trivial

theorem begin_headless {call : Call} :
    (hub.begin call).1.countP (Op.heads target) = 0 := by
  apply List.countP_eq_zero.mpr
  intro new member
  cases begin_begins member <;> simp [Op.heads]

theorem begin_load {call : Call} : ∀ new ∈ (hub.begin call).1, new.load = [] := by
  intro new member
  cases begin_begins member <;> rfl

theorem loadOf_begun {call : Call} (thread : Nat) :
    ({ hub with threads := hub.threads ++ [(hub.begin call).1] } : Hub).loadOf thread =
      hub.loadOf thread := by
  rcases Nat.lt_trichotomy thread hub.threads.length with below | rfl | above
  · simp only [loadOf, List.getElem?_append_left below]
  · simp [loadOf, firstLoad_idle begin_load]
  · have absent : hub.threads[thread]? = none := List.getElem?_eq_none (Nat.le_of_lt above)
    have still : (hub.threads ++ [(hub.begin call).1])[thread]? = none := by
      apply List.getElem?_eq_none
      rw [List.length_append]
      exact above
    simp only [loadOf, absent, still]

/-- A goroutine reads and queues under its own name. -/
theorem passing_other (apart : other ≠ thread) :
    takenBy other (hub.passing thread op answer) = [] ∧
      queuedBy other (hub.passing thread op answer) = [] := by
  unfold passing
  split
  · split <;> simp [takenBy, queuedBy, Ne.symm apart]
  · split <;> simp [takenBy, queuedBy, Ne.symm apart]
  · rename_i conn fault
    have nothing : takenBy other (hub.passing thread (.pump conn) (.pick fault)) = [] ∧
        queuedBy other (hub.passing thread (.pump conn) (.pick fault)) = [] :=
      pump_takes_nothing other
    exact nothing
  · exact ⟨rfl, rfl⟩

/-- The goroutines that a turn starts, and those that it leaves alone. -/
theorem loadOf_advance {rest : List Op}
    (forwards : Forwards hub thread op answer outcome rest) (apart : other ≠ thread) :
    (hub.advance thread rest outcome).loadOf other = hub.loadOf other ∨
      (hub.advance thread rest outcome).loadOf other = [] := by
  by_cases below : other < hub.threads.length
  · left
    simp only [loadOf, advance]
    rw [List.getElem?_append_left (by simpa using below), List.getElem?_set_ne (Ne.symm apart)]
  · right
    simp only [loadOf, advance]
    rw [List.getElem?_append_right (by simpa using below)]
    cases started : outcome.spawned[other - (hub.threads.set thread
        (outcome.next ++ rest)).length]? with
    | none => rfl
    | some ops =>
        apply firstLoad_idle
        intro new member
        have listed := List.mem_of_getElem? started
        exact forwards.spawned new (List.mem_flatten_of_mem listed member)

theorem loadOf_own {rest : List Op} (found : hub.threads[thread]? = some (op :: rest)) :
    (hub.advance thread rest outcome).loadOf thread = firstLoad (outcome.next ++ rest) := by
  have below := (List.getElem?_eq_some_iff.mp found).1
  simp only [loadOf, advance]
  rw [List.getElem?_append_left (by simpa using below), List.getElem?_set_self below]
  rfl

/-- A pump that still runs has lost nothing, so what it loses now is all its socket lost. -/
theorem InOrder.flow {rest : List Op} (order : hub.InOrder past)
    (found : hub.threads[thread]? = some (op :: rest))
    (flows : Flows hub op outcome passed target) :
    (outcome.hub.stream target).1 ++ lostFor target (past ++ passed) ++
      (outcome.hub.stream target).2 = queuedFor target (past ++ passed) := by
  rw [lostFor_append, queuedFor_append, ← order.channels target]
  cases flows with
  | grows written waiting lossless =>
      rw [written, waiting, lossless, List.append_nil]
      simp only [List.append_assoc]
  | takes data pump unqueued waited taken =>
      have held : 0 < hub.threads.flatten.countP (Op.heads target) := by
        apply List.countP_pos_iff.mpr
        refine ⟨op, List.mem_flatten_of_mem (List.mem_of_getElem? found) List.mem_cons_self, ?_⟩
        simp [pump, Op.heads]
      have one : hub.opened target ≤ 1 := by
        unfold opened
        split <;> omega
      have before := order.heads target
      have lossless : lostFor target past = [] := List.length_eq_zero_iff.mp (by omega)
      rw [unqueued, lossless, waited, List.nil_append, List.append_nil, List.append_nil, taken,
        List.append_assoc, List.singleton_append]

/-- One turn of one goroutine keeps the order. -/
theorem InOrder.turn {rest : List Op} (order : hub.InOrder past)
    (found : hub.threads[thread]? = some (op :: rest))
    (ran : hub.run op answer = some outcome)
    (closes : (hub.advance thread rest outcome).Pending Op.Closes) :
    (hub.advance thread rest outcome).InOrder (past ++ hub.passing thread op answer) := by
  have listed := List.mem_of_getElem? found
  have forwards : Forwards hub thread op answer outcome rest :=
    run_forwards (order.idle _ listed) ran
  refine ⟨?_, closes, ?_, ?_, ?_⟩
  · intro ops member new later
    rcases List.mem_append.mp member with old | spawned
    · rcases List.mem_or_eq_of_mem_set old with kept | rfl
      · exact order.idle ops kept new later
      · exact forwards.later new later
    · have started := List.mem_flatten_of_mem spawned (List.mem_of_mem_tail later)
      exact forwards.spawned new started
  · intro target
    have counted := countP_advance (Op.heads target) outcome found
    have paid : (brought outcome).countP (Op.heads target) +
        (lostFor target (hub.passing thread op answer)).length + hub.opened target ≤
          [op].countP (Op.heads target) + outcome.hub.opened target := run_heads ran
    have before := order.heads target
    rw [lostFor_append, List.length_append]
    change _ ≤ outcome.hub.opened target
    omega
  · intro target
    have flows : Flows hub op outcome (hub.passing thread op answer) target :=
      run_flows ran (order.closes _ listed op List.mem_cons_self) target
    exact order.flow found flows
  · intro other
    have before := order.handed other
    rw [queuedBy, takenBy, List.filterMap_append, List.filterMap_append, ← queuedBy, ← queuedBy,
      ← takenBy, ← takenBy]
    by_cases own : other = thread
    · subst own
      have held : hub.loadOf other = op.load := by
        rw [loadOf, found]
        rfl
      rw [loadOf_own found, List.append_assoc]
      apply (forwards.handed.append_left _).trans
      rw [← List.append_assoc, ← held]
      exact before.append_right _
    · have elsewhere : takenBy other (hub.passing thread op answer) = [] ∧
          queuedBy other (hub.passing thread op answer) = [] := passing_other own
      rw [elsewhere.1, elsewhere.2, List.append_nil, List.append_nil]
      rcases loadOf_advance forwards own with same | none
      · rw [same]
        exact before
      · rw [none, List.append_nil]
        exact (List.sublist_append_left _ _).trans before

theorem InOrder.step (order : hub.InOrder past)
    (stepped : forwarding.step hub event = some (after, passed)) :
    after.InOrder (past ++ passed) := by
  obtain ⟨⟨reached, notes⟩, taken, same⟩ := Option.map_eq_some_iff.mp stepped
  cases same
  have closes := step_closes taken order.closes
  rcases step_cases taken with ⟨elapsed, rfl, rfl, rfl⟩ | ⟨call, rfl, rfl, rfl⟩ |
    ⟨thread, answer, op, rest, outcome, rfl, found, ran, rfl, rfl⟩
  · simp only [passings, List.append_nil]
    exact ⟨order.idle, closes, order.heads, order.channels, order.handed⟩
  · simp only [passings, List.append_nil]
    refine ⟨?_, closes, ?_, order.channels, ?_⟩
    · intro ops member new later
      rcases List.mem_append.mp member with old | begun
      · exact order.idle ops old new later
      · cases List.mem_singleton.mp begun
        exact begin_load new (List.mem_of_mem_tail later)
    · intro target
      rw [List.flatten_append, List.countP_append, List.flatten_singleton, begin_headless]
      exact order.heads target
    · intro thread
      rw [loadOf_begun thread]
      exact order.handed thread
  · have passes : hub.passings (.step thread answer) = hub.passing thread op answer := by
      simp only [passings, found]
    rw [passes]
    exact order.turn found ran closes

end Order

end Hub

/-- In every run, whichever goroutines take turns: what a goroutine has put into channels is,
in the same order, part of what it has read, and what a socket has been written, followed by
the one frame that a failed write may have cost it and by what waits in its channel, is what
was put into that channel. -/
theorem relay_forwards_in_order {config : Config} {ttl : Time} {hub : Hub}
    {history : List Passing}
    (run : forwarding.Run Machine.Unrestricted (newHub config ttl) hub history) :
    (∀ thread, (queuedBy thread history).Sublist (takenBy thread history)) ∧
      ∀ (target : Nat) (socket : Connection), hub.connections[target]? = some socket →
        socket.written.filterMap Frame.payload ++ lostFor target history ++ socket.sendChan =
          queuedFor target history ∧
        (lostFor target history).length ≤ 1 := by
  have order : hub.InOrder history :=
    run.invariant Hub.InOrder (Hub.newHub_inOrder config ttl)
      fun _ _ _ _ _ order _ stepped => order.step stepped
  refine ⟨fun thread => ?_, fun target socket found => ⟨?_, ?_⟩⟩
  · exact (List.sublist_append_left _ _).trans (order.handed thread)
  · rw [← order.channels target, Hub.stream, found]
    rfl
  · have heads := order.heads target
    have below := (List.getElem?_eq_some_iff.mp found).1
    rw [Hub.opened, if_pos below] at heads
    omega

/-- The first socket sends three frames; the pump of the second writes one and loses the
next one. -/
def framesRelayed : List Event :=
  frameRelayed ++ proceed 1 1 ++ .step 1 (.incoming (.binary [8])) :: proceed 1 2 ++
    .step 1 (.incoming (.binary [9])) :: proceed 1 2 ++ proceed 4 1 ++ [.step 4 (.pick 1)]

theorem sample_frames_in_order :
    ∃ hub history, forwarding.execute (newHub sampleConfig 10) framesRelayed =
        some (hub, history) ∧ takenBy 1 history = [[7], [8], [9]] ∧
      (queuedBy 1 history).Sublist (takenBy 1 history) ∧
      ∃ socket, hub.connections[1]? = some socket ∧ socket.sendChan = [[9]] ∧
        socket.written.filterMap Frame.payload ++ lostFor 1 history ++ socket.sendChan =
          queuedFor 1 history ∧
        (lostFor 1 history).length ≤ 1 := by
  have reached : (forwarding.execute (newHub sampleConfig 10) framesRelayed).map
      (fun result => (takenBy 1 result.2, (result.1.connections[1]?).map Connection.sendChan)) =
      some ([[7], [8], [9]], some [[9]]) := by decide +kernel
  obtain ⟨⟨hub, history⟩, ran, shown⟩ := Option.map_eq_some_iff.mp reached
  obtain ⟨taken, waiting⟩ := Prod.mk.inj shown
  obtain ⟨socket, known, queued⟩ := Option.map_eq_some_iff.mp waiting
  have run := Machine.execute_run framesRelayed (Machine.along_unrestricted _ _) ran
  have order := relay_forwards_in_order run
  exact ⟨hub, history, ran, taken, order.1 1, socket, known, queued, order.2 1 socket known⟩

end OnlyTwo.Relay
