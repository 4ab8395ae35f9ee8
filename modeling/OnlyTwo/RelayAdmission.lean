import OnlyTwo.RelayThreads

/-!
The places that `ServeHTTP` reserves for an address and gives back: `reserveIP`,
`releaseIP` and the four ways out of the handler in internal/ws/connection.go. The
relay's own outputs do not name them, so the same steps are run once more with a mark
for each. A goroutine that holds a place always has exactly one operation ahead of it
through which the place is released.
-/

namespace OnlyTwo.Relay

inductive PlaceMark where
  | reserved (ip : String)
  | released (ip : String)
  deriving DecidableEq

structure Audit where
  thread : Nat
  mark : PlaceMark
  deriving DecidableEq

/-- The socket whose handler this operation belongs to. -/
def Op.socket : Op → Option Nat
  | .lookup (.attach conn) _ _ | .check (.attach conn) _ _ | .join conn _ | .enter conn
  | .read conn => some conn
  | _ => none

/-- The operations of the handler between its reservation and its release. -/
def Op.admits : Op → Bool
  | .reserve .. | .upgrade .. | .release _ => true
  | op => op.socket.isSome

/-- How many goroutines hold a place of an address, and which. -/
def holders (history : List Audit) (ip : String) : List Nat :=
  ((history.filter fun audit => audit.mark = .reserved ip).map Audit.thread).filter
    fun thread => !history.contains ⟨thread, .released ip⟩

def marksOf (thread : Nat) (history : List Audit) : List PlaceMark :=
  (history.filter fun audit => audit.thread = thread).map Audit.mark

namespace Hub

def audit (hub : Hub) : Event → List Audit
  | .step thread _ =>
      match hub.threads[thread]? with
      | some (.reserve ip _ _ :: _) =>
          if (hub.reserveIp ip).isSome then [⟨thread, .reserved ip⟩] else []
      | some (.release ip :: _) => [⟨thread, .released ip⟩]
      | _ => []
  | _ => []

def ips (hub : Hub) : List String := hub.connections.map Connection.ip

/-- The address whose place the operation will release. -/
def owes (hub : Hub) : Op → Option String
  | .upgrade ip _ _ | .release ip => some ip
  | op => op.socket.bind fun conn => hub.ips[conn]?

end Hub

/-- The relay, with the reservations for outputs. -/
def audited : Machine Hub Event Audit where
  step hub event := (hub.step event).map fun result => (result.1, hub.audit event)

namespace Hub

section Operations
variable {hub : Hub} {op : Op} {answer : Answer} {outcome : Outcome}

theorem ips_of_connections {after : Hub} (same : after.connections = hub.connections) :
    hub.ips <+: after.ips := by
  have unchanged : after.ips = hub.ips := by
    rw [ips, ips, same]
  exact unchanged ▸ List.prefix_rfl

theorem ips_modify (id : Nat) {change : Connection → Connection}
    (kept : ∀ socket, (change socket).ip = socket.ip) :
    (hub.modifyConnection id change).ips = hub.ips := by
  rw [ips, ips, modifyConnection_connections]
  apply List.ext_getElem?
  intro place
  simp only [List.getElem?_map, List.getElem?_modify]
  cases hub.connections[place]? with
  | none => rfl
  | some socket =>
      by_cases same : id = place
      · simp [same, kept]
      · simp [same]

theorem modify_ips (id : Nat) {change : Connection → Connection}
    (kept : ∀ socket, (change socket).ip = socket.ip) :
    hub.ips <+: (hub.modifyConnection id change).ips := by
  exact (ips_modify id kept).symm ▸ List.prefix_rfl

theorem writeFrames_ips (id : Nat) (frames : List Frame) :
    hub.ips <+: (hub.writeFrames id frames).ips := modify_ips id fun _ => rfl

theorem writeMessage_ips (id : Nat) (frame : Frame) :
    hub.ips <+: (hub.writeMessage id frame answer).ips := by
  simp only [writeMessage]
  split
  · exact List.prefix_rfl
  · exact writeFrames_ips id [frame]

/-- A socket keeps its address, and new sockets come last. -/
theorem run_ips (ran : hub.run op answer = some outcome) : hub.ips <+: outcome.hub.ips := by
  cases run_turn ran with
  | reserved _ _ _ _ after free =>
      cases reserveIp_some hub free
      exact List.prefix_rfl
  | opened => simp [ips]
  | seated => exact modify_ips _ fun _ => rfl
  | sent target data =>
      simp only [outcome_hub, send]
      split
      · exact List.prefix_rfl
      · refine modify_ips target fun socket => ?_
        split <;> rfl
  | released ip => exact ips_of_connections (releaseIp_connections ip)
  | shut target => exact modify_ips target fun _ => rfl
  | parted target _ _ frames => exact writeFrames_ips target frames
  | unparted target _ _ frames => exact writeFrames_ips target frames
  | told target kind =>
      rw [outcome_hub, sendPriority_eq]
      exact writeMessage_ips target _
  | wrote target frame => exact writeMessage_ips target frame
  | lost => exact modify_ips _ fun _ => rfl
  | pumped => exact modify_ips _ fun _ => rfl
  | _ => exact List.prefix_rfl

/-- The counts stay, and nothing that comes of it belongs to a reservation. -/
def Idle (hub : Hub) (outcome : Outcome) : Prop :=
  outcome.hub.connsByIp = hub.connsByIp ∧ ∀ new ∈ brought outcome, new.admits = false

theorem idle_outcome {after : Hub} {next : List Op} {notes : List Note}
    (same : after.connsByIp = hub.connsByIp) (aside : ∀ new ∈ next, new.admits = false) :
    hub.Idle (after.outcome next notes) := by
  refine ⟨same, ?_⟩
  rw [brought_outcome]
  exact aside

theorem closes_aside (closing : List Nat) :
    ∀ new ∈ closing.map Op.closeSession, new.admits = false :=
  List.forall_mem_map.mpr fun _ _ => rfl

theorem closeAll_aside (endpoints : List Endpoint) : ∀ new ∈ closeAll endpoints, new.admits = false :=
  List.forall_mem_map.mpr fun _ _ => rfl

theorem writeMessage_connsByIp (id : Nat) (frame : Frame) :
    (hub.writeMessage id frame answer).connsByIp = hub.connsByIp := by
  simp only [writeMessage]
  split <;> rfl

theorem run_idle (aside : op.admits = false) (ran : hub.run op answer = some outcome) :
    hub.Idle outcome := by
  have alone : ∀ {new : Op}, new.admits = false → ∀ other ∈ [new], other.admits = false :=
    fun own => List.forall_mem_singleton.mpr own
  cases run_turn ran with
  | drawn =>
      refine idle_outcome rfl fun new member => ?_
      obtain ⟨request, rfl, _⟩ := beginCreate_lock member
      rfl
  | picked => exact idle_outcome rfl (List.forall_mem_cons.mpr ⟨rfl, alone rfl⟩)
  | swept => exact idle_outcome rfl (closes_aside _)
  | created => exact idle_outcome rfl (closes_aside _)
  | rejected => exact idle_outcome rfl (closes_aside _)
  | retried => exact idle_outcome rfl (List.forall_mem_append.mpr ⟨closes_aside _, alone rfl⟩)
  | closed => exact idle_outcome rfl (closeAll_aside _)
  | emptied => exact idle_outcome rfl (closeAll_aside _)
  | drained =>
      exact idle_outcome rfl
        (List.forall_mem_append.mpr ⟨List.forall_mem_map.mpr fun _ _ => rfl, alone rfl⟩)
  | missed purpose =>
      cases purpose with
      | attach => cases aside
      | inform => exact idle_outcome rfl (List.forall_mem_nil _)
  | found purpose =>
      cases purpose with
      | attach => cases aside
      | inform => exact idle_outcome rfl (alone rfl)
  | expired purpose =>
      cases purpose with
      | attach => cases aside
      | inform => exact idle_outcome rfl (alone rfl)
  | attaching => cases aside
  | forgot => exact ⟨rfl, alone rfl⟩
  | superseded => exact ⟨rfl, alone rfl⟩
  | busy => cases aside
  | reserved => cases aside
  | unopened => cases aside
  | opened => cases aside
  | unseated => cases aside
  | seated => cases aside
  | entered => cases aside
  | hungUp => cases aside
  | unsupported => cases aside
  | asked => cases aside
  | invalid => cases aside
  | ignored => cases aside
  | took => cases aside
  | sent target data =>
      refine idle_outcome ?_ (List.forall_mem_nil _)
      simp only [send]
      split <;> rfl
  | left => exact idle_outcome rfl (List.forall_mem_map.mpr fun _ _ => rfl)
  | released => cases aside
  | told target kind =>
      refine idle_outcome ?_ (List.forall_mem_nil _)
      rw [sendPriority_eq]
      exact writeMessage_connsByIp target _
  | wrote target frame => exact idle_outcome (writeMessage_connsByIp target frame) (List.forall_mem_nil _)
  | locked => exact idle_outcome rfl (alone rfl)
  | passed => exact idle_outcome rfl (alone rfl)
  | handed => exact idle_outcome rfl (alone rfl)
  | ended => exact idle_outcome rfl (alone rfl)
  | gone => exact idle_outcome rfl (alone rfl)
  | parted => exact idle_outcome rfl (alone rfl)
  | unparted => exact idle_outcome rfl (alone rfl)
  | unpinged => exact idle_outcome rfl (alone rfl)
  | lost => exact idle_outcome rfl (alone rfl)
  | pumped => exact idle_outcome rfl (alone rfl)
  | _ => exact idle_outcome rfl (List.forall_mem_nil _)

/-- One operation of the goroutine releases the place, and no other one reserves or
releases any. -/
def Holds (hub : Hub) (ip : String) (ops : List Op) : Prop :=
  ∃ before op after, ops = before ++ op :: after ∧ hub.owes op = some ip ∧
    ∀ other ∈ before ++ after, other.admits = false

theorem Holds.of_ips {after : Hub} {ip : String} {ops : List Op} (holds : hub.Holds ip ops)
    (kept : hub.ips <+: after.ips) : after.Holds ip ops := by
  obtain ⟨first, op, last, rfl, owed, idle⟩ := holds
  refine ⟨first, op, last, rfl, ?_, idle⟩
  have known : ∀ conn : Nat, hub.ips[conn]? = some ip → after.ips[conn]? = some ip := by
    intro conn found
    obtain ⟨newer, same⟩ := kept
    rw [← same, List.getElem?_append_left (List.getElem?_eq_some_iff.mp found).1]
    exact found
  unfold owes at owed ⊢
  split at owed
  · exact owed
  · exact owed
  · obtain ⟨conn, socket, found⟩ := Option.bind_eq_some_iff.mp owed
    exact Option.bind_eq_some_iff.mpr ⟨conn, socket, known conn found⟩

theorem Holds.append {ip : String} {ops rest : List Op} (holds : hub.Holds ip ops)
    (idle : ∀ op ∈ rest, op.admits = false) : hub.Holds ip (ops ++ rest) := by
  obtain ⟨first, op, last, rfl, owed, others⟩ := holds
  refine ⟨first, op, last ++ rest, by simp, owed, ?_⟩
  rw [← List.append_assoc]
  exact List.forall_mem_append.mpr ⟨others, idle⟩

theorem ips_getElem? {conn : Nat} {ip : String} (owed : hub.ips[conn]? = some ip) :
    ∃ socket, hub.connections[conn]? = some socket ∧ socket.ip = ip := by
  rw [ips, List.getElem?_map] at owed
  exact Option.map_eq_some_iff.mp owed

/-- The place is released after what comes before it. -/
theorem holds_release (hub : Hub) (ip : String) (before : List Op)
    (idle : ∀ op ∈ before, op.admits = false) :
    hub.Holds ip (before ++ [.release ip]) :=
  ⟨before, .release ip, [], rfl, rfl, by rwa [List.append_nil]⟩

/-- The operation that comes next goes on with the same socket. -/
theorem holds_socket {conn : Nat} {ip : String} {op : Op} (owed : hub.ips[conn]? = some ip)
    (socket : op.socket = some conn) (held : hub.owes op = op.socket.bind fun conn => hub.ips[conn]?)
    (before : List Op) (idle : ∀ op ∈ before, op.admits = false) :
    hub.Holds ip (before ++ [op]) := by
  refine ⟨before, op, [], rfl, ?_, by rwa [List.append_nil]⟩
  rw [held, socket]
  exact owed

/-- Where the place of a handler goes when its lookup or its room fails. -/
theorem unavailable_holds {conn : Nat} {ip : String} (owed : hub.ips[conn]? = some ip) :
    hub.Holds ip (hub.unavailable (.attach conn)) := by
  obtain ⟨socket, found, rfl⟩ := ips_getElem? owed
  simp only [unavailable, found]
  exact holds_release hub socket.ip [_] (List.forall_mem_singleton.mpr rfl)

theorem leave_holds (hub : Hub) (conn : Nat) (socket : Connection) :
    hub.Holds socket.ip (leave conn socket) :=
  holds_release hub socket.ip [_, _]
    (List.forall_mem_cons.mpr ⟨rfl, List.forall_mem_singleton.mpr rfl⟩)

theorem Holds.cons {ip : String} {op : Op} {ops : List Op} (holds : hub.Holds ip ops)
    (idle : op.admits = false) : hub.Holds ip (op :: ops) := by
  obtain ⟨first, owing, last, rfl, owed, others⟩ := holds
  exact ⟨op :: first, owing, last, rfl, owed, List.forall_mem_cons.mpr ⟨idle, others⟩⟩

/-- What an operation of a handler hands its place on to. -/
def Passes (hub : Hub) (ip : String) (outcome : Outcome) : Prop :=
  outcome.hub.connsByIp = hub.connsByIp ∧ outcome.hub.Holds ip outcome.next ∧
    ∀ new ∈ outcome.spawned.flatten, new.admits = false

theorem passes_outcome {after : Hub} {ip : String} {next : List Op} {notes : List Note}
    (same : after.connsByIp = hub.connsByIp) (holds : after.Holds ip next) :
    hub.Passes ip (after.outcome next notes) := ⟨same, holds, nofun⟩

section Handler
variable {conn session : Nat} {code ip slotToken : String}

theorem upgrade_passes (ip code slotToken : String) (answer : Answer) :
    hub.Passes ip (hub.upgrade ip code slotToken answer) := by
  simp only [upgrade]
  split
  · exact passes_outcome rfl (holds_release hub ip [] (List.forall_mem_nil _))
  · refine passes_outcome rfl (holds_socket ?_ rfl rfl [] (List.forall_mem_nil _))
    simp [ips, newConnection]

theorem lookup_passes {started : Time} (owed : hub.ips[conn]? = some ip)
    (ran : hub.lookup (.attach conn) code started = some outcome) : hub.Passes ip outcome := by
  simp only [lookup] at ran
  split at ran
  · cases ran
    exact passes_outcome rfl (unavailable_holds owed)
  · split at ran
    · cases ran
    · split at ran <;> cases ran
      · exact passes_outcome rfl (unavailable_holds owed)
      · exact passes_outcome rfl (holds_socket owed rfl rfl [] (List.forall_mem_nil _))

theorem check_passes (owed : hub.ips[conn]? = some ip) (code : String) (session : Nat) :
    hub.Passes ip (hub.check (.attach conn) code session) := by
  simp only [check]
  split
  · exact passes_outcome rfl ((unavailable_holds owed).cons rfl)
  · exact passes_outcome rfl (holds_socket owed rfl rfl [] (List.forall_mem_nil _))

theorem announceJoin_idle (conn change : Nat) (result : AddResult) :
    ∀ new ∈ announceJoin conn change result, new.admits = false := by
  have closes : ∀ new ∈ result.replaced.toList.map fun old => Op.close old.id,
      new.admits = false := List.forall_mem_map.mpr fun _ _ => rfl
  simp only [announceJoin]
  split
  · exact closes
  · exact List.forall_mem_append.mpr ⟨closes,
      List.forall_mem_cons.mpr ⟨rfl, List.forall_mem_singleton.mpr rfl⟩⟩

theorem join_passes (owed : hub.ips[conn]? = some ip)
    (ran : hub.join conn session answer = some outcome) : hub.Passes ip outcome := by
  simp only [join] at ran
  split at ran
  · split at ran
    · cases ran
      exact passes_outcome rfl (unavailable_holds owed)
    · cases ran
      refine passes_outcome rfl (holds_socket ?_ rfl rfl _ (announceJoin_idle _ _ _))
      refine (congrArg (·[conn]?) (ips_modify conn ?_)).trans owed
      exact fun _ => rfl
  · cases ran

theorem readLoop_passes (owed : hub.ips[conn]? = some ip)
    (ran : hub.readLoop conn answer = some outcome) : hub.Passes ip outcome := by
  obtain ⟨socket, found, rfl⟩ := ips_getElem? owed
  have leaves := leave_holds hub conn socket
  have reads : hub.Holds socket.ip [.read conn] :=
    holds_socket owed rfl rfl [] (List.forall_mem_nil _)
  cases answer with
  | incoming message =>
      cases message with
      | failed =>
          simp only [readLoop, found] at ran
          cases ran
          exact passes_outcome rfl leaves
      | unsupported =>
          simp only [readLoop, found] at ran
          cases ran
          exact passes_outcome rfl (leaves.cons rfl)
      | binary data =>
          simp only [readLoop, found] at ran
          split at ran
          · cases ran
            exact passes_outcome rfl (leaves.cons rfl)
          · cases ran
            exact passes_outcome rfl (leaves.cons rfl)
          · split at ran <;> cases ran
            · exact passes_outcome rfl reads
            · exact passes_outcome rfl (reads.cons rfl)
  | _ => simp [readLoop] at ran

end Handler

/-- An operation of a handler hands its place on, until the release. -/
theorem run_passes {ip : String} (owed : hub.owes op = some ip)
    (unreleased : op ≠ .release ip) (ran : hub.run op answer = some outcome) :
    hub.Passes ip outcome := by
  cases op with
  | upgrade _ code slotToken =>
      cases owed
      cases ran
      exact upgrade_passes ip code slotToken answer
  | release =>
      cases owed
      exact absurd rfl unreleased
  | lookup purpose =>
      cases purpose with
      | inform => cases owed
      | attach conn => exact lookup_passes owed ran
  | check purpose code session =>
      cases purpose with
      | inform => cases owed
      | attach conn =>
          cases ran
          exact check_passes owed code session
  | join conn session => exact join_passes owed ran
  | enter conn =>
      cases ran
      have reads : hub.Holds ip [.read conn] :=
        holds_socket owed rfl rfl [] (List.forall_mem_nil _)
      exact ⟨rfl, reads, List.forall_mem_singleton.mpr rfl⟩
  | read conn => exact readLoop_passes owed ran
  | _ => cases owed

end Operations

end Hub

end OnlyTwo.Relay
