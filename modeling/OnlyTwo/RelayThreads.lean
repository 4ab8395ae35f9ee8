import OnlyTwo.RelaySections

/-!
What goroutines have still to do. `Brings` names every operation that another
one turns into, with what that one knew at the moment; `pending_step` carries a
property of all pending operations over a step, and `countP_advance` follows the
number of operations of a kind.
-/

namespace OnlyTwo.Relay

/-- Operations that rest on nothing but the socket or the address they name. -/
def Op.plain : Op → Bool
  | .write _ (.close ..) | .release _ | .close _ | .upgrade .. | .enter _ | .read _ | .pump _
  | .detach _ | .endSession _ | .reserve .. => true
  | _ => false

inductive Brings (hub : Hub) : Op → Op → Prop where
  | plain (op new : Op) : new.plain = true → Brings hub op new
  | drawn (profileId creatorIp : String) (left : Nat) (request : CreateRequest) :
      request.now = hub.store.clock →
      Brings hub (.attempt profileId creatorIp left) (.lock (.create request))
  | locked (pass : Pass) :
      Brings hub (.lock pass) (.scan pass hub.store.sessions.keys [])
  | passed (pass : Pass) (remaining rest : List String) (closing : List Nat) :
      Brings hub (.scan pass remaining closing) (.scan pass rest closing)
  | picked (pass : Pass) (remaining rest : List String) (closing : List Nat) (session : Nat) :
      hub.store.isExpired session = true →
      Brings hub (.scan pass remaining closing) (.scan pass rest (closing ++ [session]))
  | drop (pass : Pass) (remaining : List String) (closing : List Nat) (code : String)
      (session : Nat) : hub.store.isExpired session = true →
      Brings hub (.scan pass remaining closing) (.drop code session)
  | closing (pass : Pass) (remaining : List String) (closing : List Nat) (session : Nat) :
      session ∈ closing → Brings hub (.scan pass remaining closing) (.closeSession session)
  | retry (pass : Pass) (remaining : List String) (closing : List Nat)
      (profileId creatorIp : String) (left : Nat) :
      Brings hub (.scan pass remaining closing) (.attempt profileId creatorIp left)
  | found (purpose : Purpose) (code : String) (started : Time) (session : Nat) :
      Brings hub (.lookup purpose code started) (.check purpose code session)
  | forget (purpose : Purpose) (code : String) (session : Nat) :
      hub.store.isExpired session = true →
      Brings hub (.check purpose code session) (.forget code session)
  | attach (conn : Nat) (code : String) (session : Nat) :
      Brings hub (.check (.attach conn) code session) (.join conn session)
  | forgotten (code : String) (session : Nat) :
      Brings hub (.forget code session) (.closeSession session)
  | upgraded (ip code slotToken : String) :
      Brings hub (.upgrade ip code slotToken)
        (.lookup (.attach hub.connections.length) code hub.store.clock)
  | joined (conn session : Nat) (peer : Endpoint) (target : Nat) (kind : RelayKind)
      (room joined : Session) (result : AddResult) (socket : Connection) (pick : Nat) :
      hub.connections[conn]? = some socket → hub.store.heap[session]? = some room →
      room.addConnection ⟨conn, socket.slotToken⟩ hub.store.clock pick = .ok (joined, result) →
      result.peer = some peer →
      (target = peer.id ∧ (kind = .peerPresent ∨ kind = .peerRejoined)) ∨
        (target = conn ∧ kind = .peerPresent) →
      Brings hub (.join conn session) (.priority target kind hub.changes)
  | took (conn : Nat) (data : Bytes) : parseRelayControl data = none →
      Brings hub (.read conn) (.relay conn data)
  | handed (conn target : Nat) (data : Bytes) :
      Brings hub (.relay conn data) (.deliver target data)
  | left (conn session : Nat) (peer : Endpoint) (room remaining : Session)
      (socket : Connection) (pick : Nat) :
      hub.connections[conn]? = some socket → socket.session = some session →
      hub.store.heap[session]? = some room →
      room.removeConnection socket.slotToken conn hub.store.clock pick =
        some (remaining, some peer) →
      Brings hub (.detach conn) (.priority peer.id .peerDisconnected hub.changes)
  | ended (conn session : Nat) (code : String) (socket : Connection) (after : Store) :
      hub.connections[conn]? = some socket → socket.session = some session →
      hub.store.endSession code session = some after →
      Brings hub (.endSession conn) (.drain session)
  | drained (session : Nat) (room : Session) (endpoint : Endpoint) :
      hub.store.heap[session]? = some room → endpoint ∈ room.drainConnections.2 →
      Brings hub (.drain session) (.closeWithControl endpoint.id .sessionEnded)
  | finish (session : Nat) (room : Session) : hub.store.heap[session]? = some room →
      Brings hub (.drain session) (.finish session room.drainConnections.2)

namespace Hub

section Brought
variable {hub after : Hub} {outcome : Outcome} {answer : Answer} {conn : Nat} {code : String}
  {new op : Op} {notes : List Note}

theorem brought_one (member : new ∈ brought (after.outcome [op] notes)) : new = op := by
  rw [brought_outcome] at member
  exact List.mem_singleton.mp member

theorem plain_brings {next : List Op} (plain : ∀ other ∈ next, other.plain = true)
    (member : new ∈ brought (after.outcome next notes)) : Brings hub op new := by
  rw [brought_outcome] at member
  exact .plain _ _ (plain new member)

theorem unavailable_plain (purpose : Purpose) : ∀ op ∈ hub.unavailable purpose, op.plain = true := by
  cases purpose with
  | inform => simp [unavailable]
  | attach conn =>
      simp only [unavailable]
      split <;> simp [Op.plain]

theorem leave_plain (socket : Connection) : ∀ op ∈ leave conn socket, op.plain = true := by
  simp [leave, Op.plain]

theorem beginCreate_lock {profileId creatorIp : String} {retries : Nat}
    (member : new ∈ (hub.beginCreate code profileId creatorIp retries).1) :
    ∃ request, new = .lock (.create request) ∧ request.now = hub.store.clock := by
  simp only [beginCreate] at member
  split at member
  · split at member
    · exact ⟨_, List.mem_singleton.mp member, rfl⟩
    · simp at member
  · simp at member

theorem closes_brings {pass : Pass} {remaining : List String} {closing : List Nat}
    (member : new ∈ closing.map Op.closeSession) : Brings hub (.scan pass remaining closing) new := by
  obtain ⟨session, held, rfl⟩ := List.mem_map.mp member
  exact .closing pass remaining closing session held

theorem announceJoin_cases {change : Nat} {result : AddResult}
    (member : new ∈ announceJoin conn change result) :
    new.plain = true ∨ ∃ peer target kind, result.peer = some peer ∧
      new = .priority target kind change ∧
      ((target = peer.id ∧ (kind = .peerPresent ∨ kind = .peerRejoined)) ∨
        (target = conn ∧ kind = .peerPresent)) := by
  have closes : ∀ op ∈ result.replaced.toList.map fun old => Op.close old.id,
      op.plain = true := by
    simp [Op.plain]
  simp only [announceJoin] at member
  split at member
  · exact Or.inl (closes new member)
  · rename_i peer found
    rcases List.mem_append.mp member with close | frame
    · exact Or.inl (closes new close)
    · simp only [List.mem_cons, List.not_mem_nil, or_false] at frame
      rcases frame with rfl | rfl
      · refine Or.inr ⟨peer, _, _, found, rfl, Or.inl ⟨rfl, ?_⟩⟩
        split <;> simp
      · exact Or.inr ⟨peer, _, _, found, rfl, Or.inr ⟨rfl, rfl⟩⟩

theorem closeAll_plain (endpoints : List Endpoint) : ∀ op ∈ closeAll endpoints, op.plain = true :=
  List.forall_mem_map.mpr fun _ _ => rfl

theorem run_brings (ran : hub.run op answer = some outcome) (member : new ∈ brought outcome) :
    Brings hub op new := by
  cases run_turn ran with
  | drawn =>
      rw [brought_outcome] at member
      obtain ⟨request, rfl, now⟩ := beginCreate_lock member
      exact .drawn _ _ _ request now
  | locked pass => cases brought_one member; exact .locked pass
  | passed => cases brought_one member; exact .passed _ _ _ _
  | picked pass remaining closing _ code session expired =>
      simp only [brought_outcome, List.mem_cons, List.not_mem_nil, or_false] at member
      rcases member with rfl | rfl
      · exact .drop _ _ _ _ _ expired
      · exact .picked _ _ _ _ _ expired
  | swept => rw [brought_outcome] at member; exact closes_brings member
  | created => rw [brought_outcome] at member; exact closes_brings member
  | rejected => rw [brought_outcome] at member; exact closes_brings member
  | retried =>
      rw [brought_outcome] at member
      rcases List.mem_append.mp member with close | again
      · exact closes_brings close
      · cases List.mem_singleton.mp again
        exact .retry _ _ _ _ _ _
  | closed => exact plain_brings (closeAll_plain _) member
  | emptied => exact plain_brings (closeAll_plain _) member
  | drained session _ room found =>
      rw [brought_outcome] at member
      rcases List.mem_append.mp member with ends | last
      · obtain ⟨endpoint, held, rfl⟩ := List.mem_map.mp ends
        exact .drained session room endpoint found held
      · cases List.mem_singleton.mp last
        exact .finish session room found
  | missed purpose => exact plain_brings (unavailable_plain purpose) member
  | found => cases brought_one member; exact .found _ _ _ _
  | expired purpose code session _ expired =>
      rw [brought_outcome] at member
      rcases List.mem_cons.mp member with rfl | plain
      · exact .forget _ _ _ expired
      · exact .plain _ _ (unavailable_plain purpose new plain)
  | attaching => cases brought_one member; exact .attach _ _ _
  | forgot code session =>
      simp only [brought, List.nil_append, List.flatten_cons, List.flatten_nil, List.append_nil,
        List.mem_singleton] at member
      subst member
      exact .forgotten code session
  | superseded code session =>
      simp only [brought, List.nil_append, List.flatten_cons, List.flatten_nil, List.append_nil,
        List.mem_singleton] at member
      subst member
      exact .forgotten code session
  | reserved => cases brought_one member; exact .plain _ _ rfl
  | unopened => cases brought_one member; exact .plain _ _ rfl
  | opened => cases brought_one member; exact .upgraded _ _ _
  | unseated => exact plain_brings (unavailable_plain _) member
  | seated conn session _ socket room joined result known found accepted =>
      rw [brought_outcome] at member
      rcases List.mem_append.mp member with announced | entered
      · rcases announceJoin_cases announced with plain | ⟨peer, target, kind, other, rfl, which⟩
        · exact .plain _ _ plain
        · exact .joined conn session peer target kind room joined result socket _ known found
            accepted other which
      · cases List.mem_singleton.mp entered
        exact .plain _ _ rfl
  | entered =>
      simp only [brought, List.flatten_cons, List.flatten_nil, List.append_nil, List.mem_append,
        List.mem_singleton] at member
      rcases member with rfl | rfl <;> exact .plain _ _ rfl
  | hungUp conn socket => exact plain_brings (leave_plain socket) member
  | unsupported conn socket =>
      exact plain_brings (List.forall_mem_cons.mpr ⟨rfl, leave_plain socket⟩) member
  | asked conn socket =>
      exact plain_brings (List.forall_mem_cons.mpr ⟨rfl, leave_plain socket⟩) member
  | invalid conn socket =>
      exact plain_brings (List.forall_mem_cons.mpr ⟨rfl, leave_plain socket⟩) member
  | ignored => cases brought_one member; exact .plain _ _ rfl
  | took conn socket data _ refused =>
      rw [brought_outcome] at member
      rcases List.mem_cons.mp member with rfl | again
      · exact .took conn data refused
      · cases List.mem_singleton.mp again
        exact .plain _ _ rfl
  | handed => cases brought_one member; exact .handed _ _ _
  | ended conn _ socket session room after known own _ ended =>
      cases brought_one member
      exact .ended conn session _ socket after known own ended
  | left conn _ socket session room remaining peer known own found removed =>
      cases peer with
      | none => simp at member
      | some peer =>
          cases brought_one member
          exact .left conn session peer room remaining socket _ known own found removed
  | gone => cases brought_one member; exact .plain _ _ rfl
  | parted => cases brought_one member; exact .plain _ _ rfl
  | unparted => cases brought_one member; exact .plain _ _ rfl
  | unpinged => cases brought_one member; exact .plain _ _ rfl
  | lost => cases brought_one member; exact .plain _ _ rfl
  | pumped => cases brought_one member; exact .plain _ _ rfl
  | dropped => simp [dropSession] at member
  | _ => simp at member

end Brought

end Hub

/-- The moments an operation may name, with what it knew then. -/
inductive Tells (hub : Hub) : Op → Note → Prop where
  | refused (op : Op) (error : SessionError) : Tells hub op (.refused error)
  | missed (op : Op) (code : String) : Tells hub op (.missed code)
  | looked (op : Op) (session : Nat) (code : String) : Tells hub op (.looked session code)
  | found (purpose : Purpose) (code : String) (started : Time) (session : Nat) :
      hub.store.sessions.get? code = some session →
      Tells hub (.lookup purpose code started) (.found session code started hub.store.clock)
  | created (request : CreateRequest) (remaining : List String) (closing : List Nat)
      (after : Store) (session : Nat) :
      hub.store.concludeCreate request hub.config.maxSessionsPerIp = (after, .ok session) →
      Tells hub (.scan (.create request) remaining closing)
        (.created session request.code request.profileId request.creatorIp request.now
          hub.store.clock)
  | dropped (code : String) (session : Nat) :
      Tells hub (.drop code session) (.expired code session (hub.store.attached session))
  | forgot (code : String) (session : Nat) :
      Tells hub (.forget code session) (.expired code session (hub.store.attached session))
  | tombstoned (op : Op) (code : String) (session : Nat) (after : Store) :
      hub.store.endSession code session = some after →
      Tells hub op (.tombstoned code session hub.store.clock)
  | joined (conn session : Nat) (socket : Connection) :
      hub.connections[conn]? = some socket →
      Tells hub (.join conn session) (.attached ⟨conn, socket.slotToken⟩ session)
  | attached (session : Nat) (endpoint : Endpoint) :
      Tells hub (.addConnection session endpoint) (.attached endpoint session)
  | closed (session : Nat) (room : Session) : hub.store.heap[session]? = some room →
      Tells hub (.closeSession session) (.drained session room.drainConnections.2 false)
  | emptied (session : Nat) (room : Session) : hub.store.heap[session]? = some room →
      Tells hub (.drainConnections session) (.drained session room.drainConnections.2 false)
  | drained (session : Nat) (room : Session) : hub.store.heap[session]? = some room →
      Tells hub (.drain session) (.drained session room.drainConnections.2 true)
  | finished (session : Nat) (endpoints : List Endpoint) :
      Tells hub (.finish session endpoints) (.finished session)
  | unsent (target : Nat) (kind : RelayKind) (closed : Bool) :
      Tells hub (.closeWithControl target kind) (.unsent target closed)
  | handed (conn session : Nat) (data : Bytes) (socket : Connection) (room : Session)
      (peer : Endpoint) (pick : Nat) :
      hub.connections[conn]? = some socket → socket.session = some session →
      hub.store.heap[session]? = some room →
      room.peerOf conn hub.store.clock pick = some peer →
      Tells hub (.relay conn data) (.handed conn peer session)

namespace Hub

section Told
variable {hub : Hub} {outcome : Outcome} {answer : Answer} {note : Note}

theorem beginCreate_refused {code profileId creatorIp : String} {retries : Nat}
    (member : note ∈ (hub.beginCreate code profileId creatorIp retries).2) :
    ∃ error, note = .refused error := by
  simp only [beginCreate] at member
  split at member
  · split at member
    · cases member
    · exact ⟨_, List.mem_singleton.mp member⟩
  · exact ⟨_, List.mem_singleton.mp member⟩

theorem run_tells {op : Op} (ran : hub.run op answer = some outcome)
    (member : note ∈ outcome.notes) : Tells hub op note := by
  cases run_turn ran with
  | exhausted => cases List.mem_singleton.mp member; exact .refused _ _
  | drawn =>
      obtain ⟨error, rfl⟩ := beginCreate_refused member
      exact .refused _ error
  | created request remaining closing _ after session concluded =>
      cases List.mem_singleton.mp member
      exact .created request remaining closing after session concluded
  | rejected => cases List.mem_singleton.mp member; exact .refused _ _
  | dropped code session => cases List.mem_singleton.mp member; exact .dropped code session
  | closed session _ room found => cases List.mem_singleton.mp member; exact .closed session room found
  | emptied session _ room found =>
      cases List.mem_singleton.mp member
      exact .emptied session room found
  | drained session _ room found =>
      cases List.mem_singleton.mp member
      exact .drained session room found
  | missed => cases List.mem_singleton.mp member; exact .missed _ _
  | found _ _ _ _ _ listed => cases List.mem_singleton.mp member; exact .found _ _ _ _ listed
  | expired => cases List.mem_singleton.mp member; exact .missed _ _
  | informed => cases List.mem_singleton.mp member; exact .looked _ _ _
  | attaching => cases List.mem_singleton.mp member; exact .looked _ _ _
  | forgot code session => cases List.mem_singleton.mp member; exact .forgot code session
  | buried code session _ after ended =>
      cases List.mem_singleton.mp member
      exact .tombstoned _ code session after ended
  | added session endpoint => cases List.mem_singleton.mp member; exact .attached session endpoint
  | seated conn session _ socket _ _ _ known =>
      cases List.mem_singleton.mp member
      exact .joined conn session socket known
  | handed conn data _ session socket room peer known own found chosen =>
      cases List.mem_singleton.mp member
      exact .handed conn session data socket room peer _ known own found chosen
  | ended _ _ _ session room after _ _ _ ended =>
      cases List.mem_singleton.mp member
      exact .tombstoned _ room.code session after ended
  | finished session endpoints =>
      cases List.mem_singleton.mp member
      exact .finished session endpoints
  | gone => cases List.mem_singleton.mp member; exact .unsent _ _ _
  | unparted => cases List.mem_singleton.mp member; exact .unsent _ _ _
  | _ => cases member

end Told

end Hub

/-- The methods of a session called from outside the hub, which itself reaches a
session only through the handler of a socket and through expiry. -/
def Call.direct : Call → Bool
  | .addConnection .. | .removeConnection .. | .drainConnections _ => true
  | _ => false

/-- The runs of the server: sockets enter and leave rooms through their handler. -/
def Served (_ : Hub) : Event → Prop
  | .call call => call.direct = false
  | _ => True

instance decidableServed (hub : Hub) : (event : Event) → Decidable (Served hub event)
  | .call call => inferInstanceAs (Decidable (call.direct = false))
  | .tick _ => inferInstanceAs (Decidable True)
  | .step _ _ => inferInstanceAs (Decidable True)

/-- How a call may begin. -/
inductive Begins (hub : Hub) : Call → Op → Prop where
  | reserve (ip code slotToken : String) :
      Begins hub (.serveHTTP ip code slotToken) (.reserve ip code slotToken)
  | attempt (profileId creatorIp : String) :
      Begins hub (.createSession profileId creatorIp) (.attempt profileId creatorIp 64)
  | lock (call : Call) (pass : Pass) : pass.now = hub.store.clock →
      Begins hub call (.lock pass)
  | lookup (code : String) :
      Begins hub (.getSession code) (.lookup .inform code hub.store.clock)
  | endRegistry (code : String) (session : Nat) :
      Begins hub (.endSession code session) (.endRegistry code session)
  | removeSession (code : String) (expected : Option Nat) :
      Begins hub (.removeSession code expected) (.removeSession code expected)
  | addConnection (session : Nat) (endpoint : Endpoint) :
      Begins hub (.addConnection session endpoint) (.addConnection session endpoint)
  | removeConnection (session : Nat) (slotToken : String) (id : Nat) :
      Begins hub (.removeConnection session slotToken id)
        (.removeConnection session slotToken id)
  | drainConnections (session : Nat) :
      Begins hub (.drainConnections session) (.drainConnections session)

namespace Hub

section Threads
variable {hub after : Hub} {event : Event} {notes : List Note} {property kept : Op → Prop}

theorem begin_begins {call : Call} {op : Op} (member : op ∈ (hub.begin call).1) :
    Begins hub call op := by
  cases call with
  | createSession =>
      simp only [begin] at member
      split at member
      · simp at member
      · cases List.mem_singleton.mp member
        exact .attempt _ _
  | createSessionWithCode =>
      obtain ⟨request, rfl, now⟩ := beginCreate_lock member
      exact .lock _ _ now
  | serveHTTP =>
      simp only [begin] at member
      split at member
      · simp at member
      · cases List.mem_singleton.mp member
        exact .reserve _ _ _
  | getSession => cases List.mem_singleton.mp member; exact .lookup _
  | sweepExpired => cases List.mem_singleton.mp member; exact .lock _ _ rfl
  | endSession => cases List.mem_singleton.mp member; exact .endRegistry _ _
  | removeSession => cases List.mem_singleton.mp member; exact .removeSession _ _
  | addConnection => cases List.mem_singleton.mp member; exact .addConnection _ _
  | removeConnection => cases List.mem_singleton.mp member; exact .removeConnection _ _ _
  | drainConnections => cases List.mem_singleton.mp member; exact .drainConnections _

/-- A property of every operation that is still to be done. -/
def Pending (hub : Hub) (property : Op → Prop) : Prop :=
  ∀ ops ∈ hub.threads, ∀ op ∈ ops, property op

/-- The step rule: the operations that stay keep their property, and those that a
call or an operation brings have it. -/
theorem pending_step (stepped : hub.step event = some (after, notes))
    (pending : hub.Pending property) (stays : ∀ op, property op → kept op)
    (begun : ∀ call op, event = .call call → Begins hub call op → kept op)
    (brings : ∀ op new, property op → Brings hub op new → kept new) :
    after.Pending kept := by
  intro ops member op listed
  rcases step_cases stepped with ⟨elapsed, rfl, rfl, rfl⟩ | ⟨call, rfl, rfl, rfl⟩ |
    ⟨thread, answer, first, rest, outcome, rfl, found, ran, rfl, rfl⟩
  · exact stays op (pending ops member op listed)
  · rcases List.mem_append.mp member with old | new
    · exact stays op (pending ops old op listed)
    · cases List.mem_singleton.mp new
      exact begun call op rfl (begin_begins listed)
  · have current := pending _ (List.mem_of_getElem? found)
    have results : ∀ new ∈ brought outcome, kept new := fun new member =>
      brings first new (current first List.mem_cons_self) (run_brings ran member)
    rcases List.mem_append.mp member with old | spawned
    · rcases List.mem_or_eq_of_mem_set old with kept | rfl
      · exact stays op (pending ops kept op listed)
      · rcases List.mem_append.mp listed with new | later
        · exact results op (List.mem_append_left _ new)
        · exact stays op (current op (List.mem_cons_of_mem first later))
    · exact results op (List.mem_append_right _ (List.mem_flatten_of_mem spawned listed))

theorem begin_refused {call : Call} {note : Note} (member : note ∈ (hub.begin call).2) :
    ∃ error, note = .refused error := by
  cases call with
  | createSession =>
      simp only [begin] at member
      split at member
      · exact ⟨_, List.mem_singleton.mp member⟩
      · cases member
  | createSessionWithCode => exact beginCreate_refused member
  | serveHTTP =>
      simp only [begin] at member
      split at member <;> cases member
  | _ => cases member

/-- What a step names, some pending operation told, or a call refused to begin. -/
theorem step_tells (stepped : hub.step event = some (after, notes)) {note : Note}
    (member : note ∈ notes) :
    (∃ ops op, ops ∈ hub.threads ∧ op ∈ ops ∧ Tells hub op note) ∨ ∃ error, note = .refused error := by
  rcases step_cases stepped with ⟨elapsed, rfl, rfl, rfl⟩ | ⟨call, rfl, rfl, rfl⟩ |
    ⟨thread, answer, op, rest, outcome, rfl, found, ran, rfl, rfl⟩
  · cases member
  · exact Or.inr (begin_refused member)
  · exact Or.inl ⟨_, op, List.mem_of_getElem? found, List.mem_cons_self, run_tells ran member⟩

/-- Some goroutine has the operation still to do. -/
def Has (hub : Hub) (op : Op) : Prop := ∃ ops ∈ hub.threads, op ∈ ops

theorem mem_set_of_mem {threads : List (List Op)} {index : Nat} {old new ops : List Op}
    (found : threads[index]? = some old) (member : ops ∈ threads) :
    ops ∈ threads.set index new ∨ ops = old := by
  obtain ⟨place, stored⟩ := List.getElem?_of_mem member
  by_cases same : index = place
  · subst same
    rw [found] at stored
    cases stored
    exact Or.inr rfl
  · left
    apply List.mem_of_getElem?
    rw [List.getElem?_set_ne same]
    exact stored

section Has
variable {thread : Nat} {op new : Op} {rest : List Op} {outcome : Outcome}

/-- The goroutines after one of them has done its first operation. -/
def advance (hub : Hub) (thread : Nat) (rest : List Op) (outcome : Outcome) : Hub :=
  { outcome.hub with
    threads := hub.threads.set thread (outcome.next ++ rest) ++ outcome.spawned }

/-- The number of items of a kind when the first item of one list is replaced. -/
theorem countP_flatten_set {Item : Type} (counts : Item → Bool)
    (lists : List (List Item)) (index : Nat) (first : Item) (rest next : List Item)
    (found : lists[index]? = some (first :: rest)) :
    ((lists.set index (next ++ rest)).flatten).countP counts + [first].countP counts =
      lists.flatten.countP counts + next.countP counts := by
  induction lists generalizing index with
  | nil => simp at found
  | cons head tail ih =>
      cases index with
      | zero =>
          simp only [List.getElem?_cons_zero, Option.some.injEq] at found
          subst found
          simp only [List.set_cons_zero, List.flatten_cons, List.countP_append, List.countP_cons,
            List.countP_nil]
          omega
      | succ index =>
          have smaller := ih index (by simpa using found)
          simp only [List.set_cons_succ, List.flatten_cons, List.countP_append] at smaller ⊢
          omega

/-- The number of operations of a kind that are still to do. -/
theorem countP_advance (counts : Op → Bool) (outcome : Outcome)
    (found : hub.threads[thread]? = some (op :: rest)) :
    (hub.advance thread rest outcome).threads.flatten.countP counts + [op].countP counts =
      hub.threads.flatten.countP counts + (brought outcome).countP counts := by
  have own := countP_flatten_set counts hub.threads thread op rest outcome.next found
  simp only [advance, brought, List.flatten_append, List.countP_append]
  omega

theorem has_advance (found : hub.threads[thread]? = some (op :: rest)) :
    (hub.advance thread rest outcome).Has new → hub.Has new ∨ new ∈ brought outcome := by
  rintro ⟨ops, member, listed⟩
  rcases List.mem_append.mp member with old | spawned
  · rcases List.mem_or_eq_of_mem_set old with kept | rfl
    · exact Or.inl ⟨ops, kept, listed⟩
    · rcases List.mem_append.mp listed with next | later
      · exact Or.inr (List.mem_append_left _ next)
      · exact Or.inl ⟨_, List.mem_of_getElem? found, List.mem_cons_of_mem op later⟩
  · exact Or.inr (List.mem_append_right _ (List.mem_flatten_of_mem spawned listed))

theorem advance_has (found : hub.threads[thread]? = some (op :: rest)) (held : hub.Has new) :
    (hub.advance thread rest outcome).Has new ∨ new = op := by
  obtain ⟨ops, member, listed⟩ := held
  rcases mem_set_of_mem found member with kept | rfl
  · exact Or.inl ⟨ops, List.mem_append_left _ kept, listed⟩
  · rcases List.mem_cons.mp listed with rfl | later
    · exact Or.inr rfl
    · have below := (List.getElem?_eq_some_iff.mp found).1
      exact Or.inl ⟨outcome.next ++ rest,
        List.mem_append_left _ (List.mem_set below _), List.mem_append_right _ later⟩

theorem advance_has_brought (found : hub.threads[thread]? = some (op :: rest))
    (member : new ∈ brought outcome) : (hub.advance thread rest outcome).Has new := by
  rcases List.mem_append.mp member with next | spawned
  · have below := (List.getElem?_eq_some_iff.mp found).1
    exact ⟨outcome.next ++ rest, List.mem_append_left _ (List.mem_set below _),
      List.mem_append_left _ next⟩
  · obtain ⟨ops, spawned, listed⟩ := List.mem_flatten.mp spawned
    exact ⟨ops, List.mem_append_right _ spawned, listed⟩

end Has

theorem newHub_pending (config : Config) (ttl : Time) : (newHub config ttl).Pending property := by
  intro ops member
  cases member

end Threads

end Hub

/-- What the life of a socket never takes back. -/
structure Connection.Lasts (socket kept : Connection) : Prop where
  slotToken : kept.slotToken = socket.slotToken
  closed : socket.closed = true → kept.closed = true
  written : socket.written <+: kept.written

theorem Connection.Lasts.refl (socket : Connection) : socket.Lasts socket :=
  ⟨rfl, id, List.prefix_rfl⟩

namespace Hub

section Sockets
variable {hub after : Hub} {outcome : Outcome} {answer : Answer}

def Lasts (hub after : Hub) : Prop :=
  ∀ (id : Nat) (socket : Connection), hub.connections[id]? = some socket →
    ∃ kept, after.connections[id]? = some kept ∧ socket.Lasts kept

theorem lasts_of_connections (same : after.connections = hub.connections) : hub.Lasts after := by
  intro id socket found
  exact ⟨socket, same ▸ found, .refl socket⟩

theorem getElem?_modify {id other : Nat} {change : Connection → Connection} :
    (hub.modifyConnection id change).connections[other]? =
      if other = id then (hub.connections[id]?).map change else hub.connections[other]? := by
  simp only [modifyConnection_connections, List.getElem?_modify]
  by_cases same : other = id
  · subst same
    simp
  · cases hub.connections[other]? <;> simp [same, Ne.symm same]

theorem lasts_modify {id : Nat} {change : Connection → Connection}
    (grows : ∀ socket : Connection, socket.Lasts (change socket)) :
    hub.Lasts (hub.modifyConnection id change) := by
  intro other socket found
  rw [getElem?_modify]
  split
  · rename_i same
    subst same
    exact ⟨change socket, by rw [found]; rfl, grows socket⟩
  · exact ⟨socket, found, .refl socket⟩

theorem closeConnection_lasts (id : Nat) : hub.Lasts (hub.closeConnection id) :=
  lasts_modify fun _ => ⟨rfl, fun _ => rfl, List.prefix_rfl⟩

theorem writeFrames_lasts (id : Nat) (frames : List Frame) :
    hub.Lasts (hub.writeFrames id frames) :=
  lasts_modify fun _ => ⟨rfl, fun closed => closed, List.prefix_append _ _⟩

theorem send_lasts (id : Nat) (data : Bytes) : hub.Lasts (hub.send id data) := by
  simp only [send]
  split
  · exact lasts_of_connections rfl
  · apply lasts_modify
    intro socket
    split
    · exact ⟨rfl, fun closed => closed, List.prefix_rfl⟩
    · exact .refl socket

theorem writeMessage_lasts (id : Nat) (frame : Frame) :
    hub.Lasts (hub.writeMessage id frame answer) := by
  simp only [writeMessage]
  split
  · exact lasts_of_connections rfl
  · exact writeFrames_lasts id [frame]

theorem releaseIp_connections (ip : String) :
    (hub.releaseIp ip).connections = hub.connections := by
  simp only [releaseIp]
  split
  · rfl
  · split <;> rfl

theorem opened_lasts (slotToken ip : String) :
    hub.Lasts { hub with connections := hub.connections ++ [newConnection slotToken ip] } := by
  intro id socket found
  have below := (List.getElem?_eq_some_iff.mp found).1
  exact ⟨socket, (List.getElem?_append_left below).trans found, .refl socket⟩

theorem run_lasts {op : Op} (ran : hub.run op answer = some outcome) : hub.Lasts outcome.hub := by
  cases run_turn ran with
  | reserved _ _ _ _ after free =>
      cases reserveIp_some hub free
      exact lasts_of_connections rfl
  | opened ip code slotToken => exact opened_lasts slotToken ip
  | seated => exact lasts_modify fun _ => ⟨rfl, fun closed => closed, List.prefix_rfl⟩
  | sent target data => exact send_lasts target data
  | released ip => exact lasts_of_connections (releaseIp_connections ip)
  | shut target => exact closeConnection_lasts target
  | parted target _ _ frames => exact writeFrames_lasts target frames
  | unparted target _ _ frames => exact writeFrames_lasts target frames
  | told target kind =>
      rw [outcome_hub, sendPriority_eq]
      exact writeMessage_lasts target _
  | wrote target frame => exact writeMessage_lasts target frame
  | lost => exact lasts_modify fun _ => ⟨rfl, fun closed => closed, List.prefix_rfl⟩
  | pumped => exact lasts_modify fun _ => ⟨rfl, fun closed => closed, List.prefix_append _ _⟩
  | _ => exact lasts_of_connections rfl

theorem step_lasts {event : Event} {notes : List Note}
    (stepped : hub.step event = some (after, notes)) : hub.Lasts after := by
  rcases step_cases stepped with ⟨elapsed, rfl, rfl, rfl⟩ | ⟨call, rfl, rfl, rfl⟩ |
    ⟨thread, answer, op, rest, outcome, rfl, found, ran, rfl, rfl⟩
  · exact lasts_of_connections rfl
  · exact lasts_of_connections rfl
  · exact run_lasts ran

end Sockets

end Hub

end OnlyTwo.Relay
