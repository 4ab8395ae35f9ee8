import OnlyTwo.RelayTurns

/-!
What one operation may do to the rooms and the registry. `Section` lists the
critical sections with the moments they name; every step of the relay is one of
them. Facts about rooms are proved over this list and never look at goroutines.
-/

namespace OnlyTwo.Relay

def Note.silent : Note → Bool
  | .refused _ | .found .. | .looked .. | .missed _ | .finished _ | .unsent .. | .handed .. => true
  | _ => false

/-- The clock reading of a loop over the registry. -/
def Pass.now : Pass → Time
  | .create request => request.now
  | .sweep now => now

/-- The clock reading an operation brought along from before it held the lock. -/
def Op.reading : Op → Option Time
  | .lock pass => some pass.now
  | .scan pass _ _ => some pass.now
  | _ => none

inductive Section (maxSessionsPerIp : Int) (reading : Option Time) (store : Store) :
    List Note → Store → Prop where
  | idle (notes : List Note) : notes.all Note.silent = true →
      Section maxSessionsPerIp reading store notes store
  | tick (elapsed : Nat) :
      Section maxSessionsPerIp reading store [] { store with clock := store.clock + elapsed }
  | lock : Section maxSessionsPerIp reading store [] { store with locked := true }
  | dropped (code : String) (ref : Nat) :
      Section maxSessionsPerIp reading store [.expired code ref (store.attached ref)] (store.drop code)
  | swept (now : Time) : reading = some now →
      Section maxSessionsPerIp reading store [] { store.concludeSweep now with locked := false }
  | created (request : CreateRequest) (after : Store) (ref : Nat) :
      reading = some request.now →
      store.concludeCreate request maxSessionsPerIp = (after, .ok ref) →
      Section maxSessionsPerIp reading store
        [.created ref request.code request.profileId request.creatorIp request.now store.clock]
        { after with locked := false }
  | refused (request : CreateRequest) (after : Store) (error : SessionError)
      (notes : List Note) : reading = some request.now → notes.all Note.silent = true →
      store.concludeCreate request maxSessionsPerIp = (after, .error error) →
      Section maxSessionsPerIp reading store notes { after with locked := false }
  | forgot (code : String) (ref : Nat) : store.removes code (some ref) = true →
      Section maxSessionsPerIp reading store [.expired code ref (store.attached ref)] (store.drop code)
  | removed (code : String) : Section maxSessionsPerIp reading store [] (store.drop code)
  | ended (code : String) (ref : Nat) (after : Store) :
      store.endSession code ref = some after →
      Section maxSessionsPerIp reading store [.tombstoned code ref store.clock] after
  | added (ref : Nat) (room joined : Session) (endpoint : Endpoint) (pick : Nat)
      (result : AddResult) : store.heap[ref]? = some room →
      room.addConnection endpoint store.clock pick = .ok (joined, result) →
      Section maxSessionsPerIp reading store [.attached endpoint ref] (store.update ref joined)
  | left (ref : Nat) (room remaining : Session) (slot : String) (id pick : Nat)
      (peer : Option Endpoint) : store.heap[ref]? = some room →
      room.removeConnection slot id store.clock pick = some (remaining, peer) →
      Section maxSessionsPerIp reading store [] (store.update ref remaining)
  | drained (ref : Nat) (room : Session) (ending : Bool) : store.heap[ref]? = some room →
      Section maxSessionsPerIp reading store [.drained ref room.drainConnections.2 ending]
        (store.update ref room.drainConnections.1)

namespace Hub

/-- The state but for the sockets, the addresses and the goroutines. -/
def Rooms (hub after : Hub) : Prop :=
  after.store = hub.store ∧ after.config = hub.config ∧ after.changes = hub.changes

section Sockets
variable (hub : Hub) (id : Nat)

theorem writeMessage_rooms (frame : Frame) (answer : Answer) :
    hub.Rooms (hub.writeMessage id frame answer) := by
  simp only [writeMessage]
  split <;> exact ⟨rfl, rfl, rfl⟩

theorem sendPriority_rooms (kind : RelayKind) (answer : Answer) :
    hub.Rooms (hub.sendPriority id kind answer) := by
  rw [sendPriority_eq]
  exact writeMessage_rooms hub id (.control kind) answer

theorem send_rooms (data : Bytes) : hub.Rooms (hub.send id data) := by
  simp only [send]
  split <;> exact ⟨rfl, rfl, rfl⟩

theorem releaseIp_rooms (ip : String) : hub.Rooms (hub.releaseIp ip) := by
  simp only [releaseIp]
  split
  · exact ⟨rfl, rfl, rfl⟩
  · split <;> exact ⟨rfl, rfl, rfl⟩

theorem reserveIp_some {after : Hub} {ip : String} (taken : hub.reserveIp ip = some after) :
    after = { hub with
      connsByIp := hub.connsByIp.set ip ((hub.connsByIp.get? ip).getD 0 + 1) } := by
  simp only [reserveIp] at taken
  split at taken <;> cases taken
  rfl

end Sockets

/-! Each turn is one section. The turns that touch no room are the idle section, and
`Rooms` says so at once for all of them. -/
section Operations
variable {hub : Hub} {outcome : Outcome} {answer : Answer} {code : String} {next : List Op}
  {reading : Option Time}

/-- The section of an operation, and the configuration it leaves alone. -/
def Covers (hub : Hub) (reading : Option Time) (outcome : Outcome) : Prop :=
  Section hub.config.maxSessionsPerIp reading hub.store outcome.notes outcome.hub.store ∧
    outcome.hub.config = hub.config

theorem covers_of_rooms (rooms : hub.Rooms outcome.hub)
    (silent : outcome.notes.all Note.silent = true) : hub.Covers reading outcome := by
  refine ⟨?_, rooms.2.1⟩
  rw [rooms.1]
  exact .idle _ silent

theorem covers_outcome {notes : List Note} (silent : notes.all Note.silent = true) :
    hub.Covers reading (hub.outcome next notes) :=
  covers_of_rooms ⟨rfl, rfl, rfl⟩ silent

theorem beginCreate_silent (profileId creatorIp : String) (retries : Nat) :
    (hub.beginCreate code profileId creatorIp retries).2.all Note.silent = true := by
  simp only [beginCreate]
  split
  · split <;> rfl
  · rfl

theorem removeSession_covers (expected : Option Nat) :
    hub.Covers reading
      ((hub.withStore (hub.store.removeSession code expected)).outcome [] []) := by
  simp only [Covers, Store.removeSession, outcome_hub, outcome_notes, withStore_store]
  split
  · exact ⟨.removed code, rfl⟩
  · exact ⟨.idle [] rfl, rfl⟩

theorem run_covers {op : Op} (ran : hub.run op answer = some outcome) :
    hub.Covers op.reading outcome := by
  cases run_turn ran with
  | drawn => exact covers_outcome (beginCreate_silent _ _ _)
  | locked => exact ⟨.lock, rfl⟩
  | swept now => exact ⟨.swept now rfl, rfl⟩
  | created request _ _ _ after session concluded =>
      exact ⟨.created request after session rfl concluded, rfl⟩
  | rejected request _ _ _ after error concluded =>
      exact ⟨.refused request after error [.refused error] rfl rfl concluded, rfl⟩
  | retried request _ _ _ after error concluded =>
      exact ⟨.refused request after error [] rfl rfl concluded, rfl⟩
  | dropped code session => exact ⟨.dropped code session, rfl⟩
  | closed session _ room found => exact ⟨.drained session room false found, rfl⟩
  | emptied session _ room found => exact ⟨.drained session room false found, rfl⟩
  | drained session _ room found => exact ⟨.drained session room true found, rfl⟩
  | forgot code session _ removes => exact ⟨.forgot code session removes, rfl⟩
  | superseded => exact covers_of_rooms ⟨rfl, rfl, rfl⟩ rfl
  | removed code expected => exact removeSession_covers expected
  | buried code session _ after ended => exact ⟨.ended code session after ended, rfl⟩
  | added session endpoint _ room joined result found accepted =>
      exact ⟨.added session room joined endpoint _ result found accepted, rfl⟩
  | taken session slotToken id _ room remaining peer found removed =>
      exact ⟨.left session room remaining slotToken id _ peer found removed, rfl⟩
  | reserved ip _ _ _ after free =>
      cases reserveIp_some hub free
      exact covers_of_rooms ⟨rfl, rfl, rfl⟩ rfl
  | opened => exact covers_of_rooms ⟨rfl, rfl, rfl⟩ rfl
  | seated conn session _ socket room joined result _ found accepted =>
      exact ⟨.added session room joined _ _ result found accepted, rfl⟩
  | entered => exact covers_of_rooms ⟨rfl, rfl, rfl⟩ rfl
  | sent target data => exact covers_of_rooms (send_rooms hub target data) rfl
  | ended conn _ socket session room after _ _ _ ended =>
      exact ⟨.ended room.code session after ended, rfl⟩
  | left conn _ socket session room remaining peer _ _ found removed =>
      exact ⟨.left session room remaining _ conn _ peer found removed, rfl⟩
  | released ip => exact covers_of_rooms (releaseIp_rooms hub ip) rfl
  | shut => exact covers_of_rooms ⟨rfl, rfl, rfl⟩ rfl
  | parted => exact covers_of_rooms ⟨rfl, rfl, rfl⟩ rfl
  | unparted => exact covers_of_rooms ⟨rfl, rfl, rfl⟩ rfl
  | told target kind => exact covers_of_rooms (sendPriority_rooms hub target kind _) rfl
  | wrote target frame => exact covers_of_rooms (writeMessage_rooms hub target frame _) rfl
  | lost => exact covers_of_rooms ⟨rfl, rfl, rfl⟩ rfl
  | pumped => exact covers_of_rooms ⟨rfl, rfl, rfl⟩ rfl
  | _ => exact covers_outcome rfl

theorem begin_silent (call : Call) : (hub.begin call).2.all Note.silent = true := by
  cases call with
  | createSession =>
      simp only [begin]
      split <;> rfl
  | createSessionWithCode => exact beginCreate_silent _ _ _
  | serveHTTP =>
      simp only [begin]
      split <;> rfl
  | _ => rfl

/-- Everything a step can be, goroutines included. -/
theorem step_cases {event : Event} {after : Hub} {notes : List Note}
    (stepped : hub.step event = some (after, notes)) :
    (∃ elapsed : Nat, event = .tick elapsed ∧ notes = [] ∧
      after = hub.withStore { hub.store with clock := hub.store.clock + elapsed }) ∨
    (∃ call, event = .call call ∧ notes = (hub.begin call).2 ∧
      after = { hub with threads := hub.threads ++ [(hub.begin call).1] }) ∨
    (∃ thread answer op rest outcome, event = .step thread answer ∧
      hub.threads[thread]? = some (op :: rest) ∧ hub.run op answer = some outcome ∧
      notes = outcome.notes ∧
      after = { outcome.hub with
        threads := hub.threads.set thread (outcome.next ++ rest) ++ outcome.spawned }) := by
  cases event with
  | tick elapsed =>
      cases stepped
      exact Or.inl ⟨elapsed, rfl, rfl, rfl⟩
  | call call =>
      cases stepped
      exact Or.inr (Or.inl ⟨call, rfl, rfl, rfl⟩)
  | step thread answer =>
      simp only [step] at stepped
      split at stepped
      · rename_i op rest found
        obtain ⟨outcome, ran, same⟩ := Option.map_eq_some_iff.mp stepped
        cases same
        exact Or.inr (Or.inr ⟨thread, answer, op, rest, outcome, rfl, found, ran, rfl, rfl⟩)
      · cases stepped

/-- Every step of the relay is one section, and its clock reading, if it uses an
older one, is that of a pending operation. -/
theorem step_section {event : Event} {after : Hub} {notes : List Note}
    (stepped : hub.step event = some (after, notes)) :
    ∃ reading, Section hub.config.maxSessionsPerIp reading hub.store notes after.store ∧
      (reading = none ∨ ∃ ops ∈ hub.threads, ∃ op ∈ ops, op.reading = reading) ∧
      after.config = hub.config := by
  rcases step_cases stepped with ⟨elapsed, rfl, rfl, rfl⟩ | ⟨call, rfl, rfl, rfl⟩ |
    ⟨thread, answer, op, rest, outcome, rfl, found, ran, rfl, rfl⟩
  · exact ⟨none, .tick elapsed, Or.inl rfl, rfl⟩
  · exact ⟨none, .idle _ (begin_silent call), Or.inl rfl, rfl⟩
  · obtain ⟨performed, same⟩ := run_covers ran
    exact ⟨op.reading, performed,
      Or.inr ⟨_, List.mem_of_getElem? found, op, List.mem_cons_self, rfl⟩, same⟩

end Operations

end Hub

end OnlyTwo.Relay
