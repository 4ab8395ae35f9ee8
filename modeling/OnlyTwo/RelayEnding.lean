import OnlyTwo.RelayExpiry
import OnlyTwo.RelayTombstones

/-!
The end of a room for both. `Hub.EndSession` buries the code under the registry's
lock and drains the room later under the room's own lock, so sockets may still
enter in between; whoever is there at the drain is closed before the call returns,
and has the farewell frame unless its socket was closed already or the write failed.
A room is buried at most once, hence drained by an ending at most once: a tally of
pending and performed drains shows it.
-/

namespace OnlyTwo.Relay

section Lists
variable {Item : Type}

theorem eq_of_countP_le_one {counts : Item → Bool} {items : List Item} {left right : Item}
    (few : items.countP counts ≤ 1) (first : left ∈ items) (second : right ∈ items)
    (leftCounts : counts left = true) (rightCounts : counts right = true) : left = right := by
  induction items with
  | nil => cases first
  | cons item rest ih =>
      have positive : ∀ other ∈ rest, counts other = true → 0 < rest.countP counts :=
        fun other member holds => List.countP_pos_iff.mpr ⟨other, member, holds⟩
      rw [List.countP_cons] at few
      rcases List.mem_cons.mp first with rfl | earlier
      · rcases List.mem_cons.mp second with rfl | later
        · rfl
        · have more := positive right later rightCounts
          simp only [leftCounts, ↓reduceIte] at few
          omega
      · rcases List.mem_cons.mp second with rfl | later
        · have more := positive left earlier leftCounts
          simp only [rightCounts, ↓reduceIte] at few
          omega
        · exact ih (Nat.le_trans (Nat.le_add_right _ _) few) earlier later

end Lists

/-- The note that a room was buried, and that its ending drained it. -/
def Note.buries (session : Nat) : Note → Bool
  | .tombstoned _ other _ => other == session
  | _ => false

def Note.empties (session : Nat) : Note → Bool
  | .drained other _ true => other == session
  | _ => false

namespace Store

section Sections
variable {store after : Store} {past notes : List Note} {maxSessionsPerIp : Int}
  {reading : Option Time} {session : Nat}

/-- A live code names a room that bears it. -/
def Named (store : Store) : Prop :=
  ∀ code ref, store.sessions.get? code = some ref →
    ∃ room, store.heap[ref]? = some room ∧ room.code = code

/-- A listed room was listed before, or is new in the heap. -/
theorem section_listed (performed : Section maxSessionsPerIp reading store notes after)
    {code : String} {ref : Nat} (listed : after.sessions.get? code = some ref) :
    store.sessions.get? code = some ref ∨
      (ref = store.heap.length ∧ ∃ room, after.heap[ref]? = some room ∧ room.code = code) := by
  have deleted : ∀ other, (store.sessions.delete other).get? code = some ref →
      store.sessions.get? code = some ref := by
    intro other kept
    rw [InsertionMap.get?_delete] at kept
    split at kept
    · cases kept
    · exact kept
  cases performed with
  | dropped other => exact Or.inl (deleted other listed)
  | forgot other => exact Or.inl (deleted other listed)
  | removed other => exact Or.inl (deleted other listed)
  | created request after _ _ concluded =>
      obtain ⟨ended, _, ⟨_, wrong, _⟩ | ⟨_, _, _, _, rfl⟩⟩ := concludeCreate_cases concluded
      · cases wrong
      · dsimp only at listed ⊢
        rw [InsertionMap.get?_set] at listed
        split at listed
        · rename_i own
          cases listed
          exact Or.inr ⟨rfl, _, List.getElem?_concat_length, own.symm⟩
        · exact Or.inl listed
  | refused request after error _ _ _ concluded =>
      obtain ⟨ended, _, ⟨_, _, rfl⟩ | ⟨wrong, _⟩⟩ := concludeCreate_cases concluded
      · exact Or.inl listed
      · cases wrong
  | ended other ref after ended =>
      obtain ⟨_, rfl⟩ := endSession_some ended
      exact Or.inl (deleted other listed)
  | _ => exact Or.inl listed

theorem section_named (rooms : store.Rooms) (named : store.Named)
    (performed : Section maxSessionsPerIp reading store notes after) : after.Named := by
  intro code ref listed
  rcases section_listed performed listed with old | ⟨_, new⟩
  · obtain ⟨room, found, own⟩ := named code ref old
    obtain ⟨kept, stored, same⟩ := section_keeps rooms performed ref room found
    exact ⟨kept, stored, same.code.trans own⟩
  · exact new

/-- A buried room exists and is listed under no code. -/
def Gone (store : Store) (past : List Note) : Prop :=
  ∀ code session moment, .tombstoned code session moment ∈ past →
    (∃ room, store.heap[session]? = some room) ∧
      ∀ other, store.sessions.get? other ≠ some session

theorem section_gone (rooms : store.Rooms) (named : store.Named) (gone : store.Gone past)
    (performed : Section maxSessionsPerIp reading store notes after) :
    after.Gone (past ++ notes) := by
  have keeps := section_keeps rooms performed
  intro code session moment noted
  have before : (∃ room, store.heap[session]? = some room) ∧
      ∀ other, after.sessions.get? other = some session →
        store.sessions.get? other ≠ some session := by
    rcases List.mem_append.mp noted with old | new
    · obtain ⟨exists_, unlisted⟩ := gone code session moment old
      exact ⟨exists_, fun other _ => unlisted other⟩
    · obtain ⟨_, _, ended⟩ := section_tombstoned performed new
      obtain ⟨live, rfl⟩ := endSession_some ended
      obtain ⟨room, found, own⟩ := named code session live
      refine ⟨⟨room, found⟩, ?_⟩
      intro other kept listed
      -- the room is listed under its own code only, and that code was just deleted
      obtain ⟨same, stored, bears⟩ := named other session listed
      rw [found] at stored
      cases stored
      rw [← bears, own, InsertionMap.get?_delete, if_pos rfl] at kept
      cases kept
  obtain ⟨⟨room, found⟩, unlisted⟩ := before
  obtain ⟨kept, stored, _⟩ := keeps session room found
  refine ⟨⟨kept, stored⟩, ?_⟩
  intro other listed
  rcases section_listed performed listed with old | ⟨new, _⟩
  · exact unlisted other listed old
  · rw [new, List.getElem?_eq_none_iff.mpr (Nat.le_refl _)] at found
    cases found

theorem buried_once (gone : store.Gone past)
    (few : past.countP (Note.buries session) ≤ 1)
    (performed : Section maxSessionsPerIp reading store notes after) :
    (past ++ notes).countP (Note.buries session) ≤ 1 := by
  rw [List.countP_append]
  by_cases buries : ∃ note ∈ notes, Note.buries session note = true
  · obtain ⟨note, member, counts⟩ := buries
    cases note with
    | tombstoned code other moment =>
        obtain rfl : other = session := by simpa [Note.buries] using counts
        obtain ⟨alone, _, ended⟩ := section_tombstoned performed member
        have never : past.countP (Note.buries other) = 0 := by
          apply List.countP_eq_zero.mpr
          intro earlier old counts
          cases earlier with
          | tombstoned code before moment =>
              obtain rfl : before = other := by simpa [Note.buries] using counts
              exact (gone _ _ _ old).2 _ (endSession_some ended).1
          | _ => cases counts
        rw [never, alone]
        simp [Note.buries]
    | _ => cases counts
  · have none : notes.countP (Note.buries session) = 0 := by
      apply List.countP_eq_zero.mpr
      intro note member counts
      exact buries ⟨note, member, counts⟩
    omega

/-- The room refuses everybody from now on. -/
def Shut (store : Store) (session : Nat) : Prop :=
  ∃ room, store.heap[session]? = some room ∧ room.closed = true

theorem Shut.update {ref : Nat} {room changed : Session}
    (found : store.heap[ref]? = some room) (kept : room.closed = true → changed.closed = true)
    (shut : store.Shut session) : (store.update ref changed).Shut session := by
  obtain ⟨own, stored, closed⟩ := shut
  rw [Shut, getElem?_update]
  split
  · rename_i same
    subst same
    rw [found] at stored ⊢
    cases stored
    exact ⟨changed, rfl, kept closed⟩
  · exact ⟨own, stored, closed⟩

theorem section_shut (performed : Section maxSessionsPerIp reading store notes after)
    (shut : store.Shut session) : after.Shut session := by
  cases performed with
  | created request after _ _ concluded =>
      obtain ⟨ended, _, ⟨_, wrong, _⟩ | ⟨_, _, _, _, rfl⟩⟩ := concludeCreate_cases concluded
      · cases wrong
      · obtain ⟨room, found, closed⟩ := shut
        have below := (List.getElem?_eq_some_iff.mp found).1
        exact ⟨room, (List.getElem?_append_left below).trans found, closed⟩
  | refused request after error _ _ _ concluded =>
      obtain ⟨ended, _, ⟨_, _, rfl⟩ | ⟨wrong, _⟩⟩ := concludeCreate_cases concluded
      · exact shut
      · cases wrong
  | ended code ref after ended =>
      obtain ⟨_, rfl⟩ := endSession_some ended
      exact shut
  | added ref room joined endpoint pick result found added =>
      obtain ⟨_, _, _, _, rfl, _⟩ := Session.addConnection_ok added
      exact shut.update found id
  | left ref room remaining slot id pick peer found removed =>
      obtain ⟨_, rfl, _⟩ := Session.removeConnection_some removed
      exact shut.update found fun closed => closed
  | drained ref room ending found =>
      exact shut.update found fun _ => Session.drainConnections_closed
  | _ => exact shut

theorem section_shut_attached (performed : Section maxSessionsPerIp reading store notes after)
    (shut : store.Shut session) (endpoint : Endpoint) : .attached endpoint session ∉ notes := by
  intro noted
  cases performed with
  | idle _ silent =>
      have loud := List.all_eq_true.mp silent _ noted
      cases loud
  | refused _ _ _ _ _ silent _ =>
      have loud := List.all_eq_true.mp silent _ noted
      cases loud
  | added place room joined other pick result found added =>
      cases List.mem_singleton.mp noted
      obtain ⟨own, stored, closed⟩ := shut
      rw [found] at stored
      cases stored
      rw [(Session.addConnection_ok added).1] at closed
      cases closed
  | _ => simp at noted

theorem attached_update {ref : Nat} {changed : Session} {endpoint : Endpoint}
    (member : endpoint ∈ (store.update ref changed).attached session) :
    (session = ref ∧ endpoint ∈ changed.conns.values) ∨ endpoint ∈ store.attached session := by
  simp only [attached, getElem?_update] at member ⊢
  by_cases same : session = ref
  · subst same
    cases found : store.heap[session]? with
    | none => simp [found] at member
    | some room =>
        simp only [found, ↓reduceIte, Option.map_some] at member
        exact Or.inl ⟨rfl, member⟩
  · simp only [same, ↓reduceIte] at member
    exact Or.inr member

theorem attached_of_heap {ref : Nat} {room : Session} (found : store.heap[ref]? = some room) :
    store.attached ref = room.conns.values := by
  simp [attached, found]

theorem mem_values_set {map : InsertionMap String Endpoint} {slot : String}
    {value other : Endpoint} (member : other ∈ (map.set slot value).values) :
    other = value ∨ other ∈ map.values := by
  obtain ⟨entry, listed, rfl⟩ := List.mem_map.mp member
  have held := (InsertionMap.get?_eq_some_iff _ entry.1 entry.2).mpr listed
  rw [InsertionMap.get?_set] at held
  split at held
  · cases held
    exact Or.inl rfl
  · exact Or.inr (List.mem_map_of_mem ((map.get?_eq_some_iff _ _).mp held))

/-- Who is attached after a section was attached before or has just been. -/
theorem section_attached_mem (performed : Section maxSessionsPerIp reading store notes after)
    {endpoint : Endpoint} (member : endpoint ∈ after.attached session) :
    endpoint ∈ store.attached session ∨ .attached endpoint session ∈ notes := by
  cases performed with
  | created request after _ _ concluded =>
      obtain ⟨ended, _, ⟨_, wrong, _⟩ | ⟨_, _, _, _, rfl⟩⟩ := concludeCreate_cases concluded
      · cases wrong
      · left
        simp only [attached, List.getElem?_append] at member ⊢
        split at member
        · cases member
        · rename_i room found
          split at found
          · rw [found]
            exact member
          · -- a new room is empty
            cases List.mem_singleton.mp (List.mem_of_getElem? found)
            cases member
  | refused request after error _ _ _ concluded =>
      obtain ⟨ended, _, ⟨_, _, rfl⟩ | ⟨wrong, _⟩⟩ := concludeCreate_cases concluded
      · exact Or.inl member
      · cases wrong
  | ended code ref after ended =>
      obtain ⟨_, rfl⟩ := endSession_some ended
      exact Or.inl member
  | added ref room joined other pick result found added =>
      obtain ⟨_, _, _, _, rfl, _⟩ := Session.addConnection_ok added
      rcases attached_update member with ⟨rfl, inside⟩ | old
      · rcases mem_values_set inside with rfl | old
        · exact Or.inr (List.mem_singleton.mpr rfl)
        · exact Or.inl (attached_of_heap found ▸ old)
      · exact Or.inl old
  | left ref room remaining slot id pick peer found removed =>
      obtain ⟨_, rfl, _⟩ := Session.removeConnection_some removed
      rcases attached_update member with ⟨rfl, inside⟩ | old
      · obtain ⟨entry, listed, rfl⟩ := List.mem_map.mp inside
        exact Or.inl (attached_of_heap found ▸
          List.mem_map_of_mem ((InsertionMap.mem_entries_delete _ _ _).mp listed).1)
      · exact Or.inl old
  | drained ref room ending found =>
      rcases attached_update member with ⟨rfl, inside⟩ | old
      · simp only [Session.drainConnections] at inside
        split at inside
        · exact Or.inl (attached_of_heap found ▸ inside)
        · cases inside
      · exact Or.inl old
  | _ => exact Or.inl member

theorem Shut.attached (rooms : store.Rooms) (shut : store.Shut session) :
    store.attached session = [] := by
  obtain ⟨room, found, closed⟩ := shut
  have alone : room.conns.entries.length = 0 := (rooms session room found).shut closed
  simp [Store.attached, found, InsertionMap.values, List.length_eq_zero_iff.mp alone]

end Sections

end Store

/-- The methods of a session called from outside the hub. -/
def Op.direct : Op → Bool
  | .addConnection .. | .removeConnection .. | .drainConnections _ => true
  | _ => false

namespace Hub

section Steps
variable {hub after : Hub} {event : Event} {past notes : List Note} {outcome : Outcome}
  {answer : Answer} {op : Op} {session id : Nat}

/-- Sockets enter and leave only through their handler. -/
def Housed (hub : Hub) : Prop := hub.Pending fun op => op.direct = false

theorem housed_step (served : Served hub event) (stepped : hub.step event = some (after, notes))
    (housed : hub.Housed) : after.Housed := by
  refine pending_step stepped housed (fun _ same => same) ?_ ?_
  · rintro call op rfl begins
    cases begins with
    | addConnection => cases served
    | removeConnection => cases served
    | drainConnections => cases served
    | _ => rfl
  · intro op new _ brings
    cases brings with
    | plain op new plain => cases new <;> first | rfl | cases plain
    | _ => rfl

/-- Whoever is attached anywhere is a socket of the hub. -/
def Enrolled (hub : Hub) : Prop :=
  ∀ session endpoint, endpoint ∈ hub.store.attached session →
    ∃ socket, hub.connections[endpoint.id]? = some socket

theorem enrolled_step (housed : hub.Housed) (enrolled : hub.Enrolled)
    (stepped : hub.step event = some (after, notes)) : after.Enrolled := by
  obtain ⟨reading, performed, _⟩ := step_section stepped
  intro session endpoint member
  have known : ∃ socket, hub.connections[endpoint.id]? = some socket := by
    rcases Store.section_attached_mem performed member with old | noted
    · exact enrolled session endpoint old
    · rcases step_tells stepped noted with ⟨ops, op, thread, listed, tells⟩ | ⟨error, wrong⟩
      · cases tells with
        | joined conn session socket known => exact ⟨socket, known⟩
        | attached => cases housed ops thread _ listed
      · cases wrong
  obtain ⟨socket, found⟩ := known
  obtain ⟨kept, stored, _⟩ := step_lasts stepped endpoint.id socket found
  exact ⟨kept, stored⟩

/-- The farewell of a socket, as far as a goroutine still has `ops` to do for it. -/
def Parting (hub : Hub) (past : List Note) (ops : List Op) (id : Nat) : Prop :=
  ∃ socket, hub.connections[id]? = some socket ∧
    (.closeWithControl id .sessionEnded ∈ ops ∨
      ((.control .sessionEnded ∈ socket.written ∨ ∃ closed, .unsent id closed ∈ past) ∧
        (socket.closed = true ∨ .close id ∈ ops)))

theorem Parting.lasts {ops : List Op} (lasts : hub.Lasts after) (parting : hub.Parting past ops id) :
    after.Parting (past ++ notes) ops id := by
  obtain ⟨socket, found, state⟩ := parting
  obtain ⟨kept, stored, same⟩ := lasts id socket found
  refine ⟨kept, stored, state.imp_right ?_⟩
  rintro ⟨sent | ⟨closed, unsent⟩, last⟩
  · exact ⟨Or.inl (same.written.subset sent), last.imp_left same.closed⟩
  · exact ⟨Or.inr ⟨closed, List.mem_append_left _ unsent⟩, last.imp_left same.closed⟩

/-- The call writes the frame or notes that it could not, and the close comes next. -/
theorem closeWithControl_parts (ran : hub.run (.closeWithControl id .sessionEnded) answer = some outcome)
    {socket : Connection} (found : hub.connections[id]? = some socket) :
    outcome.next = [.close id] ∧ ∃ kept, outcome.hub.connections[id]? = some kept ∧
      (.control .sessionEnded ∈ kept.written ∨ ∃ closed, .unsent id closed ∈ outcome.notes) := by
  have written : ∀ frames, (hub.writeFrames id frames).connections[id]? =
      some { socket with written := socket.written ++ frames } := by
    intro frames
    rw [writeFrames, getElem?_modify, if_pos rfl, found]
    rfl
  cases run_turn ran with
  | gone => exact ⟨rfl, socket, found, Or.inr ⟨true, List.mem_cons_self⟩⟩
  | parted _ _ _ frames _ own =>
      exact ⟨rfl, _, written frames, Or.inl (List.mem_append_right _ own)⟩
  | unparted _ _ _ frames =>
      exact ⟨rfl, _, written frames, Or.inr ⟨false, List.mem_cons_self⟩⟩

/-- The goroutine does the next of its operations. -/
theorem Parting.run {ops : List Op} (parting : hub.Parting past (op :: ops) id)
    (ran : hub.run op answer = some outcome) :
    outcome.hub.Parting (past ++ outcome.notes) (outcome.next ++ ops) id := by
  obtain ⟨socket, found, state⟩ := parting
  rcases state with pending | ⟨sent, last⟩
  · rcases List.mem_cons.mp pending with rfl | later
    · obtain ⟨next, kept, stored, told⟩ := closeWithControl_parts ran found
      refine ⟨kept, stored, Or.inr ⟨told.imp_right ?_, Or.inr ?_⟩⟩
      · exact fun ⟨closed, noted⟩ => ⟨closed, List.mem_append_right _ noted⟩
      · rw [next]
        exact List.mem_cons_self
    · obtain ⟨kept, stored, _⟩ := run_lasts ran id socket found
      exact ⟨kept, stored, Or.inl (List.mem_append_right _ later)⟩
  · obtain ⟨kept, stored, same⟩ := run_lasts ran id socket found
    have told : .control .sessionEnded ∈ kept.written ∨
        ∃ closed, .unsent id closed ∈ past ++ outcome.notes :=
      sent.imp (fun written => same.written.subset written)
        fun ⟨closed, noted⟩ => ⟨closed, List.mem_append_left _ noted⟩
    refine ⟨kept, stored, Or.inr ⟨told, ?_⟩⟩
    rcases last with closed | pending
    · exact Or.inl (same.closed closed)
    · rcases List.mem_cons.mp pending with rfl | later
      · cases ran
        rw [outcome_hub, closeConnection, getElem?_modify, if_pos rfl, found] at stored
        cases stored
        exact Or.inl rfl
      · exact Or.inr (List.mem_append_right _ later)

/-- Before `Hub.EndSession` returns, it has seen off everybody it drained. -/
def Courteous (hub : Hub) (past : List Note) : Prop :=
  ∀ ops ∈ hub.threads, ∀ before session endpoints rest,
    ops = before ++ .finish session endpoints :: rest →
    .drained session endpoints true ∈ past ∧
      ∀ endpoint ∈ endpoints, hub.Parting past before endpoint.id

/-- Where a split of `next ++ later` falls. -/
theorem split_append {next later before rest : List Op} {last : Op}
    (same : next ++ later = before ++ last :: rest) :
    (∃ middle, before = next ++ middle ∧ later = middle ++ last :: rest) ∨
      (∃ middle, next = before ++ last :: middle ∧ rest = middle ++ later) := by
  rcases List.append_eq_append_iff.mp same with ⟨middle, front, back⟩ | ⟨middle, front, back⟩
  · exact Or.inl ⟨middle, front, back⟩
  · cases middle with
    | nil => exact Or.inl ⟨[], by simpa using front.symm, by simpa using back.symm⟩
    | cons head tail =>
        simp only [List.cons_append, List.cons.injEq] at back
        exact Or.inr ⟨tail, by rw [front, back.1], back.2⟩

theorem brings_finish {new : Op} {endpoints : List Endpoint}
    (brings : Brings hub op new) (same : new = .finish session endpoints) :
    op = .drain session := by
  cases brings with
  | plain op new plain =>
      subst same
      cases plain
  | finish => cases same; rfl
  | _ => cases same

theorem mem_attached_of_drained {room : Session} {endpoint : Endpoint}
    (found : hub.store.heap[session]? = some room)
    (member : endpoint ∈ room.drainConnections.2) : endpoint ∈ hub.store.attached session := by
  rw [Store.attached_of_heap found]
  simp only [Session.drainConnections] at member
  split at member
  · cases member
  · exact member

/-- The drain of an ending puts a farewell for everybody before its return. -/
theorem drain_courteous (enrolled : hub.Enrolled)
    (ran : hub.run (.drain session) answer = some outcome) {before rest : List Op} {other : Nat}
    {endpoints : List Endpoint}
    (same : outcome.next = before ++ .finish other endpoints :: rest) :
    .drained other endpoints true ∈ outcome.notes ∧
      ∀ endpoint ∈ endpoints, outcome.hub.Parting (past ++ outcome.notes) before endpoint.id := by
  obtain ⟨room, found, rfl⟩ := Option.map_eq_some_iff.mp ran
  rw [outcome_next, endAll] at same
  rcases split_append same with ⟨middle, front, back⟩ | ⟨middle, front, _⟩
  · cases middle with
    | nil =>
        simp only [List.nil_append, List.cons.injEq, Op.finish.injEq] at back
        obtain ⟨⟨rfl, rfl⟩, _⟩ := back
        refine ⟨List.mem_singleton.mpr rfl, ?_⟩
        intro endpoint member
        obtain ⟨socket, known⟩ := enrolled session endpoint (mem_attached_of_drained found member)
        refine ⟨socket, known, Or.inl ?_⟩
        rw [front, List.append_nil]
        exact List.mem_map_of_mem member
    | cons head tail => simp at back
  · have inside : Op.finish other endpoints ∈ room.drainConnections.2.map
        (fun endpoint => Op.closeWithControl endpoint.id .sessionEnded) := by
      rw [front]
      simp
    obtain ⟨endpoint, _, wrong⟩ := List.mem_map.mp inside
    cases wrong

theorem courteous_step (enrolled : hub.Enrolled) (courteous : hub.Courteous past)
    (stepped : hub.step event = some (after, notes)) : after.Courteous (past ++ notes) := by
  have lasts := step_lasts stepped
  have stays : ∀ ops ∈ hub.threads, ∀ before session endpoints rest,
      ops = before ++ .finish session endpoints :: rest →
      .drained session endpoints true ∈ past ++ notes ∧
        ∀ endpoint ∈ endpoints, after.Parting (past ++ notes) before endpoint.id := by
    intro ops member before session endpoints rest split
    obtain ⟨noted, parting⟩ := courteous ops member before session endpoints rest split
    exact ⟨List.mem_append_left _ noted,
      fun endpoint listed => (parting endpoint listed).lasts lasts⟩
  intro ops member before session endpoints rest split
  have listed : Op.finish session endpoints ∈ ops := by
    rw [split]
    simp
  rcases step_cases stepped with ⟨elapsed, rfl, rfl, rfl⟩ | ⟨call, rfl, rfl, rfl⟩ |
    ⟨thread, answer, op, later, outcome, rfl, found, ran, rfl, rfl⟩
  · exact stays ops member before session endpoints rest split
  · rcases List.mem_append.mp member with old | new
    · exact stays ops old before session endpoints rest split
    · cases List.mem_singleton.mp new
      cases begin_begins listed
  · have threaded := List.mem_of_getElem? found
    -- the drain is the only operation that brings a return
    have drains : .finish session endpoints ∈ brought outcome → op = .drain session :=
      fun new => brings_finish (run_brings ran new) rfl
    rcases List.mem_append.mp member with old | spawned
    · rcases List.mem_or_eq_of_mem_set old with kept | rfl
      · exact stays ops kept before session endpoints rest split
      · rcases split_append split with ⟨middle, rfl, back⟩ | ⟨middle, front, _⟩
        · obtain ⟨noted, parting⟩ := courteous _ threaded (op :: middle) session endpoints rest
            (by rw [back]; rfl)
          exact ⟨List.mem_append_left _ noted,
            fun endpoint listed => (parting endpoint listed).run ran⟩
        · obtain rfl := drains (List.mem_append_left _ (by rw [front]; simp))
          obtain ⟨noted, parting⟩ := drain_courteous enrolled ran front
          exact ⟨List.mem_append_right _ noted, parting⟩
    · obtain rfl := drains (List.mem_append_right _ (List.mem_flatten_of_mem spawned listed))
      obtain ⟨room, _, rfl⟩ := Option.map_eq_some_iff.mp ran
      cases spawned

/-- Every ending that has returned saw everybody off. -/
def Parted (hub : Hub) (past : List Note) : Prop :=
  ∀ session, .finished session ∈ past →
    ∃ endpoints, .drained session endpoints true ∈ past ∧
      ∀ endpoint ∈ endpoints, hub.Parting past [] endpoint.id

theorem parted_step (courteous : hub.Courteous past) (parted : hub.Parted past)
    (stepped : hub.step event = some (after, notes)) : after.Parted (past ++ notes) := by
  have lasts := step_lasts stepped
  intro session noted
  have before : ∃ endpoints, .drained session endpoints true ∈ past ∧
      ∀ endpoint ∈ endpoints, hub.Parting past [] endpoint.id := by
    rcases List.mem_append.mp noted with old | new
    · exact parted session old
    · rcases step_cases stepped with ⟨elapsed, rfl, rfl, rfl⟩ | ⟨call, rfl, rfl, rfl⟩ |
        ⟨thread, answer, op, later, outcome, rfl, found, ran, rfl, rfl⟩
      · cases new
      · obtain ⟨error, wrong⟩ := begin_refused new
        cases wrong
      · cases run_tells ran new with
        | finished session endpoints =>
            exact ⟨endpoints, courteous _ (List.mem_of_getElem? found) [] session endpoints later rfl⟩
  obtain ⟨endpoints, drained, parting⟩ := before
  exact ⟨endpoints, List.mem_append_left _ drained,
    fun endpoint listed => (parting endpoint listed).lasts lasts⟩

def drains (session : Nat) : Op → Bool
  | .drain other => other == session
  | _ => false

/-- An ending drains a room only after it has buried it. -/
def Tally (hub : Hub) (past : List Note) : Prop :=
  ∀ session, hub.threads.flatten.countP (drains session) + past.countP (Note.empties session) ≤
    past.countP (Note.buries session)

theorem brought_drains (ran : hub.run op answer = some outcome) (session : Nat)
    (other : ∀ conn, op ≠ .endSession conn) : (brought outcome).countP (drains session) = 0 := by
  apply List.countP_eq_zero.mpr
  intro new member counts
  cases new with
  | drain session =>
      cases run_brings ran member with
      | plain _ _ plain => cases plain
      | ended conn => exact other conn rfl
  | _ => cases counts

theorem run_drains (ran : hub.run op answer = some outcome) (session : Nat) :
    (brought outcome).countP (drains session) + outcome.notes.countP (Note.empties session) ≤
      outcome.notes.countP (Note.buries session) + [op].countP (drains session) := by
  cases op with
  | endSession conn =>
      cases run_turn ran with
      | stayed => simp
      | ended => simp [drains, Note.buries, Note.empties, List.countP_cons]
  | drain other =>
      have none := brought_drains ran session (by simp)
      rw [none]
      cases run_turn ran
      simp [drains, Note.buries, Note.empties, List.countP_cons]
  | _ =>
      have none := brought_drains ran session (by simp)
      have silent : outcome.notes.countP (Note.empties session) = 0 := by
        apply List.countP_eq_zero.mpr
        intro note member counts
        cases run_tells ran member <;> cases counts
      omega

theorem tally_step (tally : hub.Tally past) (stepped : hub.step event = some (after, notes)) :
    after.Tally (past ++ notes) := by
  intro session
  have before := tally session
  rw [List.countP_append, List.countP_append]
  rcases step_cases stepped with ⟨elapsed, rfl, rfl, rfl⟩ | ⟨call, rfl, rfl, rfl⟩ |
    ⟨thread, answer, op, later, outcome, rfl, found, ran, rfl, rfl⟩
  · exact before
  · have begun : (hub.begin call).1.countP (drains session) = 0 := by
      apply List.countP_eq_zero.mpr
      intro op member counts
      cases begin_begins member <;> cases counts
    have silent : (hub.begin call).2.countP (Note.empties session) = 0 := by
      apply List.countP_eq_zero.mpr
      intro note member counts
      obtain ⟨error, rfl⟩ := begin_refused member
      cases counts
    simp only [List.flatten_append, List.flatten_cons, List.flatten_nil, List.append_nil,
      List.countP_append]
    omega
  · have counted := countP_advance (drains session) outcome found
    have ran := run_drains ran session
    have same : ({ outcome.hub with
        threads := hub.threads.set thread (outcome.next ++ later) ++ outcome.spawned } :
          Hub).threads = (hub.advance thread later outcome).threads := rfl
    rw [same]
    omega

/-- A drained room is shut, and only an ending finds anybody in it. -/
def Emptied (hub : Hub) (past : List Note) : Prop :=
  ∀ session endpoints ending, .drained session endpoints ending ∈ past →
    hub.store.Shut session ∧ (ending = false → endpoints = [])

theorem section_drained {maxSessionsPerIp : Int} {reading : Option Time} {store final : Store}
    (performed : Section maxSessionsPerIp reading store notes final)
    {endpoints : List Endpoint} {ending : Bool}
    (noted : .drained session endpoints ending ∈ notes) : final.Shut session := by
  cases performed with
  | idle _ silent =>
      have loud := List.all_eq_true.mp silent _ noted
      cases loud
  | refused _ _ _ _ _ silent _ =>
      have loud := List.all_eq_true.mp silent _ noted
      cases loud
  | drained ref room ending found =>
      cases List.mem_singleton.mp noted
      refine ⟨room.drainConnections.1, ?_, Session.drainConnections_closed⟩
      rw [Store.getElem?_update, if_pos rfl, found]
      rfl
  | _ => simp at noted

theorem emptied_step (housed : hub.Housed) (condemned : hub.Condemned)
    (emptied : hub.Emptied past) (stepped : hub.step event = some (after, notes)) :
    after.Emptied (past ++ notes) := by
  obtain ⟨reading, performed, _⟩ := step_section stepped
  intro session endpoints ending noted
  rcases List.mem_append.mp noted with old | new
  · obtain ⟨shut, alone⟩ := emptied session endpoints ending old
    exact ⟨Store.section_shut performed shut, alone⟩
  · refine ⟨section_drained performed new, ?_⟩
    rintro rfl
    rcases step_tells stepped new with ⟨ops, op, thread, listed, tells⟩ | ⟨error, wrong⟩
    · cases tells with
      | closed session room found =>
          have expired := condemned ops thread _ listed session (List.mem_singleton.mpr rfl)
          apply List.eq_nil_iff_forall_not_mem.mpr
          intro endpoint member
          have attached := mem_attached_of_drained found member
          rw [Store.attached_of_isExpired expired] at attached
          cases attached
      | emptied => cases housed ops thread _ listed
    · cases wrong

/-- Everything the end of a room rests on. -/
structure Ending (hub : Hub) (past : List Note) : Prop where
  rooms : hub.store.Rooms
  named : hub.store.Named
  gone : hub.store.Gone past
  once : ∀ session, past.countP (Note.buries session) ≤ 1
  housed : hub.Housed
  enrolled : hub.Enrolled
  condemned : hub.Condemned
  tally : hub.Tally past
  courteous : hub.Courteous past
  parted : hub.Parted past
  emptied : hub.Emptied past

theorem ending_step (served : Served hub event) (ending : hub.Ending past)
    (stepped : hub.step event = some (after, notes)) : after.Ending (past ++ notes) := by
  obtain ⟨reading, performed, _⟩ := step_section stepped
  exact {
    rooms := Store.section_rooms ending.rooms performed
    named := Store.section_named ending.rooms ending.named performed
    gone := Store.section_gone ending.rooms ending.named ending.gone performed
    once := fun session => Store.buried_once ending.gone (ending.once session) performed
    housed := housed_step served stepped ending.housed
    enrolled := enrolled_step ending.housed ending.enrolled stepped
    condemned := condemned_step stepped ending.condemned
    tally := tally_step ending.tally stepped
    courteous := courteous_step ending.enrolled ending.courteous stepped
    parted := parted_step ending.courteous ending.parted stepped
    emptied := emptied_step ending.housed ending.condemned ending.emptied stepped }

theorem newHub_ending (config : Config) (ttl : Time) : (newHub config ttl).Ending [] where
  rooms := fun _ _ found => by cases found
  named := fun _ _ listed => by cases listed
  gone := fun _ _ _ noted => by cases noted
  once := fun _ => Nat.zero_le _
  housed := newHub_pending config ttl
  enrolled := fun _ _ member => by cases member
  condemned := newHub_pending config ttl
  tally := fun _ => Nat.le_refl _
  courteous := fun _ member => by cases member
  parted := fun _ noted => by cases noted
  emptied := fun _ _ _ noted => by cases noted

/-- The drain of an ending is the only one of its room that found anybody. -/
theorem Ending.seen_off (ending : hub.Ending past) (finished : .finished session ∈ past)
    {endpoints : List Endpoint} {cause : Bool}
    (drained : .drained session endpoints cause ∈ past) :
    ∀ endpoint ∈ endpoints, hub.Parting past [] endpoint.id := by
  obtain ⟨listed, noted, parting⟩ := ending.parted session finished
  cases cause with
  | false =>
      rw [(ending.emptied session endpoints false drained).2 rfl]
      intro endpoint member
      cases member
  | true =>
      have few : past.countP (Note.empties session) ≤ 1 := by
        have tally := ending.tally session
        have once := ending.once session
        omega
      have same := eq_of_countP_le_one few noted drained (by simp [Note.empties])
        (by simp [Note.empties])
      cases same
      exact parting

end Steps

end Hub

section Runs
variable {config : Config} {ttl : Time} {hub : Hub} {history : List Note}

theorem run_ending (run : machine.Run Served (newHub config ttl) hub history) :
    hub.Ending history := by
  apply run.invariant (fun hub past => hub.Ending past) (Hub.newHub_ending config ttl)
  intro before past event after notes ending served stepped
  exact Hub.ending_step served ending stepped

/-- Nobody ever enters a room that is shut. -/
theorem run_shut {allowed : Hub → Event → Prop} {later : Hub} {future : List Note}
    {session : Nat} (run : machine.Run allowed hub later future) (rooms : hub.store.Rooms)
    (shut : hub.store.Shut session) :
    later.store.attached session = [] ∧ ∀ endpoint, .attached endpoint session ∉ future := by
  have kept := run.invariant
    (fun hub past => hub.store.Rooms ∧ hub.store.Shut session ∧
      ∀ endpoint, .attached endpoint session ∉ past)
    ⟨rooms, shut, fun _ noted => by cases noted⟩
    (by
      rintro before past event after notes ⟨rooms, shut, none⟩ _ stepped
      obtain ⟨reading, performed, _⟩ := Hub.step_section stepped
      refine ⟨Store.section_rooms rooms performed, Store.section_shut performed shut, ?_⟩
      intro endpoint noted
      rcases List.mem_append.mp noted with old | new
      · exact none endpoint old
      · exact Store.section_shut_attached performed shut endpoint new)
  exact ⟨kept.2.1.attached kept.1, kept.2.2⟩

/-- Once a room is ended its code is not to be had until the tombstone's time is
over: no creation and no lookup that reads the registry before then succeeds.
When the ending has returned, nobody is in the room or will ever be, and everybody
who was in it when it was drained is closed and has the farewell frame, unless the
socket was closed already when its farewell came or the write of it has failed. -/
theorem ended_room_is_gone (run : machine.Run Served (newHub config ttl) hub history) :
    (∀ earlier later code session moment,
      history = earlier ++ .tombstoned code session moment :: later →
      ∀ note ∈ later, ∀ decided, note.claims code = some decided → moment + ttl ≤ decided) ∧
    (∀ session, .finished session ∈ history →
      hub.store.attached session = [] ∧
      (∀ later future, machine.Run Served hub later future →
        later.store.attached session = [] ∧ ∀ endpoint, .attached endpoint session ∉ future) ∧
      (∃ endpoints cause, .drained session endpoints cause ∈ history) ∧
      (∀ endpoints cause, .drained session endpoints cause ∈ history →
        ∀ endpoint ∈ endpoints, ∃ socket, hub.connections[endpoint.id]? = some socket ∧
          socket.closed = true ∧ (.control .sessionEnded ∈ socket.written ∨
            ∃ closed, .unsent endpoint.id closed ∈ history))) := by
  constructor
  · rintro earlier later code session moment rfl note member decided claims
    obtain ⟨mourning, same⟩ := run_mourning run
    have after := (List.pairwise_append.mp mourning.respects).2.1
    have respects := (List.pairwise_cons.mp after).1 note member
    rw [same] at respects
    exact respects code session moment decided rfl claims
  · intro session finished
    have ending := run_ending run
    obtain ⟨endpoints, drained, _⟩ := ending.parted session finished
    have shut := (ending.emptied session endpoints true drained).1
    refine ⟨shut.attached ending.rooms, fun later future run => run_shut run ending.rooms shut,
      ⟨endpoints, true, drained⟩, ?_⟩
    intro endpoints cause drained endpoint member
    obtain ⟨socket, known, state⟩ := ending.seen_off finished drained endpoint member
    rcases state with pending | ⟨sent, closed | pending⟩
    · cases pending
    · exact ⟨socket, known, closed, sent⟩
    · cases pending

end Runs

section Samples

/-- A socket asks for the end of its room. -/
def endRequested (thread : Nat) : Event :=
  .step thread (.incoming (.binary (relayControlFrame .sessionEnd)))

/-- The first socket ends the room while a second one enters between the
tombstone and the drain. -/
def roomEnded : List Event :=
  roomJoined ++ .call (.serveHTTP "10.0.0.1" sampleCode secondSlot) :: proceed 3 4 ++
    endRequested 1 :: proceed 1 1 ++ proceed 3 1 ++ proceed 1 6

/-- The same ending, but the write of the second farewell fails. -/
def farewellFailed : List Event :=
  roomJoined ++ .call (.serveHTTP "10.0.0.1" sampleCode secondSlot) :: proceed 3 4 ++
    endRequested 1 :: proceed 1 1 ++ proceed 3 1 ++ proceed 1 3 ++ .step 1 .failed :: proceed 1 2

/-- A creation reads the clock, waits for the lock, and gets it after a sweep has
taken the tombstone away. -/
def roomCreatedLate : List Event :=
  roomJoined ++ endRequested 1 :: proceed 1 5 ++
    .tick 5 :: .call (.createSessionWithCode sampleCode "balanced" "10.0.0.1") ::
    .tick 5 :: .call .sweepExpired :: proceed 4 2 ++ proceed 3 2

end Samples

theorem sample_room_is_gone :
    ∃ hub history, machine.execute (newHub sampleConfig 10) roomEnded = some (hub, history) ∧
      .drained 0 [⟨0, firstSlot⟩, ⟨1, secondSlot⟩] true ∈ history ∧
      hub.store.attached 0 = [] ∧
      ∃ socket, hub.connections[1]? = some socket ∧
        .control .sessionEnded ∈ socket.written ∧ socket.closed = true := by
  have reached : (machine.execute (newHub sampleConfig 10) roomEnded).map
      (fun result => (decide (.finished 0 ∈ result.2),
        decide (.drained 0 [⟨0, firstSlot⟩, ⟨1, secondSlot⟩] true ∈ result.2),
        decide (∀ closed, .unsent 1 closed ∉ result.2))) =
      some (true, true, true) := by decide +kernel
  obtain ⟨⟨hub, history⟩, ran, shown⟩ := Option.map_eq_some_iff.mp reached
  obtain ⟨finished, shown⟩ := Prod.mk.inj shown
  obtain ⟨drained, heard⟩ := Prod.mk.inj shown
  have drained := of_decide_eq_true drained
  have along : machine.Along Served (newHub sampleConfig 10) roomEnded := by decide +kernel
  obtain ⟨empty, _, _, seen⟩ := (ended_room_is_gone
    (Machine.execute_run roomEnded along ran)).2 0 (of_decide_eq_true finished)
  obtain ⟨socket, known, closed, told⟩ := seen _ true drained ⟨1, secondSlot⟩ (by simp)
  have sent := told.resolve_right fun ⟨closed, noted⟩ => of_decide_eq_true heard closed noted
  exact ⟨hub, history, ran, drained, empty, socket, known, sent, closed⟩

/-- The code is buried at time 0 for 10; a creation that started at 5 and stood
waiting for the lock succeeds at 10. In the second run the write of a farewell fails:
the ending returns, and the socket it drained has no farewell frame. -/
theorem late_creation_succeeds :
    (∃ hub history, machine.Run Served (newHub sampleConfig 10) hub history ∧
      .tombstoned sampleCode 0 0 ∈ history ∧
      .created 1 sampleCode "balanced" "10.0.0.1" 5 10 ∈ history) ∧
    ∃ hub history, machine.Run Served (newHub sampleConfig 10) hub history ∧
      .finished 0 ∈ history ∧
      .drained 0 [⟨0, firstSlot⟩, ⟨1, secondSlot⟩] true ∈ history ∧
      (hub.connections[1]?).map (fun socket => socket.written) = some [] := by
  constructor
  · have reached : (machine.execute (newHub sampleConfig 10) roomCreatedLate).map
        (fun result => (decide (.tombstoned sampleCode 0 0 ∈ result.2),
          decide (.created 1 sampleCode "balanced" "10.0.0.1" 5 10 ∈ result.2))) =
        some (true, true) := by decide +kernel
    obtain ⟨⟨hub, history⟩, ran, shown⟩ := Option.map_eq_some_iff.mp reached
    obtain ⟨buried, created⟩ := Prod.mk.inj shown
    have along : machine.Along Served (newHub sampleConfig 10) roomCreatedLate := by
      decide +kernel
    exact ⟨hub, history, Machine.execute_run roomCreatedLate along ran,
      of_decide_eq_true buried, of_decide_eq_true created⟩
  · have reached : (machine.execute (newHub sampleConfig 10) farewellFailed).map
        (fun result => (decide (.finished 0 ∈ result.2),
          decide (.drained 0 [⟨0, firstSlot⟩, ⟨1, secondSlot⟩] true ∈ result.2),
          (result.1.connections[1]?).map fun socket => socket.written)) =
        some (true, true, some []) := by decide +kernel
    obtain ⟨⟨hub, history⟩, ran, shown⟩ := Option.map_eq_some_iff.mp reached
    obtain ⟨finished, shown⟩ := Prod.mk.inj shown
    obtain ⟨drained, written⟩ := Prod.mk.inj shown
    have along : machine.Along Served (newHub sampleConfig 10) farewellFailed := by
      decide +kernel
    exact ⟨hub, history, Machine.execute_run farewellFailed along ran,
      of_decide_eq_true finished, of_decide_eq_true drained, written⟩

end OnlyTwo.Relay
