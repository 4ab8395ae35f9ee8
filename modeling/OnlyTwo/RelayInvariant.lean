import OnlyTwo.RelaySections

/-!
The representation invariant of rooms and registry. `Session.Valid` is about one
room, `Store.Valid` about the two maps and the heap together with the record of
creations. Every section restores them, so they hold after every history of
calls and goroutines, also between the sections of one call.
-/

namespace OnlyTwo.Relay

namespace Session

structure Valid (session : Session) : Prop where
  few : session.conns.size ≤ 2
  placed : ∀ slot endpoint, session.conns.get? slot = some endpoint →
    endpoint.slotToken = slot ∧ slot ≠ ""
  shut : session.closed = true → session.conns.size = 0
  timed : session.closed = false → (session.expiresAt = none ↔ session.conns.size ≠ 0)

/-- What no operation on a room changes. -/
structure Same (session after : Session) : Prop where
  code : after.code = session.code
  profileId : after.profileId = session.profileId
  creatorIp : after.creatorIp = session.creatorIp

theorem Same.refl (session : Session) : session.Same session := ⟨rfl, rfl, rfl⟩

section Operations
variable {session after : Session} {conn : Endpoint} {now : Time} {pick : Nat}
  {result : AddResult} {slot : String} {id : Nat} {peer : Option Endpoint}

theorem newSession_valid (code profileId creatorIp : String) (ttl now : Time) :
    (newSession code profileId creatorIp ttl now).Valid where
  few := Nat.zero_le _
  placed := fun _ _ found => by simp [newSession] at found
  shut := fun closed => by cases closed
  timed := fun _ => by simp [newSession]

theorem size_ne_zero_of_get? {map : InsertionMap String Endpoint} {endpoint : Endpoint}
    (found : map.get? slot = some endpoint) : map.size ≠ 0 := by
  have member := InsertionMap.mem_keys_of_get? found
  rw [← map.length_keys]
  intro none
  rw [List.length_eq_zero_iff.mp none] at member
  cases member

theorem addConnection_valid (valid : session.Valid)
    (added : session.addConnection conn now pick = .ok (after, result)) :
    after.Valid ∧ session.Same after := by
  obtain ⟨opened, _, named, room, rfl, _, _⟩ := addConnection_ok added
  have occupied := size_ne_zero_of_get? (session.conns.get?_set_self conn.slotToken conn)
  refine ⟨⟨?_, ?_, ?_, ?_⟩, rfl, rfl, rfl⟩
  · rw [InsertionMap.size_set]
    have few := valid.few
    rcases room with present | small
    · rw [if_pos present]
      exact few
    · split <;> omega
  · intro slot endpoint found
    rw [InsertionMap.get?_set] at found
    split at found
    · rename_i same
      cases found
      exact ⟨same.symm, same ▸ named⟩
    · exact valid.placed slot endpoint found
  · intro closed
    rw [opened] at closed
    cases closed
  · intro _
    simp [occupied]

theorem removeConnection_valid (valid : session.Valid)
    (removed : session.removeConnection slot id now pick = some (after, peer)) :
    after.Valid ∧ session.Same after := by
  obtain ⟨⟨current, found, _⟩, rfl, _⟩ := removeConnection_some removed
  have occupied := size_ne_zero_of_get? found
  have smaller := session.conns.size_delete_le slot
  refine ⟨⟨?_, ?_, ?_, ?_⟩, rfl, rfl, rfl⟩
  · exact Nat.le_trans smaller valid.few
  · intro other endpoint kept
    rw [InsertionMap.get?_delete] at kept
    split at kept
    · cases kept
    · exact valid.placed other endpoint kept
  · intro closed
    exact absurd (valid.shut closed) occupied
  · intro opened
    -- the room had a connection, so its deadline was off before this one left
    have running := (valid.timed opened).mpr occupied
    by_cases empty : (session.conns.delete slot).size = 0
    · simp [empty]
    · simp [empty, running]

theorem drainConnections_valid (valid : session.Valid) :
    session.drainConnections.1.Valid ∧ session.Same session.drainConnections.1 := by
  simp only [drainConnections]
  split
  · exact ⟨valid, Same.refl session⟩
  · exact ⟨⟨Nat.zero_le _, fun _ _ found => by simp at found, fun _ => rfl,
      fun opened => by cases opened⟩, rfl, rfl, rfl⟩

end Operations

end Session

namespace Store

theorem getElem?_update {store : Store} {ref other : Nat} {session : Session} :
    (store.update ref session).heap[other]? =
      if other = ref then (store.heap[ref]?).map fun _ => session else store.heap[other]? := by
  simp only [update, List.getElem?_set]
  by_cases same : ref = other
  · subst same
    simp only [↓reduceIte]
    split
    · rename_i below
      simp [List.getElem?_eq_getElem below]
    · rename_i above
      simp [List.getElem?_eq_none_iff.mpr (Nat.le_of_not_lt above)]
  · simp [same, Ne.symm same]

/-- Every room is still in its place, and the same room. -/
def Keeps (store after : Store) : Prop :=
  ∀ (ref : Nat) (session : Session), store.heap[ref]? = some session →
    ∃ kept, after.heap[ref]? = some kept ∧ session.Same kept

theorem Keeps.of_heap {store after : Store} (same : after.heap = store.heap) :
    store.Keeps after := by
  intro ref session found
  exact ⟨session, same ▸ found, .refl session⟩

theorem Keeps.update {store : Store} {ref : Nat} {room changed : Session}
    (found : store.heap[ref]? = some room) (same : room.Same changed) :
    store.Keeps (store.update ref changed) := by
  intro other session stored
  rw [getElem?_update]
  split
  · rename_i hit
    subst hit
    rw [found] at stored ⊢
    cases stored
    exact ⟨changed, rfl, same⟩
  · exact ⟨session, stored, .refl session⟩

theorem createdBy_keeps {store after : Store} (keeps : store.Keeps after) {ref : Nat}
    {session : Session} (found : store.heap[ref]? = some session) (creatorIp : String) :
    after.createdBy creatorIp ref = store.createdBy creatorIp ref := by
  obtain ⟨kept, stored, same⟩ := keeps ref session found
  simp only [createdBy, found, stored, same.creatorIp]

def Rooms (store : Store) : Prop :=
  ∀ (ref : Nat) (session : Session), store.heap[ref]? = some session → session.Valid

/-- The invariant of the two maps. `past` is everything that was noted so far. -/
structure Valid (maxSessionsPerIp : Int) (store : Store) (past : List Note) : Prop where
  rooms : store.Rooms
  listed : ∀ code ref, store.sessions.get? code = some ref →
    ∃ session creatorIp started decided, store.heap[ref]? = some session ∧
      session.code = code ∧ validCode code = true ∧ validProfileId session.profileId = true ∧
      .created ref code session.profileId creatorIp started decided ∈ past
  apart : ∀ code, code ∈ store.sessions.keys → code ∉ store.ended.keys
  limited : ∀ creatorIp, creatorIp ≠ "" → (store.liveOf creatorIp : Int) ≤ maxSessionsPerIp

theorem newRegistry_valid {maxSessionsPerIp : Int} (ttl : Time) (positive : 0 < maxSessionsPerIp) :
    (newRegistry ttl).Valid maxSessionsPerIp [] where
  rooms := fun ref session found => by simp [newRegistry] at found
  listed := fun code ref found => by simp [newRegistry] at found
  apart := fun code member => by simp [newRegistry] at member
  limited := fun creatorIp _ => Int.le_of_lt positive

section Sections
variable {store after : Store} {past notes : List Note} {maxSessionsPerIp : Int}
  {reading : Option Time}

theorem update_rooms {ref : Nat} {room changed : Session} (rooms : store.Rooms)
    (found : store.heap[ref]? = some room) (sound : changed.Valid) :
    (store.update ref changed).Rooms := by
  intro other session stored
  rw [getElem?_update] at stored
  split at stored
  · rw [found] at stored
    cases stored
    exact sound
  · exact rooms other session stored

/-- Live rooms of one address are counted by what never changes of a room, so
fewer listed rooms are fewer live rooms. -/
theorem liveOf_le (valid : store.Valid maxSessionsPerIp past) (keeps : store.Keeps after)
    (fewer : after.sessions.entries.Sublist store.sessions.entries) (creatorIp : String) :
    after.liveOf creatorIp ≤ store.liveOf creatorIp := by
  have same : after.sessions.values.filter (after.createdBy creatorIp) =
      after.sessions.values.filter (store.createdBy creatorIp) := by
    apply List.filter_congr
    intro ref member
    obtain ⟨entry, stored, rfl⟩ := List.mem_map.mp member
    have listed := (store.sessions.get?_eq_some_iff entry.1 entry.2).mpr (fewer.subset stored)
    obtain ⟨session, _, _, _, found, _⟩ := valid.listed entry.1 entry.2 listed
    exact createdBy_keeps keeps found creatorIp
  rw [liveOf, same, liveOf]
  exact ((fewer.map Prod.snd).filter _).length_le

theorem mem_keys_filter {map : InsertionMap String Time} {keep : String → Time → Bool}
    {code : String} (member : code ∈ (map.filter keep).keys) : code ∈ map.keys := by
  obtain ⟨entry, kept, rfl⟩ := List.mem_map.mp member
  exact List.mem_map_of_mem (List.mem_filter.mp kept).1

theorem endSession_some {code : String} {ref : Nat}
    (ended : store.endSession code ref = some after) :
    store.sessions.get? code = some ref ∧
      after = { store with
        sessions := store.sessions.delete code
        ended := store.ended.set code (store.clock + store.ttl) } := by
  simp only [endSession] at ended
  split at ended
  · rename_i current
    cases ended
    exact ⟨current, rfl⟩
  · cases ended

/-- What a creation leaves when it fails, and everything it does when it succeeds. -/
theorem concludeCreate_cases {request : CreateRequest} {result : Except SessionError Nat}
    (concluded : store.concludeCreate request maxSessionsPerIp = (after, result)) :
    ∃ ended : InsertionMap String Time,
      (ended = store.ended ∨ ended = store.ended.delete request.code) ∧
      ((∃ error, result = .error error ∧ after = { store with ended := ended }) ∨
       (result = .ok store.heap.length ∧ request.code ∉ ended.keys ∧
        store.sessions.has request.code = false ∧
        (0 < maxSessionsPerIp → request.creatorIp ≠ "" →
          (store.liveOf request.creatorIp : Int) < maxSessionsPerIp) ∧
        after = { store with
          ended := ended
          heap := store.heap ++ [newSession request.code request.profileId request.creatorIp
            store.ttl store.clock]
          sessions := store.sessions.set request.code store.heap.length })) := by
  -- A tombstone whose time is over is dropped first, whether or not the insertion succeeds.
  have inserted : ∀ ended : InsertionMap String Time, request.code ∉ ended.keys →
      ({ store with ended := ended } : Store).insertSession request maxSessionsPerIp =
        (after, result) →
      (∃ error, result = .error error ∧ after = { store with ended := ended }) ∨
       (result = .ok store.heap.length ∧ request.code ∉ ended.keys ∧
        store.sessions.has request.code = false ∧
        (0 < maxSessionsPerIp → request.creatorIp ≠ "" →
          (store.liveOf request.creatorIp : Int) < maxSessionsPerIp) ∧
        after = { store with
          ended := ended
          heap := store.heap ++ [newSession request.code request.profileId request.creatorIp
            store.ttl store.clock]
          sessions := store.sessions.set request.code store.heap.length }) := by
    intro ended free performed
    simp only [insertSession] at performed
    split at performed
    · cases performed
      exact Or.inl ⟨_, rfl, rfl⟩
    · rename_i absent
      split at performed
      · cases performed
        exact Or.inl ⟨_, rfl, rfl⟩
      · rename_i room
        cases performed
        refine Or.inr ⟨rfl, free, by simpa using absent, ?_, rfl⟩
        intro positive named
        apply Int.not_le.mp
        intro full
        exact room ⟨positive, named, full⟩
  simp only [concludeCreate] at concluded
  split at concluded
  · rename_i free
    exact ⟨store.ended, Or.inl rfl,
      inserted store.ended ((store.ended.get?_eq_none_iff _).mp free) concluded⟩
  · split at concluded
    · cases concluded
      exact ⟨store.ended, Or.inl rfl, Or.inl ⟨_, rfl, rfl⟩⟩
    · refine ⟨store.ended.delete request.code, Or.inr rfl, inserted _ ?_ concluded⟩
      intro member
      exact ((InsertionMap.mem_keys_delete _ _ _).mp member).1 rfl

theorem entries_set_of_absent {map : InsertionMap String Nat} {code : String} (ref : Nat)
    (absent : code ∉ map.keys) : (map.set code ref).entries = map.entries ++ [(code, ref)] := by
  change InsertionMap.setEntries code ref map.entries = _
  have missing : code ∉ map.entries.map Prod.fst := absent
  generalize map.entries = entries at missing
  induction entries with
  | nil => rfl
  | cons entry rest ih =>
      rw [List.map_cons, List.mem_cons, not_or] at missing
      simp [InsertionMap.setEntries, Ne.symm missing.1, ih missing.2]

theorem liveOf_insert (valid : store.Valid maxSessionsPerIp past) {code : String}
    (session : Session) (ended : InsertionMap String Time) (absent : code ∉ store.sessions.keys)
    (creatorIp : String) :
    ({ store with
        ended := ended
        heap := store.heap ++ [session]
        sessions := store.sessions.set code store.heap.length } : Store).liveOf creatorIp =
      store.liveOf creatorIp + if session.creatorIp = creatorIp then 1 else 0 := by
  have older : ∀ ref ∈ store.sessions.values,
      ({ store with
          ended := ended
          heap := store.heap ++ [session]
          sessions := store.sessions.set code store.heap.length } : Store).createdBy creatorIp ref =
        store.createdBy creatorIp ref := by
    intro ref member
    obtain ⟨entry, stored, rfl⟩ := List.mem_map.mp member
    have listed := (store.sessions.get?_eq_some_iff entry.1 entry.2).mpr stored
    obtain ⟨room, _, _, _, found, _⟩ := valid.listed entry.1 entry.2 listed
    have below := (List.getElem?_eq_some_iff.mp found).1
    simp only [createdBy, List.getElem?_append_left below]
  simp only [liveOf, InsertionMap.values, entries_set_of_absent _ absent, List.map_append,
    List.filter_append, List.length_append, List.map_cons, List.map_nil]
  congr 1
  · exact congrArg List.length (List.filter_congr older)
  · by_cases own : session.creatorIp = creatorIp
    · simp [createdBy, own]
    · simp [createdBy, own]

theorem mem_keys_ended {ended : InsertionMap String Time} {code other : String}
    (kind : ended = store.ended ∨ ended = store.ended.delete code)
    (member : other ∈ ended.keys) : other ∈ store.ended.keys := by
  rcases kind with rfl | rfl
  · exact member
  · exact ((InsertionMap.mem_keys_delete _ _ _).mp member).2

/-- Every section leaves every room well formed. -/
theorem section_rooms (rooms : store.Rooms)
    (performed : Section maxSessionsPerIp reading store notes after) : after.Rooms := by
  cases performed with
  | created request after ref _ concluded =>
      obtain ⟨ended, _, ⟨error, wrong, _⟩ | ⟨_, _, _, _, rfl⟩⟩ := concludeCreate_cases concluded
      · cases wrong
      · intro place session found
        rcases List.mem_append.mp (List.mem_of_getElem? found) with old | new
        · obtain ⟨other, stored⟩ := List.getElem?_of_mem old
          exact rooms other session stored
        · cases List.mem_singleton.mp new
          exact Session.newSession_valid _ _ _ _ _
  | refused request after error _ _ _ concluded =>
      obtain ⟨ended, _, ⟨_, _, rfl⟩ | ⟨wrong, _⟩⟩ := concludeCreate_cases concluded
      · exact rooms
      · cases wrong
  | ended code ref after ended =>
      obtain ⟨_, rfl⟩ := endSession_some ended
      exact rooms
  | added ref room joined endpoint pick result found added =>
      exact update_rooms rooms found (Session.addConnection_valid (rooms ref room found) added).1
  | left ref room remaining slot id pick peer found removed =>
      exact update_rooms rooms found
        (Session.removeConnection_valid (rooms ref room found) removed).1
  | drained ref room ending found =>
      exact update_rooms rooms found (Session.drainConnections_valid (rooms ref room found)).1
  | _ => exact rooms

theorem section_keeps (rooms : store.Rooms)
    (performed : Section maxSessionsPerIp reading store notes after) : store.Keeps after := by
  cases performed with
  | created request after ref _ concluded =>
      obtain ⟨ended, _, ⟨error, wrong, _⟩ | ⟨_, _, _, _, rfl⟩⟩ := concludeCreate_cases concluded
      · cases wrong
      · intro place session found
        have below := (List.getElem?_eq_some_iff.mp found).1
        exact ⟨session, (List.getElem?_append_left below).trans found, .refl session⟩
  | refused request after error _ _ _ concluded =>
      obtain ⟨ended, _, ⟨_, _, rfl⟩ | ⟨wrong, _⟩⟩ := concludeCreate_cases concluded
      · exact .of_heap rfl
      · cases wrong
  | ended code ref after ended =>
      obtain ⟨_, rfl⟩ := endSession_some ended
      exact .of_heap rfl
  | added ref room joined endpoint pick result found added =>
      exact .update found (Session.addConnection_valid (rooms ref room found) added).2
  | left ref room remaining slot id pick peer found removed =>
      exact .update found (Session.removeConnection_valid (rooms ref room found) removed).2
  | drained ref room ending found =>
      exact .update found (Session.drainConnections_valid (rooms ref room found)).2
  | _ => exact .of_heap rfl

theorem created_valid {request : CreateRequest} {ref : Nat}
    (valid : store.Valid maxSessionsPerIp past) (positive : 0 < maxSessionsPerIp)
    (concluded : store.concludeCreate request maxSessionsPerIp = (after, .ok ref)) :
    ({ after with locked := false } : Store).Valid maxSessionsPerIp (past ++
      [.created ref request.code request.profileId request.creatorIp request.now store.clock]) := by
  have rooms := section_rooms valid.rooms (Section.created request after ref rfl concluded)
  obtain ⟨ended, kind, ⟨error, wrong, _⟩ | ⟨same, free, fresh, room, rfl⟩⟩ :=
    concludeCreate_cases concluded
  · cases wrong
  · cases same
    have absent : request.code ∉ store.sessions.keys := by
      rw [← InsertionMap.has_iff, fresh]
      exact Bool.false_ne_true
    refine ⟨rooms, ?_, ?_, ?_⟩
    · intro code ref found
      dsimp only at found ⊢
      rw [InsertionMap.get?_set] at found
      split at found
      · rename_i own
        cases found
        subst own
        exact ⟨_, _, _, _, List.getElem?_concat_length, rfl, request.codeValid,
          request.profileValid, List.mem_append_right _ (List.mem_singleton.mpr rfl)⟩
      · obtain ⟨session, creatorIp, started, decided, stored, own, sound, profile, noted⟩ :=
          valid.listed code ref found
        have below := (List.getElem?_eq_some_iff.mp stored).1
        exact ⟨session, creatorIp, started, decided,
          (List.getElem?_append_left below).trans stored, own, sound, profile,
          List.mem_append_left _ noted⟩
    · intro code live tombstoned
      rcases (InsertionMap.mem_keys_set _ _ _ _).mp live with rfl | listed
      · exact free tombstoned
      · exact valid.apart code listed (mem_keys_ended kind tombstoned)
    · intro creatorIp named
      have bound := valid.limited creatorIp named
      have count := liveOf_insert valid (newSession request.code request.profileId
        request.creatorIp store.ttl store.clock) ended absent creatorIp
      have total : ((store.liveOf creatorIp +
          if request.creatorIp = creatorIp then 1 else 0 : Nat) : Int) ≤ maxSessionsPerIp := by
        split
        · rename_i own
          subst own
          have below := room positive named
          omega
        · exact bound
      exact Int.le_trans (Int.le_of_eq (congrArg Nat.cast count)) total

/-- A section that lists no new room restores the invariant of the maps if it
tombstones only codes it takes off the list. -/
theorem Valid.shrink (valid : store.Valid maxSessionsPerIp past)
    (performed : Section maxSessionsPerIp reading store notes after)
    (fewer : after.sessions.entries.Sublist store.sessions.entries)
    (apart : ∀ code, code ∈ after.sessions.keys → code ∉ after.ended.keys) :
    after.Valid maxSessionsPerIp (past ++ notes) where
  rooms := section_rooms valid.rooms performed
  listed := by
    intro code ref found
    have before : store.sessions.get? code = some ref := by
      rw [InsertionMap.get?_eq_some_iff] at found ⊢
      exact fewer.subset found
    obtain ⟨session, creatorIp, started, decided, stored, own, sound, profile, noted⟩ :=
      valid.listed code ref before
    obtain ⟨kept, held, same⟩ := section_keeps valid.rooms performed ref session stored
    refine ⟨kept, creatorIp, started, decided, held, same.code.trans own, sound, ?_, ?_⟩
    · rw [same.profileId]
      exact profile
    · rw [same.profileId]
      exact List.mem_append_left _ noted
  apart := apart
  limited := by
    intro creatorIp named
    have bound := valid.limited creatorIp named
    have fewer := liveOf_le valid (section_keeps valid.rooms performed) fewer creatorIp
    omega

theorem delete_sublist (map : InsertionMap String Nat) (code : String) :
    (map.delete code).entries.Sublist map.entries := List.filter_sublist

theorem drop_apart (valid : store.Valid maxSessionsPerIp past) (code : String) :
    ∀ other, other ∈ (store.drop code).sessions.keys → other ∉ (store.drop code).ended.keys := by
  intro other member
  exact valid.apart other ((InsertionMap.mem_keys_delete _ _ _).mp member).2

theorem section_valid (positive : 0 < maxSessionsPerIp)
    (valid : store.Valid maxSessionsPerIp past)
    (performed : Section maxSessionsPerIp reading store notes after) :
    after.Valid maxSessionsPerIp (past ++ notes) := by
  have whole := performed
  cases performed with
  | dropped code => exact valid.shrink whole (delete_sublist _ code) (drop_apart valid code)
  | forgot code => exact valid.shrink whole (delete_sublist _ code) (drop_apart valid code)
  | removed code => exact valid.shrink whole (delete_sublist _ code) (drop_apart valid code)
  | swept now =>
      apply valid.shrink whole (List.Sublist.refl _)
      intro code live tombstoned
      exact valid.apart code live (mem_keys_filter tombstoned)
  | created request after ref _ concluded => exact created_valid valid positive concluded
  | refused request after error notes _ silent concluded =>
      obtain ⟨ended, kind, ⟨_, _, rfl⟩ | ⟨wrong, _⟩⟩ := concludeCreate_cases concluded
      · apply valid.shrink whole (List.Sublist.refl _)
        intro code live tombstoned
        exact valid.apart code live (mem_keys_ended kind tombstoned)
      · cases wrong
  | ended code ref after ended =>
      obtain ⟨_, rfl⟩ := endSession_some ended
      apply valid.shrink whole (delete_sublist _ code)
      intro other member
      rw [InsertionMap.mem_keys_delete] at member
      rw [InsertionMap.mem_keys_set]
      rintro (same | tombstoned)
      · exact member.1 same
      · exact valid.apart other member.2 tombstoned
  | idle => exact valid.shrink whole (List.Sublist.refl _) valid.apart
  | tick => exact valid.shrink whole (List.Sublist.refl _) valid.apart
  | lock => exact valid.shrink whole (List.Sublist.refl _) valid.apart
  | added => exact valid.shrink whole (List.Sublist.refl _) valid.apart
  | left => exact valid.shrink whole (List.Sublist.refl _) valid.apart
  | drained => exact valid.shrink whole (List.Sublist.refl _) valid.apart

end Sections

end Store

/-- In every state that any calls and any scheduling of goroutines reach, rooms
and registry are well formed. -/
theorem relay_representation {config : Config} {ttl : Time} {hub : Hub} {history : List Note}
    (positive : 0 < config.maxSessionsPerIp)
    (run : machine.Run Machine.Unrestricted (newHub config ttl) hub history) :
    hub.store.Valid config.maxSessionsPerIp history := by
  have both := run.invariant
    (fun hub past => hub.store.Valid config.maxSessionsPerIp past ∧ hub.config = config)
    ⟨Store.newRegistry_valid ttl positive, rfl⟩
    (by
      rintro before past event after notes ⟨valid, same⟩ _ stepped
      obtain ⟨reading, performed, _, kept⟩ := Hub.step_section stepped
      rw [same] at performed kept
      exact ⟨Store.section_valid positive valid performed, kept⟩)
  exact both.1

section Samples

def sampleConfig : Config where
  maxSessionsPerIp := 2
  maxConnectionsPerIp := 4
  sendBufferSize := 8

def sampleCode : String := "ROOM-0001"

def firstSlot : String := "aaaaaaaaaaaaaaaaaaaaaaaaaaaaaaaa"

def secondSlot : String := "bbbbbbbbbbbbbbbbbbbbbbbbbbbbbbbb"

/-- A goroutine runs on by itself for a while. -/
def proceed (thread count : Nat) : List Event := List.replicate count (.step thread (.pick 0))

def roomCreated : List Event :=
  .call (.createSessionWithCode sampleCode "balanced" "10.0.0.1") :: proceed 0 2

/-- The handler in `thread` attaches a socket and stops before it reads; `count` is
the number of presence frames and closes on the way. -/
def socketJoined (thread count : Nat) (slotToken : String) : List Event :=
  .call (.serveHTTP "10.0.0.1" sampleCode slotToken) :: proceed thread (6 + count)

def roomJoined : List Event := roomCreated ++ socketJoined 1 0 firstSlot

end Samples

theorem joined_room_representation :
    ∃ hub history, machine.execute (newHub sampleConfig 10) roomJoined = some (hub, history) ∧
      hub.store.sessions.size = 1 ∧ hub.store.attached 0 = [⟨0, firstSlot⟩] ∧
      hub.store.Valid 2 history := by
  have reached : (machine.execute (newHub sampleConfig 10) roomJoined).map
      (fun result => (result.1.store.sessions.size, result.1.store.attached 0)) =
      some (1, [⟨0, firstSlot⟩]) := by decide +kernel
  obtain ⟨⟨hub, history⟩, ran, shown⟩ := Option.map_eq_some_iff.mp reached
  obtain ⟨listed, attached⟩ := Prod.mk.inj shown
  exact ⟨hub, history, ran, listed, attached, relay_representation (by decide)
    (Machine.execute_run roomJoined (Machine.along_unrestricted _ _) ran)⟩

end OnlyTwo.Relay
