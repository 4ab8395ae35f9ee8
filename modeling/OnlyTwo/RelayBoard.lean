import Mathlib.Logic.Function.Basic
import OnlyTwo.Relay

/-!
Presence without goroutines. A board has the seats of every room, what each
socket was told about the other slot, and the presence frames that are due but
not yet written. Each frame carries the number of the change of membership it
reports. A move changes the seats and makes the frames due at once; the frames
are written later. The board is sound when the newest frame on its way to a
seated socket, or else the last one it was told, matches the other slot.
-/

namespace OnlyTwo.Relay

/-- What a presence frame says of the other slot. -/
def RelayKind.presence : RelayKind → Option Bool
  | .peerPresent | .peerRejoined => some true
  | .peerDisconnected => some false
  | .sessionEnd | .sessionEnded => none

/-- What the last presence frame says; without any, nobody is there. -/
def lastPresence (frames : List Bool) : Bool := frames.getLast?.getD false

/-- Some slot other than the given one is taken. -/
def occupied (seats : InsertionMap String Endpoint) (slot : String) : Bool :=
  seats.keys.any (· != slot)

structure Face where
  slotToken : String
  session : Option Nat
  presence : List Bool

structure Board where
  face : Nat → Option Face
  seats : Nat → InsertionMap String Endpoint
  due : Nat → RelayKind → Nat → Prop
  changes : Nat

section Seats
variable {seats : InsertionMap String Endpoint} {slot other third : String}

theorem occupied_iff : occupied seats slot = true ↔ ∃ key ∈ seats.keys, key ≠ slot := by
  simp [occupied, List.any_eq_true]

/-- Two seats are one's own and one other. -/
theorem other_unique (few : seats.size ≤ 2) (own : slot ∈ seats.keys)
    (first : other ∈ seats.keys) (second : third ∈ seats.keys) (apart : other ≠ slot)
    (away : third ≠ slot) : other = third := by
  apply Classical.byContradiction
  intro different
  have three : [slot, other, third].Nodup := by
    simp [apart.symm, away.symm, different]
  have inside : [slot, other, third] ⊆ seats.keys := by
    intro key member
    simp only [List.mem_cons, List.not_mem_nil, or_false] at member
    rcases member with rfl | rfl | rfl
    · exact own
    · exact first
    · exact second
  have long := (three.subperm inside).length_le
  rw [seats.length_keys] at long
  simp only [List.length_cons, List.length_nil] at long
  omega

end Seats

namespace Board

/-- The newest frame on its way to a socket, or else the last one it was told,
says whether the other slot is taken. -/
structure Informed (board : Board) (taken : Bool) (id : Nat) : Prop where
  told : (∀ kind change, ¬ board.due id kind change) →
    ∀ face, board.face id = some face → lastPresence face.presence = taken
  told_soon : ∀ kind change, board.due id kind change →
    (∀ other earlier, board.due id other earlier → earlier ≤ change) →
    kind.presence = some taken

structure Sound (board : Board) : Prop where
  seated : ∀ session slot endpoint, (board.seats session).get? slot = some endpoint →
    ∃ face, board.face endpoint.id = some face ∧ face.slotToken = slot ∧
      face.session = some session
  blank : ∀ id face, board.face id = some face → face.session = none → face.presence = []
  late : ∀ id kind change, board.due id kind change → change < board.changes
  known : ∀ id kind change, board.due id kind change →
    ∃ face session, board.face id = some face ∧ face.session = some session
  informed : ∀ session slot endpoint, (board.seats session).get? slot = some endpoint →
    board.Informed (occupied (board.seats session) slot) endpoint.id

/-- The frame leaves the frames that are due; an equal one may stay. -/
structure Performed (board after : Board) (target : Nat) (kind : RelayKind) (change : Nat) :
    Prop where
  was : board.due target kind change
  fewer : ∀ id other number, after.due id other number → board.due id other number
  rest : ∀ id other number, board.due id other number →
    after.due id other number ∨ (id = target ∧ other = kind ∧ number = change)

/-- A change of membership and the frames it makes due: `peer` is told `news`, and
so is the `newcomer` if there is one. -/
structure Announces (board after : Board) (peer newcomer : Option Nat) (news : Bool) : Prop where
  older : ∀ id kind change, board.due id kind change → after.due id kind change
  newer : ∀ id kind change, after.due id kind change → board.due id kind change ∨
    (change = board.changes ∧ kind.presence = some news ∧ (some id = peer ∨ some id = newcomer))
  told : ∀ id, some id = peer ∨ some id = newcomer → ∃ kind, after.due id kind board.changes
  count : after.changes = board.changes + 1

inductive Move (board after : Board) : Prop where
  | still : after.face = board.face → after.seats = board.seats →
      after.changes = board.changes →
      (∀ id kind change, after.due id kind change ↔ board.due id kind change) →
      Move board after
  | opened (id : Nat) (slot : String) : board.face id = none →
      after.face = Function.update board.face id (some ⟨slot, none, []⟩) →
      after.seats = board.seats → after.changes = board.changes →
      (∀ id kind change, after.due id kind change ↔ board.due id kind change) →
      Move board after
  | written (target : Nat) (kind : RelayKind) (change : Nat) (face : Face) (news : Bool) :
      board.face target = some face → kind.presence = some news →
      board.Performed after target kind change →
      (∀ other number, board.due target other number → change ≤ number) →
      after.face = Function.update board.face target
        (some { face with presence := face.presence ++ [news] }) →
      after.seats = board.seats → after.changes = board.changes → Move board after
  | astray (target : Nat) (kind : RelayKind) (change : Nat) (face told : Face) :
      board.face target = some face → board.Performed after target kind change →
      (∀ session slot endpoint, (board.seats session).get? slot = some endpoint →
        endpoint.id ≠ target) →
      told.session = face.session →
      after.face = Function.update board.face target (some told) →
      after.seats = board.seats → after.changes = board.changes → Move board after
  | joined (conn session : Nat) (slot : String) (presence : List Bool) (peer : Option Endpoint) :
      board.face conn = some ⟨slot, none, presence⟩ →
      after.face = Function.update board.face conn (some ⟨slot, some session, presence⟩) →
      after.seats = Function.update board.seats session
        ((board.seats session).set slot ⟨conn, slot⟩) →
      (after.seats session).size ≤ 2 →
      (peer = none → occupied (after.seats session) slot = false) →
      (∀ other, peer = some other →
        ∃ key, key ≠ slot ∧ (board.seats session).get? key = some other) →
      board.Announces after (peer.map Endpoint.id) (peer.map fun _ => conn) true →
      Move board after
  | left (session : Nat) (slot : String) (peer : Option Endpoint) :
      slot ∈ (board.seats session).keys →
      after.face = board.face →
      after.seats = Function.update board.seats session ((board.seats session).delete slot) →
      (board.seats session).size ≤ 2 →
      (peer = none → (after.seats session).keys = []) →
      (∀ other, peer = some other → ∃ key, (after.seats session).get? key = some other) →
      board.Announces after (peer.map Endpoint.id) none false →
      Move board after
  | emptied (session : Nat) : after.face = board.face →
      after.seats = Function.update board.seats session .empty →
      after.changes = board.changes →
      (∀ id kind change, after.due id kind change ↔ board.due id kind change) →
      Move board after

section Moves
variable {board after : Board}

theorem Informed.same {taken : Bool} {id : Nat} (informed : board.Informed taken id)
    (face : after.face id = board.face id)
    (due : ∀ kind change, after.due id kind change ↔ board.due id kind change) :
    after.Informed taken id where
  told := by
    intro none other found
    rw [face] at found
    exact informed.told (fun kind change held => none kind change ((due kind change).mpr held))
      other found
  told_soon := by
    intro kind change held newest
    apply informed.told_soon kind change ((due kind change).mp held)
    intro other earlier old
    exact newest other earlier ((due other earlier).mpr old)

/-- A seat is held by one socket of one room. -/
theorem Sound.same_seat (sound : board.Sound) {session other : Nat} {slot key : String}
    {endpoint holder : Endpoint} (first : (board.seats session).get? slot = some endpoint)
    (second : (board.seats other).get? key = some holder) (same : endpoint.id = holder.id) :
    session = other ∧ slot = key := by
  obtain ⟨face, found, own, room⟩ := sound.seated session slot endpoint first
  obtain ⟨again, stored, bears, within_⟩ := sound.seated other key holder second
  rw [same, stored] at found
  cases found
  rw [room] at within_
  cases within_
  exact ⟨rfl, own.symm.trans bears⟩

theorem update_face {id target : Nat} {face : Face} (different : id ≠ target) :
    Function.update board.face target (some face) id = board.face id :=
  Function.update_of_ne different _ _

theorem sound_still (sound : board.Sound) (face : after.face = board.face)
    (seats : after.seats = board.seats) (changes : after.changes = board.changes)
    (due : ∀ id kind change, after.due id kind change ↔ board.due id kind change) :
    after.Sound where
  seated := by rw [face, seats]; exact sound.seated
  blank := by rw [face]; exact sound.blank
  late := by
    intro id kind change held
    rw [changes]
    exact sound.late id kind change ((due id kind change).mp held)
  known := by
    intro id kind change held
    rw [face]
    exact sound.known id kind change ((due id kind change).mp held)
  informed := by
    intro session slot endpoint held
    rw [seats] at held ⊢
    exact (sound.informed session slot endpoint held).same (by rw [face]) (due endpoint.id)

theorem sound_opened (sound : board.Sound) {id : Nat} {slot : String}
    (fresh : board.face id = none)
    (face : after.face = Function.update board.face id (some ⟨slot, none, []⟩))
    (seats : after.seats = board.seats) (changes : after.changes = board.changes)
    (due : ∀ id kind change, after.due id kind change ↔ board.due id kind change) :
    after.Sound := by
  have old : ∀ other face, board.face other = some face → after.face other = some face := by
    intro other found stored
    have different : other ≠ id := by
      rintro rfl
      rw [fresh] at stored
      cases stored
    rw [face, update_face different]
    exact stored
  refine ⟨?_, ?_, ?_, ?_, ?_⟩
  · intro session slot endpoint held
    rw [seats] at held
    obtain ⟨found, stored, own, room⟩ := sound.seated session slot endpoint held
    exact ⟨found, old _ _ stored, own, room⟩
  · intro other found stored none
    rw [face] at stored
    by_cases same : other = id
    · subst same
      rw [Function.update_self] at stored
      cases stored
      rfl
    · rw [update_face same] at stored
      exact sound.blank other found stored none
  · intro id kind change held
    rw [changes]
    exact sound.late id kind change ((due id kind change).mp held)
  · intro id kind change held
    obtain ⟨found, session, stored, room⟩ := sound.known id kind change ((due id kind change).mp held)
    exact ⟨found, session, old _ _ stored, room⟩
  · intro session slot endpoint held
    rw [seats] at held ⊢
    obtain ⟨found, stored, _⟩ := sound.seated session slot endpoint held
    exact (sound.informed session slot endpoint held).same ((old _ _ stored).trans stored.symm)
      (due endpoint.id)

/-- What writing a frame keeps of the board, whoever it was for. -/
theorem sound_performed (sound : board.Sound) {target : Nat} {kind : RelayKind} {change : Nat}
    {face told : Face} (found : board.face target = some face)
    (performed : board.Performed after target kind change) (room : told.session = face.session)
    (slot : (∀ session key endpoint, (board.seats session).get? key = some endpoint →
      endpoint.id ≠ target) ∨ told.slotToken = face.slotToken)
    (faces : after.face = Function.update board.face target (some told))
    (seats : after.seats = board.seats) (changes : after.changes = board.changes)
    (informed : ∀ session slot endpoint, (board.seats session).get? slot = some endpoint →
      endpoint.id = target →
      after.Informed (occupied (board.seats session) slot) endpoint.id) : after.Sound := by
  have same : after.face target = some told := by
    rw [faces, Function.update_self]
  have other : ∀ id, id ≠ target → after.face id = board.face id := by
    intro id different
    rw [faces, update_face different]
  refine ⟨?_, ?_, ?_, ?_, ?_⟩
  · intro session key endpoint held
    rw [seats] at held
    obtain ⟨shown, stored, own, within_⟩ := sound.seated session key endpoint held
    by_cases hit : endpoint.id = target
    · rcases slot with away | bears
      · exact absurd hit (away session key endpoint held)
      · rw [hit] at stored ⊢
        rw [found] at stored
        cases stored
        exact ⟨told, same, bears.trans own, room.trans within_⟩
    · exact ⟨shown, (other _ hit).trans stored, own, within_⟩
  · intro id shown stored none
    by_cases hit : id = target
    · subst hit
      rw [same] at stored
      cases stored
      -- only a socket that has a room is ever written to
      obtain ⟨_, session, known, inside⟩ := sound.known id kind change performed.was
      rw [found] at known
      cases known
      rw [room, inside] at none
      cases none
    · rw [other id hit] at stored
      exact sound.blank id shown stored none
  · intro id kind change held
    rw [changes]
    exact sound.late id kind change (performed.fewer id kind change held)
  · intro id kind change held
    obtain ⟨shown, session, stored, inside⟩ :=
      sound.known id kind change (performed.fewer id kind change held)
    by_cases hit : id = target
    · subst hit
      rw [found] at stored
      cases stored
      exact ⟨told, session, same, room.trans inside⟩
    · exact ⟨shown, session, (other id hit).trans stored, inside⟩
  · intro session key endpoint held
    rw [seats] at held ⊢
    by_cases hit : endpoint.id = target
    · exact informed session key endpoint held hit
    · apply (sound.informed session key endpoint held).same (other _ hit)
      intro kind' change'
      constructor
      · exact performed.fewer endpoint.id kind' change'
      · intro old
        rcases performed.rest endpoint.id kind' change' old with kept | ⟨wrong, _⟩
        · exact kept
        · exact absurd wrong hit

theorem sound_written (sound : board.Sound) {target : Nat} {kind : RelayKind} {change : Nat}
    {face : Face} {news : Bool} (found : board.face target = some face)
    (meant : kind.presence = some news) (performed : board.Performed after target kind change)
    (oldest : ∀ other number, board.due target other number → change ≤ number)
    (faces : after.face = Function.update board.face target
      (some { face with presence := face.presence ++ [news] }))
    (seats : after.seats = board.seats) (changes : after.changes = board.changes) :
    after.Sound := by
  apply sound_performed sound found performed _ (Or.inr _) faces seats changes
  · rintro session slot endpoint held rfl
    have informed := sound.informed session slot endpoint held
    refine ⟨?_, ?_⟩
    · -- the frame was the only one due, so it was the newest
      intro none shown stored
      rw [faces, Function.update_self] at stored
      cases stored
      have news' : kind.presence = some (occupied (board.seats session) slot) := by
        apply informed.told_soon kind change performed.was
        intro other number old
        rcases performed.rest _ other number old with kept | ⟨_, _, same⟩
        · exact absurd kept (none other number)
        · exact Nat.le_of_eq same
      rw [meant] at news'
      simp only [Option.some.injEq] at news'
      simp [lastPresence, news']
    · intro other number held' newest
      apply informed.told_soon other number (performed.fewer _ other number held')
      intro third earlier old
      rcases performed.rest _ third earlier old with kept | ⟨_, _, same⟩
      · exact newest third earlier kept
      · rw [same]
        exact oldest other number (performed.fewer _ other number held')
  · rfl
  · rfl

/-- A frame made due by this change is the newest for whoever gets it. -/
theorem Announces.informed {peer newcomer : Option Nat} {news : Bool} {id : Nat}
    (sound : board.Sound) (announces : board.Announces after peer newcomer news)
    (told : some id = peer ∨ some id = newcomer) : after.Informed news id where
  told := by
    intro none
    obtain ⟨kind, held⟩ := announces.told id told
    exact absurd held (none kind board.changes)
  told_soon := by
    intro kind change held newest
    obtain ⟨new, due⟩ := announces.told id told
    have recent := newest new board.changes due
    rcases announces.newer id kind change held with old | ⟨_, news, _⟩
    · have before := sound.late id kind change old
      omega
    · exact news

theorem Announces.due_other {peer newcomer : Option Nat} {news : Bool} {id : Nat}
    (announces : board.Announces after peer newcomer news) (away : some id ≠ peer)
    (apart : some id ≠ newcomer) (kind : RelayKind) (change : Nat) :
    after.due id kind change ↔ board.due id kind change := by
  constructor
  · intro held
    rcases announces.newer id kind change held with old | ⟨_, _, wrong | wrong⟩
    · exact old
    · exact absurd wrong away
    · exact absurd wrong apart
  · exact announces.older id kind change

theorem Announces.late {peer newcomer : Option Nat} {news : Bool} (sound : board.Sound)
    (announces : board.Announces after peer newcomer news) :
    ∀ id kind change, after.due id kind change → change < after.changes := by
  intro id kind change held
  rw [announces.count]
  rcases announces.newer id kind change held with old | ⟨same, _⟩
  · exact Nat.lt_succ_of_lt (sound.late id kind change old)
  · omega

/-- What a move says that seats a newcomer. -/
structure Joins (board after : Board) (conn session : Nat) (slot : String) (presence : List Bool)
    (peer : Option Endpoint) : Prop where
  fresh : board.face conn = some ⟨slot, none, presence⟩
  faces : after.face = Function.update board.face conn (some ⟨slot, some session, presence⟩)
  seats : after.seats = Function.update board.seats session
    ((board.seats session).set slot ⟨conn, slot⟩)
  few : (after.seats session).size ≤ 2
  alone : peer = none → occupied (after.seats session) slot = false
  peers : ∀ other, peer = some other →
    ∃ key, key ≠ slot ∧ (board.seats session).get? key = some other
  announces : board.Announces after (peer.map Endpoint.id) (peer.map fun _ => conn) true

namespace Joins

variable {conn session other id change : Nat} {slot key : String} {presence : List Bool}
  {peer : Option Endpoint} {endpoint : Endpoint} {kind : RelayKind}

theorem here (joins : board.Joins after conn session slot presence peer) :
    after.seats session = (board.seats session).set slot ⟨conn, slot⟩ := by
  rw [joins.seats, Function.update_self]

theorem elsewhere (joins : board.Joins after conn session slot presence peer)
    (different : other ≠ session) : after.seats other = board.seats other := by
  rw [joins.seats, Function.update_of_ne different]

theorem own (joins : board.Joins after conn session slot presence peer) :
    after.face conn = some ⟨slot, some session, presence⟩ := by
  rw [joins.faces, Function.update_self]

theorem face (joins : board.Joins after conn session slot presence peer)
    (different : id ≠ conn) : after.face id = board.face id := by
  rw [joins.faces, update_face different]

/-- A newcomer had no seat. -/
theorem unseated (joins : board.Joins after conn session slot presence peer) (sound : board.Sound)
    (held : (board.seats other).get? key = some endpoint) : endpoint.id ≠ conn := by
  rintro rfl
  obtain ⟨face, found, _, room⟩ := sound.seated other key endpoint held
  rw [joins.fresh] at found
  cases found
  cases room

/-- Nothing was due to a newcomer. -/
theorem undue (joins : board.Joins after conn session slot presence peer) (sound : board.Sound) :
    ¬ board.due conn kind change := by
  intro held
  obtain ⟨face, other, found, room⟩ := sound.known conn kind change held
  rw [joins.fresh] at found
  cases found
  cases room

theorem seat (joins : board.Joins after conn session slot presence peer)
    (held : (after.seats session).get? key = some endpoint) :
    (key = slot ∧ endpoint = ⟨conn, slot⟩) ∨
      (key ≠ slot ∧ (board.seats session).get? key = some endpoint) := by
  rw [joins.here, InsertionMap.get?_set] at held
  split at held
  · rename_i same
    cases held
    exact Or.inl ⟨same, rfl⟩
  · rename_i different
    exact Or.inr ⟨different, held⟩

theorem taken (joins : board.Joins after conn session slot presence peer) :
    slot ∈ (after.seats session).keys := by
  rw [joins.here]
  exact (InsertionMap.mem_keys_set _ _ _ _).mpr (Or.inl rfl)

/-- Who had a seat keeps it. -/
theorem present (joins : board.Joins after conn session slot presence peer)
    (seated : (board.seats session).get? key = some endpoint) :
    key ∈ (after.seats session).keys := by
  rw [joins.here]
  exact (InsertionMap.mem_keys_set _ _ _ _).mpr
    (Or.inr (InsertionMap.mem_keys_of_get? seated))

theorem seated (joins : board.Joins after conn session slot presence peer) (sound : board.Sound)
    (held : (after.seats other).get? key = some endpoint) :
    ∃ face, after.face endpoint.id = some face ∧ face.slotToken = key ∧
      face.session = some other := by
  by_cases same : other = session
  · subst same
    rcases joins.seat held with ⟨rfl, rfl⟩ | ⟨_, old⟩
    · exact ⟨_, joins.own, rfl, rfl⟩
    · rw [joins.face (joins.unseated sound old)]
      exact sound.seated other key endpoint old
  · rw [joins.elsewhere same] at held
    rw [joins.face (joins.unseated sound held)]
    exact sound.seated other key endpoint held

theorem blank (joins : board.Joins after conn session slot presence peer) (sound : board.Sound)
    {shown : Face} (stored : after.face id = some shown) (none : shown.session = none) :
    shown.presence = [] := by
  by_cases same : id = conn
  · subst same
    rw [joins.own] at stored
    cases stored
    cases none
  · rw [joins.face same] at stored
    exact sound.blank id shown stored none

theorem known (joins : board.Joins after conn session slot presence peer) (sound : board.Sound)
    (held : after.due id kind change) :
    ∃ face session, after.face id = some face ∧ face.session = some session := by
  by_cases same : id = conn
  · subst same
    exact ⟨_, session, joins.own, rfl⟩
  · rw [joins.face same]
    rcases joins.announces.newer id kind change held with old | ⟨_, _, toPeer | toSelf⟩
    · exact sound.known id kind change old
    · obtain ⟨other, chosen, rfl⟩ := Option.map_eq_some_iff.mp toPeer.symm
      obtain ⟨key, _, seated⟩ := joins.peers other chosen
      obtain ⟨shown, stored, _, room⟩ := sound.seated session key other seated
      exact ⟨shown, session, stored, room⟩
    · obtain ⟨_, _, rfl⟩ := Option.map_eq_some_iff.mp toSelf.symm
      exact absurd rfl same

/-- The newcomer is told of the peer, and of nobody where nobody is. -/
theorem newcomer_informed (joins : board.Joins after conn session slot presence peer)
    (sound : board.Sound) : after.Informed (occupied (after.seats session) slot) conn := by
  cases chosen : peer with
  | none =>
      subst chosen
      rw [joins.alone rfl]
      have nothing : ∀ kind change, ¬ after.due conn kind change := by
        intro kind change due
        exact joins.undue sound
          ((joins.announces.due_other (by simp) (by simp) kind change).mp due)
      refine ⟨?_, fun kind change due => absurd due (nothing kind change)⟩
      intro _ shown stored
      rw [joins.own] at stored
      cases stored
      rw [sound.blank conn _ joins.fresh rfl]
      rfl
  | some found =>
      obtain ⟨other, away, seated⟩ := joins.peers found chosen
      rw [occupied_iff.mpr ⟨other, joins.present seated, away⟩]
      exact joins.announces.informed sound (Or.inr (by rw [chosen]; rfl))

/-- Whoever else has a seat in the room is the peer, and it is told of the newcomer. -/
theorem peer_informed (joins : board.Joins after conn session slot presence peer)
    (sound : board.Sound) (different : key ≠ slot)
    (old : (board.seats session).get? key = some endpoint) :
    after.Informed (occupied (after.seats session) key) endpoint.id := by
  rw [occupied_iff.mpr ⟨slot, joins.taken, different.symm⟩]
  cases chosen : peer with
  | none =>
      have crowded : occupied (after.seats session) slot = true :=
        occupied_iff.mpr ⟨key, joins.present old, different⟩
      rw [joins.alone chosen] at crowded
      cases crowded
  | some found =>
      obtain ⟨other, away, seated⟩ := joins.peers found chosen
      have equal := other_unique joins.few joins.taken (joins.present old) (joins.present seated)
        different away
      subst equal
      rw [old] at seated
      cases seated
      exact joins.announces.informed sound (Or.inl (by rw [chosen]; rfl))

/-- Nobody in another room is told anything. -/
theorem others_informed (joins : board.Joins after conn session slot presence peer)
    (sound : board.Sound) (different : other ≠ session)
    (held : (board.seats other).get? key = some endpoint) :
    after.Informed (occupied (board.seats other) key) endpoint.id := by
  apply (sound.informed other key endpoint held).same (joins.face (joins.unseated sound held))
  apply joins.announces.due_other
  · intro toPeer
    obtain ⟨found, chosen, equal⟩ := Option.map_eq_some_iff.mp toPeer.symm
    obtain ⟨key', _, seated⟩ := joins.peers found chosen
    exact different (sound.same_seat held seated equal.symm).1
  · intro toSelf
    obtain ⟨_, _, equal⟩ := Option.map_eq_some_iff.mp toSelf.symm
    exact joins.unseated sound held equal.symm

theorem sound (joins : board.Joins after conn session slot presence peer) (sound : board.Sound) :
    after.Sound := by
  refine ⟨fun _ _ _ => joins.seated sound, fun _ _ => joins.blank sound,
    joins.announces.late sound, fun _ _ _ => joins.known sound, ?_⟩
  intro other key endpoint held
  by_cases same : other = session
  · subst same
    rcases joins.seat held with ⟨rfl, rfl⟩ | ⟨different, old⟩
    · exact joins.newcomer_informed sound
    · exact joins.peer_informed sound different old
  · rw [joins.elsewhere same] at held ⊢
    exact joins.others_informed sound same held

end Joins

theorem sound_left (sound : board.Sound) {session : Nat} {slot : String}
    {peer : Option Endpoint} (own : slot ∈ (board.seats session).keys)
    (faces : after.face = board.face)
    (seats : after.seats = Function.update board.seats session
      ((board.seats session).delete slot))
    (few : (board.seats session).size ≤ 2)
    (alone : peer = none → (after.seats session).keys = [])
    (peers : ∀ other, peer = some other → ∃ key, (after.seats session).get? key = some other)
    (announces : board.Announces after (peer.map Endpoint.id) none false) : after.Sound := by
  have here : after.seats session = (board.seats session).delete slot := by
    rw [seats, Function.update_self]
  have elsewhere : ∀ other, other ≠ session → after.seats other = board.seats other := by
    intro other different
    rw [seats, Function.update_of_ne different]
  have seat : ∀ key endpoint, (after.seats session).get? key = some endpoint →
      key ≠ slot ∧ (board.seats session).get? key = some endpoint := by
    intro key endpoint held
    rw [here, InsertionMap.get?_delete] at held
    split at held
    · cases held
    · rename_i different
      exact ⟨different, held⟩
  have stays : ∀ other key endpoint, (after.seats other).get? key = some endpoint →
      (board.seats other).get? key = some endpoint := by
    intro other key endpoint held
    by_cases same : other = session
    · subst same
      exact (seat key endpoint held).2
    · rw [elsewhere other same] at held
      exact held
  refine ⟨?_, ?_, announces.late sound, ?_, ?_⟩
  · intro other key endpoint held
    rw [faces]
    exact sound.seated other key endpoint (stays other key endpoint held)
  · rw [faces]
    exact sound.blank
  · intro id kind change held
    rw [faces]
    rcases announces.newer id kind change held with old | ⟨_, _, toPeer | wrong⟩
    · exact sound.known id kind change old
    · obtain ⟨other, chosen, rfl⟩ := Option.map_eq_some_iff.mp toPeer.symm
      obtain ⟨key, seated⟩ := peers other chosen
      obtain ⟨shown, stored, _, room⟩ :=
        sound.seated session key other (stays session key other seated)
      exact ⟨shown, session, stored, room⟩
    · cases wrong
  · intro other key endpoint held
    have old := stays other key endpoint held
    by_cases same : other = session
    · subst same
      -- A room has two seats at most, so whoever is left sits alone.
      have only : ∀ third endpoint', (after.seats other).get? third = some endpoint' →
          third = key := by
        intro third endpoint' held'
        exact other_unique few own (InsertionMap.mem_keys_of_get? (seat third endpoint' held').2)
          (InsertionMap.mem_keys_of_get? old) (seat third endpoint' held').1
          (seat key endpoint held).1
      have empty : occupied (after.seats other) key = false := by
        apply Bool.eq_false_iff.mpr
        intro crowded
        obtain ⟨third, member, different⟩ := occupied_iff.mp crowded
        rw [← InsertionMap.has_iff, InsertionMap.has] at member
        obtain ⟨endpoint', held'⟩ := Option.isSome_iff_exists.mp member
        exact different (only third endpoint' held')
      rw [empty]
      cases chosen : peer with
      -- Nobody was found to tell, so nobody is left.
      | none =>
          have member := InsertionMap.mem_keys_of_get? held
          rw [alone chosen] at member
          cases member
      | some found =>
          obtain ⟨third, seated⟩ := peers found chosen
          obtain rfl := only third found seated
          rw [held] at seated
          cases seated
          exact announces.informed sound (Or.inl (by rw [chosen]; rfl))
    · rw [elsewhere other same]
      apply (sound.informed other key endpoint old).same (by rw [faces])
      apply announces.due_other
      · intro toPeer
        obtain ⟨found, chosen, equal⟩ := Option.map_eq_some_iff.mp toPeer.symm
        obtain ⟨third, seated⟩ := peers found chosen
        exact same (sound.same_seat old (stays session third found seated) equal.symm).1
      · intro wrong
        cases wrong

theorem sound_emptied (sound : board.Sound) {session : Nat} (faces : after.face = board.face)
    (seats : after.seats = Function.update board.seats session .empty)
    (changes : after.changes = board.changes)
    (due : ∀ id kind change, after.due id kind change ↔ board.due id kind change) :
    after.Sound := by
  have stays : ∀ other key endpoint, (after.seats other).get? key = some endpoint →
      after.seats other = board.seats other := by
    intro other key endpoint held
    rw [seats] at held ⊢
    by_cases same : other = session
    · subst same
      rw [Function.update_self] at held
      cases held
    · rw [Function.update_of_ne same]
  refine ⟨?_, ?_, ?_, ?_, ?_⟩
  · intro other key endpoint held
    rw [faces]
    rw [stays other key endpoint held] at held
    exact sound.seated other key endpoint held
  · rw [faces]
    exact sound.blank
  · intro id kind change held
    rw [changes]
    exact sound.late id kind change ((due id kind change).mp held)
  · intro id kind change held
    rw [faces]
    exact sound.known id kind change ((due id kind change).mp held)
  · intro other key endpoint held
    have same := stays other key endpoint held
    rw [same] at held ⊢
    exact (sound.informed other key endpoint held).same (by rw [faces]) (due endpoint.id)

/-- Every move keeps the board sound. -/
theorem Move.sound (move : Move board after) (sound : board.Sound) : after.Sound := by
  cases move with
  | still face seats changes due => exact sound_still sound face seats changes due
  | opened id slot fresh face seats changes due =>
      exact sound_opened sound fresh face seats changes due
  | written target kind change face news found meant performed oldest faces seats changes =>
      exact sound_written sound found meant performed oldest faces seats changes
  | astray target kind change face told found performed away room faces seats changes =>
      apply sound_performed sound found performed room (Or.inl away) faces seats changes
      intro session slot endpoint held hit
      exact absurd hit (away session slot endpoint held)
  | joined conn session slot presence peer fresh faces seats few alone peers announces =>
      exact Joins.sound ⟨fresh, faces, seats, few, alone, peers, announces⟩ sound
  | left session slot peer own faces seats few alone peers announces =>
      exact sound_left sound own faces seats few alone peers announces
  | emptied session faces seats changes due => exact sound_emptied sound faces seats changes due

end Moves

end Board

end OnlyTwo.Relay
