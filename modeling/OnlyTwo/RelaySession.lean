import OnlyTwo.InsertionMap

/-!
Rooms of the relay, after internal/session/session.go. Each function is one
section under the session's lock and takes the clock reading it makes inside.
The zero `time.Time` is `none`. A `range` over a map visits the entries in an
order of its own, so where the source leaves the loop at the first match the
model takes the entry that `pick` selects among all that match.
-/

namespace OnlyTwo.Relay

abbrev Time := Int

inductive SessionError where
  | sessionFull
  | sessionClosed
  | sessionNotFound
  | sessionExists
  | invalidProfile
  | tooManySessions
  deriving DecidableEq

def validProfileIds : List String := ["balanced", "low_data", "voice_first", "maximum_privacy"]

def validProfileId (profileId : String) : Bool := validProfileIds.contains profileId

section Choice
variable {Candidate : Type}

def choose (pick : Nat) (candidates : List Candidate) : Option Candidate :=
  candidates[pick % candidates.length]?

theorem mem_of_choose {pick : Nat} {candidates : List Candidate} {candidate : Candidate}
    (chosen : choose pick candidates = some candidate) : candidate ∈ candidates :=
  List.mem_of_getElem? chosen

theorem choose_eq_none_iff {pick : Nat} {candidates : List Candidate} :
    choose pick candidates = none ↔ candidates = [] := by
  rw [choose, List.getElem?_eq_none_iff]
  cases candidates with
  | nil => simp
  | cons first rest =>
      have below : pick % (rest.length + 1) < rest.length + 1 := Nat.mod_lt _ (Nat.succ_pos _)
      simp only [List.length_cons, reduceCtorEq, iff_false]
      omega

/-- Every match is some run's first match. -/
theorem exists_choose {candidates : List Candidate} {candidate : Candidate}
    (member : candidate ∈ candidates) : ∃ pick, choose pick candidates = some candidate := by
  obtain ⟨index, below, rfl⟩ := List.mem_iff_getElem.mp member
  exact ⟨index, by simp [choose, Nat.mod_eq_of_lt below]⟩

end Choice

/-- What a session knows of a socket: `ID` and `SlotToken`. -/
structure Endpoint where
  id : Nat
  slotToken : String
  deriving DecidableEq

structure AddResult where
  peer : Option Endpoint
  replaced : Option Endpoint
  deriving DecidableEq

structure Session where
  code : String
  profileId : String
  creatorIp : String
  expiresAt : Option Time
  ttl : Time
  closed : Bool
  conns : InsertionMap String Endpoint
  deriving DecidableEq

def newSession (code profileId creatorIp : String) (ttl now : Time) : Session where
  code := code
  profileId := profileId
  creatorIp := creatorIp
  expiresAt := some (now + ttl)
  ttl := ttl
  closed := false
  conns := .empty

namespace Session

def expiredLocked (session : Session) (now : Time) : Bool :=
  session.conns.size == 0 &&
    match session.expiresAt with
    | none => false
    | some deadline => decide (deadline ≤ now)

/-- The endpoints under another slot than the given one. -/
def others (session : Session) (slot : String) : List Endpoint :=
  (session.conns.entries.filter (fun entry => entry.1 ≠ slot)).map Prod.snd

def addConnection (session : Session) (conn : Endpoint) (now : Time) (pick : Nat) :
    Except SessionError (Session × AddResult) :=
  if session.closed || session.expiredLocked now then .error .sessionClosed
  else if conn.slotToken = "" then .error .sessionClosed
  else
    let replaced := session.conns.get? conn.slotToken
    if replaced.isNone && decide (2 ≤ session.conns.size) then .error .sessionFull
    else
      -- Connected rooms stay alive. The idle time starts again with the last detach.
      let joined := { session with
        conns := session.conns.set conn.slotToken conn
        expiresAt := none }
      .ok (joined, { peer := choose pick (joined.others conn.slotToken), replaced := replaced })

/-- `none` is the answer `false`: the slot is empty or belongs to another socket. -/
def removeConnection (session : Session) (slotToken : String) (connId : Nat) (now : Time)
    (pick : Nat) : Option (Session × Option Endpoint) :=
  match session.conns.get? slotToken with
  | none => none
  | some current =>
      if current.id ≠ connId then none
      else
        let left := { session with conns := session.conns.delete slotToken }
        let rested :=
          if left.conns.size = 0 then { left with expiresAt := some (now + session.ttl) } else left
        some (rested, choose pick left.conns.values)

/-- Every endpoint the loop of `PeerOf` may return. -/
def peersOf (session : Session) (connId : Nat) (now : Time) : List Endpoint :=
  if session.closed || session.expiredLocked now then []
  else session.conns.values.filter (fun conn => conn.id ≠ connId)

def peerOf (session : Session) (connId : Nat) (now : Time) (pick : Nat) : Option Endpoint :=
  choose pick (session.peersOf connId now)

def drainConnections (session : Session) : Session × List Endpoint :=
  if session.closed then (session, [])
  else ({ session with closed := true, conns := .empty }, session.conns.values)

/-! What the registry's locks rest on: a deadline that was reached stays reached. -/
section Expiry
variable {session : Session} {now later : Time}

theorem expiredLocked_iff :
    session.expiredLocked now = true ↔
      session.conns.size = 0 ∧ ∃ deadline, session.expiresAt = some deadline ∧ deadline ≤ now := by
  cases deadline : session.expiresAt <;> simp [expiredLocked, deadline]

theorem expiredLocked_mono (expired : session.expiredLocked now = true) (order : now ≤ later) :
    session.expiredLocked later = true := by
  obtain ⟨alone, deadline, set, reached⟩ := expiredLocked_iff.mp expired
  exact expiredLocked_iff.mpr ⟨alone, deadline, set, Int.le_trans reached order⟩

end Expiry

section Operations
variable {session after : Session} {conn : Endpoint} {now : Time} {pick : Nat}
  {result : AddResult} {slot : String} {id : Nat} {peer : Option Endpoint}

/-- Everything a successful `AddConnection` does. -/
theorem addConnection_ok (added : session.addConnection conn now pick = .ok (after, result)) :
    session.closed = false ∧ session.expiredLocked now = false ∧ conn.slotToken ≠ "" ∧
      (conn.slotToken ∈ session.conns.keys ∨ session.conns.size < 2) ∧
      after = { session with
        conns := session.conns.set conn.slotToken conn
        expiresAt := none } ∧
      result.peer = choose pick (after.others conn.slotToken) ∧
      result.replaced = session.conns.get? conn.slotToken := by
  simp only [addConnection] at added
  split at added
  · cases added
  · rename_i usable
    split at added
    · cases added
    · rename_i named
      split at added
      · cases added
      · rename_i fits
        simp only [Except.ok.injEq, Prod.mk.injEq] at added
        obtain ⟨rfl, rfl⟩ := added
        simp only [Bool.or_eq_true, not_or, Bool.not_eq_true] at usable
        refine ⟨usable.1, usable.2, named, ?_, rfl, rfl, rfl⟩
        -- A known slot is taken over; a new one needs room for two.
        by_cases present : conn.slotToken ∈ session.conns.keys
        · exact Or.inl present
        · rw [(session.conns.get?_eq_none_iff _).mpr present] at fits
          right
          simpa using fits

/-- Everything a `RemoveConnection` that answers `true` does. -/
theorem removeConnection_some
    (removed : session.removeConnection slot id now pick = some (after, peer)) :
    (∃ current, session.conns.get? slot = some current ∧ current.id = id) ∧
      after = { session with
        conns := session.conns.delete slot
        expiresAt := if (session.conns.delete slot).size = 0 then some (now + session.ttl)
          else session.expiresAt } ∧
      peer = choose pick (session.conns.delete slot).values := by
  simp only [removeConnection] at removed
  split at removed
  · cases removed
  · rename_i current found
    split at removed
    · cases removed
    · rename_i own
      simp only [Option.some.injEq, Prod.mk.injEq] at removed
      obtain ⟨rfl, rfl⟩ := removed
      refine ⟨⟨current, found, not_ne_iff.mp own⟩, ?_, rfl⟩
      split <;> rfl

theorem drainConnections_closed : (session.drainConnections).1.closed = true := by
  simp only [drainConnections]
  split
  · assumption
  · rfl

end Operations

end Session

end OnlyTwo.Relay
