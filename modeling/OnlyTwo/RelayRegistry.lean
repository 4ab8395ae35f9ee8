import OnlyTwo.RelaySession

/-!
The registry of rooms, after internal/session/registry.go. Rooms live in a heap
and are named by their place in it, as the source names them by pointer: a room
that left the registry is still there for the goroutines that hold it. Each
function below is one section under the registry's lock. `locked` is set while
a creation or a sweep holds that lock through its loop, in which it takes the
lock of one room after another.
-/

namespace OnlyTwo.Relay

def codeCharacter (char : Char) : Bool :=
  (decide ('A' ≤ char) && decide (char ≤ 'Z')) || (decide ('0' ≤ char) && decide (char ≤ '9'))

/-- The pattern `^[A-Z0-9]{4}-[A-Z0-9]{4}$`. -/
def validCode (code : String) : Bool :=
  let chars := code.toList
  chars.length == 9 && (chars.take 4).all codeCharacter && chars[4]? == some '-' &&
    (chars.drop 5).all codeCharacter

def roomAlphabet : List Char := "ABCDEFGHJKLMNPQRSTUVWXYZ23456789".toList

/-- The code built from the bytes that `rand.Read` delivered. -/
def randomRoomCode (bytes : List UInt8) : String :=
  let raw := bytes.map fun value => roomAlphabet.getD (value.toNat % roomAlphabet.length) 'A'
  String.ofList (raw.take 4 ++ '-' :: raw.drop 4)

/-- The arguments of `CreateSessionWithCode` once it has checked them, and the
clock reading it starts with; `retries` is how often `CreateSession` will still
draw another code. -/
structure CreateRequest where
  code : String
  profileId : String
  creatorIp : String
  now : Time
  retries : Nat
  codeValid : validCode code = true
  profileValid : validProfileId profileId = true
  deriving DecidableEq

structure Store where
  clock : Time
  ttl : Time
  sessions : InsertionMap String Nat
  ended : InsertionMap String Time
  heap : List Session
  locked : Bool
  deriving DecidableEq

def newRegistry (ttl : Time) : Store where
  clock := 0
  ttl := ttl
  sessions := .empty
  ended := .empty
  heap := []
  locked := false

namespace Store

def isExpired (store : Store) (ref : Nat) : Bool :=
  match store.heap[ref]? with
  | none => false
  | some session => session.expiredLocked store.clock

def update (store : Store) (ref : Nat) (session : Session) : Store :=
  { store with heap := store.heap.set ref session }

def drop (store : Store) (code : String) : Store :=
  { store with sessions := store.sessions.delete code }

def createdBy (store : Store) (creatorIp : String) (ref : Nat) : Bool :=
  match store.heap[ref]? with
  | none => false
  | some session => session.creatorIp == creatorIp

def liveOf (store : Store) (creatorIp : String) : Nat :=
  (store.sessions.values.filter (store.createdBy creatorIp)).length

/-- The second half of the creation: the code is free of tombstones. -/
def insertSession (store : Store) (request : CreateRequest) (maxSessionsPerIp : Int) :
    Store × Except SessionError Nat :=
  if store.sessions.has request.code then (store, .error .sessionExists)
  else if 0 < maxSessionsPerIp ∧ request.creatorIp ≠ "" ∧
      maxSessionsPerIp ≤ store.liveOf request.creatorIp then
    (store, .error .tooManySessions)
  else
    let session := newSession request.code request.profileId request.creatorIp store.ttl store.clock
    ({ store with
        heap := store.heap ++ [session]
        sessions := store.sessions.set request.code store.heap.length },
      .ok store.heap.length)

/-- What `CreateSessionWithCode` does after its loop. A tombstone that is over
goes away even when the creation then fails. -/
def concludeCreate (store : Store) (request : CreateRequest) (maxSessionsPerIp : Int) :
    Store × Except SessionError Nat :=
  match store.ended.get? request.code with
  | none => store.insertSession request maxSessionsPerIp
  | some expiresAt =>
      if request.now < expiresAt then (store, .error .sessionExists)
      else
        { store with ended := store.ended.delete request.code }.insertSession request
          maxSessionsPerIp

def concludeSweep (store : Store) (now : Time) : Store :=
  { store with ended := store.ended.filter fun _ expiresAt => decide (now < expiresAt) }

/-- `EndSession`; `none` is the answer `false`. -/
def endSession (store : Store) (code : String) (expected : Nat) : Option Store :=
  if store.sessions.get? code = some expected then
    some { store with
      sessions := store.sessions.delete code
      ended := store.ended.set code (store.clock + store.ttl) }
  else none

def removes (store : Store) (code : String) (expected : Option Nat) : Bool :=
  match store.sessions.get? code with
  | none => false
  | some current => expected.isNone || expected == some current

def removeSession (store : Store) (code : String) (expected : Option Nat) : Store :=
  if store.removes code expected then store.drop code else store

def attached (store : Store) (ref : Nat) : List Endpoint :=
  match store.heap[ref]? with
  | none => []
  | some session => session.conns.values

end Store

end OnlyTwo.Relay
