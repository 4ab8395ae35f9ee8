import OnlyTwo.Client

/-!
The request channel of client/src/crypto/CryptoClient.ts, with its timers, and the
worker of client/src/crypto/cryptoWorker.ts at its other end. Calls are numbered in
the order in which `serialRequest` is called, and the identifiers that `randomUUID`
draws are distinct, so they are numbered too. The closures of a pending request are
the call they settle. Timers, a crash of the worker and the messages between the two
sides come in any order; the messages of one side stay in theirs.
-/

namespace OnlyTwo.Requests

open CryptoWorker (Worker Request Reply WebCrypto Entropy Answered)

/-- One call of `serialRequest`. -/
structure Call where
  number : Nat
  request : Request
  deriving DecidableEq, Repr

/-- How the promise of a call settles; `none` is `undefined`. -/
inductive Outcome where
  | resolved (result : Option Reply)
  | rejected (reason : String)
  deriving DecidableEq, Repr

/-- Where a `rawRequest` is suspended: in `waitReady`, behind it, or for its answer. -/
inductive Stage where
  | waiting
  | ready
  | awaiting (id : Nat)
  deriving DecidableEq, Repr

structure Running where
  call : Call
  stage : Stage
  deriving DecidableEq, Repr

/-- What the worker posts. -/
inductive Message where
  | ready
  | answer (id : Nat) (result : Except String Reply)

/-- `timers` and `readyTimers` are the armed ones; `mailbox` and `outbox` are the
messages on their way to the worker and back. -/
structure CryptoClient where
  ready : Bool
  readyWaiters : List Nat
  readyTimers : List Nat
  pending : InsertionMap Nat Call
  timers : InsertionMap Nat Call
  running : Option Running
  chain : List Call
  made : Nat
  drawn : Nat
  worker : Worker
  started : Bool
  mailbox : List (Nat × Request)
  outbox : List Message

inductive Event where
  | call (request : Request)
  | begin
  | post
  | start
  | work (entropy : Entropy) (failure : Option String)
  | receive
  | readyTimer (number : Nat)
  | requestTimer (id : Nat)
  | crash (message : String)

inductive Note where
  | called (call : Call)
  | posted (id : Nat) (call : Call)
  | handled (id : Nat) (request : Request) (result : Except String Reply)
  | settled (number : Nat) (outcome : Outcome)

def requestType : Request → String
  | .configure _ => "CONFIGURE"
  | .generateIdentity => "GENERATE_IDENTITY"
  | .establishSession _ _ => "ESTABLISH_SESSION"
  | .encrypt _ => "ENCRYPT"
  | .decrypt _ => "DECRYPT"
  | .reset => "RESET"
  | .unknown type => type

def readyTimeout : Outcome := .rejected "Crypto worker ready timeout"

def timedOut (request : Request) : Outcome :=
  .rejected ("Crypto operation timed out: " ++ requestType request)

def crashed (message : String) : Outcome := .rejected ("Crypto worker crashed: " ++ message)

/-- What `onmessage` makes of an answer: an error without a text is no error. -/
def delivered : Except String Reply → Outcome
  | .ok reply => .resolved (some reply)
  | .error reason => if reason = "" then .resolved none else .rejected reason

namespace CryptoClient

def create : CryptoClient where
  ready := false
  readyWaiters := []
  readyTimers := []
  pending := .empty
  timers := .empty
  running := none
  chain := []
  made := 0
  drawn := 0
  worker := CryptoWorker.initial
  started := false
  mailbox := []
  outbox := []

/-- A call settles: its `rawRequest` is over and the chain may go on. -/
def settle (self : CryptoClient) (number : Nat) : CryptoClient :=
  { self with running := self.running.filter fun running => running.call.number ≠ number }

def serialRequest (self : CryptoClient) (request : Request) : CryptoClient × List Note :=
  ({ self with chain := self.chain ++ [⟨self.made, request⟩], made := self.made + 1 },
    [.called ⟨self.made, request⟩])

/-- `rawRequest` up to the await of `waitReady`. -/
def begin (self : CryptoClient) (call : Call) (rest : List Call) : CryptoClient :=
  if self.ready then { self with running := some ⟨call, .ready⟩, chain := rest }
  else
    { self with
      running := some ⟨call, .waiting⟩
      chain := rest
      readyWaiters := self.readyWaiters ++ [call.number]
      readyTimers := self.readyTimers ++ [call.number] }

/-- `rawRequest` from `waitReady` on. -/
def rawRequest (self : CryptoClient) (call : Call) : CryptoClient × List Note :=
  ({ self with
      running := some ⟨call, .awaiting self.drawn⟩
      pending := self.pending.set self.drawn call
      timers := self.timers.set self.drawn call
      mailbox := self.mailbox ++ [(self.drawn, call.request)]
      drawn := self.drawn + 1 },
    [.posted self.drawn call])

/-- `onmessage` for `READY`: each waiter clears its timer and goes on. -/
def onReady (self : CryptoClient) : CryptoClient :=
  { self with
    ready := true
    readyWaiters := []
    readyTimers := self.readyTimers.filter fun number => number ∉ self.readyWaiters
    running := self.running.map fun running =>
      if running.stage = .waiting ∧ running.call.number ∈ self.readyWaiters then
        { running with stage := .ready }
      else running }

/-- `onmessage` for an answer. One that nobody waits for any more is dropped. -/
def onAnswer (self : CryptoClient) (id : Nat) (result : Except String Reply) :
    CryptoClient × List Note :=
  match self.pending.get? id with
  | none => (self, [])
  | some call =>
      ({ self with
          timers := self.timers.delete id
          pending := self.pending.delete id }.settle call.number,
        [.settled call.number (delivered result)])

def onReadyTimer (self : CryptoClient) (number : Nat) : CryptoClient × List Note :=
  ({ self with readyTimers := self.readyTimers.erase number }.settle number,
    [.settled number readyTimeout])

def onRequestTimer (self : CryptoClient) (id : Nat) (call : Call) : CryptoClient × List Note :=
  ({ self with
      timers := self.timers.delete id
      pending := self.pending.delete id }.settle call.number,
    [.settled call.number (timedOut call.request)])

/-- The loop of `onerror` over the pending requests. -/
def rejectAll (message : String) : List (Nat × Call) → CryptoClient → CryptoClient × List Note
  | [], self => (self, [])
  | (id, call) :: rest, self =>
      let rejected := rejectAll message rest
        ({ self with timers := self.timers.delete id }.settle call.number)
      (rejected.1, .settled call.number (crashed message) :: rejected.2)

def onerror (self : CryptoClient) (message : String) : CryptoClient × List Note :=
  let rejected := rejectAll message self.pending.entries self
  ({ rejected.1 with pending := .empty }, rejected.2)

def step (web : WebCrypto) (self : CryptoClient) : Event → Option (CryptoClient × List Note)
  | .call request => some (self.serialRequest request)
  | .begin =>
      match self.running, self.chain with
      | none, call :: rest => some (self.begin call rest, [])
      | _, _ => none
  | .post =>
      match self.running with
      | some ⟨call, .ready⟩ => some (self.rawRequest call)
      | _ => none
  | .start =>
      if self.started then none
      else some ({ self with started := true, outbox := self.outbox ++ [.ready] }, [])
  | .work entropy failure =>
      match self.started, self.mailbox with
      | true, (id, request) :: rest =>
          let answered := Client.answerRequest web entropy failure self.worker request
          some ({ self with
              worker := answered.1
              mailbox := rest
              outbox := self.outbox ++ [.answer id answered.2] },
            [.handled id request answered.2])
      | _, _ => none
  | .receive =>
      match self.outbox with
      | [] => none
      | .ready :: rest => some ({ self with outbox := rest }.onReady, [])
      | .answer id result :: rest => some ({ self with outbox := rest }.onAnswer id result)
  | .readyTimer number =>
      if number ∈ self.readyTimers then some (self.onReadyTimer number) else none
  | .requestTimer id => (self.timers.get? id).map (self.onRequestTimer id)
  | .crash message => some (self.onerror message)

end CryptoClient

def machine (web : WebCrypto) : Machine CryptoClient Event Note where
  step := CryptoClient.step web

/-- The worker alone, serving one request after another. -/
def workerMachine (web : WebCrypto) :
    Machine Worker (Request × Entropy × Option String) Answered where
  step worker event :=
    let answered := Client.answerRequest web event.2.1 event.2.2 worker event.1
    some (answered.1, [⟨event.1, answered.2⟩])

section Histories

/-- The requests of the calls made, by the number of the call. -/
def calledRequests (history : List Note) : List Request :=
  history.filterMap fun
    | .called call => some call.request
    | _ => none

def posts (history : List Note) : List (Nat × Call) :=
  history.filterMap fun
    | .posted id call => some (id, call)
    | _ => none

/-- What the worker was asked, in the order in which it answered. -/
def answers (history : List Note) : List (Nat × Answered) :=
  history.filterMap fun
    | .handled id request result => some (id, ⟨request, result⟩)
    | _ => none

def settlements (history : List Note) : List (Nat × Outcome) :=
  history.filterMap fun
    | .settled number outcome => some (number, outcome)
    | _ => none

end Histories

end OnlyTwo.Requests
