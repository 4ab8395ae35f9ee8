import OnlyTwo.Callbacks
import OnlyTwo.FileProtocol
import OnlyTwo.Machine

/-!
`FileSender` of client/src/features/file/FileSender.ts. A `Transfer` object
outlives its entry in the `transfers` map, since suspended calls and timers
keep a reference to it: `objects` holds every object ever made under its file
id (`makeId` draws new ids), `transfers` the keys of the map. An async function
is split at its awaits; what is left of it is a call held until the loop
settles it. `notes` is the trace of the current turn: messages handed to
`sendApp`, snapshots handed to `onUpdate`, timers armed. The `progress` of a
snapshot is a quotient of two of its other numbers and is left out.
-/

namespace OnlyTwo.FileSender

open Bytes FileProtocol

inductive SenderStatus where
  | queued
  | offered
  | sending
  | paused
  | completed
  | cancelled
  | failed
  deriving DecidableEq, Repr

def SenderStatus.terminal (status : SenderStatus) : Bool :=
  status ∈ [SenderStatus.completed, .cancelled, .failed]

inductive ChunkState where
  | sending
  | waitingAck
  | retryWait
  deriving DecidableEq, Repr

structure InflightChunk where
  attempts : Nat
  state : ChunkState
  timer : Option Nat
  deriving DecidableEq, Repr

structure Transfer where
  file : File
  fileId : String
  name : Utf16
  mime : Utf16
  size : Nat
  chunkSize : Nat
  totalChunks : Nat
  sha256 : Option String
  status : SenderStatus
  accepted : Bool
  paused : Bool
  cancelled : Bool
  pumping : Bool
  nextIndex : Nat
  acked : InsertionMap Nat Unit
  inflight : InsertionMap Nat InflightChunk
  reason : Option String
  deriving DecidableEq

structure SenderSnapshot where
  fileId : String
  name : Utf16
  size : Nat
  sentBytes : Nat
  status : SenderStatus
  reason : Option String
  deriving DecidableEq, Repr

def Transfer.snapshot (transfer : Transfer) : SenderSnapshot :=
  ⟨transfer.fileId, transfer.name, transfer.size,
    min transfer.size (transfer.acked.size * transfer.chunkSize), transfer.status, transfer.reason⟩

def Transfer.offer (transfer : Transfer) : FileOffer :=
  ⟨transfer.fileId, transfer.name, transfer.mime, transfer.size, transfer.chunkSize,
    transfer.totalChunks, transfer.sha256⟩

inductive SenderTimer where
  | ackTimeout (fileId : String) (index attempts : Nat)
  | retry (fileId : String) (index nextAttempts : Nat)
  deriving DecidableEq, Repr

def SenderTimer.fileId : SenderTimer → String
  | .ackTimeout fileId _ _ => fileId
  | .retry fileId _ _ => fileId

/-- What is left of an async function at one of its awaits. -/
inductive SenderCall where
  | hashing (fileId : String) (queued : Bool)
  | offering (fileId : String)
  | slicing (fileId : String) (index attempts : Nat)
  | sending (fileId : String) (index attempts : Nat)
  | pumping (fileId : String)
  | notifying (fileId : String)
  deriving DecidableEq, Repr

def SenderCall.fileId : SenderCall → String
  | .hashing fileId _ => fileId
  | .offering fileId => fileId
  | .slicing fileId _ _ => fileId
  | .sending fileId _ _ => fileId
  | .pumping fileId => fileId
  | .notifying fileId => fileId

inductive SenderNote where
  | sendApp (message : FileMessage) (lane : FileLane)
  | onUpdate (snapshot : SenderSnapshot)
  | setTimeout (timer : SenderTimer)
  deriving DecidableEq, Repr

def SenderNote.fileId : SenderNote → String
  | .sendApp message _ => message.fileId
  | .onUpdate snapshot => snapshot.fileId
  | .setTimeout timer => timer.fileId

structure Sender where
  files : FileLimits
  objects : InsertionMap String Transfer
  transfers : InsertionMap String Unit
  globalPaused : Bool
  timers : Callbacks SenderTimer
  calls : Callbacks SenderCall
  notes : List SenderNote
  deriving DecidableEq

namespace Sender

def create (files : FileLimits) : Sender := ⟨files, .empty, .empty, false, .empty, .empty, []⟩

section Effects

def put (self : Sender) (transfer : Transfer) : Sender :=
  { self with objects := self.objects.set transfer.fileId transfer }

def note (self : Sender) (entry : SenderNote) : Sender :=
  { self with notes := self.notes ++ [entry] }

def suspend (self : Sender) (call : SenderCall) : Sender :=
  { self with calls := (self.calls.add call).1 }

/-- Run on the current value of an object; a reference never dangles. -/
def withTransfer (self : Sender) (fileId : String) (action : Transfer → Sender) : Sender :=
  match self.objects.get? fileId with
  | none => self
  | some transfer => action transfer

/-- `this.transfers.get(fileId)`. -/
def withRegistered (self : Sender) (fileId : String) (action : Transfer → Sender) : Sender :=
  if self.transfers.has fileId then self.withTransfer fileId action else self

def clearInflightTimer (self : Sender) (item : Option InflightChunk) : Sender :=
  { self with timers := self.timers.cancel (item.bind InflightChunk.timer) }

def cancelAll (timers : Callbacks SenderTimer) : List InflightChunk → Callbacks SenderTimer
  | [] => timers
  | item :: rest => cancelAll (timers.cancel item.timer) rest

def emit (self : Sender) (fileId : String) : Sender :=
  self.withTransfer fileId fun transfer => self.note (.onUpdate transfer.snapshot)

def clearTimers (self : Sender) (fileId : String) : Sender :=
  self.withTransfer fileId fun transfer =>
    ({ self with timers := cancelAll self.timers transfer.inflight.values }).put
      { transfer with inflight := .empty }

end Effects

section Chunks

def fail (self : Sender) (fileId reason : String) : Sender :=
  self.withTransfer fileId fun transfer =>
    ((self.put { transfer with
        status := .failed
        reason := some reason
        cancelled := true }).clearTimers fileId).emit fileId

def failAndNotify (self : Sender) (fileId reason : String) : Sender :=
  ((self.fail fileId reason).note (.sendApp (.cancel fileId "transfer failed") .control)).suspend
    (.notifying fileId)

def retryLimitReason (index : Nat) : String :=
  "Chunk " ++ toString (index + 1) ++ " failed after retry limit"

def scheduleRetry (self : Sender) (fileId : String) (index nextAttempts : Nat) (reason : String) :
    Sender :=
  self.withTransfer fileId fun transfer =>
    if transfer.cancelled || transfer.acked.has index then self
    else
      let cleared := self.clearInflightTimer (transfer.inflight.get? index)
      if self.files.maxRetries + 1 < nextAttempts then
        cleared.failAndNotify fileId (retryLimitReason index)
      else if transfer.paused || self.globalPaused then
        -- No timer while paused: `resumeOutstanding` sends the chunk again.
        (cleared.put { transfer with
          reason := some reason
          inflight := transfer.inflight.set index ⟨nextAttempts - 1, .retryWait, none⟩ }).emit fileId
      else
        let timer := SenderTimer.retry fileId index nextAttempts
        let armed := cleared.timers.add timer
        ((({ cleared with timers := armed.1 }).note (.setTimeout timer)).put { transfer with
          reason := some reason
          inflight := transfer.inflight.set index
            ⟨nextAttempts - 1, .retryWait, some armed.2⟩ }).emit fileId

/-- `sendChunk` up to the read of the slice. -/
def sendChunk (self : Sender) (fileId : String) (index attempts : Nat) : Sender :=
  self.withTransfer fileId fun transfer =>
    if transfer.cancelled || transfer.acked.has index then self
    else if transfer.paused || self.globalPaused then
      -- This attempt is counted although nothing is sent.
      self.put { transfer with
        inflight := transfer.inflight.set index ⟨attempts, .retryWait, none⟩ }
    else if self.files.maxRetries + 1 < attempts then
      self.failAndNotify fileId (retryLimitReason index)
    else
      let cleared := self.clearInflightTimer (transfer.inflight.get? index)
      ((cleared.put { transfer with
        inflight := transfer.inflight.set index ⟨attempts, .sending, none⟩
        reason := if 1 < attempts then some ("Retrying chunk " ++ toString (index + 1))
          else none }).emit fileId).suspend (.slicing fileId index attempts)

/-- `sendChunk` from the slice to `sendApp`. -/
def sliced (self : Sender) (fileId : String) (index attempts : Nat) (outcome : Outcome) : Sender :=
  match outcome with
  | .error message => self.scheduleRetry fileId index (attempts + 1) message
  | .ok _ =>
      self.withTransfer fileId fun transfer =>
        let start := index * transfer.chunkSize
        let bytes := transfer.file.slice start (min (start + transfer.chunkSize) transfer.size)
        (self.note (.sendApp
          (.chunk transfer.fileId index transfer.totalChunks (encodeChunk bytes)) .file)).suspend
          (.sending fileId index attempts)

/-- `sendChunk` from the result of `sendApp` on. -/
def chunkSent (self : Sender) (fileId : String) (index attempts : Nat) (outcome : Outcome) :
    Sender :=
  match outcome with
  | .error message => self.scheduleRetry fileId index (attempts + 1) message
  | .ok false =>
      self.scheduleRetry fileId index (attempts + 1) "Retrying after browser backpressure"
  | .ok true =>
      self.withTransfer fileId fun transfer =>
        if transfer.cancelled || transfer.acked.has index then self
        else
          let timer := SenderTimer.ackTimeout fileId index attempts
          let armed := self.timers.add timer
          -- The entry may hold a retry timer by now; it is overwritten, not cleared.
          ((({ self with timers := armed.1 }).note (.setTimeout timer)).put { transfer with
            inflight := transfer.inflight.set index ⟨attempts, .waitingAck, some armed.2⟩
            reason := none }).emit fileId

end Chunks

section Pumping

def completeIfDone (self : Sender) (fileId : String) : Sender :=
  self.withTransfer fileId fun transfer =>
    if transfer.cancelled then self
    else if transfer.nextIndex < transfer.totalChunks || 0 < transfer.inflight.size ||
        transfer.acked.size < transfer.totalChunks then self
    else
      ((self.put { transfer with status := .completed, reason := none }).emit fileId).note
        (.sendApp (.complete transfer.fileId transfer.sha256) .control)

/-- The window loop of `pump`. Each round takes one index, so the indices that
are left bound it. -/
def pumpLoop : Nat → Sender → String → Sender
  | 0, self, _ => self
  | rounds + 1, self, fileId =>
      self.withTransfer fileId fun transfer =>
        if !transfer.cancelled && !transfer.paused && !self.globalPaused &&
            transfer.inflight.size < self.files.windowChunks &&
            transfer.nextIndex < transfer.totalChunks then
          pumpLoop rounds ((self.put { transfer with
            nextIndex := transfer.nextIndex + 1 }).sendChunk fileId transfer.nextIndex 1) fileId
        else self

/-- `pump` up to the await of `completeIfDone`, which ends a turn at least. -/
def pump (self : Sender) (fileId : String) : Sender :=
  self.withTransfer fileId fun transfer =>
    if transfer.pumping then self
    else if transfer.cancelled || !transfer.accepted || transfer.paused || self.globalPaused ||
        transfer.status ≠ .sending then self
    else
      ((pumpLoop (transfer.totalChunks - transfer.nextIndex)
        (self.put { transfer with pumping := true }) fileId).completeIfDone fileId).suspend
        (.pumping fileId)

def holdOutstanding (self : Sender) (fileId : String) : Sender :=
  self.withTransfer fileId fun transfer =>
    ({ self with timers := cancelAll self.timers transfer.inflight.values }).put
      { transfer with
        inflight := transfer.inflight.mapValues fun item => ⟨item.attempts, .retryWait, none⟩ }

def resumeEach (fileId : String) : List (Nat × InflightChunk) → Sender → Sender
  | [], self => self
  | (index, item) :: rest, self =>
      if item.state = .retryWait ∧ item.timer = none then
        resumeEach fileId rest (self.sendChunk fileId index (item.attempts + 1))
      else resumeEach fileId rest self

def resumeOutstanding (self : Sender) (fileId : String) : Sender :=
  self.withTransfer fileId fun transfer =>
    if transfer.cancelled || transfer.paused || self.globalPaused then self
    else (resumeEach fileId transfer.inflight.entries self).pump fileId

end Pumping

section Calls

def reset (self : Sender) : Sender :=
  { self.transfers.keys.foldl clearTimers self with
    transfers := .empty
    globalPaused := false }

def remove (self : Sender) (fileId : String) : Sender :=
  self.withRegistered fileId fun transfer =>
    if transfer.status.terminal then
      let cleared := self.clearTimers fileId
      { cleared with transfers := cleared.transfers.delete fileId }
    else self

def pauseOne (paused : Bool) (reason : String) (self : Sender) (fileId : String) : Sender :=
  self.withTransfer fileId fun transfer =>
    if transfer.status ≠ .sending ∧ transfer.status ≠ .paused then self
    else
      let changed := self.put { transfer with
        paused := paused
        status := if paused then .paused else .sending
        reason := if paused then some reason else none }
      if paused then (changed.holdOutstanding fileId).emit fileId
      else (changed.emit fileId).resumeOutstanding fileId

def setGlobalPaused (self : Sender) (paused : Bool) (reason : String) : Sender :=
  self.transfers.keys.foldl (pauseOne paused reason) { self with globalPaused := paused }

def sendOffer (self : Sender) (fileId : String) : Sender :=
  self.withTransfer fileId fun transfer =>
    (self.note (.sendApp (.offer transfer.offer) .control)).suspend (.offering fileId)

/-- The rest of `offer` once the digest is known or was not wanted. -/
def register (self : Sender) (fileId : String) (queued : Bool) : Sender :=
  let listed := { self with transfers := self.transfers.set fileId () }.emit fileId
  if queued then listed else listed.sendOffer fileId

def newTransfer (files : FileLimits) (fileId : String) (file : File) (queued : Bool) : Transfer where
  file := file
  fileId := fileId
  name := validateFilename file.name
  mime := if file.type = [] then defaultMime else file.type
  size := file.size
  chunkSize := files.chunkBytes
  totalChunks := chunkCount file.size files.chunkBytes
  sha256 := none
  status := if queued then .queued else .offered
  accepted := false
  paused := queued
  cancelled := false
  pumping := false
  nextIndex := 0
  acked := .empty
  inflight := .empty
  reason := some (if queued then "Waiting for earlier work" else "Waiting for peer acceptance")

def offer (self : Sender) (fileId : String) (file : File) (queued : Bool) : Sender :=
  match validateOutboundFile file self.files with
  | .error _ => self
  | .ok () =>
      let made := self.put (newTransfer self.files fileId file queued)
      if file.size ≤ self.files.smallBytes then made.suspend (.hashing fileId queued)
      else made.register fileId queued

def startQueued (self : Sender) (fileId : String) : Sender :=
  self.withRegistered fileId fun transfer =>
    if transfer.cancelled ∨ transfer.status ≠ .queued then self
    else
      ((self.put { transfer with
        status := .offered
        paused := false
        reason := some "Waiting for peer acceptance" }).emit fileId).sendOffer fileId

def accept (self : Sender) (fileId : String) : Sender :=
  self.withRegistered fileId fun transfer =>
    if transfer.cancelled then self
    else
      ((self.put { transfer with
        accepted := true
        status := if self.globalPaused then .paused else .sending
        paused := self.globalPaused
        reason := if self.globalPaused then some "Paused during voice" else none }).emit
        fileId).pump fileId

def acknowledge (transfer : Transfer) (index : Nat) : Transfer :=
  { transfer with
    inflight := transfer.inflight.delete index
    acked := transfer.acked.set index ()
    reason := none }

def ack (self : Sender) (fileId : String) (index : Nat) : Sender :=
  self.withRegistered fileId fun transfer =>
    if transfer.cancelled ∨ transfer.totalChunks ≤ index then self
    else
      match transfer.inflight.get? index with
      | none => self
      | some item =>
          (((self.clearInflightTimer (some item)).put (acknowledge transfer index)).emit
            fileId).pump fileId

def nack (self : Sender) (fileId : String) (index : Nat) (reason : String) : Sender :=
  self.withRegistered fileId fun transfer =>
    if transfer.cancelled ∨ transfer.totalChunks ≤ index then self
    else
      match transfer.inflight.get? index with
      | none => self
      | some item => self.scheduleRetry fileId index (item.attempts + 1) reason

def pause (self : Sender) (fileId reason : String) : Sender :=
  self.withRegistered fileId fun transfer =>
    if transfer.status.terminal then self
    else
      ((self.put { transfer with
        paused := true
        status := .paused
        reason := some reason }).holdOutstanding fileId).emit fileId

def resume (self : Sender) (fileId : String) : Sender :=
  self.withRegistered fileId fun transfer =>
    if transfer.status ≠ .paused then self
    else
      ((self.put { transfer with
        paused := false
        status := if transfer.accepted then .sending else .offered
        reason := if transfer.accepted then none else some "Waiting for peer acceptance" }).emit
        fileId).resumeOutstanding fileId

def cancel (self : Sender) (fileId reason : String) (notify : Bool) : Sender :=
  self.withRegistered fileId fun transfer =>
    let cancelled := ((self.put { transfer with
      cancelled := true
      status := .cancelled
      reason := some reason }).clearTimers fileId).emit fileId
    if notify then
      (cancelled.note (.sendApp (.cancel fileId reason) .control)).suspend (.notifying fileId)
    else cancelled

end Calls

/-- The rest of a suspended call. `digest` is the hexadecimal SHA-256. -/
def settle (digest : Bytes → String) (self : Sender) (outcome : Outcome) : SenderCall → Sender
  | .hashing fileId queued =>
      self.withTransfer fileId fun transfer =>
        (self.put { transfer with
          sha256 := outcome.toOption.map fun _ => digest transfer.file.bytes }).register fileId queued
  | .offering fileId =>
      match outcome with
      | .ok false => self.fail fileId "Could not send file offer"
      | _ => self
  | .slicing fileId index attempts => self.sliced fileId index attempts outcome
  | .sending fileId index attempts => self.chunkSent fileId index attempts outcome
  | .pumping fileId => self.withTransfer fileId fun transfer => self.put { transfer with pumping := false }
  | .notifying _ => self

def runTimer (self : Sender) : SenderTimer → Sender
  | .ackTimeout fileId index attempts =>
      self.scheduleRetry fileId index (attempts + 1) "Retrying after missing ACK"
  | .retry fileId index nextAttempts => self.sendChunk fileId index nextAttempts

end Sender

inductive Event where
  | setProfile (files : FileLimits)
  | offer (fileId : String) (file : File) (queued : Bool)
  | startQueued (fileId : String)
  | accept (fileId : String)
  | ack (fileId : String) (index : Nat)
  | nack (fileId : String) (index : Nat) (reason : String)
  | pause (fileId reason : String)
  | resume (fileId : String)
  | cancel (fileId reason : String) (notify : Bool)
  | setGlobalPaused (paused : Bool) (reason : String)
  | remove (fileId : String)
  | reset
  | settle (ticket : Nat) (outcome : Outcome)
  | fire (ticket : Nat)

namespace Sender

/-- One turn of the event loop, before its trace is cut off. -/
def turn (digest : Bytes → String) (self : Sender) : Event → Option Sender
  | .setProfile files => some { self with files }
  | .offer fileId file queued =>
      if self.objects.has fileId then none else some (self.offer fileId file queued)
  | .startQueued fileId => some (self.startQueued fileId)
  | .accept fileId => some (self.accept fileId)
  | .ack fileId index => some (self.ack fileId index)
  | .nack fileId index reason => some (self.nack fileId index reason)
  | .pause fileId reason => some (self.pause fileId reason)
  | .resume fileId => some (self.resume fileId)
  | .cancel fileId reason notify => some (self.cancel fileId reason notify)
  | .setGlobalPaused paused reason => some (self.setGlobalPaused paused reason)
  | .remove fileId => some (self.remove fileId)
  | .reset => some self.reset
  | .settle ticket outcome =>
      (self.calls.take ticket).map fun taken =>
        { self with calls := taken.2 }.settle digest outcome taken.1
  | .fire ticket =>
      (self.timers.take ticket).map fun taken => { self with timers := taken.2 }.runTimer taken.1

end Sender

def machine (digest : Bytes → String) : Machine Sender Event SenderNote where
  step self event :=
    ({ self with notes := [] }.turn digest event).map fun after => (after, after.notes)

end OnlyTwo.FileSender
