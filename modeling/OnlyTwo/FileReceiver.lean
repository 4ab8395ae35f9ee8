import OnlyTwo.Callbacks
import OnlyTwo.FileProtocol
import OnlyTwo.Machine

/-!
`FileReceiver` of client/src/features/file/FileReceiver.ts. A later offer may
reuse a file id while calls for the earlier transfer are suspended, so objects
are told apart by their place in `objects`, and `transfers` maps a file id to
the place of its current object. Object URLs are tickets in `urls` as long as
they are not revoked. Calls whose rest is empty are listed only if the inbound
queue of the session waits for them (`replying`). The ghost note `stored`
records what `chunk` writes and the status it finds.
-/

namespace OnlyTwo.FileReceiver

open Bytes FileProtocol

inductive ReceiverStatus where
  | offered
  | receiving
  | completed
  | cancelled
  | failed
  deriving DecidableEq, Repr

def ReceiverStatus.terminal (status : ReceiverStatus) : Bool :=
  status ∈ [ReceiverStatus.completed, .cancelled, .failed]

structure ReceiveTransfer where
  fileId : String
  name : Utf16
  mime : Utf16
  size : Nat
  chunkSize : Nat
  totalChunks : Nat
  sha256 : Option String
  status : ReceiverStatus
  chunks : List (Option Bytes)
  received : InsertionMap Nat Unit
  blobUrl : Option Nat
  reason : Option String
  deriving DecidableEq

structure ReceiverSnapshot where
  fileId : String
  name : Utf16
  size : Nat
  receivedBytes : Nat
  status : ReceiverStatus
  reason : Option String
  blobUrl : Option Nat
  deriving DecidableEq, Repr

def ReceiveTransfer.snapshot (transfer : ReceiveTransfer) : ReceiverSnapshot :=
  ⟨transfer.fileId, transfer.name, transfer.size,
    min transfer.size (transfer.received.size * transfer.chunkSize), transfer.status,
    transfer.reason, transfer.blobUrl⟩

structure CompletedFile where
  fileId : String
  name : Utf16
  mime : Utf16
  size : Nat
  blob : Bytes
  deriving DecidableEq, Repr

/-- What is left of an async function at one of its awaits. -/
inductive ReceiverCall where
  | accepting (ref : Nat)
  | acking (ref : Nat)
  | hashing (ref : Nat) (blob : Bytes)
  | replying
  deriving DecidableEq, Repr

/-- Inbound handlers run one after another; a call of one of them holds up the
next message. `accept` is a local call. -/
def ReceiverCall.inbound : ReceiverCall → Bool
  | .accepting _ => false
  | _ => true

inductive ReceiverNote where
  | sendApp (message : FileMessage)
  | onUpdate (snapshot : ReceiverSnapshot)
  | onComplete (file : CompletedFile)
  | stored (ref : Nat) (fileId : String) (index : Nat) (bytes : Bytes) (status : ReceiverStatus)
  deriving DecidableEq, Repr

structure Receiver where
  files : FileLimits
  objects : List ReceiveTransfer
  transfers : InsertionMap String Nat
  urls : Callbacks Bytes
  calls : Callbacks ReceiverCall
  notes : List ReceiverNote
  deriving DecidableEq

namespace Receiver

def create (files : FileLimits) : Receiver := ⟨files, [], .empty, .empty, .empty, []⟩

section Effects

def put (self : Receiver) (ref : Nat) (transfer : ReceiveTransfer) : Receiver :=
  { self with objects := self.objects.set ref transfer }

def note (self : Receiver) (entry : ReceiverNote) : Receiver :=
  { self with notes := self.notes ++ [entry] }

def suspend (self : Receiver) (call : ReceiverCall) : Receiver :=
  { self with calls := (self.calls.add call).1 }

def withObject (self : Receiver) (ref : Nat) (action : ReceiveTransfer → Receiver) : Receiver :=
  match self.objects[ref]? with
  | none => self
  | some transfer => action transfer

/-- `this.transfers.get(fileId)`. -/
def lookup (self : Receiver) (fileId : String) : Option (Nat × ReceiveTransfer) :=
  (self.transfers.get? fileId).bind fun ref =>
    (self.objects[ref]?).map fun transfer => (ref, transfer)

def withRegistered (self : Receiver) (fileId : String)
    (action : Nat → ReceiveTransfer → Receiver) : Receiver :=
  match self.lookup fileId with
  | none => self
  | some (ref, transfer) => action ref transfer

def emit (self : Receiver) (ref : Nat) : Receiver :=
  self.withObject ref fun transfer => self.note (.onUpdate transfer.snapshot)

def release (self : Receiver) (ref : Nat) : Receiver :=
  self.withObject ref fun transfer =>
    ({ self with urls := self.urls.cancel transfer.blobUrl }).put ref { transfer with
      chunks := []
      received := .empty
      blobUrl := none }

end Effects

section Completion

/-- A hole of the array reaches `Blob` as `undefined`. -/
def blobOf (chunks : List (Option Bytes)) : Bytes :=
  chunks.flatMap fun chunk => chunk.getD (utf8Encode "undefined")

def completed (self : Receiver) (ref : Nat) (blob : Bytes) : Receiver :=
  self.withObject ref fun transfer =>
    let url := self.urls.add blob
    (((({ self with urls := url.1 }).put ref { transfer with
      status := .completed
      reason := none
      chunks := []
      blobUrl := some url.2 }).emit ref)).note
      (.onComplete ⟨transfer.fileId, transfer.name, transfer.mime, transfer.size, blob⟩)

def completionFailed (self : Receiver) (ref : Nat) (reason : String) : Receiver :=
  self.withObject ref fun transfer =>
    (((self.put ref { transfer with
      status := .failed
      reason := some reason
      chunks := []
      received := .empty }).emit ref).note
      (.sendApp (.cancel transfer.fileId "receiver validation failed"))).suspend .replying

/-- `complete`, up to the await of the digest. -/
def complete (self : Receiver) (ref : Nat) : Receiver :=
  self.withObject ref fun transfer =>
    let blob := blobOf transfer.chunks
    if blob.length ≠ transfer.size then self.completionFailed ref "File size mismatch"
    else if transfer.sha256.getD "" = "" then self.completed ref blob
    else self.suspend (.hashing ref blob)

/-- `complete` from the digest on. -/
def hashed (digest : Bytes → String) (self : Receiver) (ref : Nat) (blob : Bytes)
    (outcome : Outcome) : Receiver :=
  match outcome with
  | .error message => self.completionFailed ref message
  | .ok _ =>
      self.withObject ref fun transfer =>
        if some (digest blob) ≠ transfer.sha256 then
          self.completionFailed ref "Integrity check failed"
        else self.completed ref blob

end Completion

section Calls

def reset (self : Receiver) : Receiver :=
  { self.transfers.values.foldl release self with transfers := .empty }

def remove (self : Receiver) (fileId : String) : Receiver :=
  self.withRegistered fileId fun ref transfer =>
    if transfer.status.terminal then
      { self.release ref with transfers := self.transfers.delete fileId }
    else self

def rejectOffer (self : Receiver) (fileId reason : String) : Receiver :=
  self.note (.sendApp (.reject fileId reason))

def newTransfer (offer : FileOffer) : ReceiveTransfer where
  fileId := offer.fileId
  name := validateFilename offer.name
  mime := if offer.mime = [] then defaultMime else offer.mime
  size := offer.size
  chunkSize := offer.chunkSize
  totalChunks := offer.totalChunks
  sha256 := offer.sha256
  status := .offered
  chunks := List.replicate offer.totalChunks none
  received := .empty
  blobUrl := none
  reason := none

def register (self : Receiver) (offer : FileOffer) : Receiver :=
  let ref := self.objects.length
  { self with
    objects := self.objects ++ [newTransfer offer]
    transfers := self.transfers.set offer.fileId ref }.emit ref

/-- The test of `offer` on the other registered transfers. -/
def isActive (self : Receiver) (fileId : String) (ref : Nat) : Bool :=
  match self.objects[ref]? with
  | none => false
  | some transfer =>
      transfer.fileId ≠ fileId ∧ transfer.status ∈ [ReceiverStatus.offered, .receiving]

def enter (self : Receiver) (offer : FileOffer) : Receiver :=
  if self.transfers.values.any (self.isActive offer.fileId) then
    self.rejectOffer offer.fileId "Another incoming file transfer is already active"
  else self.register offer

def offer (self : Receiver) (offer : FileOffer) : Receiver :=
  if offer.size = 0 ∨ self.files.maxFileBytes < offer.size ∨
      self.files.maxMemoryReceiveBytes < offer.size then
    self.rejectOffer offer.fileId
      ("File is too large for this browser (" ++ formatBytes offer.size ++ ")")
  else if offer.chunkSize = 0 ∨ self.files.chunkBytes < offer.chunkSize ∨ offer.totalChunks = 0 ∨
      offer.totalChunks ≠ chunkCount offer.size offer.chunkSize ∨
      chunkCount self.files.maxFileBytes (max 1 offer.chunkSize) < offer.totalChunks then
    self.rejectOffer offer.fileId "Invalid file metadata"
  else
    match self.lookup offer.fileId with
    | none => self.enter offer
    | some (ref, previous) =>
        -- A transfer that has ended gives its id back.
        if previous.status.terminal then
          let released := self.release ref
          { released with transfers := released.transfers.delete offer.fileId }.enter offer
        else self.rejectOffer offer.fileId "Duplicate active file transfer"

/-- `accept`, up to the await of `sendApp`. -/
def accept (self : Receiver) (fileId : String) : Receiver :=
  self.withRegistered fileId fun ref transfer =>
    if transfer.status ≠ .offered then self
    else
      (((self.put ref { transfer with status := .receiving, reason := none }).emit ref).note
        (.sendApp (.accept fileId))).suspend (.accepting ref)

def accepted (self : Receiver) (ref : Nat) (outcome : Outcome) : Receiver :=
  match outcome with
  | .ok true => self
  | _ =>
      self.withObject ref fun transfer =>
        ((self.put ref { transfer with
          status := .failed
          reason := some "Could not accept file transfer" }).release ref).emit ref

def reject (self : Receiver) (fileId reason : String) : Receiver :=
  self.withRegistered fileId fun ref transfer =>
    (((self.put ref { transfer with
      status := .cancelled
      reason := some reason }).release ref).emit ref).note (.sendApp (.reject fileId reason))

def cancel (self : Receiver) (fileId reason : String) (notify : Bool) : Receiver :=
  self.withRegistered fileId fun ref transfer =>
    let cancelled := ((self.put ref { transfer with
      status := .cancelled
      reason := some reason }).release ref).emit ref
    if notify then cancelled.note (.sendApp (.cancel fileId reason)) else cancelled

def peerCancel (self : Receiver) (fileId reason : String) : Receiver :=
  self.cancel fileId reason false

def sendAck (self : Receiver) (fileId : String) (index : Nat) : Receiver :=
  self.note (.sendApp (.ack fileId index))

def sendNack (self : Receiver) (fileId : String) (index : Nat) (reason : String) : Receiver :=
  self.note (.sendApp (.nack fileId index reason))

def expectedBytes (transfer : ReceiveTransfer) (index : Nat) : Nat :=
  if index = transfer.totalChunks - 1 then transfer.size - index * transfer.chunkSize
  else transfer.chunkSize

/-- `chunks[index] = bytes`; an array grows with holes. -/
def storeChunk (chunks : List (Option Bytes)) (index : Nat) (bytes : Bytes) : List (Option Bytes) :=
  (chunks ++ List.replicate (index + 1 - chunks.length) none).set index (some bytes)

def storeIn (transfer : ReceiveTransfer) (index : Nat) (bytes : Bytes) : ReceiveTransfer :=
  { transfer with
    chunks := storeChunk transfer.chunks index bytes
    received := transfer.received.set index () }

/-- `chunk`, up to the await of its ACK or NACK. -/
def chunk (self : Receiver) (fileId : String) (index totalChunks : Nat) (data : String) : Receiver :=
  self.withRegistered fileId fun ref transfer =>
    if transfer.status ≠ .receiving then self
    else if totalChunks ≠ transfer.totalChunks ∨ transfer.totalChunks ≤ index then
      (self.sendNack fileId index "invalid chunk").suspend .replying
    -- A repeated chunk is acknowledged once more; its data is not looked at.
    else if transfer.received.has index then (self.sendAck fileId index).suspend .replying
    else
      match decodeChunk data with
      | none => (self.sendNack fileId index "invalid chunk data").suspend .replying
      | some bytes =>
          if bytes.length ≠ expectedBytes transfer index then
            (self.sendNack fileId index "wrong chunk size").suspend .replying
          else
            (((self.put ref (storeIn transfer index bytes)).note
              (.stored ref fileId index bytes transfer.status)).sendAck fileId index).suspend
              (.acking ref)

/-- `chunk` once its ACK has been handed over. -/
def acked (self : Receiver) (ref : Nat) : Receiver :=
  let shown := self.emit ref
  shown.withObject ref fun transfer =>
    if transfer.received.size = transfer.totalChunks then shown.complete ref else shown

def completeNotice (self : Receiver) (fileId : String) : Receiver :=
  self.withRegistered fileId fun ref transfer =>
    if transfer.status = .completed then self
    else if transfer.received.size ≠ transfer.totalChunks then
      (self.put ref { transfer with reason := some "Waiting for missing chunks" }).emit ref
    else self

end Calls

def settle (digest : Bytes → String) (self : Receiver) (outcome : Outcome) : ReceiverCall → Receiver
  | .accepting ref => self.accepted ref outcome
  | .acking ref => self.acked ref
  | .hashing ref blob => self.hashed digest ref blob outcome
  | .replying => self

end Receiver

inductive Event where
  | setProfile (files : FileLimits)
  | offer (fields : FileOffer)
  | accept (fileId : String)
  | reject (fileId reason : String)
  | cancel (fileId reason : String) (notify : Bool)
  | peerCancel (fileId reason : String)
  | chunk (fileId : String) (index totalChunks : Nat) (data : String)
  | completeNotice (fileId : String)
  | remove (fileId : String)
  | reset
  | settle (ticket : Nat) (outcome : Outcome)

/-- Handlers of messages run one after another, and so do their calls. -/
def Event.inbound : Event → Bool
  | .offer _ => true
  | .peerCancel _ _ => true
  | .chunk _ _ _ _ => true
  | .completeNotice _ => true
  | _ => false

namespace Receiver

def turn (digest : Bytes → String) (self : Receiver) : Event → Option Receiver
  | .setProfile files => some { self with files }
  | .offer fields => some (self.offer fields)
  | .accept fileId => some (self.accept fileId)
  | .reject fileId reason => some (self.reject fileId reason)
  | .cancel fileId reason notify => some (self.cancel fileId reason notify)
  | .peerCancel fileId reason => some (self.peerCancel fileId reason)
  | .chunk fileId index totalChunks data => some (self.chunk fileId index totalChunks data)
  | .completeNotice fileId => some (self.completeNotice fileId)
  | .remove fileId => some (self.remove fileId)
  | .reset => some self.reset
  | .settle ticket outcome =>
      (self.calls.take ticket).map fun taken =>
        { self with calls := taken.2 }.settle digest outcome taken.1

end Receiver

def machine (digest : Bytes → String) : Machine Receiver Event ReceiverNote where
  step self event :=
    ({ self with notes := [] }.turn digest event).map fun after => (after, after.notes)

end OnlyTwo.FileReceiver
