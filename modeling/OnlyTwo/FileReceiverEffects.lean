import OnlyTwo.FileReceiver

/-!
What a turn of a receiver can do, said once: it takes up a suspended call or
starts from an event, runs a chain of effects on the objects it touches, and
ends at an await, with a new transfer, or with nothing. Three effects of a
chain matter to the peer or to the user: a chunk is stored, a stored chunk is
acknowledged, a file is completed.
-/

namespace OnlyTwo.FileReceiver

open Bytes FileProtocol Receiver

section Objects
variable {objects : List ReceiveTransfer} {place ref : Nat} {old new transfer : ReceiveTransfer}

/-- What is behind a reference after one object is written. -/
theorem get_set (stored : (objects.set place new)[ref]? = some transfer) :
    (ref = place ∧ transfer = new) ∨ (ref ≠ place ∧ objects[ref]? = some transfer) := by
  rw [List.getElem?_set] at stored
  split at stored
  · rename_i same
    split at stored
    · cases stored
      exact Or.inl ⟨same.symm, rfl⟩
    · cases stored
  · rename_i different
    exact Or.inr ⟨Ne.symm different, stored⟩

/-- Where an object is once one of them is written. -/
theorem set_get (new : ReceiveTransfer) (found : objects[place]? = some old)
    (stored : objects[ref]? = some transfer) :
    (ref = place ∧ transfer = old ∧ (objects.set place new)[ref]? = some new) ∨
      (ref ≠ place ∧ (objects.set place new)[ref]? = some transfer) := by
  obtain ⟨inside, _⟩ := List.getElem?_eq_some_iff.mp found
  by_cases hit : ref = place
  · subst hit
    exact Or.inl ⟨rfl, Option.some.inj (stored.symm.trans found), List.getElem?_set_self inside⟩
  · rw [List.getElem?_set_ne (Ne.symm hit)]
    exact Or.inr ⟨hit, stored⟩

end Objects

/-- Chunks are still awaited. -/
def ReceiverStatus.opened (status : ReceiverStatus) : Bool :=
  status ∈ [ReceiverStatus.offered, .receiving]

/-- An update of an object that stores nothing. -/
structure Shrinks (old new : ReceiveTransfer) : Prop where
  fileId : new.fileId = old.fileId
  size : new.size = old.size
  totalChunks : new.totalChunks = old.totalChunks
  chunks : new.chunks = old.chunks ∨ new.chunks = []
  received : new.received = old.received ∨ new.received = .empty
  opened : new.status.opened = true → new.chunks = old.chunks ∧ old.status.opened = true

/-- One that does not complete or release it either. -/
structure Keeps (old new : ReceiveTransfer) : Prop extends Shrinks old new where
  blobUrl : new.blobUrl = old.blobUrl
  completed : new.status ≠ .completed ∨ new.status = old.status

def ReceiverNote.plain : ReceiverNote → Bool
  | .sendApp (.ack _ _) => false
  | .sendApp _ => true
  | .onUpdate _ => true
  | .onComplete _ => false
  | .stored _ _ _ _ _ => false

/-- All chunks are in and their concatenation has the announced size. -/
def Assembled (transfer : ReceiveTransfer) (blob : Bytes) : Prop :=
  transfer.received.size = transfer.totalChunks ∧ blob = blobOf transfer.chunks ∧
    blob.length = transfer.size

/-- The call that is taken up lets the object be completed with this blob. -/
def Ready (held : Option ReceiverCall) (ref : Nat) (transfer : ReceiveTransfer) (blob : Bytes) :
    Prop :=
  (held = some (.acking ref) ∧ Assembled transfer blob) ∨ held = some (.hashing ref blob)

/-- The checks of `offer` on its numbers. -/
def Measured (offer : FileOffer) : Prop :=
  0 < offer.size ∧ 0 < offer.chunkSize ∧ offer.totalChunks = chunkCount offer.size offer.chunkSize

/-- A chain of effects on the objects that `mine` selects. -/
inductive Acts (mine : Nat → Prop) (event : Event) (held : Option ReceiverCall)
    (start : Receiver) : Receiver → Prop where
  | refl : Acts mine event held start start
  | put {self : Receiver} {ref : Nat} {old new : ReceiveTransfer}
      (acts : Acts mine event held start self) (found : self.objects[ref]? = some old)
      (selected : mine ref) (keeps : Keeps old new) : Acts mine event held start (self.put ref new)
  | release {self : Receiver} {ref : Nat} {old : ReceiveTransfer}
      (acts : Acts mine event held start self)
      (found : self.objects[ref]? = some old) (selected : mine ref)
      (stopped : old.status = .cancelled ∨ old.status = .failed) :
      Acts mine event held start (self.release ref)
  | drop {self : Receiver} {fileId : String} {ref : Nat} {old : ReceiveTransfer}
      (acts : Acts mine event held start self) (listed : self.transfers.get? fileId = some ref)
      (found : self.objects[ref]? = some old) (selected : mine ref)
      (ended : old.status.terminal = true) :
      Acts mine event held start
        { self.release ref with transfers := (self.release ref).transfers.delete fileId }
  | note {self : Receiver} {entry : ReceiverNote} (acts : Acts mine event held start self)
      (plain : entry.plain = true) : Acts mine event held start (self.note entry)
  | store {self : Receiver} {fileId : String} {ref index : Nat} {transfer : ReceiveTransfer}
      {bytes : Bytes} (acts : Acts mine event held start self)
      (listed : self.transfers.get? fileId = some ref)
      (found : self.objects[ref]? = some transfer) (selected : mine ref)
      (receiving : transfer.status = .receiving) (inside : index < transfer.totalChunks)
      (brought : ∃ totalChunks data, event = .chunk fileId index totalChunks data ∧
        decodeChunk data = some bytes)
      (sized : bytes.length = expectedBytes transfer index) :
      Acts mine event held start ((self.put ref (storeIn transfer index bytes)).note
        (.stored ref fileId index bytes transfer.status))
  | ack {self : Receiver} {fileId : String} {ref index : Nat} {transfer : ReceiveTransfer}
      (acts : Acts mine event held start self) (listed : self.transfers.get? fileId = some ref)
      (found : self.objects[ref]? = some transfer)
      (stored : transfer.received.has index = true) :
      Acts mine event held start (self.sendAck fileId index)
  | complete {self : Receiver} {ref : Nat} {transfer : ReceiveTransfer} {blob : Bytes}
      (acts : Acts mine event held start self) (found : self.objects[ref]? = some transfer)
      (selected : mine ref) (ready : Ready held ref transfer blob) :
      Acts mine event held start (self.completed ref blob)

theorem lookup_eq_some {self : Receiver} {fileId : String} {ref : Nat} {transfer : ReceiveTransfer} :
    self.lookup fileId = some (ref, transfer) ↔
      self.transfers.get? fileId = some ref ∧ self.objects[ref]? = some transfer := by
  simp only [lookup, Option.bind_eq_some_iff, Option.map_eq_some_iff, Prod.mk.injEq]
  constructor
  · rintro ⟨_, listed, _, found, rfl, rfl⟩
    exact ⟨listed, found⟩
  · rintro ⟨listed, found⟩
    exact ⟨ref, listed, transfer, found, rfl, rfl⟩

theorem release_transfers (self : Receiver) (ref : Nat) :
    (self.release ref).transfers = self.transfers := by
  unfold release withObject
  split <;> rfl

section Functions

variable {mine : Nat → Prop} {event : Event} {held : Option ReceiverCall} {start self : Receiver}
  {ref : Nat}

theorem emit_acts (acts : Acts mine event held start self) : Acts mine event held start (self.emit ref) := by
  unfold emit withObject
  split
  · exact acts
  · exact .note acts rfl

theorem withRegistered_acts {fileId : String} {action : Nat → ReceiveTransfer → Receiver}
    (acts : Acts mine event held start self)
    (runs : ∀ ref transfer, self.transfers.get? fileId = some ref →
      self.objects[ref]? = some transfer → Acts mine event held start (action ref transfer)) :
    Acts mine event held start (self.withRegistered fileId action) := by
  unfold withRegistered
  split
  · exact acts
  · rename_i ref transfer found
    obtain ⟨listed, stored⟩ := lookup_eq_some.mp found
    exact runs ref transfer listed stored

/-- The common part of `reject`, `cancel` and a failed `accept`. -/
theorem stop_acts {transfer : ReceiveTransfer} {status : ReceiverStatus} (reason : Option String)
    (acts : Acts mine event held start self) (found : self.objects[ref]? = some transfer)
    (selected : mine ref) (stopped : status = .cancelled ∨ status = .failed) :
    Acts mine event held start (((self.put ref { transfer with status, reason }).release ref).emit ref) := by
  have kept : Keeps transfer { transfer with status, reason } := by
    refine ⟨⟨rfl, rfl, rfl, Or.inl rfl, Or.inl rfl, ?_⟩, rfl, Or.inl ?_⟩
    · rcases stopped with rfl | rfl <;> nofun
    · rcases stopped with rfl | rfl <;> nofun
  obtain ⟨inside, _⟩ := List.getElem?_eq_some_iff.mp found
  exact emit_acts (.release (.put acts found selected kept) (List.getElem?_set_self inside)
    selected stopped)

end Functions

section Turns

def ReceiverCall.ref? : ReceiverCall → Option Nat
  | .accepting ref => some ref
  | .acking ref => some ref
  | .hashing ref _ => some ref
  | .replying => none

/-- The await a turn may end at. -/
def Stops (event : Event) (held : Option ReceiverCall) (start last : Receiver) :
    Option ReceiverCall → Prop
  | none => True
  | some (.accepting _) => True
  | some .replying => event.inbound = true ∨ ∃ call, held = some call ∧ call.inbound = true
  | some (.acking ref) => event.inbound = true ∧
      ∃ transfer, last.objects[ref]? = some transfer ∧ transfer.status = .receiving
  | some (.hashing ref blob) => held = some (.acking ref) ∧ last.objects = start.objects ∧
      ∃ transfer, start.objects[ref]? = some transfer ∧ Assembled transfer blob

def stopAt (self : Receiver) : Option ReceiverCall → Receiver
  | none => self
  | some call => self.suspend call

/-- How a turn ends: at an await, or with the transfer that was offered. -/
inductive Ends (event : Event) (held : Option ReceiverCall) (start last : Receiver) :
    Receiver → Prop where
  | stop (call : Option ReceiverCall) (stops : Stops event held start last call) :
      Ends event held start last (stopAt last call)
  | register {offer : FileOffer} (asked : event = .offer offer) (measured : Measured offer)
      (free : last.lookup offer.fileId = none) :
      Ends event held start last (last.register offer)

/-- A chain of effects and its end. -/
structure Works (mine : Nat → Prop) (event : Event) (held : Option ReceiverCall)
    (start after : Receiver) : Prop where
  decomposed : ∃ last, Acts mine event held start last ∧ Ends event held start last after

theorem Acts.works {mine : Nat → Prop} {event : Event} {held : Option ReceiverCall}
    {start after : Receiver} (acts : Acts mine event held start after) :
    Works mine event held start after := ⟨after, acts, .stop none trivial⟩

/-- The call an event takes up. -/
inductive Resumed (self : Receiver) : Event → Option ReceiverCall → Receiver → Prop where
  | fresh {event : Event} (files : FileLimits) : Resumed self event none { self with files }
  | taken {ticket : Nat} {outcome : Outcome} {call : ReceiverCall}
      (found : self.calls.get? ticket = some call) :
      Resumed self (.settle ticket outcome) (some call)
        { self with calls := self.calls.remove ticket }

/-- The objects an event is about. -/
def Touches (self : Receiver) : Event → Nat → Prop
  | .offer fields => fun ref => self.transfers.get? fields.fileId = some ref
  | .accept fileId => fun ref => self.transfers.get? fileId = some ref
  | .reject fileId _ => fun ref => self.transfers.get? fileId = some ref
  | .cancel fileId _ _ => fun ref => self.transfers.get? fileId = some ref
  | .peerCancel fileId _ => fun ref => self.transfers.get? fileId = some ref
  | .chunk fileId _ _ _ => fun ref => self.transfers.get? fileId = some ref
  | .completeNotice fileId => fun ref => self.transfers.get? fileId = some ref
  | .remove fileId => fun ref => self.transfers.get? fileId = some ref
  | .settle ticket _ => fun ref => ∃ call, self.calls.get? ticket = some call ∧ call.ref? = some ref
  | .setProfile _ => fun _ => False
  | .reset => fun _ => False

structure Turned (self : Receiver) (event : Event) (after : Receiver) : Prop where
  decomposed : ∃ held start, Resumed self event held start ∧
    Works (Touches self event) event held start after

variable {self : Receiver} {mine : Nat → Prop} {event : Event} {held : Option ReceiverCall}
  {fileId : String} {ref : Nat} {transfer : ReceiveTransfer}

theorem withRegistered_works {action : Nat → ReceiveTransfer → Receiver}
    (runs : ∀ ref transfer, self.transfers.get? fileId = some ref →
      self.objects[ref]? = some transfer → Works mine event held self (action ref transfer)) :
    Works mine event held self (self.withRegistered fileId action) := by
  unfold withRegistered
  split
  · exact Acts.refl.works
  · rename_i ref transfer found
    obtain ⟨listed, stored⟩ := lookup_eq_some.mp found
    exact runs ref transfer listed stored

theorem completionFailed_works (reason : String) {start : Receiver}
    (acts : Acts mine event held start self)
    (selected : mine ref) (inbound : ∃ call, held = some call ∧ call.inbound = true) :
    Works mine event held start (self.completionFailed ref reason) := by
  unfold completionFailed withObject
  split
  · exact acts.works
  · rename_i transfer found
    have kept : Keeps transfer { transfer with
        status := .failed
        reason := some reason
        chunks := []
        received := .empty } :=
      ⟨⟨rfl, rfl, rfl, Or.inr rfl, Or.inr rfl, nofun⟩, rfl, Or.inl nofun⟩
    exact ⟨_, .note (emit_acts (.put acts found selected kept)) rfl,
      .stop (some .replying) (Or.inr inbound)⟩

theorem acked_works (selected : mine ref) :
    Works mine event (some (.acking ref)) self (self.acked ref) := by
  have shown : Acts mine event (some (.acking ref)) self (self.emit ref) := emit_acts .refl
  have same : (self.emit ref).objects = self.objects := by
    unfold emit withObject
    split <;> rfl
  unfold acked
  simp only [withObject]
  split
  · exact shown.works
  · rename_i transfer found
    split
    · rename_i full
      simp only [complete, withObject, found]
      split
      · exact completionFailed_works _ shown selected ⟨_, rfl, rfl⟩
      · rename_i sized
        have assembled : Assembled transfer (blobOf transfer.chunks) :=
          ⟨full, rfl, not_not.mp sized⟩
        split
        · exact (Acts.complete shown found selected (Or.inl ⟨rfl, assembled⟩)).works
        · exact ⟨_, shown, .stop (some (.hashing ref (blobOf transfer.chunks)))
            ⟨rfl, same, transfer, same ▸ found, assembled⟩⟩
    · exact shown.works

theorem hashed_works (digest : Bytes → String) (blob : Bytes) (outcome : Outcome)
    (selected : mine ref) :
    Works mine event (some (.hashing ref blob)) self (self.hashed digest ref blob outcome) := by
  cases outcome with
  | error message => exact completionFailed_works message .refl selected ⟨_, rfl, rfl⟩
  | ok _ =>
      simp only [hashed, withObject]
      split
      · exact Acts.refl.works
      · rename_i transfer found
        split
        · exact completionFailed_works _ .refl selected ⟨_, rfl, rfl⟩
        · exact (Acts.complete .refl found selected (Or.inr rfl)).works

theorem accepted_acts (outcome : Outcome) (selected : mine ref) :
    Acts mine event held self (self.accepted ref outcome) := by
  unfold accepted
  split
  · exact .refl
  · unfold withObject
    split
    · exact .refl
    · rename_i transfer found
      exact stop_acts _ .refl found selected (Or.inr rfl)

theorem settle_works (digest : Bytes → String) (outcome : Outcome) {call : ReceiverCall}
    (selected : ∀ ref, call.ref? = some ref → mine ref) :
    Works mine event (some call) self (self.settle digest outcome call) := by
  cases call with
  | accepting ref => exact (accepted_acts outcome (selected ref rfl)).works
  | acking ref => exact acked_works (selected ref rfl)
  | hashing ref blob => exact hashed_works digest blob outcome (selected ref rfl)
  | replying => exact Acts.refl.works

theorem remove_acts (selected : ∀ ref, self.transfers.get? fileId = some ref → mine ref) :
    Acts mine event held self (self.remove fileId) := by
  refine withRegistered_acts .refl ?_
  intro ref transfer listed found
  split
  · rename_i ended
    rw [← release_transfers self ref]
    exact .drop .refl listed found (selected ref listed) ended
  · exact .refl

theorem enter_works {start : Receiver} {offer : FileOffer} (acts : Acts mine event held start self)
    (asked : event = .offer offer) (measured : Measured offer)
    (free : self.lookup offer.fileId = none) :
    Works mine event held start (self.enter offer) := by
  unfold enter
  split
  · exact (Acts.note acts rfl).works
  · exact ⟨self, acts, .register asked measured free⟩

theorem offer_works {offer : FileOffer} (asked : event = .offer offer)
    (selected : ∀ ref, self.transfers.get? offer.fileId = some ref → mine ref) :
    Works mine event held self (self.offer offer) := by
  have rejects : ∀ reason, Works mine event held self (self.rejectOffer offer.fileId reason) :=
    fun _ => (Acts.note .refl rfl).works
  unfold Receiver.offer
  split
  · exact rejects _
  rename_i small
  split
  · exact rejects _
  rename_i valid
  have measured : Measured offer := by
    simp only [not_or, not_not] at small valid
    exact ⟨by omega, by omega, valid.2.2.2.1⟩
  split
  · rename_i absent
    exact enter_works .refl asked measured absent
  · rename_i ref previous found
    obtain ⟨listed, stored⟩ := lookup_eq_some.mp found
    split
    · rename_i ended
      refine enter_works (.drop .refl listed stored (selected ref listed) ended) asked measured ?_
      simp [lookup, InsertionMap.get?_delete]
    · exact rejects _

theorem accept_works (selected : ∀ ref, self.transfers.get? fileId = some ref → mine ref) :
    Works mine event held self (self.accept fileId) := by
  refine withRegistered_works ?_
  intro ref transfer listed stored
  split
  · exact Acts.refl.works
  · rename_i waiting
    have kept : Keeps transfer { transfer with status := .receiving, reason := none } := by
      refine ⟨⟨rfl, rfl, rfl, Or.inl rfl, Or.inl rfl, fun _ => ⟨rfl, ?_⟩⟩, rfl, Or.inl nofun⟩
      rw [not_not.mp waiting]
      rfl
    exact ⟨_, .note (emit_acts (.put .refl stored (selected ref listed) kept)) rfl,
      .stop (some (.accepting ref)) trivial⟩

theorem reject_acts (reason : String)
    (selected : ∀ ref, self.transfers.get? fileId = some ref → mine ref) :
    Acts mine event held self (self.reject fileId reason) := by
  refine withRegistered_acts .refl ?_
  intro ref transfer listed found
  exact .note (stop_acts _ .refl found (selected ref listed) (Or.inl rfl)) rfl

theorem cancel_acts (reason : String) (notify : Bool)
    (selected : ∀ ref, self.transfers.get? fileId = some ref → mine ref) :
    Acts mine event held self (self.cancel fileId reason notify) := by
  refine withRegistered_acts .refl ?_
  intro ref transfer listed found
  have stopped := stop_acts (some reason) (.refl : Acts mine event held self self) found
    (selected ref listed) (Or.inl rfl)
  dsimp only
  split
  · exact .note stopped rfl
  · exact stopped

theorem completeNotice_acts (selected : ∀ ref, self.transfers.get? fileId = some ref → mine ref) :
    Acts mine event held self (self.completeNotice fileId) := by
  refine withRegistered_acts .refl ?_
  intro ref transfer listed found
  split
  · exact .refl
  · split
    · exact emit_acts (.put .refl found (selected ref listed)
        ⟨⟨rfl, rfl, rfl, Or.inl rfl, Or.inl rfl, fun waits => ⟨rfl, waits⟩⟩, rfl, Or.inr rfl⟩)
    · exact .refl

theorem storeIn_received (transfer : ReceiveTransfer) (index : Nat) (bytes : Bytes) :
    (storeIn transfer index bytes).received.has index = true := by
  simp [storeIn, InsertionMap.has]

theorem chunk_works {index totalChunks : Nat} {data : String}
    (asked : event = .chunk fileId index totalChunks data)
    (selected : ∀ ref, self.transfers.get? fileId = some ref → mine ref) :
    Works mine event held self (self.chunk fileId index totalChunks data) := by
  -- Every refusal that the peer hears of waits for its `sendApp`.
  have replies : ∀ last, Acts mine event held self last →
      Works mine event held self (last.suspend .replying) := by
    intro last acts
    refine ⟨last, acts, .stop (some .replying) (Or.inl ?_)⟩
    rw [asked]
    rfl
  refine withRegistered_works ?_
  intro ref transfer listed stored
  split
  · exact Acts.refl.works
  rename_i receiving
  split
  · exact replies _ (.note .refl rfl)
  rename_i valid
  split
  · rename_i known
    exact replies _ (.ack .refl listed stored known)
  split
  · exact replies _ (.note .refl rfl)
  rename_i bytes decoded
  split
  · exact replies _ (.note .refl rfl)
  rename_i sized
  have awaited := not_not.mp receiving
  obtain ⟨inside, _⟩ := List.getElem?_eq_some_iff.mp stored
  have written : (self.objects.set ref (storeIn transfer index bytes))[ref]? =
      some (storeIn transfer index bytes) := List.getElem?_set_self inside
  -- The chunk is stored before the ACK goes out; the call is suspended in the ACK.
  have kept : Acts mine event held self ((self.put ref (storeIn transfer index bytes)).note
      (.stored ref fileId index bytes transfer.status)) :=
    .store .refl listed stored (selected ref listed) awaited (by omega)
      ⟨totalChunks, data, asked, decoded⟩ (not_not.mp sized)
  refine ⟨_, .ack kept listed written (storeIn_received transfer index bytes),
    .stop (some (.acking ref)) ?_⟩
  exact ⟨by rw [asked]; rfl, _, written, awaited⟩

/-- Every turn but a reset has this form. -/
theorem turn_turned (digest : Bytes → String) {after : Receiver} (kept : event ≠ .reset)
    (stepped : self.turn digest event = some after) : Turned self event after := by
  have whole : Resumed self event none self := .fresh self.files
  cases event with
  | setProfile files =>
      cases stepped
      exact ⟨none, _, .fresh files, Acts.refl.works⟩
  | offer fields =>
      cases stepped
      exact ⟨none, self, whole, offer_works rfl (fun _ listed => listed)⟩
  | accept fileId =>
      cases stepped
      exact ⟨none, self, whole, accept_works (fun _ listed => listed)⟩
  | reject fileId reason =>
      cases stepped
      exact ⟨none, self, whole, (reject_acts reason (fun _ listed => listed)).works⟩
  | cancel fileId reason notify =>
      cases stepped
      exact ⟨none, self, whole, (cancel_acts reason notify (fun _ listed => listed)).works⟩
  | peerCancel fileId reason =>
      cases stepped
      exact ⟨none, self, whole, (cancel_acts reason false (fun _ listed => listed)).works⟩
  | chunk fileId index totalChunks data =>
      cases stepped
      exact ⟨none, self, whole, chunk_works rfl (fun _ listed => listed)⟩
  | completeNotice fileId =>
      cases stepped
      exact ⟨none, self, whole, (completeNotice_acts (fun _ listed => listed)).works⟩
  | remove fileId =>
      cases stepped
      exact ⟨none, self, whole, (remove_acts (fun _ listed => listed)).works⟩
  | reset => exact absurd rfl kept
  | settle ticket outcome =>
      obtain ⟨⟨call, rest⟩, taken, rfl⟩ := Option.map_eq_some_iff.mp stepped
      obtain ⟨found, rfl⟩ := Callbacks.take_eq_some.mp taken
      exact ⟨some call, _, .taken found,
        settle_works digest outcome (fun _ same => ⟨call, found, same⟩)⟩

end Turns

end OnlyTwo.FileReceiver
