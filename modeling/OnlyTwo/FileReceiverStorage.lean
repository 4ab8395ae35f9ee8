import OnlyTwo.FileReceiverEdits
import OnlyTwo.FileAssembly

/-!
What a receiver stores. Offers and chunks carry any numbers and any bytes; the checks of `offer`
and `chunk` together keep a transfer that awaits chunks within the size it was offered with, and
there is one such transfer at most.
-/

namespace OnlyTwo.FileReceiver

open Bytes FileProtocol Receiver

section Sizes

def heldBytes (chunks : List (Option Bytes)) : Nat :=
  (chunks.map fun chunk => (chunk.getD []).length).sum

/-- Pieces of `chunkSize` bytes that each lie within the size do so together. -/
theorem heldBytes_le (size chunkSize : Nat) (chunks : List (Option Bytes)) (start : Nat)
    (fits : ∀ index bytes, chunks[index]? = some (some bytes) →
      bytes.length ≤ chunkSize ∧ bytes.length ≤ size - (start + index) * chunkSize) :
    heldBytes chunks ≤ size - start * chunkSize := by
  induction chunks generalizing start with
  | nil => exact Nat.zero_le _
  | cons chunk rest ih =>
      have tail : heldBytes rest ≤ size - (start + 1) * chunkSize := by
        apply ih
        intro index bytes found
        have fit := fits (index + 1) bytes found
        rwa [show start + (index + 1) = start + 1 + index by omega] at fit
      have head : (chunk.getD []).length ≤ chunkSize ∧
          (chunk.getD []).length ≤ size - start * chunkSize := by
        cases chunk with
        | none => exact ⟨Nat.zero_le _, Nat.zero_le _⟩
        | some bytes => exact fits 0 bytes rfl
      rw [Nat.succ_mul] at tail
      simp only [heldBytes, List.map_cons, List.sum_cons] at tail ⊢
      omega

/-- What a transfer holds while its chunks are awaited. -/
structure Storing (files : FileLimits) (transfer : ReceiveTransfer) : Prop where
  chunkSize : 0 < transfer.chunkSize
  counted : transfer.totalChunks = chunkCount transfer.size transfer.chunkSize
  allowed : transfer.size ≤ files.maxFileBytes
  memory : transfer.size ≤ files.maxMemoryReceiveBytes
  length : transfer.chunks.length = transfer.totalChunks
  received : ∀ index, index ∈ transfer.received.keys ↔
    ∃ bytes, transfer.chunks[index]? = some (some bytes)
  sized : ∀ index bytes, transfer.chunks[index]? = some (some bytes) →
    bytes.length = expectedBytes transfer index

variable {files : FileLimits} {transfer : ReceiveTransfer} {index : Nat} {bytes : Bytes}

theorem Storing.inside (storing : Storing files transfer)
    (stored : transfer.chunks[index]? = some (some bytes)) : index < transfer.totalChunks :=
  storing.length ▸ (List.getElem?_eq_some_iff.mp stored).1

/-- The last chunk has what is left, and every other one is full. -/
theorem Storing.expected (storing : Storing files transfer) (inside : index < transfer.totalChunks) :
    if index + 1 = transfer.totalChunks then
      expectedBytes transfer index = transfer.size - index * transfer.chunkSize ∧
        1 ≤ expectedBytes transfer index ∧ expectedBytes transfer index ≤ transfer.chunkSize
    else
      expectedBytes transfer index = transfer.chunkSize ∧
        transfer.chunkSize ≤ transfer.size - index * transfer.chunkSize := by
  have begins : index * transfer.chunkSize < transfer.size :=
    lt_of_lt_chunkCount storing.chunkSize (storing.counted ▸ inside)
  split
  · rename_i last
    have whole := le_chunkCount_mul transfer.size storing.chunkSize
    rw [← storing.counted, ← last, Nat.succ_mul] at whole
    rw [expectedBytes, if_pos (by omega)]
    exact ⟨rfl, by omega, by omega⟩
  · rename_i inner
    have next : (index + 1) * transfer.chunkSize < transfer.size :=
      lt_of_lt_chunkCount storing.chunkSize (by rw [← storing.counted]; omega)
    rw [Nat.succ_mul] at next
    rw [expectedBytes, if_neg (by omega)]
    exact ⟨rfl, by omega⟩

theorem Storing.held (storing : Storing files transfer) :
    heldBytes transfer.chunks ≤ transfer.size := by
  have bound := heldBytes_le transfer.size transfer.chunkSize transfer.chunks 0 ?_
  · simpa using bound
  · intro index bytes stored
    have expected := storing.expected (storing.inside stored)
    rw [Nat.zero_add, storing.sized index bytes stored]
    split at expected <;> omega

theorem newTransfer_storing {offer : FileOffer} (admitted : Admitted files offer) :
    Storing files (newTransfer offer) where
  chunkSize := admitted.chunkSize
  counted := admitted.counted
  allowed := admitted.allowed
  memory := admitted.memory
  length := List.length_replicate
  received := by
    intro index
    simp [newTransfer, List.getElem?_replicate]
  sized := by
    intro index bytes stored
    simp [newTransfer, List.getElem?_replicate] at stored

theorem get?_storeChunk {chunks : List (Option Bytes)} (inside : index < chunks.length)
    (bytes : Bytes) (other : Nat) : (storeChunk chunks index bytes)[other]? =
      if other = index then some (some bytes) else chunks[other]? := by
  rw [storeChunk_eq_set bytes inside]
  by_cases same : other = index
  · subst same
    rw [List.getElem?_set_self inside, if_pos rfl]
  · rw [List.getElem?_set_ne (Ne.symm same), if_neg same]

theorem storeIn_storing (storing : Storing files transfer) (inside : index < transfer.totalChunks)
    (sized : bytes.length = expectedBytes transfer index) :
    Storing files (storeIn transfer index bytes) := by
  have within : index < transfer.chunks.length := storing.length ▸ inside
  refine ⟨storing.chunkSize, storing.counted, storing.allowed, storing.memory, ?_, ?_, ?_⟩
  · simp only [storeIn, storeChunk_eq_set bytes within, List.length_set]
    exact storing.length
  · intro other
    simp only [storeIn, InsertionMap.mem_keys_set, get?_storeChunk within]
    by_cases same : other = index
    · simp [same]
    · simp only [same, false_or, ↓reduceIte]
      exact storing.received other
  · intro other piece stored
    simp only [storeIn, get?_storeChunk within] at stored
    split at stored
    · rename_i same
      cases stored
      rw [same]
      exact sized
    · exact storing.sized other piece stored

end Sizes

section Invariant

variable {limits : FileLimits} {event : Event} {self after : Receiver}

/-- The receiver's transfers under their ids, and what those that await chunks hold. -/
structure Storage (limits : FileLimits) (receiver : Receiver) : Prop where
  profile : receiver.files = limits
  named : ∀ fileId ref, receiver.transfers.get? fileId = some ref →
    ∃ transfer, receiver.objects[ref]? = some transfer ∧ transfer.fileId = fileId
  storing : ∀ fileId ref transfer, receiver.transfers.get? fileId = some ref →
    receiver.objects[ref]? = some transfer → transfer.status.opened = true → Storing limits transfer
  single : ∀ first second (one two : Nat) old new, receiver.transfers.get? first = some one →
    receiver.transfers.get? second = some two → receiver.objects[one]? = some old →
    receiver.objects[two]? = some new → old.status.opened = true → new.status.opened = true →
    first = second

theorem create_storage (limits : FileLimits) : Storage limits (create limits) where
  profile := rfl
  named := by intro fileId ref listed; cases listed
  storing := by intro fileId ref transfer listed; cases listed
  single := by intro first second one two old new listed; cases listed

theorem Change.fileId {ref : Nat} {old new : ReceiveTransfer} (changed : Change event self ref old new) :
    new.fileId = old.fileId := by
  cases changed <;> rfl

/-- Nothing that is written makes a transfer await chunks again. -/
theorem Change.opened {ref : Nat} {old new : ReceiveTransfer} (changed : Change event self ref old new)
    (opened : new.status.opened = true) :
    old.status.opened = true ∧ (Storing limits old → Storing limits new) := by
  cases changed with
  | reason text =>
      exact ⟨opened, fun old => ⟨old.chunkSize, old.counted, old.allowed, old.memory, old.length,
        old.received, old.sized⟩⟩
  | accept listed offered =>
      refine ⟨by rw [offered]; rfl, ?_⟩
      exact fun old => ⟨old.chunkSize, old.counted, old.allowed, old.memory, old.length,
        old.received, old.sized⟩
  | store listed receiving inside new sized =>
      exact ⟨opened, fun old => storeIn_storing old inside sized⟩
  | stop reason stopped => rcases stopped with rfl | rfl <;> cases opened
  | fail reason => cases opened
  | complete url settling => cases opened

/-- What carries the invariant over an edit: a transfer that is registered afterwards and awaits
chunks was so before, under the same id. -/
theorem Storage.carry (storage : Storage limits self) (profile : after.files = self.files)
    (named : ∀ fileId ref, after.transfers.get? fileId = some ref →
      self.transfers.get? fileId = some ref ∧ ∀ transfer, self.objects[ref]? = some transfer →
        ∃ now, after.objects[ref]? = some now ∧ now.fileId = transfer.fileId ∧
          (now.status.opened = true → transfer.status.opened = true ∧
            (Storing limits transfer → Storing limits now))) : Storage limits after where
  profile := profile.trans storage.profile
  named := by
    intro fileId ref listed
    obtain ⟨before, carried⟩ := named fileId ref listed
    obtain ⟨transfer, found, rfl⟩ := storage.named fileId ref before
    obtain ⟨now, there, same, _⟩ := carried transfer found
    exact ⟨now, there, same⟩
  storing := by
    intro fileId ref now listed stored opened
    obtain ⟨before, carried⟩ := named fileId ref listed
    obtain ⟨transfer, found, _⟩ := storage.named fileId ref before
    obtain ⟨current, there, _, awaiting⟩ := carried transfer found
    cases there.symm.trans stored
    obtain ⟨earlier, kept⟩ := awaiting opened
    exact kept (storage.storing fileId ref transfer before found earlier)
  single := by
    intro first second one two old new early late here there opened again
    obtain ⟨listed, carried⟩ := named first one early
    obtain ⟨others, follows⟩ := named second two late
    obtain ⟨transfer, found, _⟩ := storage.named first one listed
    obtain ⟨companion, held, _⟩ := storage.named second two others
    obtain ⟨current, place, _, awaiting⟩ := carried transfer found
    obtain ⟨other, spot, _, waits⟩ := follows companion held
    cases place.symm.trans here
    cases spot.symm.trans there
    exact storage.single first second one two transfer companion listed others found held
      (awaiting opened).1 (waits again).1

theorem Storage.register (storage : Storage limits self) {offer : FileOffer}
    (admitted : Admitted self.files offer) (idle : NoneActive self offer.fileId) (profile : after.files = self.files)
    (objects : after.objects = self.objects ++ [newTransfer offer])
    (transfers : after.transfers = self.transfers.set offer.fileId self.objects.length) :
    Storage limits after := by
  have added : after.objects[self.objects.length]? = some (newTransfer offer) := by
    rw [objects, List.getElem?_concat_length]
  have kept : ∀ (ref : Nat) transfer, self.objects[ref]? = some transfer →
      after.objects[ref]? = some transfer := by
    intro ref transfer found
    rw [objects, List.getElem?_append_left (List.getElem?_eq_some_iff.mp found).1]
    exact found
  have cases_ : ∀ fileId ref, after.transfers.get? fileId = some ref →
      (fileId = offer.fileId ∧ ref = self.objects.length) ∨
        (fileId ≠ offer.fileId ∧ self.transfers.get? fileId = some ref) := by
    intro fileId ref listed
    rw [transfers, InsertionMap.get?_set] at listed
    split at listed
    · rename_i same
      exact Or.inl ⟨same, (Option.some.inj listed).symm⟩
    · exact Or.inr ⟨‹_›, listed⟩
  -- Every other registered transfer has stopped awaiting chunks.
  have closed : ∀ fileId ref transfer, fileId ≠ offer.fileId →
      self.transfers.get? fileId = some ref → after.objects[ref]? = some transfer →
      transfer.status.opened = false := by
    intro fileId ref transfer different listed stored
    obtain ⟨earlier, found, same⟩ := storage.named fileId ref listed
    cases (kept ref earlier found).symm.trans stored
    exact idle fileId ref transfer listed found (same ▸ different)
  refine ⟨profile.trans storage.profile, ?_, ?_, ?_⟩
  · intro fileId ref listed
    rcases cases_ fileId ref listed with ⟨rfl, rfl⟩ | ⟨_, before⟩
    · exact ⟨_, added, rfl⟩
    · obtain ⟨transfer, found, same⟩ := storage.named fileId ref before
      exact ⟨transfer, kept ref transfer found, same⟩
  · intro fileId ref transfer listed stored opened
    rcases cases_ fileId ref listed with ⟨rfl, rfl⟩ | ⟨different, before⟩
    · cases added.symm.trans stored
      exact storage.profile ▸ newTransfer_storing admitted
    · rw [closed fileId ref transfer different before stored] at opened
      cases opened
  · intro first second one two old new early late here there opened again
    rcases cases_ first one early with ⟨rfl, _⟩ | ⟨different, before⟩
    · rcases cases_ second two late with ⟨rfl, _⟩ | ⟨different, before⟩
      · rfl
      · rw [closed second two new different before there] at again
        cases again
    · rw [closed first one old different before here] at opened
      cases opened

theorem Edit.storage (edit : Edit event self after) (profile : after.files = self.files)
    (storage : Storage limits self) : Storage limits after := by
  cases edit with
  | @change place old new found changed objects transfers =>
      refine storage.carry profile ?_
      intro fileId ref listed
      refine ⟨transfers ▸ listed, ?_⟩
      intro transfer stored
      rw [objects]
      rcases set_get new found stored with ⟨rfl, rfl, now⟩ | ⟨_, stays⟩
      · exact ⟨new, now, changed.fileId, changed.opened⟩
      · exact ⟨transfer, stays, rfl, fun opened => ⟨opened, id⟩⟩
  | @drop gone place old listed found ended objects transfers =>
      refine storage.carry profile ?_
      intro fileId ref stays
      rw [transfers, InsertionMap.get?_delete] at stays
      split at stays
      · cases stays
      rename_i different
      refine ⟨stays, ?_⟩
      intro transfer stored
      -- The dropped object is registered under no other id.
      have hit : ref ≠ place := by
        rintro rfl
        obtain ⟨one, first, same⟩ := storage.named fileId ref stays
        obtain ⟨two, second, other⟩ := storage.named gone ref listed
        cases first.symm.trans second
        exact different (same.symm.trans other)
      rw [objects, List.getElem?_set_ne (Ne.symm hit)]
      exact ⟨transfer, stored, rfl, fun opened => ⟨opened, id⟩⟩
  | register asked admitted free idle objects transfers =>
      exact storage.register admitted idle profile objects transfers
  | clear released empty =>
      refine storage.carry profile ?_
      intro fileId ref listed
      rw [empty] at listed
      cases listed

theorem Edits.storage (edits : Edits event self after) (storage : Storage limits self) :
    Storage limits after := by
  induction edits with
  | same objects transfers files =>
      refine storage.carry files ?_
      intro fileId ref listed
      refine ⟨transfers ▸ listed, fun transfer found => ?_⟩
      rw [objects]
      exact ⟨transfer, found, rfl, fun opened => ⟨opened, id⟩⟩
  | edit _ edit files ih => exact edit.storage files ih

end Invariant

section Claim

/-- The bounds of a transfer that is offered or being received. -/
structure Awaiting (limits : FileLimits) (transfer : ReceiveTransfer) : Prop where
  counted : transfer.totalChunks = chunkCount transfer.size transfer.chunkSize
  allowed : transfer.size ≤ limits.maxFileBytes ∧ transfer.size ≤ limits.maxMemoryReceiveBytes
  received : ∀ index, index ∈ transfer.received.keys ↔
    ∃ bytes, transfer.chunks[index]? = some (some bytes)
  inside : ∀ index bytes, transfer.chunks[index]? = some (some bytes) → index < transfer.totalChunks
  inner : ∀ index bytes, transfer.chunks[index]? = some (some bytes) →
    index + 1 ≠ transfer.totalChunks → bytes.length = transfer.chunkSize
  last : ∀ index bytes, transfer.chunks[index]? = some (some bytes) →
    index + 1 = transfer.totalChunks →
      bytes.length = transfer.size - index * transfer.chunkSize ∧
        1 ≤ bytes.length ∧ bytes.length ≤ transfer.chunkSize
  held : heldBytes transfer.chunks ≤ transfer.size

theorem Storing.awaiting {limits : FileLimits} {transfer : ReceiveTransfer}
    (storing : Storing limits transfer) : Awaiting limits transfer where
  counted := storing.counted
  allowed := ⟨storing.allowed, storing.memory⟩
  received := storing.received
  inside := fun _ _ => storing.inside
  inner := by
    intro index bytes stored inner
    have expected := storing.expected (storing.inside stored)
    rw [if_neg inner] at expected
    exact (storing.sized index bytes stored).trans expected.1
  last := by
    intro index bytes stored last
    have expected := storing.expected (storing.inside stored)
    rw [if_pos last] at expected
    rw [storing.sized index bytes stored]
    exact expected
  held := storing.held

/-- Whatever the peer sends, the receiver holds the chunks of one transfer at most, and no more
bytes of it than it was offered with. -/
theorem receiver_storage_bounded (digest : Bytes → String) (limits : FileLimits) {self : Receiver}
    {history : List ReceiverNote}
    (run : Machine.Run (machine digest) (fun _ event => ∀ files, event ≠ .setProfile files)
      (create limits) self history) :
    (∀ first second (one two : Nat) old new, self.transfers.get? first = some one →
      self.transfers.get? second = some two → self.objects[one]? = some old →
      self.objects[two]? = some new → old.status ∈ [ReceiverStatus.offered, .receiving] →
      new.status ∈ [ReceiverStatus.offered, .receiving] → first = second) ∧
    ∀ fileId (ref : Nat) transfer, self.transfers.get? fileId = some ref →
      self.objects[ref]? = some transfer → transfer.status ∈ [ReceiverStatus.offered, .receiving] →
      Awaiting limits transfer := by
  have storage : Storage limits self := by
    refine run.state_invariant (Storage limits) (create_storage limits) ?_
    intro before event after outputs storage kept stepped
    obtain ⟨turned, moved, same⟩ := Option.map_eq_some_iff.mp stepped
    cases same
    obtain ⟨start, objects, transfers, files, edits⟩ := turn_edits digest moved
    have begun : Storage limits start :=
      (Edits.same objects transfers (files kept) : Edits event before start).storage storage
    exact edits.storage begun
  constructor
  · intro first second one two old new early late here there opened again
    exact storage.single first second one two old new early late here there
      (decide_eq_true opened) (decide_eq_true again)
  · intro fileId ref transfer listed found opened
    exact (storage.storing fileId ref transfer listed found (decide_eq_true opened)).awaiting

def pairProfile : FileLimits where
  smallBytes := 8
  maxFileBytes := 8
  maxMemoryReceiveBytes := 8
  chunkBytes := 2
  windowChunks := 2
  maxRetries := 1
  chunked := by decide

def pairEvents : List Event :=
  [.offer ⟨"f", [], [], 3, 2, 2, none⟩, .offer ⟨"g", [], [], 3, 2, 2, none⟩, .accept "f",
    .chunk "f" 0 2 (encodeChunk [1, 2]), .chunk "f" 1 2 (encodeChunk [1, 2])]

set_option synthInstance.maxSize 256 in
/-- A second offer and a last chunk that is too long leave one transfer with one chunk. -/
theorem pair_is_stored : ∃ self history transfer,
    (machine fun _ => "").execute (create pairProfile) pairEvents = some (self, history) ∧
      self.objects = [transfer] ∧ transfer.chunks = [some [1, 2], none] ∧
      Awaiting pairProfile transfer := by
  have ran : ((machine fun _ => "").execute (create pairProfile) pairEvents).map (fun result =>
      (result.1.transfers.get? "f", result.1.objects.map fun transfer =>
        (transfer.status, transfer.chunks))) =
      some (some 0, [(.receiving, [some [1, 2], none])]) := by decide +kernel
  obtain ⟨⟨self, history⟩, executed, same⟩ := Option.map_eq_some_iff.mp ran
  obtain ⟨listed, objects⟩ := Prod.mk.inj same
  obtain ⟨transfer, only, seen⟩ := List.map_eq_singleton_iff.mp objects
  obtain ⟨status, chunks⟩ := Prod.mk.inj seen
  have kept : ∀ event ∈ pairEvents, ∀ self : Receiver, ∀ files, event ≠ .setProfile files := by
    simp [pairEvents]
  have run := Machine.execute_run _ (Machine.along_of_forall _ _ kept) executed
  have found : self.objects[0]? = some transfer := by
    simp only at only
    rw [only]
    rfl
  exact ⟨self, history, transfer, executed, only, chunks,
    (receiver_storage_bounded _ pairProfile run).2 "f" 0 transfer listed found
      (by rw [status]; decide)⟩

end Claim

end OnlyTwo.FileReceiver
