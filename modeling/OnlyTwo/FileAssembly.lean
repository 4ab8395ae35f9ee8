import OnlyTwo.FileReceiverEffects

/-!
The receiver against an honest peer. A book says which bytes stand behind a
file id and how they are cut. If offers and chunks are drawn from the book, an
object holds nothing but chunks of its file, each one traced to a store made
while it was receiving, and a blob that reaches the user is the whole file.
Nothing here depends on the order or the number of deliveries.
-/

namespace OnlyTwo.FileReceiver

open Bytes FileProtocol Receiver

abbrev Book := String → Option (Bytes × Nat)

/-- The object is filled from these bytes. -/
structure Faithful (bytes : Bytes) (chunkSize : Nat) (transfer : ReceiveTransfer) : Prop where
  size : transfer.size = bytes.length
  nonempty : 0 < bytes.length
  chunked : 0 < chunkSize
  totalChunks : transfer.totalChunks = chunkCount bytes.length chunkSize
  inside : ∀ index ∈ transfer.received.keys, index < transfer.totalChunks
  stored : ∀ index chunk, transfer.chunks[index]? = some (some chunk) →
    chunk = chunkAt bytes chunkSize index
  filled : transfer.chunks = [] ∨ (transfer.chunks.length = transfer.totalChunks ∧
    ∀ index ∈ transfer.received.keys, ∃ chunk, transfer.chunks[index]? = some (some chunk))

section Objects

variable {bytes : Bytes} {chunkSize : Nat} {old new : ReceiveTransfer}

theorem Shrinks.faithful (shrinks : Shrinks old new) (faithful : Faithful bytes chunkSize old) :
    Faithful bytes chunkSize new where
  size := shrinks.size.trans faithful.size
  nonempty := faithful.nonempty
  chunked := faithful.chunked
  totalChunks := shrinks.totalChunks.trans faithful.totalChunks
  inside := by
    rw [shrinks.totalChunks]
    rcases shrinks.received with same | none
    · rw [same]
      exact faithful.inside
    · rw [none]
      exact nofun
  stored := by
    rcases shrinks.chunks with same | none
    · rw [same]
      exact faithful.stored
    · rw [none]
      exact nofun
  filled := by
    rw [shrinks.totalChunks]
    rcases shrinks.chunks with same | none
    · rw [same]
      rcases shrinks.received with kept | cleared
      · rw [kept]
        exact faithful.filled
      · rw [cleared]
        rcases faithful.filled with empty | ⟨full, _⟩
        · exact Or.inl empty
        · exact Or.inr ⟨full, nofun⟩
    · exact Or.inl none

theorem newTransfer_faithful {offer : FileOffer} (measured : Measured offer)
    (size : offer.size = bytes.length) (cut : offer.chunkSize = chunkSize) :
    Faithful bytes chunkSize (newTransfer offer) where
  size := size
  nonempty := size ▸ measured.1
  chunked := cut ▸ measured.2.1
  totalChunks := by
    rw [← size, ← cut]
    exact measured.2.2
  inside := nofun
  stored := by
    intro index chunk found
    simp [newTransfer, List.getElem?_replicate] at found
  filled := Or.inr ⟨List.length_replicate, nofun⟩

theorem storeChunk_eq_set {chunks : List (Option Bytes)} {index : Nat} (chunk : Bytes)
    (inside : index < chunks.length) : storeChunk chunks index chunk = chunks.set index (some chunk) := by
  have none : index + 1 - chunks.length = 0 := by omega
  rw [storeChunk, none, List.replicate_zero, List.append_nil]

theorem storeIn_faithful {index : Nat} {chunk : Bytes} (faithful : Faithful bytes chunkSize old)
    (whole : old.chunks.length = old.totalChunks) (inside : index < old.totalChunks)
    (right : chunk = chunkAt bytes chunkSize index) :
    Faithful bytes chunkSize (storeIn old index chunk) := by
  have within : index < old.chunks.length := whole ▸ inside
  have written : (storeIn old index chunk).chunks = old.chunks.set index (some chunk) :=
    storeChunk_eq_set chunk within
  refine ⟨faithful.size, faithful.nonempty, faithful.chunked, faithful.totalChunks, ?_, ?_, ?_⟩
  · intro other member
    rcases (InsertionMap.mem_keys_set _ _ _ _).mp member with rfl | early
    · exact inside
    · exact faithful.inside other early
  · intro other piece found
    rw [written, List.getElem?_set] at found
    split at found
    · rename_i same
      subst same
      cases found
      exact right
    · exact faithful.stored other piece found
  · refine Or.inr ⟨?_, ?_⟩
    · rw [written, List.length_set]
      exact whole
    · intro other member
      rw [written, List.getElem?_set]
      split
      · exact ⟨chunk, rfl⟩
      · rename_i different
        rcases (InsertionMap.mem_keys_set _ _ _ _).mp member with rfl | early
        · exact absurd rfl different
        · rcases faithful.filled with empty | ⟨_, held⟩
          · rw [empty] at within
            cases within
          · exact held other early

/-- What `complete` assembles is the file. -/
theorem Faithful.assembled {blob : Bytes} (faithful : Faithful bytes chunkSize old)
    (assembled : Assembled old blob) : blob = bytes := by
  obtain ⟨full, rfl, sized⟩ := assembled
  rcases faithful.filled with empty | ⟨whole, held⟩
  · -- Released chunks concatenate to nothing, which is not the announced size.
    rw [empty, faithful.size] at sized
    have positive := faithful.nonempty
    simp [blobOf] at sized
    omega
  · have chunks : old.chunks =
        (List.range old.totalChunks).map fun index => some (chunkAt bytes chunkSize index) := by
      apply List.ext_getElem?
      intro index
      rw [List.getElem?_map]
      by_cases small : index < old.totalChunks
      · have member := InsertionMap.mem_keys_of_full faithful.inside (Nat.le_of_eq full.symm) small
        obtain ⟨chunk, found⟩ := held index member
        rw [found, faithful.stored index chunk found, List.getElem?_range small]
        rfl
      · rw [List.getElem?_eq_none (by omega), List.getElem?_eq_none (by simpa using small)]
        rfl
    rw [blobOf, chunks, List.flatMap_map, faithful.totalChunks]
    simp only [Option.getD_some, List.flatMap_def]
    exact flatten_all_chunks bytes faithful.chunked

end Objects

section Receivers

/-- The chunk of this index was written while the object was receiving. -/
def Stored (book : Book) (trace : List ReceiverNote) (ref : Nat) (fileId : String) (index : Nat) :
    Prop :=
  ∃ bytes chunkSize, book fileId = some (bytes, chunkSize) ∧
    .stored ref fileId index (chunkAt bytes chunkSize index) .receiving ∈ trace

def Owns (self : Receiver) (ref : Nat) (fileId : String) : Prop :=
  ∃ transfer, self.objects[ref]? = some transfer ∧ transfer.fileId = fileId

structure Sound (book : Book) (past : List ReceiverNote) (receiver : Receiver) : Prop where
  known : ∀ (ref : Nat) transfer, receiver.objects[ref]? = some transfer →
    ∃ bytes chunkSize, book transfer.fileId = some (bytes, chunkSize) ∧
      Faithful bytes chunkSize transfer
  registered : ∀ fileId ref, receiver.transfers.get? fileId = some ref →
    ∃ transfer, receiver.objects[ref]? = some transfer ∧ transfer.fileId = fileId ∧
      (transfer.status.opened = true → transfer.chunks.length = transfer.totalChunks)
  traced : ∀ (ref : Nat) transfer index, receiver.objects[ref]? = some transfer →
    index ∈ transfer.received.keys →
    Stored book (past ++ receiver.notes) ref transfer.fileId index
  owner : ∀ ref fileId index bytes status,
    .stored ref fileId index bytes status ∈ past ++ receiver.notes → Owns receiver ref fileId
  acked : ∀ fileId index, .sendApp (.ack fileId index) ∈ past ++ receiver.notes →
    ∃ ref, Stored book (past ++ receiver.notes) ref fileId index
  delivered : ∀ file, .onComplete file ∈ past ++ receiver.notes →
    ∃ chunkSize, book file.fileId = some (file.blob, chunkSize)
  hashing : ∀ ticket ref blob, receiver.calls.get? ticket = some (.hashing ref blob) →
    ∃ fileId chunkSize, Owns receiver ref fileId ∧ book fileId = some (blob, chunkSize)

variable {book : Book} {past : List ReceiverNote} {self : Receiver} {ref : Nat} {fileId : String}

theorem Stored.mono {trace longer : List ReceiverNote} {index : Nat}
    (stored : Stored book trace ref fileId index) (within : trace ⊆ longer) :
    Stored book longer ref fileId index := by
  obtain ⟨bytes, chunkSize, entry, member⟩ := stored
  exact ⟨bytes, chunkSize, entry, within member⟩

theorem Stored.grow {larger : Book} {trace : List ReceiverNote} {index : Nat}
    (stored : Stored book trace ref fileId index)
    (grows : ∀ fileId entry, book fileId = some entry → larger fileId = some entry) :
    Stored larger trace ref fileId index := by
  obtain ⟨bytes, chunkSize, entry, member⟩ := stored
  exact ⟨bytes, chunkSize, grows _ _ entry, member⟩

theorem Owns.put {other : Nat} {old new : ReceiveTransfer} (owns : Owns self other fileId)
    (found : self.objects[ref]? = some old) (same : new.fileId = old.fileId) :
    Owns (self.put ref new) other fileId := by
  obtain ⟨transfer, stored, named⟩ := owns
  rcases set_get new found stored with ⟨rfl, rfl, now⟩ | ⟨_, stays⟩
  · exact ⟨new, now, same.trans named⟩
  · exact ⟨transfer, stays, named⟩

/-- The object behind a reference after an update. -/
theorem get_put {other : Nat} {new transfer : ReceiveTransfer}
    (found : (self.put ref new).objects[other]? = some transfer) :
    (other = ref ∧ transfer = new) ∨ (other ≠ ref ∧ self.objects[other]? = some transfer) :=
  get_set found

theorem Sound.put (sound : Sound book past self) {old new : ReceiveTransfer}
    (found : self.objects[ref]? = some old) (same : new.fileId = old.fileId)
    (faithful : ∀ bytes chunkSize, book old.fileId = some (bytes, chunkSize) →
      Faithful bytes chunkSize old → Faithful bytes chunkSize new)
    (received : ∀ index ∈ new.received.keys, index ∈ old.received.keys ∨
      Stored book (past ++ self.notes) ref old.fileId index)
    (opened : ∀ fileId, self.transfers.get? fileId = some ref → new.status.opened = true →
      old.status.opened = true ∧
        (old.chunks.length = old.totalChunks → new.chunks.length = new.totalChunks)) :
    Sound book past (self.put ref new) where
  known := by
    intro other transfer stored
    rcases get_put stored with ⟨rfl, rfl⟩ | ⟨_, stays⟩
    · obtain ⟨bytes, chunkSize, entry, before⟩ := sound.known other old found
      exact ⟨bytes, chunkSize, same ▸ entry, faithful bytes chunkSize entry before⟩
    · exact sound.known other transfer stays
  registered := by
    intro other place listed
    obtain ⟨transfer, stored, named, whole⟩ := sound.registered other place listed
    rcases set_get new found stored with ⟨rfl, rfl, now⟩ | ⟨_, stays⟩
    · refine ⟨new, now, same.trans named, fun status => ?_⟩
      obtain ⟨before, kept⟩ := opened other listed status
      exact kept (whole before)
    · exact ⟨transfer, stays, named, whole⟩
  traced := by
    intro other transfer index stored member
    rcases get_put stored with ⟨rfl, rfl⟩ | ⟨_, stays⟩
    · rw [same]
      rcases received index member with early | now
      · exact sound.traced other old index found early
      · exact now
    · exact sound.traced other transfer index stays member
  owner := by
    intro other named index bytes status member
    exact (sound.owner other named index bytes status member).put found same
  acked := sound.acked
  delivered := sound.delivered
  hashing := by
    intro ticket other blob held
    obtain ⟨named, chunkSize, owns, entry⟩ := sound.hashing ticket other blob held
    exact ⟨named, chunkSize, owns.put found same, entry⟩

theorem Sound.shrink (sound : Sound book past self) {old new : ReceiveTransfer}
    (found : self.objects[ref]? = some old) (shrinks : Shrinks old new) :
    Sound book past (self.put ref new) := by
  refine sound.put found shrinks.fileId (fun _ _ _ => shrinks.faithful) ?_ ?_
  · intro index member
    rcases shrinks.received with same | none
    · exact Or.inl (same ▸ member)
    · rw [none] at member
      cases member
  · intro _ _ status
    obtain ⟨same, before⟩ := shrinks.opened status
    exact ⟨before, fun whole => by rw [same, shrinks.totalChunks]; exact whole⟩

theorem Sound.note (sound : Sound book past self) {entry : ReceiverNote}
    (owner : ∀ ref fileId index bytes status, entry = .stored ref fileId index bytes status →
      Owns self ref fileId)
    (acked : ∀ fileId index, entry = .sendApp (.ack fileId index) →
      ∃ ref, Stored book (past ++ self.notes) ref fileId index)
    (delivered : ∀ file, entry = .onComplete file →
      ∃ chunkSize, book file.fileId = some (file.blob, chunkSize)) :
    Sound book past (self.note entry) := by
  have longer : past ++ self.notes ⊆ past ++ (self.note entry).notes :=
    List.append_subset.mpr ⟨List.subset_append_left _ _,
      fun _ member => List.mem_append_right _ (List.mem_append_left _ member)⟩
  have last : ∀ other, other ∈ past ++ (self.note entry).notes →
      other ∈ past ++ self.notes ∨ entry = other := by
    intro other member
    rw [Receiver.note, ← List.append_assoc, List.mem_append, List.mem_singleton] at member
    exact member.imp id Eq.symm
  refine ⟨sound.known, sound.registered, ?_, ?_, ?_, ?_, sound.hashing⟩
  · intro ref transfer index found member
    exact (sound.traced ref transfer index found member).mono longer
  · intro ref fileId index bytes status member
    rcases last _ member with early | now
    · exact sound.owner ref fileId index bytes status early
    · exact owner ref fileId index bytes status now
  · intro fileId index member
    have stored : ∃ ref, Stored book (past ++ self.notes) ref fileId index := by
      rcases last _ member with early | now
      · exact sound.acked fileId index early
      · exact acked fileId index now
    obtain ⟨ref, held⟩ := stored
    exact ⟨ref, held.mono longer⟩
  · intro file member
    rcases last _ member with early | now
    · exact sound.delivered file early
    · exact delivered file now

theorem Sound.plain (sound : Sound book past self) {entry : ReceiverNote}
    (plain : entry.plain = true) : Sound book past (self.note entry) := by
  refine sound.note ?_ ?_ ?_
  · rintro _ _ _ _ _ rfl
    cases plain
  · rintro _ _ rfl
    cases plain
  · rintro _ rfl
    cases plain

theorem Sound.revoke (sound : Sound book past self) (urls : Callbacks Bytes) :
    Sound book past { self with urls } :=
  ⟨sound.known, sound.registered, sound.traced, sound.owner, sound.acked, sound.delivered,
    sound.hashing⟩

theorem Sound.unlist (sound : Sound book past self) {transfers : InsertionMap String Nat}
    (fewer : ∀ fileId ref, transfers.get? fileId = some ref →
      self.transfers.get? fileId = some ref) : Sound book past { self with transfers } :=
  ⟨sound.known, fun fileId ref listed => sound.registered fileId ref (fewer fileId ref listed),
    sound.traced, sound.owner, sound.acked, sound.delivered, sound.hashing⟩

theorem Sound.free (sound : Sound book past self) (ticket : Nat) :
    Sound book past { self with calls := self.calls.remove ticket } :=
  ⟨sound.known, sound.registered, sound.traced, sound.owner, sound.acked, sound.delivered,
    fun other ref blob held => sound.hashing other ref blob (Callbacks.get?_of_remove held)⟩

theorem Sound.suspend (sound : Sound book past self) {call : ReceiverCall}
    (hashing : ∀ ref blob, call = .hashing ref blob →
      ∃ fileId chunkSize, Owns self ref fileId ∧ book fileId = some (blob, chunkSize)) :
    Sound book past (self.suspend call) := by
  refine ⟨sound.known, sound.registered, sound.traced, sound.owner, sound.acked, sound.delivered, ?_⟩
  intro ticket ref blob held
  simp only [Receiver.suspend, Callbacks.get?_add] at held
  split at held
  · exact hashing ref blob (Option.some.inj held)
  · exact sound.hashing ticket ref blob held

theorem Sound.release (sound : Sound book past self) {old : ReceiveTransfer}
    (found : self.objects[ref]? = some old)
    (opened : ∀ fileId, self.transfers.get? fileId = some ref → old.status.opened = false) :
    Sound book past (self.release ref) := by
  simp only [Receiver.release, withObject, found]
  refine (sound.revoke (self.urls.cancel old.blobUrl)).put found rfl ?_ (List.forall_mem_nil _) ?_
  · intro bytes chunkSize _ faithful
    exact ⟨faithful.size, faithful.nonempty, faithful.chunked, faithful.totalChunks,
      by rintro _ ⟨⟩, by simp, Or.inl rfl⟩
  · intro fileId listed status
    rw [opened fileId listed] at status
    cases status

theorem Owns.append {other : Nat} (owns : Owns self other fileId) (added : ReceiveTransfer)
    (transfers : InsertionMap String Nat) :
    Owns { self with objects := self.objects ++ [added], transfers } other fileId := by
  obtain ⟨transfer, found, named⟩ := owns
  obtain ⟨inside, _⟩ := List.getElem?_eq_some_iff.mp found
  exact ⟨transfer, by rw [List.getElem?_append_left inside]; exact found, named⟩

theorem get_added {objects : List ReceiveTransfer} {added transfer : ReceiveTransfer}
    (found : (objects ++ [added])[ref]? = some transfer) :
    objects[ref]? = some transfer ∨ transfer = added := by
  rw [List.getElem?_append] at found
  split at found
  · exact Or.inl found
  · rw [List.getElem?_singleton] at found
    split at found
    · exact Or.inr (Option.some.inj found).symm
    · cases found

theorem Sound.register (sound : Sound book past self) {offer : FileOffer} {bytes : Bytes}
    (measured : Measured offer) (entry : book offer.fileId = some (bytes, offer.chunkSize))
    (size : offer.size = bytes.length) :
    Sound book past { self with
      objects := self.objects ++ [newTransfer offer]
      transfers := self.transfers.set offer.fileId self.objects.length } where
  known := by
    intro ref transfer found
    rcases get_added found with before | rfl
    · exact sound.known ref transfer before
    · exact ⟨bytes, offer.chunkSize, entry, newTransfer_faithful measured size rfl⟩
  registered := by
    intro fileId ref listed
    rw [InsertionMap.get?_set] at listed
    split at listed
    · rename_i same
      cases listed
      exact ⟨newTransfer offer, by simp, same.symm, fun _ => List.length_replicate⟩
    · obtain ⟨transfer, found, named, whole⟩ := sound.registered fileId ref listed
      obtain ⟨inside, _⟩ := List.getElem?_eq_some_iff.mp found
      exact ⟨transfer, by rw [List.getElem?_append_left inside]; exact found, named, whole⟩
  traced := by
    intro ref transfer index found member
    rcases get_added found with before | rfl
    · exact sound.traced ref transfer index before member
    · cases member
  owner := by
    intro ref fileId index bytes status member
    exact (sound.owner ref fileId index bytes status member).append _ _
  acked := sound.acked
  delivered := sound.delivered
  hashing := by
    intro ticket ref blob held
    obtain ⟨fileId, chunkSize, owns, there⟩ := sound.hashing ticket ref blob held
    exact ⟨fileId, chunkSize, owns.append _ _, there⟩

theorem Sound.emit (sound : Sound book past self) : Sound book past (self.emit ref) := by
  unfold Receiver.emit withObject
  split
  · exact sound
  · exact sound.plain rfl

theorem Sound.complete (sound : Sound book past self) {transfer : ReceiveTransfer} {blob : Bytes}
    {chunkSize : Nat} (found : self.objects[ref]? = some transfer)
    (right : book transfer.fileId = some (blob, chunkSize)) :
    Sound book past (self.completed ref blob) := by
  simp only [completed, withObject, found]
  refine Sound.note (Sound.emit ?_) (by simp) (by simp) ?_
  · exact (sound.revoke _).shrink found ⟨rfl, rfl, rfl, Or.inr rfl, Or.inl rfl, by rintro ⟨⟩⟩
  · rintro file same
    cases same
    exact ⟨chunkSize, right⟩

end Receivers

section Turns

/-- Offers and chunks are those of the book. -/
structure Honest (book : Book) (event : Event) : Prop where
  offer : ∀ offer, event = .offer offer →
    ∃ bytes, book offer.fileId = some (bytes, offer.chunkSize) ∧ offer.size = bytes.length
  chunk : ∀ fileId index totalChunks data, event = .chunk fileId index totalChunks data →
    ∃ bytes chunkSize, book fileId = some (bytes, chunkSize) ∧
      data = encodeChunk (chunkAt bytes chunkSize index)

variable {book : Book} {past : List ReceiverNote} {mine : Nat → Prop} {event : Event}
  {held : Option ReceiverCall} {start self : Receiver}

theorem opened_of_terminal {status : ReceiverStatus} (ended : status.terminal = true) :
    status.opened = false := by
  cases status <;> first | rfl | cases ended

/-- The file ids of the objects, in the order they were made. -/
def ids (receiver : Receiver) : List String := receiver.objects.map ReceiveTransfer.fileId

theorem owns_iff {ref : Nat} {fileId : String} :
    Owns self ref fileId ↔ (ids self)[ref]? = some fileId := by
  simp [Owns, ids]

theorem put_ids {ref : Nat} {old new : ReceiveTransfer} (found : self.objects[ref]? = some old)
    (same : new.fileId = old.fileId) : ids (self.put ref new) = ids self := by
  obtain ⟨inside, _⟩ := List.getElem?_eq_some_iff.mp found
  apply List.ext_getElem?
  intro other
  rw [ids, ids, List.getElem?_map, List.getElem?_map, Receiver.put]
  by_cases hit : other = ref
  · subst hit
    rw [List.getElem?_set_self inside, found, Option.map_some, Option.map_some, same]
  · rw [List.getElem?_set_ne (Ne.symm hit)]

theorem release_ids (self : Receiver) (ref : Nat) : ids (self.release ref) = ids self := by
  unfold Receiver.release withObject
  split
  · rfl
  · rename_i transfer found
    have revoked : ({ self with urls := self.urls.cancel transfer.blobUrl } : Receiver).objects[ref]? =
      some transfer := found
    exact put_ids revoked rfl

theorem Acts.ids (acts : Acts mine event held start self) : ids self = ids start := by
  induction acts with
  | refl => rfl
  | put _ found _ keeps ih => exact (put_ids found keeps.fileId).trans ih
  | release _ _ _ _ ih => exact (release_ids _ _).trans ih
  | drop _ _ _ _ _ ih => exact (release_ids _ _).trans ih
  | note _ _ ih => exact ih
  | @store self fileId ref index transfer bytes _ _ found _ _ _ _ _ ih =>
      have same : (storeIn transfer index bytes).fileId = transfer.fileId := rfl
      exact (put_ids found same).trans ih
  | ack _ _ _ _ ih => exact ih
  | @complete self ref transfer blob _ found _ _ ih =>
      simp only [completed, withObject, found]
      refine Eq.trans ?_ ih
      unfold emit withObject
      split
      · exact put_ids found rfl
      · exact put_ids found rfl

theorem Acts.sound (acts : Acts mine event held start self) (honest : Honest book event)
    (backed : ∀ ref blob, held = some (.hashing ref blob) →
      ∃ fileId chunkSize, Owns start ref fileId ∧ book fileId = some (blob, chunkSize))
    (sound : Sound book past start) : Sound book past self := by
  induction acts with
  | refl => exact sound
  | put _ found _ keeps ih => exact ih.shrink found keeps.toShrinks
  | release _ found _ stopped ih =>
      refine ih.release found (fun _ _ => ?_)
      rcases stopped with same | same <;> rw [same] <;> rfl
  | drop _ listed found _ ended ih =>
      refine Sound.unlist (ih.release found fun _ _ => opened_of_terminal ended) ?_
      intro fileId ref stays
      rw [InsertionMap.get?_delete] at stays
      split at stays
      · cases stays
      · exact stays
  | note _ plain ih => exact ih.plain plain
  | @store self fileId ref index transfer bytes _ listed found _ receiving inside brought sized ih =>
      obtain ⟨totalChunks, data, asked, decoded⟩ := brought
      obtain ⟨source, chunkSize, entry, rfl⟩ := honest.chunk _ _ _ _ asked
      have right : chunkAt source chunkSize index = bytes :=
        Option.some.inj ((base64Url_roundtrip _).symm.trans decoded)
      subst right
      rw [receiving]
      obtain ⟨current, there, rfl, whole⟩ := ih.registered _ ref listed
      cases found.symm.trans there
      have noted : Sound book past (self.note
          (.stored ref transfer.fileId index (chunkAt source chunkSize index) .receiving)) := by
        refine ih.note ?_ (by simp) (by simp)
        rintro _ _ _ _ _ same
        cases same
        exact ⟨transfer, found, rfl⟩
      -- The store is in the trace before the object counts the index as received.
      refine noted.put found rfl ?_ ?_ ?_
      · intro bytes size known faithful
        cases entry.symm.trans known
        exact storeIn_faithful faithful (whole (by rw [receiving]; rfl)) inside rfl
      · intro other member
        rcases (InsertionMap.mem_keys_set _ _ _ _).mp member with rfl | early
        · exact Or.inr ⟨source, chunkSize, entry, by simp [Receiver.note]⟩
        · exact Or.inl early
      · intro named _ status
        refine ⟨status, fun full => ?_⟩
        have written : (storeIn transfer index (chunkAt source chunkSize index)).chunks =
            transfer.chunks.set index (some (chunkAt source chunkSize index)) :=
          storeChunk_eq_set _ (full ▸ inside)
        rw [written, List.length_set]
        exact full
  | @ack self fileId ref index transfer _ listed found stored ih =>
      refine ih.note (by simp) ?_ (by simp)
      intro named place same
      cases same
      obtain ⟨current, there, owned, _⟩ := ih.registered fileId ref listed
      cases found.symm.trans there
      have member := (InsertionMap.has_iff _ _).mp stored
      exact ⟨ref, owned ▸ ih.traced ref transfer index found member⟩
  | @complete self ref transfer blob acts found _ ready ih =>
      rcases ready with ⟨_, assembled⟩ | resumed
      · obtain ⟨bytes, chunkSize, entry, faithful⟩ := ih.known ref transfer found
        rw [← faithful.assembled assembled] at entry
        exact ih.complete found entry
      · obtain ⟨fileId, chunkSize, owns, entry⟩ := backed ref blob resumed
        rw [owns_iff, ← acts.ids, ← owns_iff] at owns
        obtain ⟨current, there, rfl⟩ := owns
        cases found.symm.trans there
        exact ih.complete found entry

theorem Works.sound {after : Receiver} (works : Works mine event held start after)
    (honest : Honest book event)
    (backed : ∀ ref blob, held = some (.hashing ref blob) →
      ∃ fileId chunkSize, Owns start ref fileId ∧ book fileId = some (blob, chunkSize))
    (sound : Sound book past start) : Sound book past after := by
  obtain ⟨last, acts, ends⟩ := works
  have chained := acts.sound honest backed sound
  cases ends with
  | register asked measured free =>
      obtain ⟨bytes, entry, size⟩ := honest.offer _ asked
      exact (chained.register measured entry size).emit
  | stop call stops =>
      cases call with
      | none => exact chained
      | some call =>
          refine chained.suspend ?_
          rintro ref blob rfl
          obtain ⟨_, same, transfer, found, assembled⟩ := stops
          have stays : last.objects[ref]? = some transfer := same ▸ found
          obtain ⟨bytes, chunkSize, entry, faithful⟩ := chained.known ref transfer stays
          rw [← faithful.assembled assembled] at entry
          exact ⟨transfer.fileId, chunkSize, ⟨transfer, stays, rfl⟩, entry⟩

theorem release_unlisted (self : Receiver) (transfers : InsertionMap String Nat) (ref : Nat) :
    ({ self with transfers } : Receiver).release ref = { self.release ref with transfers } := by
  simp only [Receiver.release, withObject]
  split <;> rfl

theorem foldl_release_unlisted (self : Receiver) (transfers : InsertionMap String Nat)
    (refs : List Nat) :
    refs.foldl Receiver.release ({ self with transfers } : Receiver) =
      { refs.foldl Receiver.release self with transfers } := by
  induction refs generalizing self with
  | nil => rfl
  | cons ref rest ih => rw [List.foldl_cons, release_unlisted, ih, List.foldl_cons]

theorem foldl_release_sound (refs : List Nat) (sound : Sound book past self)
    (unlisted : self.transfers = .empty) : Sound book past (refs.foldl Receiver.release self) := by
  induction refs generalizing self with
  | nil => exact sound
  | cons ref rest ih =>
      rw [List.foldl_cons]
      cases found : self.objects[ref]? with
      | none =>
          simp only [Receiver.release, withObject, found]
          exact ih sound unlisted
      | some transfer =>
          refine ih (sound.release found ?_) ?_
          · intro fileId listed
            rw [unlisted] at listed
            cases listed
          · simp only [Receiver.release, withObject, found]
            exact unlisted

theorem reset_sound (sound : Sound book past self) : Sound book past self.reset := by
  rw [Receiver.reset, ← foldl_release_unlisted]
  exact foldl_release_sound _ (sound.unlist nofun) rfl

theorem turn_sound (digest : Bytes → String) {after : Receiver} (honest : Honest book event)
    (sound : Sound book past self) (stepped : self.turn digest event = some after) :
    Sound book past after := by
  by_cases reset : event = .reset
  · subst reset
    cases stepped
    exact reset_sound sound
  · obtain ⟨held, start, resumed, works⟩ := turn_turned digest reset stepped
    cases resumed with
    | fresh files =>
        have same : Sound book past { self with files } :=
          ⟨sound.known, sound.registered, sound.traced, sound.owner, sound.acked, sound.delivered,
            sound.hashing⟩
        exact works.sound honest nofun same
    | taken found =>
        refine works.sound honest ?_ (sound.free _)
        intro ref blob same
        cases same
        exact sound.hashing _ ref blob found

theorem foldl_release_ids (refs : List Nat) (self : Receiver) :
    ids (refs.foldl Receiver.release self) = ids self := by
  induction refs generalizing self with
  | nil => rfl
  | cons ref rest ih => rw [List.foldl_cons, ih, release_ids]

/-- Objects are only ever added, one for each offer at most. -/
theorem turn_ids (digest : Bytes → String) {after : Receiver}
    (stepped : self.turn digest event = some after) :
    ids after = ids self ∨ ∃ offer, event = .offer offer ∧ ids after = ids self ++ [offer.fileId] := by
  by_cases reset : event = .reset
  · subst reset
    cases stepped
    exact Or.inl (foldl_release_ids _ self)
  · obtain ⟨held, start, resumed, last, acts, ends⟩ := turn_turned digest reset stepped
    have same : ids last = ids self := by
      cases resumed <;> exact acts.ids
    cases ends with
    | stop call _ =>
        left
        cases call <;> exact same
    | @register offer asked _ _ =>
        refine Or.inr ⟨offer, asked, ?_⟩
        rw [← same]
        simp only [Receiver.register, emit, withObject]
        split <;> simp [ids, Receiver.note, newTransfer]

/-- The object has left `offered` and `receiving`. -/
def Left (receiver : Receiver) (ref : Nat) : Prop :=
  ∃ transfer, receiver.objects[ref]? = some transfer ∧ transfer.status.opened = false

theorem Left.put {ref other : Nat} {old new : ReceiveTransfer} (left : Left self other)
    (found : self.objects[ref]? = some old)
    (opened : new.status.opened = true → old.status.opened = true) : Left (self.put ref new) other := by
  obtain ⟨transfer, stored, status⟩ := left
  rcases set_get new found stored with ⟨rfl, rfl, written⟩ | ⟨_, stays⟩
  · refine ⟨new, written, ?_⟩
    cases now : new.status.opened with
    | false => rfl
    | true => exact (opened now).symm.trans status
  · exact ⟨transfer, stays, status⟩

theorem Left.release {ref other : Nat} (left : Left self other) : Left (self.release ref) other := by
  unfold Receiver.release withObject
  split
  · exact left
  · rename_i transfer found
    have revoked : Left { self with urls := self.urls.cancel transfer.blobUrl } other := left
    exact revoked.put found id

theorem Acts.left (acts : Acts mine event held start self) {other : Nat} (left : Left start other) :
    Left self other := by
  induction acts with
  | refl => exact left
  | put _ found _ keeps ih => exact ih.put found fun status => (keeps.opened status).2
  | release _ _ _ _ ih => exact ih.release
  | drop _ _ _ _ _ ih => exact ih.release
  | note _ _ ih => exact ih
  | @store self fileId ref index transfer bytes _ _ found _ _ _ _ _ ih =>
      have same : (storeIn transfer index bytes).status = transfer.status := rfl
      exact ih.put found fun status => same ▸ status
  | ack _ _ _ _ ih => exact ih
  | @complete self ref transfer blob _ found _ _ ih =>
      simp only [completed, withObject, found]
      have renewed : Left { self with urls := (self.urls.add blob).1 } other := ih
      unfold emit withObject
      split
      · exact renewed.put found (by rintro ⟨⟩)
      · exact renewed.put found (by rintro ⟨⟩)

theorem foldl_release_left (refs : List Nat) {other : Nat} (left : Left self other) :
    Left (refs.foldl Receiver.release self) other := by
  induction refs generalizing self with
  | nil => exact left
  | cons ref rest ih => exact ih left.release

theorem turn_left (digest : Bytes → String) {after : Receiver} {other : Nat} (left : Left self other)
    (stepped : self.turn digest event = some after) : Left after other := by
  by_cases reset : event = .reset
  · subst reset
    cases stepped
    exact foldl_release_left _ left
  · obtain ⟨held, start, resumed, last, acts, ends⟩ := turn_turned digest reset stepped
    have kept : Left last other := by
      cases resumed <;> exact acts.left left
    cases ends with
    | stop call _ => cases call <;> exact kept
    | @register offer asked _ _ =>
        obtain ⟨transfer, found, status⟩ := kept
        obtain ⟨inside, _⟩ := List.getElem?_eq_some_iff.mp found
        refine ⟨transfer, ?_, status⟩
        have stays : (last.objects ++ [newTransfer offer])[other]? = some transfer := by
          rw [List.getElem?_append_left inside]
          exact found
        simp only [Receiver.register, emit, withObject]
        split <;> exact stays

/-- The trace of a turn becomes part of the past. -/
theorem Sound.settle (sound : Sound book past self) :
    Sound book (past ++ self.notes) { self with notes := [] } := by
  constructor
  · exact sound.known
  · exact sound.registered
  · rw [List.append_nil]
    exact sound.traced
  · rw [List.append_nil]
    exact sound.owner
  · rw [List.append_nil]
    exact sound.acked
  · rw [List.append_nil]
    exact sound.delivered
  · exact sound.hashing

/-- A book that grows keeps what was sound. -/
theorem Sound.grow {larger : Book} (sound : Sound book past self)
    (grows : ∀ fileId entry, book fileId = some entry → larger fileId = some entry) :
    Sound larger past self := by
  refine ⟨?_, sound.registered, ?_, sound.owner, ?_, ?_, ?_⟩
  · intro ref transfer found
    obtain ⟨bytes, chunkSize, entry, faithful⟩ := sound.known ref transfer found
    exact ⟨bytes, chunkSize, grows _ _ entry, faithful⟩
  · intro ref transfer index found member
    exact (sound.traced ref transfer index found member).grow grows
  · intro fileId index member
    obtain ⟨ref, stored⟩ := sound.acked fileId index member
    exact ⟨ref, stored.grow grows⟩
  · intro file member
    obtain ⟨chunkSize, entry⟩ := sound.delivered file member
    exact ⟨chunkSize, grows _ _ entry⟩
  · intro ticket ref blob found
    obtain ⟨fileId, chunkSize, owns, entry⟩ := sound.hashing ticket ref blob found
    exact ⟨fileId, chunkSize, owns, grows _ _ entry⟩

end Turns

end OnlyTwo.FileReceiver
