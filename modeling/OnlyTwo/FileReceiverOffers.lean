import OnlyTwo.FileAssembly

/-!
What an offer does to a receiver: it is taken and shown, or refused. The objects bear the ids
of the offers that were taken, and all that is ever shown is one of the objects.
-/

namespace OnlyTwo.FileReceiver

open Bytes FileProtocol Receiver

section Offers

/-- The receiver takes the offer. -/
structure Receiver.Takes (receiver : Receiver) (fields : FileOffer) : Prop where
  size : fields.size ≠ 0 ∧ fields.size ≤ receiver.files.maxFileBytes ∧
    fields.size ≤ receiver.files.maxMemoryReceiveBytes
  chunks : fields.chunkSize ≠ 0 ∧ fields.chunkSize ≤ receiver.files.chunkBytes ∧
    fields.totalChunks ≠ 0 ∧ fields.totalChunks = chunkCount fields.size fields.chunkSize ∧
    fields.totalChunks ≤ chunkCount receiver.files.maxFileBytes (max 1 fields.chunkSize)
  previous : ∀ entry ∈ receiver.lookup fields.fileId, entry.2.status.terminal = true
  free : ∀ ref ∈ receiver.transfers.values, receiver.isActive fields.fileId ref = false

instance (receiver : Receiver) (fields : FileOffer) : Decidable (receiver.Takes fields) :=
  decidable_of_iff (_ ∧ _ ∧ _ ∧ _)
    ⟨fun ⟨size, chunks, previous, free⟩ => ⟨size, chunks, previous, free⟩,
      fun ⟨size, chunks, previous, free⟩ => ⟨size, chunks, previous, free⟩⟩

namespace Receiver

variable {self : Receiver} {fields : FileOffer}

theorem enter_notes (free : ∀ ref ∈ self.transfers.values, self.isActive fields.fileId ref = false) :
    (self.enter fields).notes = self.notes ++ [.onUpdate (newTransfer fields).snapshot] := by
  have none : self.transfers.values.any (self.isActive fields.fileId) = false := by
    rw [List.any_eq_false]
    exact fun ref member => Bool.eq_false_iff.mp (free ref member)
  rw [enter, if_neg (Bool.eq_false_iff.mp none), register]
  simp only [emit, withObject, List.getElem?_concat_length]
  rfl

theorem release_isActive (self : Receiver) (ref other : Nat) (fileId : String) :
    (self.release ref).isActive fileId other = self.isActive fileId other := by
  unfold release withObject
  split
  · rfl
  · rename_i transfer found
    simp only [isActive, put, List.getElem?_set]
    by_cases same : ref = other
    · subst same
      obtain ⟨inside, _⟩ := List.getElem?_eq_some_iff.mp found
      rw [if_pos rfl, if_pos inside, found]
    · rw [if_neg same]

/-- A transfer that is taken is shown as offered, and nothing else is. -/
theorem offer_notes (takes : self.Takes fields) :
    (self.offer fields).notes = self.notes ++ [.onUpdate (newTransfer fields).snapshot] := by
  obtain ⟨some, file, memory⟩ := takes.size
  obtain ⟨chunked, chunk, counted, total, bound⟩ := takes.chunks
  have sized : ¬(fields.size = 0 ∨ self.files.maxFileBytes < fields.size ∨
      self.files.maxMemoryReceiveBytes < fields.size) := by
    omega
  have measured : ¬(fields.chunkSize = 0 ∨ self.files.chunkBytes < fields.chunkSize ∨
      fields.totalChunks = 0 ∨ fields.totalChunks ≠ chunkCount fields.size fields.chunkSize ∨
      chunkCount self.files.maxFileBytes (max 1 fields.chunkSize) < fields.totalChunks) := by
    rintro (bad | bad | bad | bad | bad)
    · exact chunked bad
    · exact absurd chunk (Nat.not_le.mpr bad)
    · exact counted bad
    · exact bad total
    · exact absurd bound (Nat.not_le.mpr bad)
  rw [offer, if_neg sized, if_neg measured]
  split
  · exact enter_notes takes.free
  · rename_i ref previous found
    rw [if_pos (takes.previous (ref, previous) found)]
    have quiet : (self.release ref).notes = self.notes := by
      unfold release withObject
      split <;> rfl
    refine (enter_notes ?_).trans (by rw [quiet])
    intro other member
    have same := release_isActive self ref other fields.fileId
    refine same.trans (takes.free other ?_)
    obtain ⟨entry, listed, rfl⟩ := List.mem_map.mp member
    rw [release_transfers] at listed
    exact List.mem_map_of_mem ((InsertionMap.mem_entries_delete _ _ _).mp listed).1

theorem enter_shows (self : Receiver) (fields : FileOffer) :
    (self.enter fields).notes = self.notes ++ [.onUpdate (newTransfer fields).snapshot] ∨
      ∃ reason, (self.enter fields).notes = self.notes ++ [.sendApp (.reject fields.fileId reason)] := by
  unfold enter
  split
  · exact Or.inr ⟨_, rfl⟩
  · refine Or.inl ?_
    simp only [register, emit, withObject, List.getElem?_concat_length]
    rfl

/-- An offer is taken or refused. -/
theorem offer_shows (self : Receiver) (fields : FileOffer) :
    (self.offer fields).notes = self.notes ++ [.onUpdate (newTransfer fields).snapshot] ∨
      ∃ reason, (self.offer fields).notes = self.notes ++ [.sendApp (.reject fields.fileId reason)] := by
  unfold offer
  split
  · exact Or.inr ⟨_, rfl⟩
  · split
    · exact Or.inr ⟨_, rfl⟩
    · split
      · exact enter_shows self fields
      · split
        · rename_i ref previous _ _
          have quiet : (self.release ref).notes = self.notes := by
            unfold release withObject
            split <;> rfl
          have entered := enter_shows { self.release ref with
            transfers := (self.release ref).transfers.delete fields.fileId } fields
          rw [show Receiver.notes { self.release ref with
            transfers := (self.release ref).transfers.delete fields.fileId } = self.notes from quiet]
            at entered
          exact entered
        · exact Or.inr ⟨_, rfl⟩

end Receiver

end Offers

theorem remove_ids (self : Receiver) (fileId : String) : ids (self.remove fileId) = ids self := by
  unfold remove withRegistered
  split
  · rfl
  · dsimp only
    split
    · exact release_ids self _
    · rfl

/-- Every object, and everything shown in this turn, bears such an id. -/
structure Within (mine : String → Prop) (receiver : Receiver) : Prop where
  objects : ∀ fileId ∈ ids receiver, mine fileId
  shown : ∀ snapshot, .onUpdate snapshot ∈ receiver.notes → mine snapshot.fileId

section Effects

variable {mine : String → Prop} {self : Receiver} {ref : Nat} {transfer : ReceiveTransfer}
  {fileId : String}

theorem Within.found (within : Within mine self) (found : self.objects[ref]? = some transfer) :
    mine transfer.fileId :=
  within.objects _ (List.mem_map_of_mem (List.mem_of_getElem? found))

theorem Within.put {new : ReceiveTransfer} (within : Within mine self)
    (named : mine new.fileId) : Within mine (self.put ref new) where
  objects other member := by
    rw [ids, Receiver.put, List.map_set] at member
    rcases List.mem_or_eq_of_mem_set member with old | rfl
    · exact within.objects other old
    · exact named
  shown := within.shown

/-- Messages, URLs and calls show nothing. -/
theorem Within.aside {after : Receiver} (within : Within mine self)
    (objects : after.objects = self.objects)
    (notes : ∀ snapshot, .onUpdate snapshot ∈ after.notes → .onUpdate snapshot ∈ self.notes) :
    Within mine after where
  objects fileId member := within.objects fileId (by rwa [ids, ← objects])
  shown snapshot member := within.shown snapshot (notes snapshot member)

theorem Within.note (within : Within mine self) {entry : ReceiverNote}
    (quiet : ∀ snapshot, entry ≠ .onUpdate snapshot) : Within mine (self.note entry) := by
  refine within.aside rfl fun snapshot member => ?_
  rcases List.mem_append.mp member with old | new
  · exact old
  · exact absurd (List.mem_singleton.mp new).symm (quiet snapshot)

theorem Within.suspend (within : Within mine self) (call : ReceiverCall) :
    Within mine (self.suspend call) :=
  within.aside rfl fun _ => id

theorem Within.emit (within : Within mine self) (ref : Nat) : Within mine (self.emit ref) := by
  unfold Receiver.emit withObject
  split
  · exact within
  · rename_i transfer found
    refine ⟨within.objects, fun snapshot member => ?_⟩
    rcases List.mem_append.mp member with old | new
    · exact within.shown snapshot old
    · obtain rfl : snapshot = transfer.snapshot := by simpa using new
      exact within.found found

theorem Within.release (within : Within mine self) (ref : Nat) : Within mine (self.release ref) := by
  unfold Receiver.release withObject
  split
  · exact within
  · rename_i transfer found
    have cancelled : Within mine { self with urls := self.urls.cancel transfer.blobUrl } :=
      within.aside rfl fun _ => id
    have named : mine transfer.fileId := within.found found
    exact Within.put cancelled named

theorem Within.withObject {action : ReceiveTransfer → Receiver} (within : Within mine self)
    (acts : ∀ transfer, mine transfer.fileId → Within mine (action transfer)) :
    Within mine (self.withObject ref action) := by
  unfold Receiver.withObject
  split
  · exact within
  · rename_i transfer found
    exact acts transfer (within.found found)

theorem Within.withRegistered {action : Nat → ReceiveTransfer → Receiver}
    (within : Within mine self)
    (acts : ∀ ref transfer, mine transfer.fileId → Within mine (action ref transfer)) :
    Within mine (self.withRegistered fileId action) := by
  unfold Receiver.withRegistered
  split
  · exact within
  · rename_i ref transfer found
    obtain ⟨_, _, stored⟩ := Option.bind_eq_some_iff.mp found
    obtain ⟨_, found, same⟩ := Option.map_eq_some_iff.mp stored
    cases same
    exact acts ref transfer (within.found found)

end Effects

section Functions

variable {mine : String → Prop} {self : Receiver} {ref : Nat} {fileId : String}

theorem completed_within (within : Within mine self) (blob : Bytes) :
    Within mine (self.completed ref blob) := by
  refine within.withObject fun transfer named => ?_
  have added : Within mine { self with urls := (self.urls.add blob).1 } := within.aside rfl fun _ => id
  dsimp only
  refine Within.note (Within.emit (Within.put added ?_) ref) ?_
  · exact named
  · simp

theorem completionFailed_within (within : Within mine self) (reason : String) :
    Within mine (self.completionFailed ref reason) := by
  refine within.withObject fun transfer named => ?_
  refine Within.suspend (Within.note (Within.emit (Within.put within ?_) ref) ?_) _
  · exact named
  · simp

theorem complete_within (within : Within mine self) : Within mine (self.complete ref) := by
  refine within.withObject fun transfer named => ?_
  dsimp only
  split
  · exact completionFailed_within within _
  · split
    · exact completed_within within _
    · exact Within.suspend within _

theorem hashed_within (digest : Bytes → String) (within : Within mine self) (blob : Bytes)
    (outcome : Outcome) : Within mine (self.hashed digest ref blob outcome) := by
  cases outcome with
  | error message => exact completionFailed_within within message
  | ok done =>
      refine within.withObject fun transfer _ => ?_
      split
      · exact completionFailed_within within _
      · exact completed_within within blob

theorem stopped_within (within : Within mine self) {stopped : ReceiveTransfer}
    (named : mine stopped.fileId) : Within mine (((self.put ref stopped).release ref).emit ref) :=
  Within.emit (Within.release (Within.put within named) ref) ref

theorem accept_within (within : Within mine self) : Within mine (self.accept fileId) := by
  refine within.withRegistered fun ref transfer named => ?_
  split
  · exact within
  · refine Within.suspend (Within.note (Within.emit (Within.put within ?_) ref) ?_) _
    · exact named
    · simp

theorem accepted_within (within : Within mine self) (outcome : Outcome) :
    Within mine (self.accepted ref outcome) := by
  unfold accepted
  split
  · exact within
  · exact within.withObject fun transfer named => stopped_within within named

theorem reject_within (within : Within mine self) (reason : String) :
    Within mine (self.reject fileId reason) := by
  refine within.withRegistered fun ref transfer named => ?_
  refine Within.note (stopped_within within ?_) ?_
  · exact named
  · simp

theorem cancel_within (within : Within mine self) (reason : String) (notify : Bool) :
    Within mine (self.cancel fileId reason notify) := by
  refine within.withRegistered fun ref transfer named => ?_
  dsimp only
  split
  · refine Within.note (stopped_within within ?_) ?_
    · exact named
    · simp
  · exact stopped_within within named

theorem chunk_within (within : Within mine self) (index totalChunks : Nat) (data : String) :
    Within mine (self.chunk fileId index totalChunks data) := by
  refine within.withRegistered fun ref transfer named => ?_
  split
  · exact within
  · split
    · exact Within.suspend (Within.note within (by simp)) _
    · split
      · exact Within.suspend (Within.note within (by simp)) _
      · split
        · exact Within.suspend (Within.note within (by simp)) _
        · rename_i bytes _
          split
          · exact Within.suspend (Within.note within (by simp)) _
          · have stored : Within mine (self.put ref (storeIn transfer index bytes)) := within.put named
            exact Within.suspend (Within.note (Within.note stored (by simp)) (by simp)) _

theorem acked_within (within : Within mine self) : Within mine (self.acked ref) := by
  have shown := within.emit ref
  refine shown.withObject fun transfer _ => ?_
  split
  · exact complete_within shown
  · exact shown

theorem completeNotice_within (within : Within mine self) : Within mine (self.completeNotice fileId) := by
  refine within.withRegistered fun ref transfer named => ?_
  split
  · exact within
  · split
    · have waiting : Within mine (self.put ref
          { transfer with reason := some "Waiting for missing chunks" }) := within.put named
      exact waiting.emit ref
    · exact within

theorem remove_within (within : Within mine self) : Within mine (self.remove fileId) := by
  refine within.withRegistered fun ref transfer _ => ?_
  split
  · exact (within.release ref).aside rfl fun _ => id
  · exact within

theorem releaseAll_within (refs : List Nat) (within : Within mine self) :
    Within mine (refs.foldl Receiver.release self) := by
  induction refs generalizing self with
  | nil => exact within
  | cons ref rest ih => exact ih (within.release ref)

theorem reset_within (within : Within mine self) : Within mine self.reset :=
  (releaseAll_within self.transfers.values within).aside rfl fun _ => id

theorem register_within {fields : FileOffer} (within : Within mine self) (named : mine fields.fileId) :
    Within mine (self.register fields) := by
  have added : Within mine { self with
      objects := self.objects ++ [newTransfer fields]
      transfers := self.transfers.set fields.fileId self.objects.length } := by
    refine ⟨fun fileId member => ?_, within.shown⟩
    rw [ids, List.map_append, List.mem_append] at member
    rcases member with old | new
    · exact within.objects fileId old
    · rw [List.mem_singleton.mp new]
      exact named
  exact added.emit _

theorem enter_within {fields : FileOffer} (within : Within mine self)
    (named : (∀ ref ∈ self.transfers.values, self.isActive fields.fileId ref = false) →
      mine fields.fileId) : Within mine (self.enter fields) := by
  unfold enter
  split
  · exact Within.note within (by simp)
  · rename_i free
    rw [Bool.not_eq_true, List.any_eq_false] at free
    exact register_within within (named fun ref member => Bool.eq_false_iff.mpr (free ref member))

/-- The id of an offer is known once the offer is taken. -/
theorem offer_within {fields : FileOffer} (within : Within mine self)
    (named : self.Takes fields → mine fields.fileId) : Within mine (self.offer fields) := by
  unfold offer
  split
  · exact Within.note within (by simp)
  · rename_i sized
    split
    · exact Within.note within (by simp)
    · rename_i measured
      have size : fields.size ≠ 0 ∧ fields.size ≤ self.files.maxFileBytes ∧
          fields.size ≤ self.files.maxMemoryReceiveBytes := by
        omega
      have chunks : fields.chunkSize ≠ 0 ∧ fields.chunkSize ≤ self.files.chunkBytes ∧
          fields.totalChunks ≠ 0 ∧
          fields.totalChunks = chunkCount fields.size fields.chunkSize ∧
          fields.totalChunks ≤ chunkCount self.files.maxFileBytes (max 1 fields.chunkSize) := by
        simpa only [not_or, not_not, Nat.not_lt, ne_eq] using measured
      split
      · rename_i fresh
        refine enter_within within fun free => named ⟨size, chunks, ?_, free⟩
        rw [fresh]
        nofun
      · rename_i ref previous found
        split
        · rename_i ended
          -- A transfer that has ended makes way for a new offer of its id.
          have removed : Within mine { self.release ref with
              transfers := (self.release ref).transfers.delete fields.fileId } :=
            (within.release ref).aside rfl fun _ => id
          refine enter_within removed fun free => named ⟨size, chunks, ?_, fun other member => ?_⟩
          · intro entry listed
            cases found.symm.trans listed
            exact ended
          · obtain ⟨⟨id, other⟩, listed, rfl⟩ := List.mem_map.mp member
            by_cases own : id = fields.fileId
            · subst own
              have stored := (InsertionMap.get?_eq_some_iff _ _ _).mpr listed
              simp only [lookup, stored, Option.bind_some] at found
              obtain ⟨transfer, kept, same⟩ := Option.map_eq_some_iff.mp found
              cases same
              simp only [isActive, kept]
              -- It has ended, so it was not the active one.
              cases status : previous.status <;> simp [ReceiverStatus.terminal, status] at ended ⊢
            · rw [← release_isActive self ref]
              refine free other (List.mem_map.mpr ⟨(id, other), ?_, rfl⟩)
              exact (InsertionMap.mem_entries_delete _ _ _).mpr
                ⟨(release_transfers self ref).symm ▸ listed, own⟩
        · exact Within.note within (by simp)

theorem turn_within {digest : Bytes → String} {event : Event} {after : Receiver}
    (within : Within mine self)
    (named : ∀ fields, event = .offer fields → self.Takes fields → mine fields.fileId)
    (stepped : self.turn digest event = some after) : Within mine after := by
  cases event with
  | setProfile files =>
      cases stepped
      exact within.aside rfl fun _ => id
  | offer fields =>
      cases stepped
      exact offer_within within (named fields rfl)
  | accept fileId =>
      cases stepped
      exact accept_within within
  | reject fileId reason =>
      cases stepped
      exact reject_within within reason
  | cancel fileId reason notify =>
      cases stepped
      exact cancel_within within reason notify
  | peerCancel fileId reason =>
      cases stepped
      exact cancel_within within reason false
  | chunk fileId index totalChunks data =>
      cases stepped
      exact chunk_within within index totalChunks data
  | completeNotice fileId =>
      cases stepped
      exact completeNotice_within within
  | remove fileId =>
      cases stepped
      exact remove_within within
  | reset =>
      cases stepped
      exact reset_within within
  | settle ticket outcome =>
      obtain ⟨⟨call, rest⟩, taken, rfl⟩ := Option.map_eq_some_iff.mp stepped
      have free : Within mine { self with calls := rest } := within.aside rfl fun _ => id
      cases call with
      | accepting ref => exact accepted_within free outcome
      | acking ref => exact acked_within free
      | hashing ref blob => exact hashed_within digest free blob outcome
      | replying => exact free

end Functions

end OnlyTwo.FileReceiver
