import OnlyTwo.FileReceiverEffects

/-!
What a turn of a receiver does to its objects and to its map of transfers, as a short chain of
edits. An edit is whole where the code is: a cancelled object is released in the same edit, so
between two edits the receiver looks as it does between two turns. Notes, calls and URLs are
left out.
-/

namespace OnlyTwo.FileReceiver

open Bytes FileProtocol Receiver

def ReceiveTransfer.released (transfer : ReceiveTransfer) : ReceiveTransfer :=
  { transfer with
    chunks := []
    received := .empty
    blobUrl := none }

/-- The checks of `offer` on the sizes. -/
structure Admitted (files : FileLimits) (offer : FileOffer) : Prop where
  size : 0 < offer.size
  chunkSize : 0 < offer.chunkSize
  total : 0 < offer.totalChunks
  counted : offer.totalChunks = chunkCount offer.size offer.chunkSize
  allowed : offer.size ≤ files.maxFileBytes
  memory : offer.size ≤ files.maxMemoryReceiveBytes

def Listed (self : Receiver) (ref : Nat) : Prop :=
  ∃ fileId, self.transfers.get? fileId = some ref

def Event.settles (event : Event) : Prop := ∃ ticket outcome, event = .settle ticket outcome

/-- What a turn writes to one object. Only a call that is taken up completes a transfer. -/
inductive Change (event : Event) (self : Receiver) (ref : Nat) (old : ReceiveTransfer) :
    ReceiveTransfer → Prop where
  | reason (text : Option String) : Change event self ref old { old with reason := text }
  | accept (listed : Listed self ref) (offered : old.status = .offered) :
      Change event self ref old { old with status := .receiving, reason := none }
  | store {index : Nat} {bytes : Bytes} (listed : Listed self ref)
      (receiving : old.status = .receiving) (inside : index < old.totalChunks)
      (new : old.received.has index = false) (sized : bytes.length = expectedBytes old index) :
      Change event self ref old (storeIn old index bytes)
  | stop {status : ReceiverStatus} (reason : Option String)
      (stopped : status = .cancelled ∨ status = .failed) :
      Change event self ref old ({ old with status, reason } : ReceiveTransfer).released
  | fail (reason : Option String) :
      Change event self ref old { old with
        status := .failed
        reason
        chunks := []
        received := .empty }
  | complete (url : Nat) (settling : event.settles) :
      Change event self ref old { old with
        status := .completed
        reason := none
        chunks := []
        blobUrl := some url }

/-- No other registered transfer is offered or being received. -/
def NoneActive (self : Receiver) (fileId : String) : Prop :=
  ∀ other ref transfer, self.transfers.get? other = some ref → self.objects[ref]? = some transfer →
    transfer.fileId ≠ fileId → transfer.status.opened = false

/-- One edit. The limits stay as they are. -/
inductive Edit (event : Event) (self after : Receiver) : Prop where
  | change {ref : Nat} {old new : ReceiveTransfer} (found : self.objects[ref]? = some old)
      (changed : Change event self ref old new) (objects : after.objects = self.objects.set ref new)
      (transfers : after.transfers = self.transfers)
  | drop {fileId : String} {ref : Nat} {old : ReceiveTransfer}
      (listed : self.transfers.get? fileId = some ref) (found : self.objects[ref]? = some old)
      (ended : old.status.terminal = true)
      (objects : after.objects = self.objects.set ref old.released)
      (transfers : after.transfers = self.transfers.delete fileId)
  | register {offer : FileOffer} (asked : event = .offer offer)
      (admitted : Admitted self.files offer) (free : self.lookup offer.fileId = none)
      (idle : NoneActive self offer.fileId)
      (objects : after.objects = self.objects ++ [newTransfer offer])
      (transfers : after.transfers = self.transfers.set offer.fileId self.objects.length)
  | clear (objects : ∀ ref, after.objects[ref]? =
        if ref ∈ self.transfers.values then (self.objects[ref]?).map ReceiveTransfer.released
        else self.objects[ref]?)
      (transfers : after.transfers = .empty)

inductive Edits (event : Event) (self : Receiver) : Receiver → Prop where
  | same {after : Receiver} (objects : after.objects = self.objects)
      (transfers : after.transfers = self.transfers) (files : after.files = self.files) :
      Edits event self after
  | edit {middle after : Receiver} (edits : Edits event self middle)
      (edit : Edit event middle after) (files : after.files = middle.files) : Edits event self after

section Effects
variable {event : Event} {self middle after : Receiver} {ref : Nat} {old : ReceiveTransfer}

theorem Edits.one (edit : Edit event self after) (files : after.files = self.files) :
    Edits event self after := .edit (.same rfl rfl rfl) edit files

/-- What notes, calls and URLs do is no edit. -/
theorem Edit.then (edit : Edit event self middle) (objects : after.objects = middle.objects)
    (transfers : after.transfers = middle.transfers) : Edit event self after := by
  cases edit with
  | change found changed set same =>
      exact .change found changed (objects.trans set) (transfers.trans same)
  | drop listed found ended set deleted =>
      exact .drop listed found ended (objects.trans set) (transfers.trans deleted)
  | register asked admitted free idle added listed =>
      exact .register asked admitted free idle (objects.trans added) (transfers.trans listed)
  | clear released empty =>
      exact .clear (fun ref => by rw [objects]; exact released ref) (transfers.trans empty)

theorem Edits.then (edits : Edits event self middle) (objects : after.objects = middle.objects)
    (transfers : after.transfers = middle.transfers) (files : after.files = middle.files) :
    Edits event self after := by
  cases edits with
  | same first second third =>
      exact .same (objects.trans first) (transfers.trans second) (files.trans third)
  | edit edits edit same => exact .edit edits (edit.then objects transfers) (files.trans same)

/-- The parts of a receiver that edits are about. -/
def Alike (self other : Receiver) : Prop :=
  other.objects = self.objects ∧ other.transfers = self.transfers ∧ other.files = self.files

theorem Edits.alike (edits : Edits event self middle) (same : Alike middle after) :
    Edits event self after := edits.then same.1 same.2.1 same.2.2

theorem emit_alike (self : Receiver) (ref : Nat) : Alike self (self.emit ref) := by
  unfold emit withObject
  split <;> exact ⟨rfl, rfl, rfl⟩

theorem release_objects (found : self.objects[ref]? = some old) :
    (self.release ref).objects = self.objects.set ref old.released := by
  simp only [release, withObject, found, Receiver.put, ReceiveTransfer.released]

theorem release_files (self : Receiver) (ref : Nat) : (self.release ref).files = self.files := by
  unfold release withObject
  split <;> rfl

theorem withRegistered_edits {fileId : String} {action : Nat → ReceiveTransfer → Receiver}
    (runs : ∀ ref transfer, self.transfers.get? fileId = some ref →
      self.objects[ref]? = some transfer → Edits event self (action ref transfer)) :
    Edits event self (self.withRegistered fileId action) := by
  unfold withRegistered
  split
  · exact .same rfl rfl rfl
  · rename_i ref transfer looked
    obtain ⟨listed, found⟩ := lookup_eq_some.mp looked
    exact runs ref transfer listed found

theorem put_edits {new : ReceiveTransfer} (found : self.objects[ref]? = some old)
    (changed : Change event self ref old new) (urls : Callbacks Bytes) :
    Edits event self ((({ self with urls } : Receiver).put ref new).emit ref) := by
  have edit : Edit event self (({ self with urls } : Receiver).put ref new) :=
    .change found changed rfl rfl
  exact (Edits.one edit rfl).alike (emit_alike _ _)

theorem stop_edits {status : ReceiverStatus} (reason : Option String)
    (found : self.objects[ref]? = some old) (stopped : status = .cancelled ∨ status = .failed) :
    Edits event self (((self.put ref { old with status, reason }).release ref).emit ref) := by
  obtain ⟨inside, _⟩ := List.getElem?_eq_some_iff.mp found
  have written : (self.put ref { old with status, reason }).objects[ref]? =
      some { old with status, reason } := List.getElem?_set_self inside
  have objects := release_objects written
  simp only [Receiver.put, List.set_set] at objects
  have edit : Edit event self ((self.put ref { old with status, reason }).release ref) :=
    .change found (.stop reason stopped) objects (release_transfers _ _)
  exact (Edits.one edit (release_files _ _)).alike (emit_alike _ _)

end Effects

section Functions
variable {event : Event} {self : Receiver} {ref : Nat} {fileId : String}

theorem completed_edits (settling : event.settles) (blob : Bytes) :
    Edits event self (self.completed ref blob) := by
  unfold completed withObject
  split
  · exact .same rfl rfl rfl
  · rename_i transfer found
    have shown : Edits event self _ :=
      put_edits found (.complete (self.urls.add blob).2 settling) (self.urls.add blob).1
    exact shown.then rfl rfl rfl

theorem completionFailed_edits (reason : String) :
    Edits event self (self.completionFailed ref reason) := by
  unfold completionFailed withObject
  split
  · exact .same rfl rfl rfl
  · rename_i transfer found
    have failed : Edits event self _ := put_edits found (.fail (some reason)) self.urls
    exact failed.then rfl rfl rfl

theorem complete_edits (settling : event.settles) : Edits event self (self.complete ref) := by
  unfold complete withObject
  split
  · exact .same rfl rfl rfl
  · dsimp only
    split
    · exact completionFailed_edits _
    split
    · exact completed_edits settling _
    · exact .same rfl rfl rfl

theorem Edits.trans {middle after : Receiver} (first : Edits event self middle)
    (second : Edits event middle after) : Edits event self after := by
  induction second with
  | same objects transfers files => exact first.then objects transfers files
  | edit _ edit files ih => exact .edit ih edit files

theorem settle_edits (digest : Bytes → String) (settling : event.settles) (outcome : Outcome)
    (call : ReceiverCall) : Edits event self (self.settle digest outcome call) := by
  cases call with
  | accepting ref =>
      simp only [settle, accepted]
      split
      · exact .same rfl rfl rfl
      unfold withObject
      split
      · exact .same rfl rfl rfl
      · rename_i transfer found
        exact stop_edits _ found (Or.inr rfl)
  | acking ref =>
      -- The update is shown whether or not this was the last chunk.
      have shown : Edits event self (self.emit ref) :=
        Edits.alike (.same rfl rfl rfl) (emit_alike self ref)
      simp only [settle, acked, withObject]
      split
      · exact shown
      split
      · exact shown.trans (complete_edits settling)
      · exact shown
  | hashing ref blob =>
      cases outcome with
      | error message => exact completionFailed_edits message
      | ok _ =>
          simp only [settle, hashed, withObject]
          split
          · exact .same rfl rfl rfl
          split
          · exact completionFailed_edits _
          · exact completed_edits settling blob
  | replying => exact .same rfl rfl rfl

theorem drop_edit {old : ReceiveTransfer} (listed : self.transfers.get? fileId = some ref)
    (found : self.objects[ref]? = some old) (ended : old.status.terminal = true) :
    Edits event self
      { self.release ref with transfers := (self.release ref).transfers.delete fileId } := by
  refine Edits.one (.drop listed found ended (release_objects found) ?_) (release_files _ _)
  rw [release_transfers]

theorem remove_edits : Edits event self (self.remove fileId) := by
  refine withRegistered_edits ?_
  intro ref transfer listed found
  split
  · rename_i ended
    rw [← release_transfers self ref]
    exact drop_edit listed found ended
  · exact .same rfl rfl rfl

theorem enter_edits {offer : FileOffer} (asked : event = .offer offer)
    (admitted : Admitted self.files offer) (free : self.lookup offer.fileId = none) :
    Edits event self (self.enter offer) := by
  unfold enter
  split
  · exact .same rfl rfl rfl
  · rename_i quiet
    suffices idle : NoneActive self offer.fileId by
      have edit : Edit event self { self with
          objects := self.objects ++ [newTransfer offer]
          transfers := self.transfers.set offer.fileId self.objects.length } :=
        .register asked admitted free idle rfl rfl
      exact (Edits.one edit rfl).alike (emit_alike _ _)
    intro other ref transfer listed found different
    have member : ref ∈ self.transfers.values :=
      List.mem_map.mpr ⟨_, (InsertionMap.get?_eq_some_iff _ _ _).mp listed, rfl⟩
    have inactive : self.isActive offer.fileId ref ≠ true :=
      fun active => quiet (List.any_eq_true.mpr ⟨ref, member, active⟩)
    simp only [isActive, found, different, not_false_eq_true, true_and, ne_eq,
      decide_eq_true_eq] at inactive
    simpa [ReceiverStatus.opened] using inactive

theorem offer_edits {offer : FileOffer} (asked : event = .offer offer) :
    Edits event self (self.offer offer) := by
  unfold Receiver.offer
  split
  · exact .same rfl rfl rfl
  rename_i small
  split
  · exact .same rfl rfl rfl
  rename_i valid
  simp only [not_or, not_not] at small valid
  have admitted : Admitted self.files offer :=
    ⟨by omega, by omega, by omega, valid.2.2.2.1, by omega, by omega⟩
  split
  · rename_i absent
    exact enter_edits asked admitted absent
  · rename_i ref previous looked
    obtain ⟨listed, found⟩ := lookup_eq_some.mp looked
    split
    · rename_i ended
      refine (drop_edit listed found ended).trans (enter_edits asked ?_ ?_)
      · rw [show ({ self.release ref with
          transfers := (self.release ref).transfers.delete offer.fileId } : Receiver).files =
            self.files from release_files self ref]
        exact admitted
      · simp [lookup, InsertionMap.get?_delete]
    · exact .same rfl rfl rfl

theorem accept_edits : Edits event self (self.accept fileId) := by
  refine withRegistered_edits ?_
  intro ref transfer listed found
  split
  · exact .same rfl rfl rfl
  · rename_i offered
    have shown : Edits event self _ :=
      put_edits found (.accept ⟨fileId, listed⟩ (not_not.mp offered)) self.urls
    exact shown.then rfl rfl rfl

theorem cancel_edits (reason : String) (notify : Bool) :
    Edits event self (self.cancel fileId reason notify) := by
  refine withRegistered_edits ?_
  intro ref transfer listed found
  have stopped : Edits event self _ := stop_edits (some reason) found (Or.inl rfl)
  dsimp only
  split
  · exact stopped.then rfl rfl rfl
  · exact stopped

theorem reject_edits (reason : String) : Edits event self (self.reject fileId reason) := by
  refine withRegistered_edits ?_
  intro ref transfer listed found
  have stopped : Edits event self _ := stop_edits (some reason) found (Or.inl rfl)
  exact stopped.then rfl rfl rfl

theorem completeNotice_edits : Edits event self (self.completeNotice fileId) := by
  refine withRegistered_edits ?_
  intro ref transfer _ found
  split
  · exact .same rfl rfl rfl
  split
  · exact put_edits found (.reason _) self.urls
  · exact .same rfl rfl rfl

theorem chunk_edits {index totalChunks : Nat} {data : String} :
    Edits event self (self.chunk fileId index totalChunks data) := by
  refine withRegistered_edits ?_
  intro ref transfer listed found
  split
  · exact .same rfl rfl rfl
  rename_i receiving
  split
  · exact .same rfl rfl rfl
  rename_i valid
  split
  · exact .same rfl rfl rfl
  rename_i new
  split
  · exact .same rfl rfl rfl
  rename_i bytes _
  split
  · exact .same rfl rfl rfl
  rename_i sized
  have stored : Change event self ref transfer (storeIn transfer index bytes) :=
    .store ⟨fileId, listed⟩ (not_not.mp receiving) (by omega) (by simpa using new)
      (not_not.mp sized)
  exact Edits.one (.change found stored rfl rfl) rfl

theorem get?_foldl_release (refs : List Nat) (self : Receiver) (ref : Nat) :
    (refs.foldl release self).objects[ref]? =
      if ref ∈ refs then (self.objects[ref]?).map ReceiveTransfer.released
      else self.objects[ref]? := by
  induction refs generalizing self with
  | nil => simp
  | cons first rest ih =>
      rw [List.foldl_cons, ih]
      cases found : self.objects[first]? with
      | none =>
          have same : self.release first = self := by simp [release, withObject, found]
          rw [same]
          by_cases hit : ref = first
          · subst hit
            simp [found]
          · simp [hit]
      | some transfer =>
          rw [release_objects found]
          obtain ⟨inside, _⟩ := List.getElem?_eq_some_iff.mp found
          by_cases hit : ref = first
          · subst hit
            rw [List.getElem?_set_self inside, found]
            simp [ReceiveTransfer.released]
          · rw [List.getElem?_set_ne (Ne.symm hit)]
            simp [hit]

theorem foldl_release_files (refs : List Nat) (self : Receiver) :
    (refs.foldl release self).files = self.files := by
  induction refs generalizing self with
  | nil => rfl
  | cons ref rest ih => rw [List.foldl_cons, ih, release_files]

theorem reset_edits : Edits event self self.reset := by
  have edit : Edit event self self.reset := .clear (get?_foldl_release _ _) rfl
  exact Edits.one edit (foldl_release_files _ _)

/-- Every turn is a chain of edits on a receiver whose limits are those of the moment. -/
theorem turn_edits (digest : Bytes → String) {after : Receiver}
    (stepped : self.turn digest event = some after) :
    ∃ start, start.objects = self.objects ∧ start.transfers = self.transfers ∧
      ((∀ files, event ≠ .setProfile files) → start.files = self.files) ∧
      Edits event start after := by
  have whole : Edits event self after → ∃ start : Receiver, start.objects = self.objects ∧
      start.transfers = self.transfers ∧
      ((∀ files, event ≠ .setProfile files) → start.files = self.files) ∧
      Edits event start after := fun edits => ⟨self, rfl, rfl, fun _ => rfl, edits⟩
  cases event with
  | setProfile files =>
      cases stepped
      exact ⟨{ self with files }, rfl, rfl, fun kept => absurd rfl (kept files),
        .same rfl rfl rfl⟩
  | offer fields => cases stepped; exact whole (offer_edits rfl)
  | accept fileId => cases stepped; exact whole accept_edits
  | reject fileId reason => cases stepped; exact whole (reject_edits reason)
  | cancel fileId reason notify => cases stepped; exact whole (cancel_edits reason notify)
  | peerCancel fileId reason => cases stepped; exact whole (cancel_edits reason false)
  | chunk fileId index totalChunks data => cases stepped; exact whole chunk_edits
  | completeNotice fileId => cases stepped; exact whole completeNotice_edits
  | remove fileId => cases stepped; exact whole remove_edits
  | reset => cases stepped; exact whole reset_edits
  | settle ticket outcome =>
      obtain ⟨⟨call, rest⟩, taken, rfl⟩ := Option.map_eq_some_iff.mp stepped
      exact ⟨{ self with calls := rest }, rfl, rfl, fun _ => rfl, settle_edits digest ⟨_, _, rfl⟩ outcome call⟩

end Functions

end OnlyTwo.FileReceiver
