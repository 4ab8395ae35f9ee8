import OnlyTwo.FileReceiverStorage

/-!
Incoming transfers that have ended. A transfer is dead once it is cancelled or failed, or once
the receiver has let go of its object. Calls that were suspended before that still run to their
end, and `accept` and `complete` write what they find without looking at the status again.
-/

namespace OnlyTwo.FileReceiver

open Bytes FileProtocol Receiver

def Dead (self : Receiver) (ref : Nat) (transfer : ReceiveTransfer) : Prop :=
  transfer.status = .cancelled ∨ transfer.status = .failed ∨ ¬ Listed self ref

section Invariant

variable {event : Event} {self after : Receiver}

/-- A dead transfer has no chunks left, so no ACK that was sent for it completes it. -/
structure Hollow (receiver : Receiver) : Prop where
  named : ∀ fileId ref, receiver.transfers.get? fileId = some ref →
    ∃ transfer, receiver.objects[ref]? = some transfer ∧ transfer.fileId = fileId
  total : ∀ (ref : Nat) transfer, receiver.objects[ref]? = some transfer → 0 < transfer.totalChunks
  empty : ∀ (ref : Nat) transfer, receiver.objects[ref]? = some transfer →
    Dead receiver ref transfer → transfer.received = .empty

theorem create_hollow (files : FileLimits) : Hollow (create files) where
  named := by intro fileId ref listed; cases listed
  total := by intro ref transfer found; cases found
  empty := by intro ref transfer found; cases found

theorem Change.fields {ref : Nat} {old new : ReceiveTransfer}
    (changed : Change event self ref old new) :
    new.fileId = old.fileId ∧ new.totalChunks = old.totalChunks := by
  cases changed <;> exact ⟨rfl, rfl⟩

theorem listed_of_same (transfers : after.transfers = self.transfers) (ref : Nat) :
    Listed after ref ↔ Listed self ref := by
  simp only [Listed, transfers]

/-- What is written to a dead object, or makes an object dead, leaves it empty. -/
theorem Change.empty {ref : Nat} {old new : ReceiveTransfer} (hollow : Hollow self)
    (found : self.objects[ref]? = some old) (changed : Change event self ref old new)
    (dead : Dead self ref new) : new.received = .empty := by
  cases changed with
  | reason text => exact hollow.empty ref old found dead
  | accept listed offered =>
      rcases dead with status | status | unlisted
      · cases status
      · cases status
      · exact absurd listed unlisted
  | store listed receiving inside new sized =>
      rcases dead with status | status | unlisted
      · exact nomatch receiving.symm.trans status
      · exact nomatch receiving.symm.trans status
      · exact absurd listed unlisted
  | stop reason stopped => rfl
  | fail reason => rfl
  | complete url settling =>
      rcases dead with status | status | unlisted
      · cases status
      · cases status
      · exact hollow.empty ref old found (Or.inr (Or.inr unlisted))

/-- An edit lists no object again and, but for the objects it drops or clears, unlists none. -/
theorem drop_listed {gone : String} {place ref : Nat}
    (listed : self.transfers.get? gone = some place)
    (transfers : after.transfers = self.transfers.delete gone) (other : ref ≠ place)
    (stays : Listed self ref) : Listed after ref := by
  obtain ⟨fileId, there⟩ := stays
  refine ⟨fileId, ?_⟩
  rw [transfers, InsertionMap.get?_delete, if_neg]
  · exact there
  · rintro rfl
    exact other (Option.some.inj (there.symm.trans listed))

theorem Hollow.register_listed (hollow : Hollow self) {offer : FileOffer} {ref : Nat}
    (free : self.lookup offer.fileId = none)
    (transfers : after.transfers = self.transfers.set offer.fileId self.objects.length)
    (stays : Listed self ref) : Listed after ref := by
  obtain ⟨fileId, there⟩ := stays
  refine ⟨fileId, ?_⟩
  rw [transfers, InsertionMap.get?_set_ne]
  · exact there
  · rintro rfl
    obtain ⟨transfer, found, _⟩ := hollow.named _ ref there
    rw [lookup_eq_some.mpr ⟨there, found⟩] at free
    cases free

theorem Edit.hollow (edit : Edit event self after) (hollow : Hollow self) : Hollow after := by
  cases edit with
  | @change place old new found changed objects transfers =>
      obtain ⟨same, total⟩ := changed.fields
      refine ⟨?_, ?_, ?_⟩
      · intro fileId ref listed
        rw [transfers] at listed
        obtain ⟨transfer, held, named⟩ := hollow.named fileId ref listed
        rw [objects]
        rcases set_get new found held with ⟨rfl, rfl, now⟩ | ⟨_, stays⟩
        · exact ⟨new, now, same.trans named⟩
        · exact ⟨transfer, stays, named⟩
      · intro ref transfer stored
        rw [objects] at stored
        rcases get_set stored with ⟨rfl, rfl⟩ | ⟨_, held⟩
        · rw [total]
          exact hollow.total ref old found
        · exact hollow.total ref transfer held
      · intro ref transfer stored dead
        rw [objects] at stored
        rw [Dead, listed_of_same transfers, ← Dead] at dead
        rcases get_set stored with ⟨rfl, rfl⟩ | ⟨_, held⟩
        · exact changed.empty hollow found dead
        · exact hollow.empty ref transfer held dead
  -- The dropped object is released in the same edit.
  | @drop gone place old listed found ended objects transfers =>
      refine ⟨?_, ?_, ?_⟩
      · intro fileId ref stays
        rw [transfers, InsertionMap.get?_delete] at stays
        split at stays
        · cases stays
        obtain ⟨transfer, held, named⟩ := hollow.named fileId ref stays
        rw [objects]
        rcases set_get old.released found held with ⟨rfl, rfl, now⟩ | ⟨_, there⟩
        · exact ⟨transfer.released, now, named⟩
        · exact ⟨transfer, there, named⟩
      · intro ref transfer stored
        rw [objects] at stored
        rcases get_set stored with ⟨rfl, rfl⟩ | ⟨_, held⟩
        · exact hollow.total ref old found
        · exact hollow.total ref transfer held
      · intro ref transfer stored dead
        rw [objects] at stored
        rcases get_set stored with ⟨rfl, rfl⟩ | ⟨other, held⟩
        · rfl
        · exact hollow.empty ref transfer held
            (dead.imp_right (Or.imp_right (mt (drop_listed listed transfers other))))
  | @register offer asked admitted free idle objects transfers =>
      have kept : ∀ (ref : Nat) transfer, self.objects[ref]? = some transfer →
          after.objects[ref]? = some transfer := by
        intro ref transfer found
        rw [objects, List.getElem?_append_left (List.getElem?_eq_some_iff.mp found).1]
        exact found
      refine ⟨?_, ?_, ?_⟩
      · intro fileId ref listed
        rw [transfers, InsertionMap.get?_set] at listed
        split at listed
        · rename_i same
          cases listed
          exact ⟨newTransfer offer, by rw [objects, List.getElem?_concat_length], same.symm⟩
        · obtain ⟨transfer, found, named⟩ := hollow.named fileId ref listed
          exact ⟨transfer, kept ref transfer found, named⟩
      · intro ref transfer stored
        rw [objects] at stored
        rcases get_added stored with found | rfl
        · exact hollow.total ref transfer found
        · exact admitted.total
      · intro ref transfer stored dead
        rw [objects] at stored
        rcases get_added stored with found | rfl
        · exact hollow.empty ref transfer found
            (dead.imp_right (Or.imp_right (mt (hollow.register_listed free transfers))))
        · rfl
  | clear released empty =>
      refine ⟨?_, ?_, ?_⟩
      · intro fileId ref listed
        rw [empty] at listed
        cases listed
      · intro ref transfer stored
        rw [released] at stored
        split at stored
        · obtain ⟨old, found, rfl⟩ := Option.map_eq_some_iff.mp stored
          exact hollow.total ref old found
        · exact hollow.total ref transfer stored
      · intro ref transfer stored _
        rw [released] at stored
        split at stored
        · obtain ⟨old, found, rfl⟩ := Option.map_eq_some_iff.mp stored
          rfl
        · rename_i unlisted
          -- It was registered under no id before either, so it was dead already.
          refine hollow.empty ref transfer stored (Or.inr (Or.inr ?_))
          rintro ⟨fileId, listed⟩
          exact unlisted (List.mem_map.mpr
            ⟨_, (InsertionMap.get?_eq_some_iff _ _ _).mp listed, rfl⟩)

theorem Hollow.of_same (hollow : Hollow self) (objects : after.objects = self.objects)
    (transfers : after.transfers = self.transfers) : Hollow after where
  named := by
    rw [objects, transfers]
    exact hollow.named
  total := by
    rw [objects]
    exact hollow.total
  empty := by
    intro ref transfer found dead
    rw [objects] at found
    rw [Dead, listed_of_same transfers, ← Dead] at dead
    exact hollow.empty ref transfer found dead

theorem Edits.hollow (edits : Edits event self after) (hollow : Hollow self) : Hollow after := by
  induction edits with
  | same objects transfers _ => exact hollow.of_same objects transfers
  | edit _ edit _ ih => exact edit.hollow ih

theorem step_hollow (digest : Bytes → String) (hollow : Hollow self) {notes : List ReceiverNote}
    (stepped : (machine digest).step self event = some (after, notes)) : Hollow after := by
  obtain ⟨turned, moved, same⟩ := Option.map_eq_some_iff.mp stepped
  cases same
  obtain ⟨start, objects, transfers, _, edits⟩ := turn_edits digest moved
  exact edits.hollow (hollow.of_same objects transfers)

/-- No event but the end of a suspended call brings a dead transfer back. -/
theorem Edit.dead (edit : Edit event self after) (kept : ¬ event.settles)
    {ref : Nat} {transfer : ReceiveTransfer} (found : self.objects[ref]? = some transfer)
    (dead : Dead self ref transfer) :
    ∃ now, after.objects[ref]? = some now ∧ Dead after ref now := by
  have inside : ref < self.objects.length := (List.getElem?_eq_some_iff.mp found).1
  cases edit with
  | @change place old new held changed objects transfers =>
      rw [objects]
      rcases set_get new held found with ⟨rfl, rfl, now⟩ | ⟨_, there⟩
      · refine ⟨new, now, ?_⟩
        rw [Dead, listed_of_same transfers]
        cases changed with
        | reason text => exact dead
        | accept listed offered =>
            rcases dead with status | status | unlisted
            · exact nomatch offered.symm.trans status
            · exact nomatch offered.symm.trans status
            · exact absurd listed unlisted
        | store listed receiving within new sized =>
            rcases dead with status | status | unlisted
            · exact nomatch receiving.symm.trans status
            · exact nomatch receiving.symm.trans status
            · exact absurd listed unlisted
        | stop reason stopped =>
            rcases stopped with rfl | rfl
            · exact Or.inl rfl
            · exact Or.inr (Or.inl rfl)
        | fail reason => exact Or.inr (Or.inl rfl)
        -- `completed` is written by the end of a call alone.
        | complete url settling => exact absurd settling kept
      · refine ⟨transfer, there, ?_⟩
        rw [Dead, listed_of_same transfers]
        exact dead
  | @drop gone place old listed held ended objects transfers =>
      have unlisted : ¬ Listed self ref → ¬ Listed after ref := by
        rintro never ⟨fileId, stays⟩
        rw [transfers, InsertionMap.get?_delete] at stays
        split at stays
        · cases stays
        · exact never ⟨fileId, stays⟩
      rw [objects]
      rcases set_get old.released held found with ⟨rfl, rfl, now⟩ | ⟨_, there⟩
      · exact ⟨transfer.released, now, dead.imp_right (Or.imp_right unlisted)⟩
      · exact ⟨transfer, there, dead.imp_right (Or.imp_right unlisted)⟩
  | @register offer asked admitted free idle objects transfers =>
      refine ⟨transfer, ?_, dead.imp_right (Or.imp_right ?_)⟩
      · rw [objects, List.getElem?_append_left inside]
        exact found
      · rintro never ⟨fileId, stays⟩
        rw [transfers, InsertionMap.get?_set] at stays
        split at stays
        · cases stays
          exact Nat.lt_irrefl _ inside
        · exact never ⟨fileId, stays⟩
  | clear released empty =>
      have unlisted : ¬ Listed after ref := by
        rintro ⟨fileId, stays⟩
        rw [empty] at stays
        cases stays
      rw [released, found]
      split
      · exact ⟨_, rfl, Or.inr (Or.inr unlisted)⟩
      · exact ⟨_, rfl, Or.inr (Or.inr unlisted)⟩

theorem Edits.dead (edits : Edits event self after) (kept : ¬ event.settles)
    {ref : Nat} {transfer : ReceiveTransfer} (found : self.objects[ref]? = some transfer)
    (dead : Dead self ref transfer) :
    ∃ now, after.objects[ref]? = some now ∧ Dead after ref now := by
  induction edits with
  | same objects transfers _ =>
      rw [objects]
      refine ⟨transfer, found, ?_⟩
      rw [Dead, listed_of_same transfers]
      exact dead
  | edit edits edit _ ih =>
      obtain ⟨now, held, still⟩ := ih
      exact edit.dead kept held still

end Invariant

section Continuations

variable {self : Receiver} {ref : Nat} {transfer : ReceiveTransfer}

def ReceiveTransfer.failedWith (transfer : ReceiveTransfer) (reason : String) : ReceiveTransfer :=
  { transfer with
    status := .failed
    reason := some reason
    chunks := []
    received := .empty }

theorem completionFailed_eq (found : self.objects[ref]? = some transfer) (reason : String) :
    self.completionFailed ref reason =
      { self with
        objects := self.objects.set ref (transfer.failedWith reason)
        calls := (self.calls.add .replying).1
        notes := self.notes ++ [.onUpdate (transfer.failedWith reason).snapshot,
          .sendApp (.cancel transfer.fileId "receiver validation failed")] } := by
  obtain ⟨inside, _⟩ := List.getElem?_eq_some_iff.mp found
  simp [completionFailed, withObject, found, emit, Receiver.put, note, suspend,
    List.getElem?_set_self inside, ReceiveTransfer.failedWith]

theorem accepted_eq (found : self.objects[ref]? = some transfer) {outcome : Outcome}
    (refused : outcome ≠ .ok true) : ∃ snapshot,
    self.accepted ref outcome =
      { self with
        objects := self.objects.set ref
          (transfer.failedWith "Could not accept file transfer").released
        urls := self.urls.cancel transfer.blobUrl
        notes := self.notes ++ [.onUpdate snapshot] } := by
  obtain ⟨inside, same⟩ := List.getElem?_eq_some_iff.mp found
  unfold accepted
  split
  · exact absurd rfl refused
  · simp [withObject, emit, release, Receiver.put, note, inside, same, List.set_set,
      ReceiveTransfer.failedWith, ReceiveTransfer.released]

theorem acked_eq (found : self.objects[ref]? = some transfer) (total : 0 < transfer.totalChunks)
    (empty : transfer.received = .empty) :
    self.acked ref = { self with notes := self.notes ++ [.onUpdate transfer.snapshot] } := by
  have missing : (0 : Nat) ≠ transfer.totalChunks := Nat.ne_of_lt total
  simp [acked, emit, withObject, found, note, empty, missing]

theorem completed_eq (found : self.objects[ref]? = some transfer) (blob : Bytes) :
    ∃ now snapshot, now.status = .completed ∧
      self.completed ref blob =
        { self with
          objects := self.objects.set ref now
          urls := (self.urls.add blob).1
          notes := self.notes ++ [.onUpdate snapshot, .onComplete ⟨transfer.fileId, transfer.name,
            transfer.mime, transfer.size, blob⟩] } := by
  obtain ⟨inside, _⟩ := List.getElem?_eq_some_iff.mp found
  let now : ReceiveTransfer := { transfer with
    status := .completed
    reason := none
    chunks := []
    blobUrl := some (self.urls.add blob).2 }
  refine ⟨now, now.snapshot, rfl, ?_⟩
  simp [now, completed, withObject, found, emit, Receiver.put, note, List.getElem?_set_self inside]

/-- What a continuation of the object at `ref` leaves alone. -/
structure Own (ref : Nat) (before after : Receiver) : Prop where
  transfers : after.transfers = before.transfers
  others : ∀ other, other ≠ ref → after.objects[other]? = before.objects[other]?

theorem Own.refl (ref : Nat) (self : Receiver) : Own ref self self := ⟨rfl, fun _ _ => rfl⟩

theorem emit_own (self : Receiver) (place ref : Nat) : Own ref self (self.emit place) := by
  obtain ⟨objects, transfers, _⟩ := emit_alike self place
  exact ⟨transfers, fun other _ => by rw [objects]⟩

theorem completed_own (blob : Bytes) : Own ref self (self.completed ref blob) := by
  cases found : self.objects[ref]? with
  | none =>
      simp only [completed, withObject, found]
      exact .refl ref self
  | some transfer =>
      obtain ⟨now, snapshot, _, same⟩ := completed_eq found blob
      rw [same]
      exact ⟨rfl, fun other different => List.getElem?_set_ne (Ne.symm different)⟩

theorem completionFailed_own (reason : String) : Own ref self (self.completionFailed ref reason) := by
  cases found : self.objects[ref]? with
  | none =>
      simp only [completionFailed, withObject, found]
      exact .refl ref self
  | some transfer =>
      rw [completionFailed_eq found]
      exact ⟨rfl, fun other different => List.getElem?_set_ne (Ne.symm different)⟩

theorem complete_own : Own ref self (self.complete ref) := by
  unfold complete withObject
  split
  · exact .refl ref self
  dsimp only
  split
  · exact completionFailed_own _
  split
  · exact completed_own _
  · exact ⟨rfl, fun _ _ => rfl⟩

theorem settle_own (digest : Bytes → String) (outcome : Outcome) {call : ReceiverCall}
    (about : ∀ place, call.ref? = some place → place = ref) :
    Own ref self (self.settle digest outcome call) := by
  cases call with
  | accepting place =>
      cases about place rfl
      by_cases sent : outcome = .ok true
      · subst sent
        exact .refl ref self
      cases found : self.objects[ref]? with
      | none =>
          have same : self.accepted ref outcome = self := by
            unfold accepted
            split <;> simp [withObject, found]
          rw [settle, same]
          exact .refl ref self
      | some transfer =>
          obtain ⟨snapshot, same⟩ := accepted_eq found sent
          rw [settle, same]
          exact ⟨rfl, fun other different => List.getElem?_set_ne (Ne.symm different)⟩
  | acking place =>
      cases about place rfl
      have shown := emit_own self ref ref
      simp only [settle, acked, withObject]
      split
      · exact shown
      split
      · have done : Own ref (self.emit ref) ((self.emit ref).complete ref) := complete_own
        exact ⟨done.transfers.trans shown.transfers, fun other different =>
          (done.others other different).trans (shown.others other different)⟩
      · exact shown
  | hashing place blob =>
      cases about place rfl
      cases outcome with
      | error message => exact completionFailed_own message
      | ok _ =>
          simp only [settle, hashed, withObject]
          split
          · exact .refl ref self
          split
          · exact completionFailed_own _
          · exact completed_own blob
  | replying => exact .refl ref self

end Continuations

section Claim

/-- A suspended call that ends leaves every dead transfer as it was: its status is the same, it
gets no blob URL, and no completed file is reported for it. Nothing brings a dead transfer back. -/
def Undisturbed (digest : Bytes → String) (self : Receiver) (event : Event) : Prop :=
  ∀ after notes, (machine digest).step self event = some (after, notes) →
    ∀ (ref : Nat) transfer, self.objects[ref]? = some transfer → Dead self ref transfer →
      ∃ now, after.objects[ref]? = some now ∧ Dead after ref now ∧
        ∀ ticket outcome call, event = .settle ticket outcome →
          self.calls.get? ticket = some call →
          now.status = transfer.status ∧ (now.blobUrl = none ∨ now.blobUrl = transfer.blobUrl) ∧
            (call.ref? = some ref → after.urls.next = self.urls.next ∧
              ∀ file, .onComplete file ∉ notes)

/-- The ends of suspended calls that spare a dead transfer: its acceptance was handed over, or it
had failed already and fails once more. -/
def Harmless (digest : Bytes → String) (transfer : ReceiveTransfer) (outcome : Outcome) :
    ReceiverCall → Prop
  | .accepting _ => outcome = .ok true ∨ transfer.status = .failed
  | .hashing _ blob => transfer.status = .failed ∧
      ((∃ message, outcome = .error message) ∨ some (digest blob) ≠ transfer.sha256)
  | .acking _ | .replying => True

def Spared (digest : Bytes → String) (self : Receiver) (event : Event) : Prop :=
  ∀ ticket outcome call (ref : Nat) transfer, event = .settle ticket outcome →
    self.calls.get? ticket = some call → call.ref? = some ref →
    self.objects[ref]? = some transfer → Dead self ref transfer → Harmless digest transfer outcome call

variable {digest : Bytes → String} {self : Receiver} {event : Event}

theorem step_settle {after : Receiver} {notes : List ReceiverNote} {ticket : Nat}
    {outcome : Outcome} :
    (machine digest).step self (.settle ticket outcome) = some (after, notes) ↔
      ∃ call, self.calls.get? ticket = some call ∧
        after = ({ self with
          calls := self.calls.remove ticket
          notes := [] } : Receiver).settle digest outcome call ∧ notes = after.notes := by
  simp only [machine, turn, Callbacks.take, Option.map_map, Option.map_eq_some_iff,
    Function.comp_apply, Prod.mk.injEq]
  constructor
  · rintro ⟨call, found, rfl, rfl⟩
    exact ⟨call, found, rfl, rfl⟩
  · rintro ⟨call, found, rfl, rfl⟩
    exact ⟨call, found, rfl, rfl⟩

/-- A continuation on a dead transfer that is spared. -/
theorem settle_spared (hollow : Hollow self) (outcome : Outcome) {call : ReceiverCall} {ref : Nat}
    {transfer : ReceiveTransfer} (silent : self.notes = []) (about : call.ref? = some ref)
    (found : self.objects[ref]? = some transfer) (dead : Dead self ref transfer)
    (harmless : Harmless digest transfer outcome call) :
    ∃ now, (self.settle digest outcome call).objects[ref]? = some now ∧
      now.status = transfer.status ∧ (now.blobUrl = none ∨ now.blobUrl = transfer.blobUrl) ∧
      (self.settle digest outcome call).urls.next = self.urls.next ∧
      ∀ file, .onComplete file ∉ (self.settle digest outcome call).notes := by
  obtain ⟨inside, _⟩ := List.getElem?_eq_some_iff.mp found
  have failed : ∀ reason, transfer.status = .failed →
      ∃ now, (self.completionFailed ref reason).objects[ref]? = some now ∧
        now.status = transfer.status ∧ (now.blobUrl = none ∨ now.blobUrl = transfer.blobUrl) ∧
        (self.completionFailed ref reason).urls.next = self.urls.next ∧
        ∀ file, .onComplete file ∉ (self.completionFailed ref reason).notes := by
    intro reason status
    rw [completionFailed_eq found]
    exact ⟨_, List.getElem?_set_self inside, status.symm, Or.inr rfl, rfl, by simp [silent]⟩
  cases call with
  | accepting place =>
      cases about
      by_cases sent : outcome = .ok true
      · subst sent
        exact ⟨transfer, found, rfl, Or.inr rfl, rfl, by simp [settle, accepted, silent]⟩
      · obtain ⟨snapshot, same⟩ := accepted_eq found sent
        have status := harmless.resolve_left sent
        rw [settle, same]
        refine ⟨_, List.getElem?_set_self inside, status.symm, Or.inl rfl, ?_, by simp [silent]⟩
        cases transfer.blobUrl <;> rfl
  | acking place =>
      cases about
      rw [settle, acked_eq found (hollow.total ref transfer found)
        (hollow.empty ref transfer found dead)]
      exact ⟨transfer, found, rfl, Or.inr rfl, rfl, by simp [silent]⟩
  | hashing place blob =>
      cases about
      obtain ⟨status, outcomes⟩ := harmless
      cases outcome with
      | error message => exact failed message status
      | ok sent =>
          have differs : some (digest blob) ≠ transfer.sha256 := by
            rcases outcomes with ⟨_, same⟩ | differs
            · cases same
            · exact differs
          simp only [settle, hashed, withObject, found, if_pos differs]
          exact failed _ status
  | replying => cases about

/-- A continuation on a dead transfer that is not spared changes its status or completes it. -/
theorem settle_disturbs {outcome : Outcome} {call : ReceiverCall} {ref : Nat}
    {transfer now : ReceiveTransfer} (about : call.ref? = some ref)
    (found : self.objects[ref]? = some transfer)
    (there : (self.settle digest outcome call).objects[ref]? = some now)
    (status : now.status = transfer.status)
    (unreported : ∀ file, .onComplete file ∉ (self.settle digest outcome call).notes) :
    Harmless digest transfer outcome call := by
  obtain ⟨inside, _⟩ := List.getElem?_eq_some_iff.mp found
  have failed : ∀ reason, (self.completionFailed ref reason).objects[ref]? = some now →
      transfer.status = .failed := by
    intro reason stored
    rw [completionFailed_eq found, List.getElem?_set_self inside] at stored
    cases stored
    exact status.symm
  cases call with
  | accepting place =>
      cases about
      by_cases sent : outcome = .ok true
      · exact Or.inl sent
      · obtain ⟨snapshot, same⟩ := accepted_eq found sent
        rw [settle, same, List.getElem?_set_self inside] at there
        cases there
        exact Or.inr status.symm
  | acking place => trivial
  | hashing place blob =>
      cases about
      cases outcome with
      | error message => exact ⟨failed message there, Or.inl ⟨message, rfl⟩⟩
      | ok sent =>
          simp only [settle, hashed, withObject, found] at there unreported
          by_cases same : some (digest blob) = transfer.sha256
          · obtain ⟨done, snapshot, _, ended⟩ := completed_eq found blob
            rw [if_neg (not_not.mpr same), ended] at unreported
            exact absurd (by simp) (unreported
              ⟨transfer.fileId, transfer.name, transfer.mime, transfer.size, blob⟩)
          · rw [if_pos same] at there
            exact ⟨failed _ there, Or.inr same⟩
  | replying => trivial

theorem undisturbed_iff (hollow : Hollow self) :
    Undisturbed digest self event ↔ Spared digest self event := by
  constructor
  · rintro undisturbed ticket outcome call ref transfer rfl waiting about found dead
    obtain ⟨now, there, _, kept⟩ := undisturbed _ _ (step_settle.mpr ⟨call, waiting, rfl, rfl⟩)
      ref transfer found dead
    obtain ⟨status, _, quiet⟩ := kept ticket outcome call rfl waiting
    refine settle_disturbs about ?_ there status (quiet about).2
    exact found
  · intro spared after notes stepped ref transfer found dead
    by_cases settling : event.settles
    · obtain ⟨ticket, outcome, rfl⟩ := settling
      obtain ⟨call, waiting, rfl, rfl⟩ := step_settle.mp stepped
      set begun : Receiver := { self with
        calls := self.calls.remove ticket
        notes := [] }
      have untouched : Hollow begun := hollow.of_same rfl rfl
      -- The call is about this transfer or about another one.
      by_cases about : call.ref? = some ref
      · obtain ⟨now, there, status, url, urls, quiet⟩ := settle_spared untouched outcome rfl about
          found dead (spared ticket outcome call ref transfer rfl waiting about found dead)
        have own : Own ref begun (begun.settle digest outcome call) := by
          refine settle_own digest outcome ?_
          intro place same
          exact Option.some.inj (same.symm.trans about)
        refine ⟨now, there, ?_, ?_⟩
        · rw [Dead, status, listed_of_same own.transfers]
          exact dead
        · rintro _ _ _ ⟨⟩ taken
          exact ⟨status, url, fun _ => ⟨urls, quiet⟩⟩
      · have own : ∃ place, place ≠ ref ∧ Own place begun (begun.settle digest outcome call) := by
          cases other : call.ref? with
          | none =>
              refine ⟨ref + 1, Nat.succ_ne_self ref, settle_own digest outcome ?_⟩
              rw [other]
              exact nofun
          | some place =>
              refine ⟨place, ?_, settle_own digest outcome ?_⟩
              · rintro rfl
                exact about other
              · rw [other]
                exact fun _ same => (Option.some.inj same).symm
        obtain ⟨place, different, own⟩ := own
        refine ⟨transfer, ?_, ?_, ?_⟩
        · rw [own.others ref (Ne.symm different)]
          exact found
        · rw [Dead, listed_of_same own.transfers]
          exact dead
        · rintro _ _ _ ⟨⟩ taken
          refine ⟨rfl, Or.inr rfl, fun same => ?_⟩
          cases taken.symm.trans waiting
          exact absurd same about
    · obtain ⟨turned, moved, same⟩ := Option.map_eq_some_iff.mp stepped
      cases same
      obtain ⟨start, objects, transfers, _, edits⟩ := turn_edits digest moved
      have still : Dead start ref transfer := by
        rw [Dead, listed_of_same transfers]
        exact dead
      have held : start.objects[ref]? = some transfer := by
        rw [objects]
        exact found
      obtain ⟨now, there, ended⟩ := edits.dead settling held still
      refine ⟨now, there, ended, ?_⟩
      rintro ticket outcome call rfl
      exact absurd ⟨ticket, outcome, rfl⟩ settling

/-- In a run dead transfers are left alone at every step exactly when every step spares them. -/
theorem dead_transfers_stay_iff (digest : Bytes → String) (files : FileLimits)
    (events : List Event) :
    (machine digest).Along (Undisturbed digest) (create files) events ↔
      (machine digest).Along (Spared digest) (create files) events := by
  suffices along : ∀ self, Hollow self → ((machine digest).Along (Undisturbed digest) self events ↔
      (machine digest).Along (Spared digest) self events) from along _ (create_hollow files)
  induction events with
  | nil => exact fun _ _ => Iff.rfl
  | cons event rest ih =>
      intro self hollow
      simp only [Machine.Along, undisturbed_iff hollow]
      refine and_congr_right fun _ => ?_
      constructor
      · intro along next outputs stepped
        exact (ih next (step_hollow digest hollow stepped)).mp (along next outputs stepped)
      · intro along next outputs stepped
        exact (ih next (step_hollow digest hollow stepped)).mpr (along next outputs stepped)

/-- A transfer that the peer cancels while its acceptance is on the way fails afterwards. -/
theorem cancelled_transfer_fails : ¬ ∀ digest files events,
    (machine digest).Along (Undisturbed digest) (create files) events := by
  intro claim
  have along := claim (fun _ => "") pairProfile [.offer ⟨"f", [], [], 3, 2, 2, none⟩, .accept "f",
    .peerCancel "f" "bye", .settle 0 (.ok false)]
  have last := (((along.2 _ _ rfl).2 _ _ rfl).2 _ _ rfl).1
  obtain ⟨now, found, _, kept⟩ := last _ _ rfl 0 _ rfl (Or.inl rfl)
  cases found
  cases (kept 0 (.ok false) (.accepting 0) rfl rfl).1

end Claim

end OnlyTwo.FileReceiver
