import OnlyTwo.FileAssembly

/-!
Completed transfers of a receiver. An object URL is handed out once and revoked
only with its object. If message handlers run one after another, at most one of
them is suspended, and never on a completed object. So a turn touches a
completed transfer only when it is cancelled, removed, reset or offered again.
-/

namespace OnlyTwo.FileReceiver

open Bytes FileProtocol Receiver

section Urls

/-- Every blob URL of an object is live and its own, and a registered completed
object has one. -/
structure Shown (receiver : Receiver) : Prop where
  named : ∀ fileId ref, receiver.transfers.get? fileId = some ref → Owns receiver ref fileId
  live : ∀ (ref : Nat) transfer url, receiver.objects[ref]? = some transfer →
    transfer.blobUrl = some url → ∃ blob, receiver.urls.get? url = some blob
  distinct : ∀ (first second : Nat) one two url, receiver.objects[first]? = some one →
    receiver.objects[second]? = some two → one.blobUrl = some url → two.blobUrl = some url →
    first = second
  shown : ∀ fileId (ref : Nat) transfer, receiver.transfers.get? fileId = some ref →
    receiver.objects[ref]? = some transfer → transfer.status = .completed →
    transfer.blobUrl ≠ none

/-- The transfer is completed and its blob can be downloaded. -/
def Complete (receiver : Receiver) (fileId : String) (url : Nat) (blob : Bytes) : Prop :=
  ∃ ref transfer, receiver.transfers.get? fileId = some ref ∧
    receiver.objects[ref]? = some transfer ∧ transfer.status = .completed ∧
    transfer.blobUrl = some url ∧ receiver.urls.get? url = some blob

variable {self : Receiver} {ref : Nat} {old new : ReceiveTransfer}

theorem Shown.put (shown : Shown self) (found : self.objects[ref]? = some old)
    (same : new.fileId = old.fileId) (url : new.blobUrl = old.blobUrl)
    (completed : new.status ≠ .completed ∨ new.status = old.status) :
    Shown (self.put ref new) where
  named := by
    intro fileId other listed
    exact (shown.named fileId other listed).put found same
  live := by
    intro other transfer handle stored held
    rcases get_put stored with ⟨rfl, rfl⟩ | ⟨_, stays⟩
    · exact shown.live other old handle found (url ▸ held)
    · exact shown.live other transfer handle stays held
  distinct := by
    intro first second one two handle early late here there
    have before : ∀ (place : Nat) transfer, (self.put ref new).objects[place]? = some transfer →
        transfer.blobUrl = some handle →
        ∃ earlier, self.objects[place]? = some earlier ∧ earlier.blobUrl = some handle := by
      intro place transfer stored held
      rcases get_put stored with ⟨rfl, rfl⟩ | ⟨_, stays⟩
      · exact ⟨old, found, url ▸ held⟩
      · exact ⟨transfer, stays, held⟩
    obtain ⟨lower, low, mine⟩ := before first one early here
    obtain ⟨upper, high, theirs⟩ := before second two late there
    exact shown.distinct first second lower upper handle low high mine theirs
  shown := by
    intro fileId other transfer listed stored status
    rcases get_put stored with ⟨rfl, rfl⟩ | ⟨_, stays⟩
    · rw [url]
      rcases completed with never | kept
      · exact absurd status never
      · exact shown.shown fileId other old listed found (kept ▸ status)
    · exact shown.shown fileId other transfer listed stays status

theorem get_release {other : Nat} {transfer : ReceiveTransfer} (found : self.objects[ref]? = some old)
    (stored : (self.release ref).objects[other]? = some transfer) :
    (other = ref ∧ transfer.blobUrl = none ∧ transfer.status = old.status) ∨
      (other ≠ ref ∧ self.objects[other]? = some transfer) := by
  simp only [Receiver.release, withObject, found] at stored
  rcases get_put stored with ⟨rfl, rfl⟩ | stays
  · exact Or.inl ⟨rfl, rfl, rfl⟩
  · exact Or.inr stays

theorem release_urls (found : self.objects[ref]? = some old) {url : Nat} {blob : Bytes}
    (live : self.urls.get? url = some blob) (kept : old.blobUrl ≠ some url) :
    (self.release ref).urls.get? url = some blob := by
  simp only [Receiver.release, withObject, found, Receiver.put]
  cases spent : old.blobUrl with
  | none => exact live
  | some other =>
      have different : url ≠ other := by
        rintro rfl
        exact kept spent
      rw [Callbacks.cancel, Callbacks.get?_remove, if_neg different]
      exact live

theorem Shown.release (shown : Shown self) (found : self.objects[ref]? = some old)
    (stopped : ∀ fileId, self.transfers.get? fileId = some ref → old.status ≠ .completed) :
    Shown (self.release ref) where
  named := by
    intro fileId other listed
    rw [release_transfers] at listed
    rw [owns_iff, release_ids, ← owns_iff]
    exact shown.named fileId other listed
  live := by
    intro other transfer url stored held
    rcases get_release found stored with ⟨rfl, none, _⟩ | ⟨different, stays⟩
    · rw [none] at held
      cases held
    · obtain ⟨blob, live⟩ := shown.live other transfer url stays held
      refine ⟨blob, release_urls found live fun same => ?_⟩
      exact different (shown.distinct other ref transfer old url stays found held same)
  distinct := by
    intro first second one two url early late here there
    rcases get_release found early with ⟨_, none, _⟩ | ⟨_, low⟩
    · rw [none] at here
      cases here
    · rcases get_release found late with ⟨_, none, _⟩ | ⟨_, high⟩
      · rw [none] at there
        cases there
      · exact shown.distinct first second one two url low high here there
  shown := by
    intro fileId other transfer listed stored status
    rw [release_transfers] at listed
    rcases get_release found stored with ⟨rfl, _, same⟩ | ⟨_, stays⟩
    · exact absurd (same ▸ status) (stopped fileId listed)
    · exact shown.shown fileId other transfer listed stays status

theorem Shown.unlist (shown : Shown self) {transfers : InsertionMap String Nat}
    (fewer : ∀ fileId ref, transfers.get? fileId = some ref →
      self.transfers.get? fileId = some ref) : Shown { self with transfers } :=
  ⟨fun fileId ref listed => shown.named fileId ref (fewer fileId ref listed), shown.live,
    shown.distinct, fun fileId ref transfer listed => shown.shown fileId ref transfer
      (fewer fileId ref listed)⟩

theorem get?_of_delete {transfers : InsertionMap String Nat} {gone fileId : String}
    (listed : (transfers.delete gone).get? fileId = some ref) :
    fileId ≠ gone ∧ transfers.get? fileId = some ref := by
  rw [InsertionMap.get?_delete] at listed
  split at listed
  · cases listed
  · exact ⟨‹_›, listed⟩

theorem Owns.unique {first second : String} (one : Owns self ref first) (two : Owns self ref second) :
    first = second := by
  rw [owns_iff] at one two
  exact Option.some.inj (one.symm.trans two)

theorem Shown.drop (shown : Shown self) {fileId : String}
    (listed : self.transfers.get? fileId = some ref) (found : self.objects[ref]? = some old) :
    Shown { self.release ref with transfers := (self.release ref).transfers.delete fileId } := by
  rw [release_transfers, ← release_unlisted]
  have fewer : Shown { self with transfers := self.transfers.delete fileId } :=
    shown.unlist fun _ _ stays => (get?_of_delete stays).2
  refine fewer.release found ?_
  intro other stays
  obtain ⟨different, still⟩ := get?_of_delete stays
  exact absurd ((shown.named other ref still).unique (shown.named fileId ref listed)) different

theorem Shown.add (shown : Shown self) (blob : Bytes) :
    Shown { self with urls := (self.urls.add blob).1 } := by
  refine ⟨shown.named, ?_, shown.distinct, shown.shown⟩
  intro other transfer url stored held
  obtain ⟨kept, live⟩ := shown.live other transfer url stored held
  exact ⟨kept, by rw [Callbacks.get?_add, if_neg (Nat.ne_of_lt (Callbacks.get?_lt live))]; exact live⟩

theorem Shown.note (shown : Shown self) (entry : ReceiverNote) : Shown (self.note entry) :=
  ⟨shown.named, shown.live, shown.distinct, shown.shown⟩

theorem Shown.emit (shown : Shown self) : Shown (self.emit ref) := by
  unfold Receiver.emit withObject
  split
  · exact shown
  · exact shown.note _

theorem Shown.complete (shown : Shown self) (found : self.objects[ref]? = some old) (blob : Bytes) :
    Shown (self.completed ref blob) := by
  simp only [completed, withObject, found]
  refine Shown.note (Shown.emit ?_) _
  have newest : ∀ (place : Nat) transfer, self.objects[place]? = some transfer →
      transfer.blobUrl ≠ some self.urls.next := by
    intro place transfer stored same
    obtain ⟨kept, live⟩ := shown.live place transfer _ stored same
    exact Nat.lt_irrefl _ (Callbacks.get?_lt live)
  have added := shown.add blob
  constructor
  · intro fileId other listed
    exact (added.named fileId other listed).put found rfl
  · intro other transfer url stored held
    rcases get_put stored with ⟨rfl, rfl⟩ | ⟨_, stays⟩
    · cases held
      exact ⟨blob, by rw [Receiver.put, Callbacks.get?_add]; exact if_pos rfl⟩
    · exact added.live other transfer url stays held
  · intro first second one two url early late here there
    rcases get_put early with ⟨rfl, rfl⟩ | ⟨_, low⟩
    · rcases get_put late with ⟨rfl, rfl⟩ | ⟨_, high⟩
      · rfl
      · cases here
        exact absurd there (newest second two high)
    · rcases get_put late with ⟨rfl, rfl⟩ | ⟨_, high⟩
      · cases there
        exact absurd here (newest first one low)
      · exact shown.distinct first second one two url low high here there
  · intro fileId other transfer listed stored status
    rcases get_put stored with ⟨rfl, rfl⟩ | ⟨_, stays⟩
    · exact Option.some_ne_none _
    · exact shown.shown fileId other transfer listed stays status

end Urls

section Chains

variable {mine : Nat → Prop} {event : Event} {held : Option ReceiverCall} {start self : Receiver}

theorem Acts.shown (acts : Acts mine event held start self) (shown : Shown start) : Shown self := by
  induction acts with
  | refl => exact shown
  | put _ found _ keeps ih => exact ih.put found keeps.fileId keeps.blobUrl keeps.completed
  | release _ found _ stopped ih =>
      refine ih.release found fun _ _ => ?_
      rcases stopped with same | same <;> rw [same] <;> nofun
  | drop _ listed found _ _ ih => exact ih.drop listed found
  | note _ _ ih => exact ih.note _
  | @store self fileId ref index transfer bytes _ _ found _ _ _ _ _ ih =>
      have kept : Shown (self.put ref (storeIn transfer index bytes)) :=
        ih.put found rfl rfl (Or.inr rfl)
      exact kept.note _
  | ack _ _ _ _ ih => exact ih.note _
  | complete _ found _ _ ih => exact ih.complete found _

/-- A chain leaves the completed objects alone that it does not select. -/
theorem Acts.complete_kept (acts : Acts mine event held start self) (shown : Shown start)
    {fileId : String} {url : Nat} {blob : Bytes} (complete : Complete start fileId url blob)
    (apart : ∀ ref, start.transfers.get? fileId = some ref → ¬ mine ref) :
    Complete self fileId url blob := by
  obtain ⟨ref, transfer, listed, found, status, handle, live⟩ := complete
  have other := apart ref listed
  have set_other : ∀ (self : Receiver) (place : Nat) new, place ≠ ref →
      self.objects[ref]? = some transfer → (self.objects.set place new)[ref]? = some transfer := by
    intro self place new different stored
    rw [List.getElem?_set_ne different]
    exact stored
  suffices kept : self.transfers.get? fileId = some ref ∧ self.objects[ref]? = some transfer ∧
      self.urls.get? url = some blob from
    ⟨ref, transfer, kept.1, kept.2.1, status, handle, kept.2.2⟩
  -- A release revokes the URL of its own object, which is never this one.
  have released : ∀ (self : Receiver) (place : Nat) old, Shown self → mine place →
      self.objects[place]? = some old →
      self.transfers.get? fileId = some ref ∧ self.objects[ref]? = some transfer ∧
        self.urls.get? url = some blob →
      (self.release place).transfers.get? fileId = some ref ∧
        (self.release place).objects[ref]? = some transfer ∧
        (self.release place).urls.get? url = some blob := by
    rintro self place old shown selected held ⟨listed, found, live⟩
    have different : place ≠ ref := by
      rintro rfl
      exact other selected
    refine ⟨by rw [release_transfers]; exact listed, ?_, release_urls held live fun same => ?_⟩
    · simp only [Receiver.release, withObject, held]
      exact set_other self place _ different found
    · exact different (shown.distinct place ref old transfer url held found same handle)
  induction acts with
  | refl => exact ⟨listed, found, live⟩
  | @put self place old new _ _ selected _ ih =>
      refine ⟨ih.1, set_other self place new ?_ ih.2.1, ih.2.2⟩
      rintro rfl
      exact other selected
  | release acts held selected _ ih => exact released _ _ _ (acts.shown shown) selected held ih
  | @drop self gone place old acts there held selected _ ih =>
      obtain ⟨kept, stays, lives⟩ := released self place old (acts.shown shown) selected held ih
      refine ⟨?_, stays, lives⟩
      have different : fileId ≠ gone := by
        rintro rfl
        cases there.symm.trans ih.1
        exact other selected
      rw [InsertionMap.get?_delete, if_neg different]
      exact kept
  | note _ _ ih => exact ih
  | @store self gone place index old bytes _ _ _ selected _ _ _ _ ih =>
      refine ⟨ih.1, set_other self place _ ?_ ih.2.1, ih.2.2⟩
      rintro rfl
      exact other selected
  | ack _ _ _ _ ih => exact ih
  | @complete self place old added _ held selected _ ih =>
      have different : place ≠ ref := by
        rintro rfl
        exact other selected
      have lives : (self.urls.add added).1.get? url = some blob := by
        rw [Callbacks.get?_add, if_neg (Nat.ne_of_lt (Callbacks.get?_lt ih.2.2))]
        exact ih.2.2
      simp only [completed, withObject, held]
      unfold emit withObject
      split <;> exact ⟨ih.1, set_other self place _ different ih.2.1, lives⟩

theorem Acts.calls (acts : Acts mine event held start self) : self.calls = start.calls := by
  have released : ∀ (self : Receiver) ref, (self.release ref).calls = self.calls := by
    intro self ref
    unfold Receiver.release withObject
    split <;> rfl
  induction acts with
  | refl => rfl
  | put _ _ _ _ ih => exact ih
  | release _ _ _ _ ih => exact (released _ _).trans ih
  | drop _ _ _ _ _ ih => exact (released _ _).trans ih
  | note _ _ ih => exact ih
  | store _ _ _ _ _ _ _ _ ih => exact ih
  | ack _ _ _ _ ih => exact ih
  | complete _ found _ _ ih =>
      simp only [completed, withObject, found]
      unfold emit withObject
      split <;> exact ih

def Incomplete (receiver : Receiver) (ref : Nat) : Prop :=
  ∃ transfer, receiver.objects[ref]? = some transfer ∧ transfer.status ≠ .completed

theorem Incomplete.put {ref other : Nat} {old new : ReceiveTransfer} (open_ : Incomplete self other)
    (found : self.objects[ref]? = some old)
    (completed : new.status ≠ .completed ∨ new.status = old.status) :
    Incomplete (self.put ref new) other := by
  obtain ⟨transfer, stored, status⟩ := open_
  rcases set_get new found stored with ⟨rfl, rfl, now⟩ | ⟨_, stays⟩
  · refine ⟨new, now, ?_⟩
    rcases completed with never | same
    · exact never
    · rw [same]
      exact status
  · exact ⟨transfer, stays, status⟩

theorem Incomplete.release {ref other : Nat} (open_ : Incomplete self other) :
    Incomplete (self.release ref) other := by
  unfold Receiver.release withObject
  split
  · exact open_
  · rename_i transfer found
    have revoked : Incomplete { self with urls := self.urls.cancel transfer.blobUrl } other := open_
    exact revoked.put found (Or.inr rfl)

/-- Only the calls of a message handler complete an object. -/
theorem Acts.incomplete (acts : Acts mine event held start self)
    (quiet : ∀ call, held = some call → call.inbound = false) {other : Nat}
    (open_ : Incomplete start other) : Incomplete self other := by
  induction acts with
  | refl => exact open_
  | put _ found _ keeps ih => exact ih.put found keeps.completed
  | release _ _ _ _ ih => exact ih.release
  | drop _ _ _ _ _ ih => exact ih.release
  | note _ _ ih => exact ih
  | @store self fileId ref index transfer bytes _ _ found _ _ _ _ _ ih =>
      have kept : Incomplete (self.put ref (storeIn transfer index bytes)) other :=
        ih.put found (Or.inr rfl)
      exact kept
  | ack _ _ _ _ ih => exact ih
  | complete _ _ _ ready _ =>
      rcases ready with ⟨same, _⟩ | same
      · cases quiet _ same
      · cases quiet _ same

end Chains

section Turns

/-- At most one message handler is suspended, and its object is not completed. -/
structure Serial (receiver : Receiver) : Prop where
  one : ∀ first second early late, receiver.calls.get? first = some early →
    receiver.calls.get? second = some late → early.inbound = true → late.inbound = true →
    first = second
  waiting : ∀ ticket call ref, receiver.calls.get? ticket = some call → call.inbound = true →
    call.ref? = some ref → Incomplete receiver ref

variable {self start last after : Receiver} {event : Event} {held : Option ReceiverCall}

/-- No message handler is suspended. -/
def Idle (receiver : Receiver) : Prop :=
  ∀ ticket call, receiver.calls.get? ticket = some call → call.inbound = false

theorem Idle.serial (idle : Idle self) : Serial self where
  one := by
    intro first second early late one _ inbound
    rw [idle first early one] at inbound
    cases inbound
  waiting := by
    intro ticket call ref found inbound
    rw [idle ticket call found] at inbound
    cases inbound

theorem Idle.suspend (idle : Idle self) {call : ReceiverCall}
    (waits : ∀ ref, call.ref? = some ref → call.inbound = true → Incomplete self ref) :
    Serial (self.suspend call) := by
  have newest : ∀ ticket other, (self.suspend call).calls.get? ticket = some other →
      other.inbound = true → ticket = self.calls.next ∧ other = call := by
    intro ticket other found inbound
    simp only [Receiver.suspend, Callbacks.get?_add] at found
    split at found
    · exact ⟨‹_›, (Option.some.inj found).symm⟩
    · rw [idle ticket other found] at inbound
      cases inbound
  constructor
  · intro first second early late one two here there
    rw [(newest first early one here).1, (newest second late two there).1]
  · intro ticket other ref found inbound about
    obtain ⟨_, rfl⟩ := newest ticket other found inbound
    exact waits ref about inbound

theorem Serial.suspend (serial : Serial self) {call : ReceiverCall} (quiet : call.inbound = false) :
    Serial (self.suspend call) := by
  have older : ∀ ticket other, (self.suspend call).calls.get? ticket = some other →
      other.inbound = true → self.calls.get? ticket = some other := by
    intro ticket other found inbound
    simp only [Receiver.suspend, Callbacks.get?_add] at found
    split at found
    · cases found
      rw [quiet] at inbound
      cases inbound
    · exact found
  constructor
  · intro first second early late one two here there
    exact serial.one first second early late (older _ _ one here) (older _ _ two there) here there
  · intro ticket other ref found inbound about
    exact serial.waiting ticket other ref (older ticket other found inbound) inbound about

theorem register_calls (self : Receiver) (offer : FileOffer) :
    (self.register offer).calls = self.calls := by
  simp only [Receiver.register, emit, withObject]
  split <;> rfl

/-- A turn that takes the place of the suspended handler ends with one again
at most. -/
theorem Ends.serial (ends : Ends event held start last after) (idle : Idle last)
    (waits : ∀ ref, held = some (.acking ref) → Incomplete start ref) : Serial after := by
  cases ends with
  | @register offer _ _ _ =>
      have still : Idle (last.register offer) := by
        intro ticket call found
        rw [register_calls] at found
        exact idle ticket call found
      exact still.serial
  | stop call stops =>
      cases call with
      | none => exact idle.serial
      | some call =>
          refine idle.suspend ?_
          intro ref about inbound
          cases call with
          | accepting other => cases inbound
          | replying => cases about
          | acking other =>
              cases about
              obtain ⟨_, transfer, found, receiving⟩ := stops
              exact ⟨transfer, found, by rw [receiving]; nofun⟩
          | hashing other blob =>
              cases about
              obtain ⟨same, objects, _⟩ := stops
              obtain ⟨transfer, found, status⟩ := waits ref same
              exact ⟨transfer, objects ▸ found, status⟩

/-- A turn that is no part of a message handler suspends none. -/
theorem Ends.quiet (ends : Ends event held start last after) (serial : Serial last)
    (silent : event.inbound = false) (unheld : ∀ call, held = some call → call.inbound = false) :
    Serial after := by
  cases ends with
  | register asked _ _ =>
      rw [asked] at silent
      cases silent
  | stop call stops =>
      cases call with
      | none => exact serial
      | some call =>
          cases call with
          | accepting ref => exact serial.suspend rfl
          | replying =>
              rcases stops with inbound | ⟨call, same, inbound⟩
              · rw [silent] at inbound
                cases inbound
              · rw [unheld call same] at inbound
                cases inbound
          | acking ref => cases silent.symm.trans stops.1
          | hashing ref blob => cases unheld _ stops.1

theorem foldl_release_incomplete (refs : List Nat) {other : Nat} (open_ : Incomplete self other) :
    Incomplete (refs.foldl Receiver.release self) other := by
  induction refs generalizing self with
  | nil => exact open_
  | cons ref rest ih => exact ih open_.release

theorem foldl_release_calls (refs : List Nat) (self : Receiver) :
    (refs.foldl Receiver.release self).calls = self.calls := by
  induction refs generalizing self with
  | nil => rfl
  | cons ref rest ih =>
      rw [List.foldl_cons, ih]
      unfold Receiver.release withObject
      split <;> rfl

theorem turn_serial (digest : Bytes → String) (serial : Serial self)
    (idle : event.inbound = true → Idle self) (stepped : self.turn digest event = some after) :
    Serial after := by
  by_cases reset : event = .reset
  · subst reset
    cases stepped
    have same : self.reset.calls = self.calls := foldl_release_calls _ self
    constructor
    · rw [same]
      exact serial.one
    · rw [same]
      intro ticket call ref found inbound about
      exact foldl_release_incomplete _ (serial.waiting ticket call ref found inbound about)
  · obtain ⟨held, start, resumed, last, acts, ends⟩ := turn_turned digest reset stepped
    have calls := acts.calls
    cases resumed with
    | fresh files =>
        cases loud : event.inbound with
        | true =>
            refine ends.serial ?_ nofun
            intro ticket call found
            rw [calls] at found
            exact idle loud ticket call found
        | false =>
            refine ends.quiet ?_ loud nofun
            constructor
            · rw [calls]
              exact serial.one
            · rw [calls]
              intro ticket call ref found inbound about
              exact acts.incomplete nofun (serial.waiting ticket call ref found inbound about)
    | @taken ticket outcome call found =>
        have fewer : ∀ other stays, last.calls.get? other = some stays →
            self.calls.get? other = some stays ∧ other ≠ ticket := by
          intro other stays held
          rw [calls] at held
          refine ⟨Callbacks.get?_of_remove held, ?_⟩
          rintro rfl
          simp [Callbacks.get?_remove] at held
        cases loud : call.inbound with
        | true =>
            refine ends.serial ?_ ?_
            · intro other stays held
              obtain ⟨there, different⟩ := fewer other stays held
              cases quiet : stays.inbound with
              | false => rfl
              | true => exact absurd (serial.one other ticket stays call there found quiet loud) different
            · intro ref same
              cases same
              exact serial.waiting ticket _ ref found rfl rfl
        | false =>
            have unheld : ∀ other, some call = some other → other.inbound = false := by
              intro other same
              cases same
              exact loud
            refine ends.quiet ?_ rfl unheld
            constructor
            · intro first second early late one two
              exact serial.one first second early late (fewer _ _ one).1 (fewer _ _ two).1
            · intro other stays ref held inbound about
              exact acts.incomplete unheld
                (serial.waiting other stays ref (fewer other stays held).1 inbound about)

theorem register_shown (shown : Shown self) (offer : FileOffer) : Shown (self.register offer) := by
  refine Shown.emit ⟨?_, ?_, ?_, ?_⟩
  · intro fileId ref listed
    rw [InsertionMap.get?_set] at listed
    split at listed
    · rename_i same
      cases listed
      exact ⟨newTransfer offer, by simp, same.symm⟩
    · exact (shown.named fileId ref listed).append _ _
  · intro ref transfer url found held
    rcases get_added found with before | rfl
    · exact shown.live ref transfer url before held
    · cases held
  · intro first second one two url early late here there
    rcases get_added early with low | rfl
    · rcases get_added late with high | rfl
      · exact shown.distinct first second one two url low high here there
      · cases there
    · cases here
  · intro fileId ref transfer listed found status
    rcases get_added found with before | rfl
    · rw [InsertionMap.get?_set] at listed
      split at listed
      · cases listed
        rw [List.getElem?_eq_none (Nat.le_refl _)] at before
        cases before
      · exact shown.shown fileId ref transfer listed before status
    · cases status

theorem Works.shown {mine : Nat → Prop} (works : Works mine event held start after)
    (shown : Shown start) : Shown after := by
  obtain ⟨last, acts, ends⟩ := works
  have kept := acts.shown shown
  cases ends with
  | register _ _ _ => exact register_shown kept _
  | stop call _ =>
      cases call with
      | none => exact kept
      | some call => exact ⟨kept.named, kept.live, kept.distinct, kept.shown⟩

theorem foldl_release_shown (refs : List Nat) (shown : Shown self)
    (unlisted : self.transfers = .empty) : Shown (refs.foldl Receiver.release self) := by
  induction refs generalizing self with
  | nil => exact shown
  | cons ref rest ih =>
      rw [List.foldl_cons]
      refine ih ?_ (by rw [release_transfers]; exact unlisted)
      cases found : self.objects[ref]? with
      | none =>
          simp only [Receiver.release, withObject, found]
          exact shown
      | some transfer =>
          refine shown.release found ?_
          intro fileId listed
          rw [unlisted] at listed
          cases listed

theorem turn_shown (digest : Bytes → String) (shown : Shown self)
    (stepped : self.turn digest event = some after) : Shown after := by
  by_cases reset : event = .reset
  · subst reset
    cases stepped
    rw [Receiver.reset, ← foldl_release_unlisted]
    exact foldl_release_shown _ (shown.unlist (by simp)) rfl
  · obtain ⟨held, start, resumed, works⟩ := turn_turned digest reset stepped
    cases resumed with
    | fresh files =>
        exact works.shown ⟨shown.named, shown.live, shown.distinct, shown.shown⟩
    | taken found =>
        exact works.shown ⟨shown.named, shown.live, shown.distinct, shown.shown⟩

variable {fileId : String} {url : Nat} {blob : Bytes}

theorem register_complete (complete : Complete self fileId url blob) {offer : FileOffer}
    (other : offer.fileId ≠ fileId) : Complete (self.register offer) fileId url blob := by
  obtain ⟨ref, transfer, listed, found, status, handle, live⟩ := complete
  obtain ⟨inside, _⟩ := List.getElem?_eq_some_iff.mp found
  have stays : (self.transfers.set offer.fileId self.objects.length).get? fileId = some ref := by
    rw [InsertionMap.get?_set_ne _ _ (Ne.symm other)]
    exact listed
  have there : (self.objects ++ [newTransfer offer])[ref]? = some transfer := by
    rw [List.getElem?_append_left inside]
    exact found
  simp only [Receiver.register, emit, withObject]
  split <;> exact ⟨ref, transfer, stays, there, status, handle, live⟩

/-- A turn that does not touch the transfer leaves it completed. -/
theorem Turned.complete (turned : Turned self event after) (shown : Shown self)
    (complete : Complete self fileId url blob)
    (apart : ∀ ref, self.transfers.get? fileId = some ref → ¬ Touches self event ref)
    (other : ∀ offer, event = .offer offer → offer.fileId ≠ fileId) :
    Complete after fileId url blob := by
  obtain ⟨held, start, resumed, last, acts, ends⟩ := turned
  have kept : Complete last fileId url blob := by
    cases resumed with
    | fresh files =>
        exact acts.complete_kept ⟨shown.named, shown.live, shown.distinct, shown.shown⟩ complete apart
    | taken found =>
        exact acts.complete_kept ⟨shown.named, shown.live, shown.distinct, shown.shown⟩ complete apart
  cases ends with
  | stop call _ => cases call <;> exact kept
  | register asked _ _ => exact register_complete kept (other _ asked)

/-- What the local user and the channel must not do to the transfer. -/
def Spares (self : Receiver) (fileId : String) : Event → Prop
  | .offer fields => fields.fileId ≠ fileId
  | .reject other _ => other ≠ fileId
  | .cancel other _ _ => other ≠ fileId
  | .peerCancel other _ => other ≠ fileId
  | .remove other => other ≠ fileId
  | .reset => False
  | .settle ticket outcome => ∀ ref, self.calls.get? ticket = some (.accepting ref) →
      outcome = .ok true
  | _ => True

/-- Late chunks and notices find nothing to do. -/
theorem ignored (digest : Bytes → String) (complete : Complete self fileId url blob)
    (late : event = .accept fileId ∨ event = .completeNotice fileId ∨
      ∃ index totalChunks data, event = .chunk fileId index totalChunks data) :
    self.turn digest event = some self := by
  obtain ⟨ref, transfer, listed, found, status, _, _⟩ := complete
  have registered : self.lookup fileId = some (ref, transfer) := lookup_eq_some.mpr ⟨listed, found⟩
  rcases late with rfl | rfl | ⟨index, totalChunks, data, rfl⟩
  · simp [turn, accept, withRegistered, registered, status]
  · simp [turn, completeNotice, withRegistered, registered, status]
  · simp [turn, chunk, withRegistered, registered, status]

theorem turn_complete (digest : Bytes → String) (shown : Shown self) (serial : Serial self)
    (complete : Complete self fileId url blob) (spares : Spares self fileId event)
    (stepped : self.turn digest event = some after) : Complete after fileId url blob := by
  -- An object is registered under its own id only.
  have elsewhere : ∀ other, other ≠ fileId → ∀ ref, self.transfers.get? fileId = some ref →
      self.transfers.get? other ≠ some ref := by
    intro other different ref listed same
    exact different ((shown.named other ref same).unique (shown.named fileId ref listed))
  have apart : ∀ other, other ≠ fileId → (∀ ref, Touches self event ref →
      self.transfers.get? other = some ref) → event ≠ .reset →
      (∀ offer, event = .offer offer → offer.fileId ≠ fileId) → Complete after fileId url blob := by
    intro other different touched kept unoffered
    refine (turn_turned digest kept stepped).complete shown complete ?_ unoffered
    intro ref listed touches
    exact elsewhere other different ref listed (touched ref touches)
  cases event with
  | setProfile files =>
      cases stepped
      exact complete
  | offer fields => exact apart fields.fileId spares (fun _ => id) (by simp) (by rintro _ ⟨⟩; exact spares)
  | reject other reason => exact apart other spares (fun _ => id) (by simp) (by simp)
  | cancel other reason notify => exact apart other spares (fun _ => id) (by simp) (by simp)
  | peerCancel other reason => exact apart other spares (fun _ => id) (by simp) (by simp)
  | remove other => exact apart other spares (fun _ => id) (by simp) (by simp)
  | reset => exact spares.elim
  | accept other =>
      by_cases same : other = fileId
      · subst same
        rw [ignored digest complete (Or.inl rfl)] at stepped
        cases stepped
        exact complete
      · exact apart other same (fun _ => id) (by simp) (by simp)
  | completeNotice other =>
      by_cases same : other = fileId
      · subst same
        rw [ignored digest complete (Or.inr (Or.inl rfl))] at stepped
        cases stepped
        exact complete
      · exact apart other same (fun _ => id) (by simp) (by simp)
  | chunk other index totalChunks data =>
      by_cases same : other = fileId
      · subst same
        rw [ignored digest complete (Or.inr (Or.inr ⟨_, _, _, rfl⟩))] at stepped
        cases stepped
        exact complete
      · exact apart other same (fun _ => id) (by simp) (by simp)
  | settle ticket outcome =>
      by_cases accepting : ∃ ref, self.calls.get? ticket = some (.accepting ref)
      · obtain ⟨ref, found⟩ := accepting
        cases spares ref found
        simp only [turn, Callbacks.take, found, Option.map_some, Option.some.injEq] at stepped
        subst stepped
        exact complete
      · have kept : Event.settle ticket outcome ≠ .reset := by simp
        refine (turn_turned digest kept stepped).complete shown complete ?_ (by simp)
        rintro ref listed ⟨call, found, about⟩
        -- The call is about a chunk, and such calls wait only for transfers that are not
        -- complete.
        have inbound : call.inbound = true := by
          cases call with
          | accepting other => exact absurd ⟨other, found⟩ accepting
          | _ => rfl
        obtain ⟨current, there, unfinished⟩ := serial.waiting ticket call ref found inbound about
        obtain ⟨place, transfer, held, stored, status, _, _⟩ := complete
        cases listed.symm.trans held
        cases there.symm.trans stored
        exact unfinished status

theorem emit_transfers (self : Receiver) (ref : Nat) :
    (self.emit ref).transfers = self.transfers ∧ (self.emit ref).objects = self.objects := by
  unfold emit withObject
  split <;> exact ⟨rfl, rfl⟩

theorem peerCancel_ends (complete : Complete self fileId url blob) (reason : String) :
    ¬ Complete (self.peerCancel fileId reason) fileId url blob := by
  obtain ⟨ref, transfer, listed, found, _⟩ := complete
  have registered : self.lookup fileId = some (ref, transfer) := lookup_eq_some.mpr ⟨listed, found⟩
  obtain ⟨inside, _⟩ := List.getElem?_eq_some_iff.mp found
  simp only [peerCancel, cancel, withRegistered, registered, Bool.false_eq_true, ↓reduceIte]
  rintro ⟨place, current, there, stored, status, _⟩
  rw [(emit_transfers _ _).1, release_transfers] at there
  rw [(emit_transfers _ _).2] at stored
  cases listed.symm.trans there
  rcases get_release (List.getElem?_set_self inside) stored with ⟨_, _, same⟩ | ⟨different, _⟩
  · rw [same] at status
    cases status
  · exact different rfl

end Turns

end OnlyTwo.FileReceiver
