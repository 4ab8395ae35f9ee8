import OnlyTwo.FileReceiverEffects
import OnlyTwo.OutboundMessages

/-!
Every message a file receiver hands to `sendApp` fits the decoder and the control stream.
Its file ids were accepted by the decoder when they came in, its indices too, and its
reasons are texts of its own.
-/

namespace OnlyTwo.FileReceiver

open Bytes FileProtocol Receiver Outbound

section Invariant

structure Bounded (receiver : Receiver) : Prop where
  objects : ∀ transfer ∈ receiver.objects, AppCodec.Text 160 (utf16 transfer.fileId)
  listed : ∀ fileId ∈ receiver.transfers.keys, AppCodec.Text 160 (utf16 fileId)
  notes : ∀ message, .sendApp message ∈ receiver.notes → Sendable (.file message) .control

variable {self : Receiver} {fileId : String} {ref : Nat}

theorem create_bounded (files : FileLimits) : Bounded (create files) := ⟨nofun, nofun, nofun⟩

theorem Bounded.frame {other : Receiver} (bounded : Bounded self) (objects : other.objects = self.objects)
    (listed : ∀ fileId ∈ other.transfers.keys, fileId ∈ self.transfers.keys)
    (notes : ∀ entry ∈ other.notes, entry ∈ self.notes) : Bounded other where
  objects := objects ▸ bounded.objects
  listed := fun fileId member => bounded.listed fileId (listed fileId member)
  notes := fun message member => bounded.notes message (notes _ member)

theorem Bounded.found (bounded : Bounded self) {transfer : ReceiveTransfer}
    (found : self.objects[ref]? = some transfer) : AppCodec.Text 160 (utf16 transfer.fileId) :=
  bounded.objects transfer (List.mem_of_getElem? found)

theorem Bounded.put (bounded : Bounded self) {old new : ReceiveTransfer}
    (found : self.objects[ref]? = some old) (same : new.fileId = old.fileId) :
    Bounded (self.put ref new) where
  objects := by
    intro transfer member
    rcases List.mem_or_eq_of_mem_set member with held | rfl
    · exact bounded.objects transfer held
    · rw [same]
      exact bounded.found found
  listed := bounded.listed
  notes := bounded.notes

theorem Bounded.note (bounded : Bounded self) {entry : ReceiverNote}
    (sendable : ∀ message, entry = .sendApp message → Sendable (.file message) .control) :
    Bounded (self.note entry) where
  objects := bounded.objects
  listed := bounded.listed
  notes := by
    intro message member
    rcases List.mem_append.mp member with early | last
    · exact bounded.notes message early
    · exact sendable message (List.mem_singleton.mp last).symm

theorem Bounded.say (bounded : Bounded self) {message : FileMessage}
    (sendable : Sendable (.file message) .control) : Bounded (self.note (.sendApp message)) := by
  refine bounded.note ?_
  intro other same
  cases same
  exact sendable

theorem Bounded.suspend (bounded : Bounded self) (call : ReceiverCall) : Bounded (self.suspend call) :=
  ⟨bounded.objects, bounded.listed, bounded.notes⟩

theorem withObject_bounded {action : ReceiveTransfer → Receiver} (bounded : Bounded self)
    (runs : ∀ transfer, self.objects[ref]? = some transfer → Bounded (action transfer)) :
    Bounded (self.withObject ref action) := by
  unfold withObject
  split
  · exact bounded
  · rename_i transfer found
    exact runs transfer found

theorem withRegistered_bounded {action : Nat → ReceiveTransfer → Receiver} (bounded : Bounded self)
    (runs : ∀ ref transfer, self.objects[ref]? = some transfer →
      AppCodec.Text 160 (utf16 fileId) → Bounded (action ref transfer)) :
    Bounded (self.withRegistered fileId action) := by
  unfold withRegistered
  split
  · exact bounded
  · rename_i ref transfer looked
    obtain ⟨listed, found⟩ := lookup_eq_some.mp looked
    exact runs ref transfer found (bounded.listed fileId (InsertionMap.mem_keys_of_get? listed))

end Invariant

section Messages

variable {fileId reason : String} {index : Nat}

theorem reject_sendable (named : AppCodec.Text 160 (utf16 fileId)) (some_ : 0 < reason.length)
    (short : reason.length ≤ 120) : Sendable (.file (.reject fileId reason)) .control :=
  ⟨⟨named, text_of_length some_ (by omega)⟩, rfl⟩

theorem cancel_sendable (named : AppCodec.Text 160 (utf16 fileId)) (some_ : 0 < reason.length)
    (short : reason.length ≤ 120) : Sendable (.file (.cancel fileId reason)) .control :=
  ⟨⟨named, text_of_length some_ (by omega)⟩, rfl⟩

theorem ack_sendable (named : AppCodec.Text 160 (utf16 fileId)) (whole : AppCodec.Whole 0 index) :
    Sendable (.file (.ack fileId index)) .control := ⟨⟨named, whole⟩, rfl⟩

theorem nack_sendable (named : AppCodec.Text 160 (utf16 fileId)) (whole : AppCodec.Whole 0 index)
    (some_ : 0 < reason.length) (short : reason.length ≤ 120) :
    Sendable (.file (.nack fileId index reason)) .control :=
  ⟨⟨named, whole, text_of_length some_ (by omega)⟩, rfl⟩

end Messages

section Functions

variable {self : Receiver} {fileId : String} {ref : Nat}

theorem emit_bounded (bounded : Bounded self) : Bounded (self.emit ref) :=
  withObject_bounded bounded fun _ _ => bounded.note nofun

theorem release_bounded (bounded : Bounded self) : Bounded (self.release ref) := by
  refine withObject_bounded bounded ?_
  intro transfer found
  have revoked : Bounded { self with urls := self.urls.cancel transfer.blobUrl } :=
    ⟨bounded.objects, bounded.listed, bounded.notes⟩
  exact revoked.put found rfl

theorem completed_bounded (bounded : Bounded self) (blob : Bytes) : Bounded (self.completed ref blob) := by
  refine withObject_bounded bounded ?_
  intro transfer found
  have shown : Bounded { self with urls := (self.urls.add blob).1 } :=
    ⟨bounded.objects, bounded.listed, bounded.notes⟩
  dsimp only
  refine Bounded.note ?_ nofun
  exact emit_bounded (shown.put found rfl)

theorem completionFailed_bounded (bounded : Bounded self) (reason : String) :
    Bounded (self.completionFailed ref reason) := by
  refine withObject_bounded bounded ?_
  intro transfer found
  refine Bounded.suspend (Bounded.say ?_ ?_) _
  · exact emit_bounded (bounded.put found rfl)
  · exact cancel_sendable (bounded.found found) (by decide) (by decide)

theorem complete_bounded (bounded : Bounded self) : Bounded (self.complete ref) := by
  refine withObject_bounded bounded ?_
  intro transfer _
  dsimp only
  split
  · exact completionFailed_bounded bounded _
  · split
    · exact completed_bounded bounded _
    · exact bounded.suspend _

theorem hashed_bounded (digest : Bytes → String) (bounded : Bounded self) (blob : Bytes)
    (outcome : Outcome) : Bounded (self.hashed digest ref blob outcome) := by
  cases outcome with
  | error message => exact completionFailed_bounded bounded message
  | ok _ =>
      refine withObject_bounded bounded ?_
      intro transfer _
      split
      · exact completionFailed_bounded bounded _
      · exact completed_bounded bounded blob

theorem acked_bounded (bounded : Bounded self) : Bounded (self.acked ref) := by
  refine withObject_bounded (emit_bounded bounded) ?_
  intro transfer _
  split
  · exact complete_bounded (emit_bounded bounded)
  · exact emit_bounded bounded

theorem accepted_bounded (bounded : Bounded self) (outcome : Outcome) :
    Bounded (self.accepted ref outcome) := by
  unfold accepted
  split
  · exact bounded
  · refine withObject_bounded bounded ?_
    intro transfer found
    exact emit_bounded (release_bounded (bounded.put found rfl))

theorem foldl_release_bounded (refs : List Nat) (bounded : Bounded self) :
    Bounded (refs.foldl release self) := by
  induction refs generalizing self with
  | nil => exact bounded
  | cons ref rest ih => exact ih (release_bounded bounded)

theorem reset_bounded (bounded : Bounded self) : Bounded self.reset :=
  (foldl_release_bounded _ bounded).frame rfl nofun (fun _ member => member)

theorem remove_bounded (bounded : Bounded self) : Bounded (self.remove fileId) := by
  refine withRegistered_bounded bounded ?_
  intro ref transfer _ _
  split
  · have released : Bounded (self.release ref) := release_bounded bounded
    refine released.frame rfl ?_ (fun _ member => member)
    intro other member
    rw [release_transfers]
    exact ((InsertionMap.mem_keys_delete _ _ _).mp member).2
  · exact bounded

theorem register_bounded (bounded : Bounded self) {offer : FileOffer}
    (named : AppCodec.Text 160 (utf16 offer.fileId)) : Bounded (self.register offer) := by
  refine emit_bounded ⟨?_, ?_, bounded.notes⟩
  · intro transfer member
    rcases List.mem_append.mp member with held | last
    · exact bounded.objects transfer held
    · rw [List.mem_singleton.mp last]
      exact named
  · intro fileId member
    rcases (InsertionMap.mem_keys_set _ _ _ _).mp member with rfl | held
    · exact named
    · exact bounded.listed fileId held

theorem enter_bounded (bounded : Bounded self) {offer : FileOffer}
    (named : AppCodec.Text 160 (utf16 offer.fileId)) : Bounded (self.enter offer) := by
  unfold enter
  split
  · exact bounded.say (reject_sendable named (by decide) (by decide))
  · exact register_bounded bounded named

theorem offer_bounded (bounded : Bounded self) {offer : FileOffer}
    (fits : (wireFile (.offer offer)).Fits) : Bounded (self.offer offer) := by
  have named := fits.1
  have size : (offer.size : Int) ≤ Js.maxSafeInteger := fits.2.2.2.1.2
  have counted := length_formatBytes_le (Int.ofNat_le.mp size)
  unfold Receiver.offer
  split
  · refine bounded.say (reject_sendable named ?_ ?_)
    all_goals
      have opening : "File is too large for this browser (".length = 36 := rfl
      have closing : ")".length = 1 := rfl
      simp only [String.length_append]
      omega
  · split
    · exact bounded.say (reject_sendable named (by decide) (by decide))
    · split
      · exact enter_bounded bounded named
      · rename_i ref previous _
        dsimp only
        split
        · have released : Bounded (self.release ref) := release_bounded bounded
          refine enter_bounded ?_ named
          refine released.frame rfl ?_ (fun _ member => member)
          intro other member
          exact ((InsertionMap.mem_keys_delete _ _ _).mp member).2
        · exact bounded.say (reject_sendable named (by decide) (by decide))

theorem accept_bounded (bounded : Bounded self) : Bounded (self.accept fileId) := by
  refine withRegistered_bounded bounded ?_
  intro ref transfer found named
  split
  · exact bounded
  · refine Bounded.suspend (Bounded.say ?_ ?_) _
    · exact emit_bounded (bounded.put found rfl)
    · exact ⟨named, rfl⟩

theorem reject_bounded (bounded : Bounded self) : Bounded (self.reject fileId "declined") := by
  refine withRegistered_bounded bounded ?_
  intro ref transfer found named
  refine Bounded.say ?_ (reject_sendable named (by decide) (by decide))
  exact emit_bounded (release_bounded (bounded.put found rfl))

theorem cancel_bounded (bounded : Bounded self) {reason : String} {notify : Bool}
    (told : notify = true → reason = "cancelled") : Bounded (self.cancel fileId reason notify) := by
  refine withRegistered_bounded bounded ?_
  intro ref transfer found named
  have cancelled : Bounded (((self.put ref { transfer with
      status := .cancelled
      reason := some reason }).release ref).emit ref) :=
    emit_bounded (release_bounded (bounded.put found rfl))
  dsimp only
  split
  · rename_i notified
    rw [told notified] at cancelled ⊢
    exact cancelled.say (cancel_sendable named (by decide) (by decide))
  · exact cancelled

theorem chunk_bounded (bounded : Bounded self) {index totalChunks : Nat} {data : String}
    (whole : AppCodec.Whole 0 index) : Bounded (self.chunk fileId index totalChunks data) := by
  refine withRegistered_bounded bounded ?_
  intro ref transfer found named
  have refused : ∀ reason : String, 0 < reason.length → reason.length ≤ 120 →
      Bounded ((self.sendNack fileId index reason).suspend .replying) :=
    fun reason some_ short => Bounded.suspend (bounded.say (nack_sendable named whole some_ short)) _
  split
  · exact bounded
  · split
    · exact refused _ (by decide) (by decide)
    · split
      · exact Bounded.suspend (bounded.say (ack_sendable named whole)) _
      · split
        · exact refused _ (by decide) (by decide)
        · rename_i bytes _
          split
          · exact refused _ (by decide) (by decide)
          · have stored : Bounded (self.put ref (storeIn transfer index bytes)) := bounded.put found rfl
            refine Bounded.suspend (Bounded.say ?_ (ack_sendable named whole)) _
            exact stored.note (by simp)

theorem completeNotice_bounded (bounded : Bounded self) : Bounded (self.completeNotice fileId) := by
  refine withRegistered_bounded bounded ?_
  intro ref transfer found _
  split
  · exact bounded
  · split
    · exact emit_bounded (bounded.put found rfl)
    · exact bounded

end Functions

section Turns

/-- What the session calls its receiver with: messages come out of the decoder, and the
reasons of the user are fixed texts. -/
def Called : Event → Prop
  | .offer fields => (wireFile (.offer fields)).Fits
  | .chunk fileId index totalChunks data => (wireFile (.chunk fileId index totalChunks data)).Fits
  | .reject _ reason => reason = "declined"
  | .cancel _ reason notify => notify = true → reason = "cancelled"
  | _ => True

variable {self after : Receiver} {event : Event}

theorem settle_bounded (digest : Bytes → String) (bounded : Bounded self) (outcome : Outcome)
    (call : ReceiverCall) : Bounded (self.settle digest outcome call) := by
  cases call with
  | accepting ref => exact accepted_bounded bounded outcome
  | acking ref => exact acked_bounded bounded
  | hashing ref blob => exact hashed_bounded digest bounded blob outcome
  | replying => exact bounded

theorem turn_bounded (digest : Bytes → String) (bounded : Bounded self) (called : Called event)
    (stepped : self.turn digest event = some after) : Bounded after := by
  cases event with
  | setProfile files =>
      cases stepped
      exact ⟨bounded.objects, bounded.listed, bounded.notes⟩
  | offer fields =>
      cases stepped
      exact offer_bounded bounded called
  | accept fileId =>
      cases stepped
      exact accept_bounded bounded
  | reject fileId reason =>
      cases stepped
      cases called
      exact reject_bounded bounded
  | cancel fileId reason notify =>
      cases stepped
      exact cancel_bounded bounded called
  | peerCancel fileId reason =>
      cases stepped
      -- The peer's own cancel is not sent back, so its reason may be of any length.
      exact cancel_bounded bounded nofun
  | chunk fileId index totalChunks data =>
      cases stepped
      exact chunk_bounded bounded called.2.1
  | completeNotice fileId =>
      cases stepped
      exact completeNotice_bounded bounded
  | remove fileId =>
      cases stepped
      exact remove_bounded bounded
  | reset =>
      cases stepped
      exact reset_bounded bounded
  | settle ticket outcome =>
      obtain ⟨⟨call, rest⟩, taken, rfl⟩ := Option.map_eq_some_iff.mp stepped
      have resumed : Bounded { self with calls := rest } :=
        ⟨bounded.objects, bounded.listed, bounded.notes⟩
      exact settle_bounded digest resumed outcome call

/-- One event of a bounded receiver: it stays bounded, and all it says can be sent. -/
theorem step_bounded (digest : Bytes → String) {notes : List ReceiverNote} (bounded : Bounded self)
    (called : Called event) (stepped : (machine digest).step self event = some (after, notes)) :
    Bounded after ∧ ∀ message, .sendApp message ∈ notes → Sendable (.file message) .control := by
  obtain ⟨next, turned, same⟩ := Option.map_eq_some_iff.mp stepped
  cases same
  have quiet : Bounded { self with notes := [] } :=
    bounded.frame rfl (fun _ member => member) nofun
  have kept := turn_bounded digest quiet called turned
  exact ⟨kept, kept.notes⟩

end Turns

end OnlyTwo.FileReceiver
