import OnlyTwo.FileSenderEffects
import OnlyTwo.OutboundMessages

/-!
Every message a file sender hands to `sendApp` fits the decoder and the stream of its
lane, as long as the media type of each offered file fits. The rest of an offer is
checked or built by the sender itself; a chunk has data because its index lies below the
number of chunks wherever it is kept: in the table of chunks in flight, in a suspended
call and in a timer.
-/

namespace OnlyTwo.FileSender

open Bytes FileProtocol Sender Outbound
open AppMessages (kb mb getProfile)
open Session.SessionController (fileLane)

section Transfers

/-- A transfer whose offer fits the decoder. -/
structure Proper (transfer : Transfer) : Prop where
  offered : (wireFile (.offer transfer.offer)).Fits
  size : transfer.size = transfer.file.size
  chunkSize : transfer.chunkSize ≤ 32 * kb
  totalChunks : transfer.totalChunks = chunkCount transfer.size transfer.chunkSize
  inflight : ∀ index ∈ transfer.inflight.keys, index < transfer.totalChunks

variable {transfer old new : Transfer}

theorem Proper.named (proper : Proper transfer) : AppCodec.Text 160 (utf16 transfer.fileId) :=
  proper.offered.1

theorem Proper.digested (proper : Proper transfer) :
    AppCodec.Digest (transfer.sha256.map utf16) :=
  proper.offered.2.2.2.2.2.2

theorem Proper.keep (proper : Proper old) (offer : new.offer = old.offer) (file : new.file = old.file)
    (inflight : ∀ index ∈ new.inflight.keys,
      index ∈ old.inflight.keys ∨ index < old.totalChunks) : Proper new := by
  have size := congrArg FileOffer.size offer
  have chunkSize := congrArg FileOffer.chunkSize offer
  have totalChunks := congrArg FileOffer.totalChunks offer
  simp only [Transfer.offer] at size chunkSize totalChunks
  refine ⟨offer ▸ proper.offered, ?_, ?_, ?_, ?_⟩
  · rw [size, file, proper.size]
  · rw [chunkSize]
    exact proper.chunkSize
  · rw [totalChunks, size, chunkSize, proper.totalChunks]
  · intro index member
    rw [totalChunks]
    rcases inflight index member with held | inside
    · exact proper.inflight index held
    · exact inside

theorem chunkCount_le {size chunkSize : Nat} (some_ : 0 < size) (positive : 0 < chunkSize) :
    chunkCount size chunkSize ≤ size := by
  obtain ⟨rest, rfl⟩ := Nat.exists_eq_add_of_lt some_
  obtain ⟨more, rfl⟩ := Nat.exists_eq_add_of_lt positive
  rw [chunkCount]
  refine Nat.div_le_of_le_mul ?_
  have product : (0 + more + 1) * (0 + rest + 1) = more * rest + more + rest + 1 := by ring
  omega

theorem Proper.chunk (proper : Proper transfer) {index : Nat} (inside : index < transfer.totalChunks) :
    Sendable (.file (.chunk transfer.fileId index transfer.totalChunks
      (encodeChunk (transfer.file.slice (index * transfer.chunkSize)
        (min (index * transfer.chunkSize + transfer.chunkSize) transfer.size))))) .file := by
  obtain ⟨named, _, _, _, ⟨positive, _⟩, total, _⟩ := proper.offered
  change (1 : Int) ≤ transfer.chunkSize at positive
  have started : index * transfer.chunkSize < transfer.size :=
    lt_of_lt_chunkCount (by omega) (proper.totalChunks ▸ inside)
  have most := proper.chunkSize
  have measured := proper.size
  have small : (32 * kb : Nat) ≤ 100000 := by decide
  have length : (transfer.file.slice (index * transfer.chunkSize)
      (min (index * transfer.chunkSize + transfer.chunkSize) transfer.size)).length =
        min (index * transfer.chunkSize + transfer.chunkSize) transfer.size -
          index * transfer.chunkSize := by
    rw [File.slice, List.length_take, List.length_drop]
    rw [File.size] at measured
    omega
  have high : (transfer.totalChunks : Int) ≤ Js.maxSafeInteger := total.2
  refine ⟨⟨named, ⟨Int.natCast_nonneg index, ?_⟩, total, ?_⟩, rfl⟩
  · omega
  · exact base64Url_fits (by rw [length]; omega) (by rw [length]; omega)

end Transfers

section Invariant

/-- The index that the rest of a call works on. -/
def SenderCall.index? : SenderCall → Option Nat
  | .slicing _ index _ => some index
  | .sending _ index _ => some index
  | _ => none

def SenderTimer.index : SenderTimer → Nat
  | .ackTimeout _ index _ => index
  | .retry _ index _ => index

def Covers (self : Sender) (fileId : String) (index : Nat) : Prop :=
  ∃ transfer, self.objects.get? fileId = some transfer ∧ index < transfer.totalChunks

/-- The limits of every profile. -/
def Ranged (files : FileLimits) : Prop := files.chunkBytes ≤ 32 * kb ∧ files.maxFileBytes ≤ 50 * mb

theorem getProfile_ranged (id : AppMessages.TransportProfileId) : Ranged (getProfile id).files := by
  cases id <;> exact ⟨by decide, by decide⟩

structure Bounded (sender : Sender) : Prop where
  files : Ranged sender.files
  named : Named sender
  proper : ∀ fileId transfer, sender.objects.get? fileId = some transfer → Proper transfer
  calls : ∀ ticket call, sender.calls.get? ticket = some call →
    ∀ index ∈ call.index?, Covers sender call.fileId index
  timers : ∀ ticket timer, sender.timers.get? ticket = some timer →
    Covers sender timer.fileId timer.index
  notes : ∀ message lane, .sendApp message lane ∈ sender.notes →
    Sendable (.file message) (fileLane lane)

variable {self : Sender} {fileId : String} {index : Nat}

theorem create_bounded (id : AppMessages.TransportProfileId) : Bounded (create (getProfile id).files) where
  files := getProfile_ranged id
  named := by simp [Named, create]
  proper := by simp [create]
  calls := by simp [create]
  timers := by simp [create]
  notes := by simp [create]

theorem Acts.covers {mine : String → Prop} {start : Sender} (acts : Acts mine start self)
    (covers : Covers start fileId index) : Covers self fileId index := by
  obtain ⟨transfer, found, inside⟩ := covers
  obtain ⟨current, there, evolves⟩ := (acts.object fileId).1 transfer found
  exact ⟨current, there, evolves.totalChunks ▸ inside⟩

/-- The parts that no object depends on may shrink. -/
theorem Bounded.frame {other : Sender} (bounded : Bounded self) (files : Ranged other.files)
    (objects : other.objects = self.objects)
    (calls : ∀ ticket call, other.calls.get? ticket = some call →
      self.calls.get? ticket = some call)
    (timers : ∀ ticket timer, other.timers.get? ticket = some timer →
      self.timers.get? ticket = some timer)
    (notes : ∀ entry ∈ other.notes, entry ∈ self.notes) : Bounded other where
  files := files
  named := by
    intro fileId transfer found
    exact bounded.named fileId transfer (objects ▸ found)
  proper := by
    intro fileId transfer found
    exact bounded.proper fileId transfer (objects ▸ found)
  calls := by
    intro ticket call held index known
    rw [Covers, objects]
    exact bounded.calls ticket call (calls ticket call held) index known
  timers := by
    intro ticket timer held
    rw [Covers, objects]
    exact bounded.timers ticket timer (timers ticket timer held)
  notes := fun message lane member => bounded.notes message lane (notes _ member)

theorem Bounded.cancel (bounded : Bounded self) (handle : Option Nat) :
    Bounded { self with timers := self.timers.cancel handle } :=
  bounded.frame bounded.files rfl (fun _ _ held => held) (fun _ _ held => Callbacks.get?_of_cancel held)
    (fun _ member => member)

theorem Bounded.note (bounded : Bounded self) {entry : SenderNote}
    (sendable : ∀ message lane, entry = .sendApp message lane →
      Sendable (.file message) (fileLane lane)) : Bounded (self.note entry) where
  files := bounded.files
  named := bounded.named
  proper := bounded.proper
  calls := bounded.calls
  timers := bounded.timers
  notes := by
    intro message lane member
    rcases List.mem_append.mp member with early | last
    · exact bounded.notes message lane early
    · exact sendable message lane (List.mem_singleton.mp last).symm

theorem Bounded.suspend (bounded : Bounded self) {call : SenderCall}
    (covers : ∀ index ∈ call.index?, Covers self call.fileId index) : Bounded (self.suspend call) where
  files := bounded.files
  named := bounded.named
  proper := bounded.proper
  calls := by
    intro ticket held found
    simp only [Sender.suspend, Callbacks.get?_add] at found
    split at found
    · cases found
      exact covers
    · exact bounded.calls ticket held found
  timers := bounded.timers
  notes := bounded.notes

theorem Bounded.arm (bounded : Bounded self) {timer : SenderTimer}
    (covers : Covers self timer.fileId timer.index) :
    Bounded { self with timers := (self.timers.add timer).1 } where
  files := bounded.files
  named := bounded.named
  proper := bounded.proper
  calls := bounded.calls
  timers := by
    intro ticket held found
    simp only [Callbacks.get?_add] at found
    split at found
    · cases found
      exact covers
    · exact bounded.timers ticket held found
  notes := bounded.notes

/-- Writing an object keeps every index covered. -/
theorem Bounded.write (bounded : Bounded self) {new : Transfer} (proper : Proper new)
    (covers : ∀ fileId index, Covers self fileId index → Covers (self.put new) fileId index) :
    Bounded (self.put new) where
  files := bounded.files
  named := put_named new bounded.named
  proper := by
    intro fileId transfer found
    simp only [Sender.put, InsertionMap.get?_set] at found
    split at found
    · cases found
      exact proper
    · exact bounded.proper fileId transfer found
  calls := fun ticket call held index known => covers _ _ (bounded.calls ticket call held index known)
  timers := fun ticket timer held => covers _ _ (bounded.timers ticket timer held)
  notes := bounded.notes

theorem covers_put {old new : Transfer} (found : self.objects.get? new.fileId = some old)
    (total : new.totalChunks = old.totalChunks) (covers : Covers self fileId index) :
    Covers (self.put new) fileId index := by
  obtain ⟨transfer, held, inside⟩ := covers
  by_cases same : fileId = new.fileId
  · subst same
    cases found.symm.trans held
    exact ⟨new, InsertionMap.get?_set_self _ _ _, total ▸ inside⟩
  · exact ⟨transfer, (InsertionMap.get?_set_ne _ _ same).trans held, inside⟩

/-- An update that leaves the offer alone. -/
theorem Bounded.put (bounded : Bounded self) {old new : Transfer}
    (found : self.objects.get? new.fileId = some old) (offer : new.offer = old.offer)
    (file : new.file = old.file)
    (inflight : ∀ index ∈ new.inflight.keys,
      index ∈ old.inflight.keys ∨ index < old.totalChunks) : Bounded (self.put new) := by
  refine bounded.write ((bounded.proper _ old found).keep offer file inflight) ?_
  intro fileId index
  exact covers_put found (congrArg FileOffer.totalChunks offer)

/-- The same for an update of the flags. -/
theorem Bounded.flag (bounded : Bounded self) {old new : Transfer}
    (found : self.objects.get? new.fileId = some old) (offer : new.offer = old.offer)
    (file : new.file = old.file) (inflight : new.inflight = old.inflight) : Bounded (self.put new) :=
  bounded.put found offer file (fun _ member => Or.inl (inflight ▸ member))

theorem Bounded.add (bounded : Bounded self) {new : Transfer} (absent : self.objects.get? new.fileId = none)
    (proper : Proper new) : Bounded (self.put new) := by
  refine bounded.write proper ?_
  rintro fileId index ⟨transfer, held, inside⟩
  have other : fileId ≠ new.fileId := by
    rintro rfl
    cases absent.symm.trans held
  exact ⟨transfer, (InsertionMap.get?_set_ne _ _ other).trans held, inside⟩

end Invariant

section Functions

variable {self : Sender} {fileId : String} {index : Nat}

theorem withTransfer_bounded {action : Transfer → Sender} (bounded : Bounded self)
    (runs : ∀ transfer, self.objects.get? transfer.fileId = some transfer →
      transfer.fileId = fileId → Proper transfer → Bounded (action transfer)) :
    Bounded (self.withTransfer fileId action) := by
  unfold withTransfer
  split
  · exact bounded
  · rename_i transfer found
    have same := bounded.named fileId transfer found
    exact runs transfer (same ▸ found) same (bounded.proper fileId transfer found)

theorem withRegistered_bounded {action : Transfer → Sender} (bounded : Bounded self)
    (runs : ∀ transfer, self.objects.get? transfer.fileId = some transfer →
      transfer.fileId = fileId → Proper transfer → Bounded (action transfer)) :
    Bounded (self.withRegistered fileId action) := by
  unfold withRegistered
  split
  · exact withTransfer_bounded bounded runs
  · exact bounded

theorem emit_bounded (bounded : Bounded self) : Bounded (self.emit fileId) :=
  withTransfer_bounded bounded fun _ _ _ _ => bounded.note nofun

theorem covers_emit {other : String} (covers : Covers self fileId index) :
    Covers (self.emit other) fileId index := by
  unfold emit withTransfer
  split
  · exact covers
  · exact covers

theorem cancelAll_bounded (items : List InflightChunk) {timers : Callbacks SenderTimer}
    (bounded : Bounded { self with timers }) : Bounded { self with timers := cancelAll timers items } := by
  induction items generalizing timers with
  | nil => exact bounded
  | cons item rest ih => exact ih (bounded.cancel item.timer)

theorem clearTimers_bounded (bounded : Bounded self) : Bounded (self.clearTimers fileId) := by
  refine withTransfer_bounded bounded ?_
  intro transfer found _ _
  exact (cancelAll_bounded _ bounded).put found rfl rfl nofun

theorem fail_bounded (bounded : Bounded self) (reason : String) : Bounded (self.fail fileId reason) := by
  refine withTransfer_bounded bounded ?_
  intro transfer found _ _
  exact emit_bounded (clearTimers_bounded (bounded.flag found rfl rfl rfl))

theorem cancel_sendable (named : AppCodec.Text 160 (utf16 fileId)) {reason : String}
    (some_ : 0 < reason.length) (short : reason.length ≤ 120) :
    Sendable (.file (.cancel fileId reason)) .control :=
  ⟨⟨named, text_of_length some_ (by omega)⟩, rfl⟩

theorem failAndNotify_bounded (bounded : Bounded self) (named : AppCodec.Text 160 (utf16 fileId))
    (reason : String) : Bounded (self.failAndNotify fileId reason) := by
  have said : Bounded ((self.fail fileId reason).note
      (.sendApp (.cancel fileId "transfer failed") .control)) := by
    refine (fail_bounded bounded reason).note ?_
    intro message lane same
    cases same
    exact cancel_sendable named (by decide) (by decide)
  exact said.suspend nofun

theorem mem_keys_inflight {transfer : Transfer} {item : InflightChunk}
    (inside : index < transfer.totalChunks) :
    ∀ other ∈ (transfer.inflight.set index item).keys,
      other ∈ transfer.inflight.keys ∨ other < transfer.totalChunks := by
  intro other member
  rcases (InsertionMap.mem_keys_set _ _ _ _).mp member with rfl | held
  · exact Or.inr inside
  · exact Or.inl held

/-- What is known of the index that a function is called with. -/
theorem Covers.inside (covers : Covers self fileId index) {transfer : Transfer}
    (found : self.objects.get? fileId = some transfer) : index < transfer.totalChunks := by
  obtain ⟨other, held, inside⟩ := covers
  cases found.symm.trans held
  exact inside

theorem scheduleRetry_bounded (bounded : Bounded self) (covers : Covers self fileId index)
    (nextAttempts : Nat) (reason : String) :
    Bounded (self.scheduleRetry fileId index nextAttempts reason) := by
  refine withTransfer_bounded bounded ?_
  rintro transfer found rfl proper
  have cleared : Bounded (self.clearInflightTimer (transfer.inflight.get? index)) := bounded.cancel _
  have inside := covers.inside found
  dsimp only
  split
  · exact bounded
  · split
    · exact failAndNotify_bounded cleared proper.named _
    · split
      · exact emit_bounded (cleared.put found rfl rfl (mem_keys_inflight inside))
      · refine emit_bounded (Bounded.put ?_ found rfl rfl (mem_keys_inflight inside))
        refine Bounded.note (cleared.arm ?_) (by simp)
        exact covers

theorem sendChunk_bounded (bounded : Bounded self) (covers : Covers self fileId index) (attempts : Nat) :
    Bounded (self.sendChunk fileId index attempts) := by
  refine withTransfer_bounded bounded ?_
  rintro transfer found rfl proper
  have inside := covers.inside found
  dsimp only
  split
  · exact bounded
  · split
    · exact bounded.put found rfl rfl (mem_keys_inflight inside)
    · split
      · exact failAndNotify_bounded bounded proper.named _
      · have cleared : Bounded (self.clearInflightTimer (transfer.inflight.get? index)) :=
          bounded.cancel _
        refine Bounded.suspend ?_ ?_
        · exact emit_bounded (cleared.put found rfl rfl (mem_keys_inflight inside))
        · intro other known
          cases known
          exact covers_emit (covers_put found rfl covers)

theorem sliced_bounded (bounded : Bounded self) (covers : Covers self fileId index) (attempts : Nat)
    (outcome : Outcome) : Bounded (self.sliced fileId index attempts outcome) := by
  cases outcome with
  | error message => exact scheduleRetry_bounded bounded covers _ _
  | ok _ =>
      refine withTransfer_bounded bounded ?_
      rintro transfer found rfl proper
      refine Bounded.suspend (bounded.note ?_) ?_
      · intro message lane same
        cases same
        exact proper.chunk (covers.inside found)
      · intro other known
        cases known
        exact covers

theorem chunkSent_bounded (bounded : Bounded self) (covers : Covers self fileId index) (attempts : Nat)
    (outcome : Outcome) : Bounded (self.chunkSent fileId index attempts outcome) := by
  cases outcome with
  | error message => exact scheduleRetry_bounded bounded covers _ _
  | ok sent =>
      cases sent with
      | false => exact scheduleRetry_bounded bounded covers _ _
      | true =>
          refine withTransfer_bounded bounded ?_
          rintro transfer found rfl proper
          dsimp only
          split
          · exact bounded
          · refine emit_bounded (Bounded.put ?_ found rfl rfl (mem_keys_inflight (covers.inside found)))
            refine Bounded.note (bounded.arm ?_) (by simp)
            exact covers

theorem completeIfDone_bounded (bounded : Bounded self) : Bounded (self.completeIfDone fileId) := by
  refine withTransfer_bounded bounded ?_
  rintro transfer found rfl proper
  split
  · exact bounded
  · split
    · exact bounded
    · refine Bounded.note ?_ ?_
      · exact emit_bounded (bounded.flag found rfl rfl rfl)
      · intro message lane same
        cases same
        exact ⟨⟨proper.named, proper.digested⟩, rfl⟩

theorem pumpLoop_bounded (rounds : Nat) (bounded : Bounded self) :
    Bounded (pumpLoop rounds self fileId) := by
  induction rounds generalizing self with
  | zero => exact bounded
  | succ rounds ih =>
      refine withTransfer_bounded bounded ?_
      rintro transfer found rfl proper
      split
      · rename_i window
        simp only [Bool.and_eq_true, decide_eq_true_eq] at window
        refine ih (sendChunk_bounded ?_ ?_ 1)
        · exact bounded.flag found rfl rfl rfl
        · exact covers_put found rfl ⟨transfer, found, window.2⟩
      · exact bounded

theorem pump_bounded (bounded : Bounded self) : Bounded (self.pump fileId) := by
  refine withTransfer_bounded bounded ?_
  rintro transfer found rfl proper
  split
  · exact bounded
  · split
    · exact bounded
    · refine Bounded.suspend ?_ nofun
      exact completeIfDone_bounded (pumpLoop_bounded _ (bounded.flag found rfl rfl rfl))

theorem holdOutstanding_bounded (bounded : Bounded self) : Bounded (self.holdOutstanding fileId) := by
  refine withTransfer_bounded bounded ?_
  intro transfer found _ _
  refine (cancelAll_bounded _ bounded).put found rfl rfl ?_
  intro index member
  rw [InsertionMap.keys_mapValues] at member
  exact Or.inl member

theorem resumeEach_bounded (items : List (Nat × InflightChunk)) (bounded : Bounded self)
    (covers : ∀ entry ∈ items, Covers self fileId entry.1) :
    Bounded (resumeEach fileId items self) := by
  induction items generalizing self with
  | nil => exact bounded
  | cons entry rest ih =>
      obtain ⟨index, item⟩ := entry
      have first := covers (index, item) List.mem_cons_self
      simp only [resumeEach]
      split
      · refine ih (sendChunk_bounded bounded first _) ?_
        intro other member
        have acts : Acts (fun _ => True) self (self.sendChunk fileId index (item.attempts + 1)) :=
          sendChunk_acts bounded.named trivial .refl _ _
        exact acts.covers (covers other (List.mem_cons_of_mem _ member))
      · exact ih bounded (fun other member => covers other (List.mem_cons_of_mem _ member))

theorem resumeOutstanding_bounded (bounded : Bounded self) : Bounded (self.resumeOutstanding fileId) := by
  refine withTransfer_bounded bounded ?_
  rintro transfer found rfl proper
  split
  · exact bounded
  · refine pump_bounded (resumeEach_bounded _ bounded ?_)
    intro entry member
    exact ⟨transfer, found, proper.inflight entry.1 (List.mem_map_of_mem member)⟩

theorem pauseOne_bounded (paused : Bool) (reason : String) (bounded : Bounded self) :
    Bounded (pauseOne paused reason self fileId) := by
  refine withTransfer_bounded bounded ?_
  intro transfer found _ _
  split
  · exact bounded
  · cases paused with
    | true => exact emit_bounded (holdOutstanding_bounded (bounded.flag found rfl rfl rfl))
    | false => exact resumeOutstanding_bounded (emit_bounded (bounded.flag found rfl rfl rfl))

theorem foldl_bounded {each : Sender → String → Sender} (ids : List String)
    (runs : ∀ id self, Bounded self → Bounded (each self id)) (bounded : Bounded self) :
    Bounded (ids.foldl each self) := by
  induction ids generalizing self with
  | nil => exact bounded
  | cons id rest ih => exact ih (runs id self bounded)

theorem sendOffer_bounded (bounded : Bounded self) : Bounded (self.sendOffer fileId) := by
  refine withTransfer_bounded bounded ?_
  intro transfer found _ proper
  refine Bounded.suspend (bounded.note ?_) nofun
  intro message lane same
  cases same
  exact ⟨proper.offered, rfl⟩

theorem register_bounded (bounded : Bounded self) (queued : Bool) :
    Bounded (self.register fileId queued) := by
  have listed : Bounded { self with transfers := self.transfers.set fileId () } :=
    bounded.frame bounded.files rfl (fun _ _ held => held) (fun _ _ held => held)
      (fun _ member => member)
  unfold register
  split
  · exact emit_bounded listed
  · exact sendOffer_bounded (emit_bounded listed)

end Functions

section Calls

variable {self : Sender} {fileId : String} {index : Nat}

theorem reset_bounded (bounded : Bounded self) : Bounded self.reset := by
  have cleared : Bounded (self.transfers.keys.foldl clearTimers self) :=
    foldl_bounded _ (fun _ _ held => clearTimers_bounded held) bounded
  exact cleared.frame cleared.files rfl (fun _ _ held => held) (fun _ _ held => held)
    (fun _ member => member)

theorem remove_bounded (bounded : Bounded self) : Bounded (self.remove fileId) := by
  refine withRegistered_bounded bounded ?_
  intro transfer _ _ _
  split
  · have cleared : Bounded (self.clearTimers fileId) := clearTimers_bounded bounded
    exact cleared.frame cleared.files rfl (fun _ _ held => held) (fun _ _ held => held)
      (fun _ member => member)
  · exact bounded

theorem setGlobalPaused_bounded (bounded : Bounded self) (paused : Bool) (reason : String) :
    Bounded (self.setGlobalPaused paused reason) := by
  have flagged : Bounded { self with globalPaused := paused } :=
    bounded.frame bounded.files rfl (fun _ _ held => held) (fun _ _ held => held)
      (fun _ member => member)
  exact foldl_bounded _ (fun _ _ held => pauseOne_bounded paused reason held) flagged

/-- The default for a file without a type is short. -/
theorem newTransfer_mime (files : FileLimits) (fileId : String) (file : File) (queued : Bool) :
    (newTransfer files fileId file queued).mime.length ≤ 160 ↔ file.type.length ≤ 160 := by
  simp only [newTransfer]
  split
  · rename_i empty
    rw [empty]
    exact ⟨fun _ => Nat.zero_le _, fun _ => by decide⟩
  · exact Iff.rfl

/-- All but the media type of a new transfer is within the bounds. -/
theorem newTransfer_fits (files : FileLimits) (ranged : Ranged files)
    (named : AppCodec.Text 160 (utf16 fileId)) {file : File}
    (valid : validateOutboundFile file files = .ok ()) (queued : Bool) :
    (wireFile (.offer (newTransfer files fileId file queued).offer)).Fits ↔ file.type.length ≤ 160 := by
  have checked : 0 < file.size ∧ file.size ≤ files.maxFileBytes := by
    unfold validateOutboundFile at valid
    split at valid
    · cases valid
    · split at valid
      · cases valid
      · omega
  obtain ⟨small, large⟩ := ranged
  have safe : 32 * kb + 50 * mb ≤ Js.maxSafeInteger := by decide
  have counted : 0 < chunkCount file.size files.chunkBytes ∧
      chunkCount file.size files.chunkBytes ≤ file.size := by
    have positive := files.chunked
    constructor
    · rw [chunkCount, Nat.div_pos_iff]
      omega
    · exact chunkCount_le checked.1 positive
  have digest : AppCodec.Digest none := fun value held => by cases held
  constructor
  · intro fits
    exact (newTransfer_mime files fileId file queued).mp fits.2.2.1
  · intro short
    have positive := files.chunked
    refine ⟨named, validateFilename_fits file.name, (newTransfer_mime files fileId file queued).mpr short,
      ⟨?_, ?_⟩, ⟨?_, ?_⟩, ⟨?_, ?_⟩, digest⟩
    all_goals
      simp only [Transfer.offer, newTransfer]
      omega

theorem newTransfer_proper (bounded : Bounded self) (named : AppCodec.Text 160 (utf16 fileId)) {file : File}
    (valid : validateOutboundFile file self.files = .ok ()) (short : file.type.length ≤ 160)
    (queued : Bool) : Proper (newTransfer self.files fileId file queued) where
  offered := (newTransfer_fits self.files bounded.files named valid queued).mpr short
  size := rfl
  chunkSize := bounded.files.1
  totalChunks := rfl
  inflight := nofun

theorem offer_bounded (bounded : Bounded self) (named : AppCodec.Text 160 (utf16 fileId)) {file : File}
    (short : file.type.length ≤ 160) (queued : Bool) (absent : self.objects.get? fileId = none) :
    Bounded (self.offer fileId file queued) := by
  unfold Sender.offer
  split
  · exact bounded
  · rename_i valid
    have made : Bounded (self.put (newTransfer self.files fileId file queued)) :=
      bounded.add absent (newTransfer_proper bounded named valid short queued)
    dsimp only
    split
    · exact made.suspend nofun
    · exact register_bounded made queued

theorem startQueued_bounded (bounded : Bounded self) : Bounded (self.startQueued fileId) := by
  refine withRegistered_bounded bounded ?_
  intro transfer found _ _
  split
  · exact bounded
  · exact sendOffer_bounded (emit_bounded (bounded.flag found rfl rfl rfl))

theorem accept_bounded (bounded : Bounded self) : Bounded (self.accept fileId) := by
  refine withRegistered_bounded bounded ?_
  intro transfer found _ _
  split
  · exact bounded
  · exact pump_bounded (emit_bounded (bounded.flag found rfl rfl rfl))

theorem ack_bounded (bounded : Bounded self) : Bounded (self.ack fileId index) := by
  refine withRegistered_bounded bounded ?_
  intro transfer found _ _
  split
  · exact bounded
  · split
    · exact bounded
    · rename_i item _
      have cleared : Bounded (self.clearInflightTimer (some item)) := bounded.cancel _
      refine pump_bounded (emit_bounded (cleared.put found rfl rfl ?_))
      intro other member
      exact Or.inl ((InsertionMap.mem_keys_delete _ _ _).mp member).2

theorem nack_bounded (bounded : Bounded self) (reason : String) :
    Bounded (self.nack fileId index reason) := by
  refine withRegistered_bounded bounded ?_
  rintro transfer found rfl _
  split
  · exact bounded
  · rename_i live
    split
    · exact bounded
    · exact scheduleRetry_bounded bounded ⟨transfer, found, by omega⟩ _ _

theorem pause_bounded (bounded : Bounded self) (reason : String) : Bounded (self.pause fileId reason) := by
  refine withRegistered_bounded bounded ?_
  intro transfer found _ _
  split
  · exact bounded
  · exact emit_bounded (holdOutstanding_bounded (bounded.flag found rfl rfl rfl))

theorem resume_bounded (bounded : Bounded self) : Bounded (self.resume fileId) := by
  refine withRegistered_bounded bounded ?_
  intro transfer found _ _
  split
  · exact bounded
  · exact resumeOutstanding_bounded (emit_bounded (bounded.flag found rfl rfl rfl))

theorem cancel_bounded (bounded : Bounded self) {reason : String} {notify : Bool}
    (told : notify = true → reason = "cancelled") : Bounded (self.cancel fileId reason notify) := by
  refine withRegistered_bounded bounded ?_
  rintro transfer found rfl proper
  have cancelled : Bounded (((self.put { transfer with
      cancelled := true
      status := .cancelled
      reason := some reason }).clearTimers transfer.fileId).emit transfer.fileId) :=
    emit_bounded (clearTimers_bounded (bounded.flag found rfl rfl rfl))
  dsimp only
  split
  · rename_i notified
    refine Bounded.suspend (cancelled.note ?_) nofun
    intro message lane same
    cases same
    rw [told notified]
    exact cancel_sendable proper.named (by decide) (by decide)
  · exact cancelled

theorem hashed_bounded (sha256 : Sha256) (outcome : Outcome) (bounded : Bounded self) (queued : Bool) :
    Bounded (self.settle (digestBytes sha256) outcome (.hashing fileId queued)) := by
  refine withTransfer_bounded bounded ?_
  rintro transfer found rfl proper
  refine register_bounded (bounded.write ?_ ?_) queued
  · obtain ⟨named, name, mime, size, chunkSize, total, _⟩ := proper.offered
    refine ⟨⟨named, name, mime, size, chunkSize, total, ?_⟩, proper.size, proper.chunkSize,
      proper.totalChunks, proper.inflight⟩
    intro value held
    cases outcome with
    | error message => cases held
    | ok _ =>
        cases held
        exact digestBytes_fits sha256 _
  · intro fileId index
    exact covers_put found rfl

theorem settle_bounded (sha256 : Sha256) (outcome : Outcome) {call : SenderCall} (bounded : Bounded self)
    (covers : ∀ index ∈ call.index?, Covers self call.fileId index) :
    Bounded (self.settle (digestBytes sha256) outcome call) := by
  cases call with
  | hashing fileId queued => exact hashed_bounded sha256 outcome bounded queued
  | offering fileId =>
      simp only [settle]
      split
      · exact fail_bounded bounded _
      · exact bounded
  | slicing fileId index attempts => exact sliced_bounded bounded (covers index rfl) _ _
  | sending fileId index attempts => exact chunkSent_bounded bounded (covers index rfl) _ _
  | pumping fileId =>
      refine withTransfer_bounded bounded ?_
      intro transfer found _ _
      exact bounded.flag found rfl rfl rfl
  | notifying fileId => exact bounded

theorem runTimer_bounded {timer : SenderTimer} (bounded : Bounded self)
    (covers : Covers self timer.fileId timer.index) : Bounded (self.runTimer timer) := by
  cases timer with
  | ackTimeout fileId index attempts => exact scheduleRetry_bounded bounded covers _ _
  | retry fileId index nextAttempts => exact sendChunk_bounded bounded covers _

end Calls

section Turns

/-- What the session calls its sender with. The last condition is the only one on what the
user chooses. -/
def Called : Event → Prop
  | .setProfile files => ∃ id, files = (getProfile id).files
  | .offer fileId file _ => AppCodec.Text 160 (utf16 fileId) ∧ file.type.length ≤ 160
  | .cancel _ reason notify => notify = true → reason = "cancelled"
  | _ => True

theorem turn_bounded (sha256 : Sha256) {self after : Sender} {event : Event} (bounded : Bounded self)
    (called : Called event) (stepped : self.turn (digestBytes sha256) event = some after) :
    Bounded after := by
  cases event with
  | setProfile files =>
      cases stepped
      obtain ⟨id, rfl⟩ := called
      exact bounded.frame (getProfile_ranged id) rfl (fun _ _ held => held) (fun _ _ held => held)
        (fun _ member => member)
  | offer fileId file queued =>
      simp only [turn] at stepped
      split at stepped
      · cases stepped
      · rename_i new
        cases stepped
        refine offer_bounded bounded called.1 called.2 queued ?_
        rw [InsertionMap.get?_eq_none_iff, ← InsertionMap.has_iff]
        exact new
  | startQueued fileId =>
      cases stepped
      exact startQueued_bounded bounded
  | accept fileId =>
      cases stepped
      exact accept_bounded bounded
  | ack fileId index =>
      cases stepped
      exact ack_bounded bounded
  | nack fileId index reason =>
      cases stepped
      exact nack_bounded bounded reason
  | pause fileId reason =>
      cases stepped
      exact pause_bounded bounded reason
  | resume fileId =>
      cases stepped
      exact resume_bounded bounded
  | cancel fileId reason notify =>
      cases stepped
      exact cancel_bounded bounded called
  | setGlobalPaused paused reason =>
      cases stepped
      exact setGlobalPaused_bounded bounded paused reason
  | remove fileId =>
      cases stepped
      exact remove_bounded bounded
  | reset =>
      cases stepped
      exact reset_bounded bounded
  | settle ticket outcome =>
      obtain ⟨⟨call, rest⟩, taken, rfl⟩ := Option.map_eq_some_iff.mp stepped
      obtain ⟨held, rfl⟩ := Callbacks.take_eq_some.mp taken
      have resumed : Bounded { self with calls := self.calls.remove ticket } :=
        bounded.frame bounded.files rfl (fun _ _ found => Callbacks.get?_of_remove found)
          (fun _ _ found => found) (fun _ member => member)
      exact settle_bounded sha256 outcome resumed (bounded.calls ticket call held)
  | fire ticket =>
      obtain ⟨⟨timer, rest⟩, taken, rfl⟩ := Option.map_eq_some_iff.mp stepped
      obtain ⟨held, rfl⟩ := Callbacks.take_eq_some.mp taken
      have fired : Bounded { self with timers := self.timers.remove ticket } :=
        bounded.frame bounded.files rfl (fun _ _ found => found)
          (fun _ _ found => Callbacks.get?_of_remove found) (fun _ member => member)
      exact runTimer_bounded fired (bounded.timers ticket timer held)

/-- One event of a bounded sender: it stays bounded, and all it says can be sent. -/
theorem step_bounded (sha256 : Sha256) {self after : Sender} {event : Event} {notes : List SenderNote}
    (bounded : Bounded self) (called : Called event)
    (stepped : (machine (digestBytes sha256)).step self event = some (after, notes)) :
    Bounded after ∧ ∀ message lane, .sendApp message lane ∈ notes →
      Sendable (.file message) (fileLane lane) := by
  obtain ⟨next, turned, same⟩ := Option.map_eq_some_iff.mp stepped
  cases same
  have quiet : Bounded { self with notes := [] } :=
    bounded.frame bounded.files rfl (fun _ _ held => held) (fun _ _ held => held) nofun
  have kept := turn_bounded sha256 quiet called turned
  exact ⟨kept, kept.notes⟩

end Turns

end OnlyTwo.FileSender
