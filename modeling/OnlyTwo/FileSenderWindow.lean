import OnlyTwo.FileSenderMoves
import OnlyTwo.FileSenderReset
import Mathlib.Data.List.Perm.Basic

/-!
The window of a sender. Every index that a transfer has taken is either in flight or
acknowledged: an entry in flight is only ever overwritten, and leaves by its acknowledgement.
Suspended calls and armed timers work on indices that were taken, so a retry puts back no other
one. A transfer that has left the map keeps nothing of this, nor does one that was cancelled.
-/

namespace OnlyTwo.FileSender

open Bytes FileProtocol Sender

section Transfers

/-- The indices that were taken are those in flight and those acknowledged. -/
structure Whole (window : Nat) (transfer : Transfer) : Prop where
  apart : ∀ index, transfer.inflight.has index = true → transfer.acked.has index = false
  taken : ∀ index, index < transfer.nextIndex ↔
    transfer.inflight.has index = true ∨ transfer.acked.has index = true
  room : transfer.inflight.size ≤ window
  total : transfer.nextIndex ≤ transfer.totalChunks
  done : transfer.status = .completed →
    ∀ index < transfer.totalChunks, transfer.acked.has index = true

variable {window index : Nat} {transfer old new : Transfer}

theorem Whole.in_flight (whole : Whole window transfer) (live : transfer.Live index)
    (taken : index < transfer.nextIndex) : transfer.inflight.has index = true := by
  rcases (whole.taken index).mp taken with flying | acked
  · exact flying
  · rw [live.2] at acked
    cases acked

/-- The two sets together have as many elements as indices were taken. -/
theorem Whole.count (whole : Whole window transfer) :
    transfer.inflight.size + transfer.acked.size = transfer.nextIndex := by
  have distinct : (transfer.inflight.keys ++ transfer.acked.keys).Nodup := by
    refine List.nodup_append.mpr ⟨transfer.inflight.keys_nodup, transfer.acked.keys_nodup, ?_⟩
    rintro index flying other acked rfl
    have away := whole.apart index ((InsertionMap.has_iff _ _).mpr flying)
    rw [(InsertionMap.has_iff _ _).mpr acked] at away
    cases away
  have same : (transfer.inflight.keys ++ transfer.acked.keys).Perm (List.range transfer.nextIndex) := by
    refine (List.perm_ext_iff_of_nodup distinct List.nodup_range).mpr fun index => ?_
    rw [List.mem_append, List.mem_range, whole.taken, InsertionMap.has_iff, InsertionMap.has_iff]
  have counted := same.length_eq
  rwa [List.length_append, List.length_range, InsertionMap.length_keys,
    InsertionMap.length_keys] at counted

theorem Whole.full (whole : Whole window transfer)
    (all : transfer.totalChunks ≤ transfer.acked.size) (inside : index < transfer.totalChunks) :
    transfer.acked.has index = true := by
  refine (InsertionMap.has_iff _ _).mpr (InsertionMap.mem_keys_of_full ?_ all inside)
  intro other acked
  have taken := (whole.taken other).mpr (Or.inr ((InsertionMap.has_iff _ _).mpr acked))
  exact taken.trans_le whole.total

theorem Whole.mark {powers : List Power} (whole : Whole window old) (marks : Marks powers old new) :
    Whole window new where
  apart := by
    rw [marks.inflight, marks.evolves.acked]
    exact whole.apart
  taken := by
    rw [marks.inflight, marks.evolves.acked, marks.nextIndex]
    exact whole.taken
  room := by
    rw [marks.inflight]
    exact whole.room
  total := by
    rw [marks.nextIndex, marks.evolves.totalChunks]
    exact whole.total
  done := by
    intro completed index inside
    rw [marks.evolves.totalChunks] at inside
    rw [marks.evolves.acked]
    rcases marks.evolves.done completed with before | all
    · exact whole.done before index inside
    · exact whole.full all inside

/-- An entry in flight is overwritten. -/
theorem Whole.write (whole : Whole window transfer) (flying : transfer.inflight.has index = true)
    (item : InflightChunk) (reason : Option String) :
    Whole window (transfer.write index item reason) := by
  have member := (InsertionMap.has_iff _ _).mp flying
  have same : ∀ other, (transfer.inflight.set index item).has other = transfer.inflight.has other := by
    intro other
    rw [Bool.eq_iff_iff, InsertionMap.has_iff, InsertionMap.has_iff, InsertionMap.mem_keys_set]
    constructor
    · rintro (rfl | early)
      · exact member
      · exact early
    · exact Or.inr
  refine ⟨?_, ?_, ?_, whole.total, whole.done⟩
  · intro other
    rw [Transfer.write, same]
    exact whole.apart other
  · intro other
    rw [Transfer.write, same]
    exact whole.taken other
  · rw [Transfer.write, InsertionMap.size_set, if_pos member]
    exact whole.room

theorem Whole.hold (whole : Whole window transfer) (change : InflightChunk → InflightChunk) :
    Whole window { transfer with inflight := transfer.inflight.mapValues change } := by
  have same : ∀ index, (transfer.inflight.mapValues change).has index =
      transfer.inflight.has index := by
    intro index
    rw [Bool.eq_iff_iff, InsertionMap.has_iff, InsertionMap.has_iff, InsertionMap.keys_mapValues]
  refine ⟨?_, ?_, ?_, whole.total, whole.done⟩
  · intro index
    rw [same]
    exact whole.apart index
  · intro index
    rw [same]
    exact whole.taken index
  · rw [InsertionMap.size_mapValues]
    exact whole.room

/-- The next index goes in flight. -/
theorem Whole.draw (whole : Whole window transfer) (room : transfer.inflight.size < window)
    (unsent : transfer.nextIndex < transfer.totalChunks) (item : InflightChunk)
    (reason : Option String) :
    Whole window (transfer.advance.write transfer.nextIndex item reason) := by
  have neither : transfer.inflight.has transfer.nextIndex = false ∧
      transfer.acked.has transfer.nextIndex = false := by
    constructor <;> refine Bool.eq_false_iff.mpr fun there => ?_
    · exact absurd ((whole.taken _).mpr (Or.inl there)) (Nat.lt_irrefl _)
    · exact absurd ((whole.taken _).mpr (Or.inr there)) (Nat.lt_irrefl _)
  have flies : ∀ index, (transfer.inflight.set transfer.nextIndex item).has index = true ↔
      index = transfer.nextIndex ∨ transfer.inflight.has index = true := by
    intro index
    rw [InsertionMap.has_iff, InsertionMap.has_iff, InsertionMap.mem_keys_set]
  refine ⟨?_, ?_, ?_, unsent, whole.done⟩
  · intro index flying
    rcases (flies index).mp flying with rfl | early
    · exact neither.2
    · exact whole.apart index early
  · intro index
    change index < transfer.nextIndex + 1 ↔ (transfer.inflight.set transfer.nextIndex item).has index =
      true ∨ transfer.acked.has index = true
    rw [flies, or_assoc, ← whole.taken index]
    omega
  · have absent : transfer.nextIndex ∉ transfer.inflight.keys := by
      rw [← InsertionMap.has_iff, neither.1]
      exact Bool.false_ne_true
    change (transfer.inflight.set transfer.nextIndex item).size ≤ window
    rw [InsertionMap.size_set, if_neg absent]
    exact room

/-- An index in flight becomes acknowledged. -/
theorem Whole.acknowledge (whole : Whole window transfer)
    (flying : transfer.inflight.has index = true) : Whole window (acknowledge transfer index) := by
  have flies : ∀ other, (transfer.inflight.delete index).has other = true ↔
      other ≠ index ∧ transfer.inflight.has other = true := by
    intro other
    rw [InsertionMap.has_iff, InsertionMap.has_iff, InsertionMap.mem_keys_delete]
  have acked : ∀ other, (transfer.acked.set index ()).has other = true ↔
      other = index ∨ transfer.acked.has other = true := by
    intro other
    rw [InsertionMap.has_iff, InsertionMap.has_iff, InsertionMap.mem_keys_set]
  refine ⟨?_, ?_, (InsertionMap.size_delete_le _ _).trans whole.room, whole.total, ?_⟩
  · intro other away
    obtain ⟨different, early⟩ := (flies other).mp away
    refine Bool.eq_false_iff.mpr fun arrived => ?_
    rcases (acked other).mp arrived with rfl | before
    · exact different rfl
    · rw [whole.apart other early] at before
      cases before
  · intro other
    change other < transfer.nextIndex ↔ (transfer.inflight.delete index).has other = true ∨
      (transfer.acked.set index ()).has other = true
    rw [flies, acked, whole.taken other]
    by_cases same : other = index
    · subst same
      simp [flying]
    · simp [same]
  · intro completed other inside
    exact (acked other).mpr (Or.inr (whole.done completed other inside))

theorem newTransfer_whole (window : Nat) (files : FileLimits) (fileId : String) (file : File)
    (queued : Bool) : Whole window (newTransfer files fileId file queued) where
  apart := fun _ _ => rfl
  taken := by simp [newTransfer, InsertionMap.has]
  room := Nat.zero_le _
  total := Nat.zero_le _
  done := by cases queued <;> rintro ⟨⟩

end Transfers

section States

/-- The transfer has left the map and does not come back. -/
def Dropped (sender : Sender) (fileId : String) : Prop :=
  sender.transfers.has fileId = false ∧
    ∀ ticket queued, sender.calls.get? ticket ≠ some (.hashing fileId queued)

/-- The index was taken by a round of `pump`. -/
def Taken (sender : Sender) (fileId : String) (index : Nat) : Prop :=
  ∃ transfer, sender.objects.get? fileId = some transfer ∧ index < transfer.nextIndex

/-- Entries, calls and timers work on indices that were taken. -/
structure Indexed (sender : Sender) : Prop where
  entries : ∀ fileId transfer, sender.objects.get? fileId = some transfer →
    ∀ index ∈ transfer.inflight.keys, index < transfer.nextIndex
  calls : ∀ ticket call, sender.calls.get? ticket = some call →
    ∀ index ∈ call.index?, Taken sender call.fileId index
  timers : ∀ ticket timer, sender.timers.get? ticket = some timer →
    Taken sender timer.fileId timer.index

structure Intact (sender : Sender) : Prop extends Indexed sender where
  whole : ∀ fileId transfer, sender.objects.get? fileId = some transfer →
    transfer.cancelled = true ∨ Dropped sender fileId ∨ Whole sender.files.windowChunks transfer
  hashing : ∀ ticket fileId queued, sender.calls.get? ticket = some (.hashing fileId queued) →
    sender.transfers.has fileId = false

/-- One object is written, and the rest of what objects are about stays. -/
structure Writes (before after : Sender) (old new : Transfer) : Prop where
  found : before.objects.get? new.fileId = some old
  objects : ∀ fileId, after.objects.get? fileId =
    if fileId = new.fileId then some new else before.objects.get? fileId
  transfers : after.transfers = before.transfers
  files : after.files = before.files
  globalPaused : after.globalPaused = before.globalPaused
  later : old.nextIndex ≤ new.nextIndex

/-- Calls and timers that are new with it work on an index it has taken. -/
structure Rewrites (before after : Sender) (old new : Transfer) : Prop
    extends Writes before after old new where
  calls : ∀ ticket call, after.calls.get? ticket = some call →
    before.calls.get? ticket = some call ∨ call.fileId = new.fileId ∧
      (∀ index ∈ call.index?, index < new.nextIndex) ∧ ∀ fileId queued, call ≠ .hashing fileId queued
  timers : ∀ ticket timer, after.timers.get? ticket = some timer →
    before.timers.get? ticket = some timer ∨ timer.fileId = new.fileId ∧ timer.index < new.nextIndex

variable {self after : Sender} {old new : Transfer} {fileId : String} {index : Nat}

theorem Taken.below {transfer : Transfer} (taken : Taken self transfer.fileId index)
    (found : self.objects.get? transfer.fileId = some transfer) : index < transfer.nextIndex := by
  obtain ⟨current, there, small⟩ := taken
  cases found.symm.trans there
  exact small

/-- A transfer of the map that was not cancelled has a whole window. -/
theorem Intact.listed_whole (intact : Intact self) {transfer : Transfer}
    (found : self.objects.get? fileId = some transfer)
    (listed : self.transfers.has fileId = true) (live : transfer.cancelled = false) :
    Whole self.files.windowChunks transfer := by
  rcases intact.whole fileId transfer found with cancelled | dropped | whole
  · rw [live] at cancelled
    cases cancelled
  · have unlisted := dropped.1
    rw [listed] at unlisted
    cases unlisted
  · exact whole

theorem create_intact (files : FileLimits) : Intact (create files) := by
  refine ⟨⟨?_, ?_, ?_⟩, ?_, ?_⟩ <;> simp [create]

theorem Writes.taken (writes : Writes self after old new) (taken : Taken self fileId index) :
    Taken after fileId index := by
  obtain ⟨transfer, found, small⟩ := taken
  unfold Taken
  rw [writes.objects]
  by_cases same : fileId = new.fileId
  · subst same
    cases writes.found.symm.trans found
    exact ⟨new, if_pos rfl, small.trans_le writes.later⟩
  · exact ⟨transfer, by rw [if_neg same]; exact found, small⟩

theorem Rewrites.hashing (rewrites : Rewrites self after old new) {ticket : Nat} {queued : Bool}
    (held : after.calls.get? ticket = some (.hashing fileId queued)) :
    self.calls.get? ticket = some (.hashing fileId queued) := by
  rcases rewrites.calls ticket _ held with before | ⟨_, _, other⟩
  · exact before
  · exact absurd rfl (other fileId queued)

theorem Rewrites.dropped (rewrites : Rewrites self after old new) (dropped : Dropped self fileId) :
    Dropped after fileId := by
  refine ⟨by rw [rewrites.transfers]; exact dropped.1, ?_⟩
  intro ticket queued held
  exact dropped.2 ticket queued (rewrites.hashing held)

theorem Rewrites.indexed (rewrites : Rewrites self after old new) (indexed : Indexed self)
    (entries : ∀ index ∈ new.inflight.keys, index ∈ old.inflight.keys ∨ index < new.nextIndex) :
    Indexed after where
  entries := by
    intro fileId transfer there index member
    rw [rewrites.objects] at there
    split at there
    · cases there
      rcases entries index member with early | small
      · exact (indexed.entries _ old rewrites.found index early).trans_le rewrites.later
      · exact small
    · exact indexed.entries fileId transfer there index member
  calls := by
    intro ticket call held index works
    rcases rewrites.calls ticket call held with before | ⟨same, small, _⟩
    · exact rewrites.toWrites.taken (indexed.calls ticket call before index works)
    · exact ⟨new, by rw [rewrites.objects, if_pos same], small index works⟩
  timers := by
    intro ticket timer held
    rcases rewrites.timers ticket timer held with before | ⟨same, small⟩
    · exact rewrites.toWrites.taken (indexed.timers ticket timer before)
    · exact ⟨new, by rw [rewrites.objects, if_pos same], small⟩

/-- A rewrite keeps the sender intact when it keeps the object so. -/
theorem Rewrites.intact (rewrites : Rewrites self after old new) (intact : Intact self)
    (ended : old.cancelled = true → new.cancelled = true)
    (whole : Whole self.files.windowChunks old →
      new.cancelled = true ∨ Dropped self new.fileId ∨ Whole self.files.windowChunks new)
    (entries : ∀ index ∈ new.inflight.keys, index ∈ old.inflight.keys ∨ index < new.nextIndex) :
    Intact after where
  toIndexed := rewrites.indexed intact.toIndexed entries
  whole := by
    intro fileId transfer there
    rw [rewrites.objects] at there
    rw [rewrites.files]
    split at there
    · rename_i same
      cases there
      subst same
      rcases intact.whole _ old rewrites.found with cancelled | dropped | was
      · exact Or.inl (ended cancelled)
      · exact Or.inr (Or.inl (rewrites.dropped dropped))
      · exact (whole was).imp id (Or.imp rewrites.dropped id)
    · exact (intact.whole fileId transfer there).imp id (Or.imp rewrites.dropped id)
  hashing := by
    intro ticket fileId queued held
    rw [rewrites.transfers]
    exact intact.hashing ticket fileId queued (rewrites.hashing held)

/-- Calls and timers may go, and notes may come. -/
theorem Intact.frame (intact : Intact self) (objects : after.objects = self.objects)
    (transfers : after.transfers = self.transfers) (files : after.files = self.files)
    (calls : ∀ ticket call, after.calls.get? ticket = some call →
      self.calls.get? ticket = some call ∨
        (∀ index ∈ call.index?, Taken self call.fileId index) ∧
          ∀ fileId queued, call ≠ .hashing fileId queued)
    (timers : ∀ ticket timer, after.timers.get? ticket = some timer →
      self.timers.get? ticket = some timer) : Intact after where
  whole := by
    intro fileId transfer found
    rw [objects] at found
    rw [files]
    refine (intact.whole fileId transfer found).imp id (Or.imp ?_ id)
    rintro ⟨unlisted, unhashed⟩
    refine ⟨by rw [transfers]; exact unlisted, ?_⟩
    intro ticket queued held
    rcases calls ticket _ held with before | ⟨_, other⟩
    · exact unhashed ticket queued before
    · exact other fileId queued rfl
  entries := by
    rw [objects]
    exact intact.entries
  calls := by
    intro ticket call held
    unfold Taken
    rw [objects]
    rcases calls ticket call held with before | ⟨taken, _⟩
    · exact intact.calls ticket call before
    · exact taken
  timers := by
    intro ticket timer held
    unfold Taken
    rw [objects]
    exact intact.timers ticket timer (timers ticket timer held)
  hashing := by
    intro ticket fileId queued held
    rw [transfers]
    rcases calls ticket _ held with before | ⟨_, other⟩
    · exact intact.hashing ticket fileId queued before
    · exact absurd rfl (other fileId queued)

theorem Intact.unlist (intact : Intact self) (fileId : String) :
    Intact { self with transfers := self.transfers.delete fileId } := by
  have gone : ∀ other, self.transfers.has other = false →
      (self.transfers.delete fileId).has other = false := by
    intro other absent
    refine Bool.eq_false_iff.mpr fun there => ?_
    rw [InsertionMap.has_iff, InsertionMap.mem_keys_delete, ← InsertionMap.has_iff, absent] at there
    exact Bool.false_ne_true there.2
  refine ⟨⟨intact.entries, intact.calls, intact.timers⟩, ?_,
    fun ticket other queued held => gone other (intact.hashing ticket other queued held)⟩
  intro other transfer found
  exact (intact.whole other transfer found).imp id
    (Or.imp (fun dropped => ⟨gone other dropped.1, dropped.2⟩) id)

theorem put_rewrites (self : Sender) (new : Transfer) (found : self.objects.get? new.fileId = some old)
    (later : old.nextIndex ≤ new.nextIndex) : Rewrites self (self.put new) old new where
  toWrites := ⟨found, fun _ => InsertionMap.get?_set _ _ _ _, rfl, rfl, rfl, later⟩
  calls := fun _ _ held => Or.inl held
  timers := fun _ _ held => Or.inl held

theorem get?_of_cancelAll (items : List InflightChunk) {timers : Callbacks SenderTimer}
    {ticket : Nat} {timer : SenderTimer}
    (held : (cancelAll timers items).get? ticket = some timer) : timers.get? ticket = some timer := by
  induction items generalizing timers with
  | nil => exact held
  | cons item rest ih => exact Callbacks.get?_of_cancel (ih held)

/-- Timers are cancelled before an object is written. -/
theorem Rewrites.cancelled {timers : Callbacks SenderTimer}
    (rewrites : Rewrites { self with timers } after old new)
    (fewer : ∀ ticket timer, timers.get? ticket = some timer → self.timers.get? ticket = some timer) :
    Rewrites self after old new where
  toWrites := ⟨rewrites.found, rewrites.objects, rewrites.transfers, rewrites.files,
    rewrites.globalPaused, rewrites.later⟩
  calls := rewrites.calls
  timers := fun ticket timer held =>
    (rewrites.timers ticket timer held).imp (fewer ticket timer) id

theorem clearTimers_rewrites (self : Sender) {transfer : Transfer}
    (found : self.objects.get? transfer.fileId = some transfer) :
    Rewrites self (self.clearTimers transfer.fileId) transfer
      { transfer with inflight := .empty } := by
  simp only [clearTimers, withTransfer, found]
  exact Rewrites.cancelled (put_rewrites _ _ found (Nat.le_refl _)) (fun _ _ => get?_of_cancelAll _)

theorem holdOutstanding_rewrites {transfer : Transfer}
    (found : self.objects.get? transfer.fileId = some transfer) :
    Rewrites self (self.holdOutstanding transfer.fileId) transfer { transfer with
      inflight := transfer.inflight.mapValues fun item => ⟨item.attempts, .retryWait, none⟩ } := by
  simp only [holdOutstanding, withTransfer, found]
  exact Rewrites.cancelled (put_rewrites _ _ found (Nat.le_refl _)) (fun _ _ => get?_of_cancelAll _)

theorem Writes.trans {middle : Sender} {between : Transfer}
    (first : Writes self middle old between) (second : Writes middle after between new)
    (same : between.fileId = new.fileId) : Writes self after old new where
  found := same ▸ first.found
  objects := by
    intro fileId
    rw [second.objects]
    split
    · rfl
    · rename_i other
      rw [first.objects, if_neg (same ▸ other)]
  transfers := second.transfers.trans first.transfers
  files := second.files.trans first.files
  globalPaused := second.globalPaused.trans first.globalPaused
  later := first.later.trans second.later

theorem Rewrites.trans {middle : Sender} {between : Transfer}
    (first : Rewrites self middle old between) (second : Rewrites middle after between new)
    (same : between.fileId = new.fileId) : Rewrites self after old new where
  toWrites := first.toWrites.trans second.toWrites same
  calls := by
    intro ticket call held
    rcases second.calls ticket call held with between | fresh
    · rcases first.calls ticket call between with before | ⟨own, small, other⟩
      · exact Or.inl before
      · exact Or.inr ⟨own.trans same, fun index works => (small index works).trans_le second.later,
          other⟩
    · exact Or.inr fresh
  timers := by
    intro ticket timer held
    rcases second.timers ticket timer held with between | fresh
    · rcases first.timers ticket timer between with before | ⟨own, small⟩
      · exact Or.inl before
      · exact Or.inr ⟨own.trans same, small.trans_le second.later⟩
    · exact Or.inr fresh

theorem launch_writes (self : Sender) (transfer : Transfer)
    (found : self.objects.get? transfer.fileId = some transfer)
    (index attempts : Nat) :
    Writes self (self.launch transfer index attempts) transfer (transfer.launched index attempts) := by
  refine ⟨found, ?_, ?_, ?_, ?_, Nat.le_refl _⟩
  · intro fileId
    rw [launch_objects]
    exact InsertionMap.get?_set _ _ _ _
  all_goals
    unfold Sender.launch emit withTransfer
    split <;> rfl

theorem launch_calls (self : Sender) (transfer : Transfer) (index attempts ticket : Nat) :
    (self.launch transfer index attempts).calls.get? ticket =
      if ticket = self.calls.next then some (.slicing transfer.fileId index attempts)
      else self.calls.get? ticket := by
  rw [← Callbacks.get?_add]
  unfold Sender.launch emit withTransfer
  split <;> rfl

theorem launch_timers (self : Sender) (transfer : Transfer) (index attempts : Nat) :
    (self.launch transfer index attempts).timers =
      self.timers.cancel ((transfer.inflight.get? index).bind InflightChunk.timer) := by
  unfold Sender.launch emit withTransfer
  split <;> rfl

theorem launch_rewrites (self : Sender) (transfer : Transfer)
    (found : self.objects.get? transfer.fileId = some transfer) (small : index < transfer.nextIndex) (attempts : Nat) :
    Rewrites self (self.launch transfer index attempts) transfer
      (transfer.launched index attempts) := by
  refine ⟨launch_writes self transfer found index attempts, ?_, ?_⟩
  · intro ticket call held
    rw [launch_calls] at held
    split at held
    · cases held
      refine Or.inr ⟨rfl, ?_, nofun⟩
      rintro other same
      cases same
      exact small
    · exact Or.inl held
  · intro ticket timer held
    rw [launch_timers] at held
    exact Or.inl (Callbacks.get?_of_cancel held)

theorem rearm_rewrites {transfer : Transfer} (found : self.objects.get? transfer.fileId = some transfer)
    (small : index < transfer.nextIndex) (next : Nat) (reason : String) :
    ∃ handle, Rewrites self (self.rearm transfer index next reason) transfer
      (transfer.write index ⟨next - 1, .retryWait, some handle⟩ (some reason)) := by
  refine ⟨_, ⟨found, fun _ => InsertionMap.get?_set _ _ _ _, rfl, rfl, rfl, Nat.le_refl _⟩,
    fun _ _ held => Or.inl held, ?_⟩
  intro ticket timer held
  simp only [rearm, Sender.put, Sender.note, Callbacks.get?_add] at held
  split at held
  · cases held
    exact Or.inr ⟨rfl, small⟩
  · exact Or.inl (Callbacks.get?_of_cancel held)

theorem await_rewrites (self : Sender) {transfer : Transfer}
    (found : self.objects.get? transfer.fileId = some transfer) (small : index < transfer.nextIndex) (attempts : Nat) :
    ∃ handle, Rewrites self (self.await transfer index attempts) transfer
      (transfer.write index ⟨attempts, .waitingAck, some handle⟩ none) := by
  refine ⟨_, ⟨found, fun _ => InsertionMap.get?_set _ _ _ _, rfl, rfl, rfl, Nat.le_refl _⟩,
    fun _ _ held => Or.inl held, ?_⟩
  intro ticket timer held
  simp only [await, Sender.put, Sender.note, Callbacks.get?_add] at held
  split at held
  · cases held
    exact Or.inr ⟨rfl, small⟩
  · exact Or.inl held

/-- The entry of a taken index is written anew. -/
theorem Rewrites.write {transfer : Transfer} {item : InflightChunk} {reason : Option String}
    (rewrites : Rewrites self after transfer (transfer.write index item reason)) (intact : Intact self)
    (live : transfer.Live index) (small : index < transfer.nextIndex) : Intact after := by
  refine rewrites.intact intact id ?_ ?_
  · exact fun whole => Or.inr (Or.inr (whole.write (whole.in_flight live small) item reason))
  · intro other member
    rcases (InsertionMap.mem_keys_set _ _ _ _).mp member with rfl | early
    · exact Or.inr small
    · exact Or.inl early

end States

section Runs

variable {self start after : Sender} {event : Event} {powers : List Power}

theorem clearTimers_files (self : Sender) (fileId : String) :
    (self.clearTimers fileId).files = self.files := by
  unfold clearTimers withTransfer
  split <;> rfl

theorem Moves.files (moves : Moves powers start self) : self.files = start.files := by
  induction moves with
  | refl => rfl
  | say _ _ ih => exact ih
  | wait _ _ _ ih => exact ih
  | disarm _ _ ih => exact ih
  | mark _ _ _ _ ih => exact ih
  | stop _ _ _ _ ih => exact (clearTimers_files _ _).trans ih
  | clear _ _ _ ih => exact (clearTimers_files _ _).trans ih
  | drop _ _ _ _ ih => exact (clearTimers_files _ _).trans ih
  | hold _ found _ ih => exact (holdOutstanding_rewrites found).files.trans ih
  | skip _ _ _ _ ih => exact ih
  | @draw self transfer _ _ _ _ _ _ _ ih =>
      exact (launch_writes (self.put transfer.advance) transfer.advance
        (InsertionMap.get?_set_self _ _ _) _ _).files.trans ih
  | relaunch _ found _ _ _ _ _ _ ih => exact (launch_writes _ _ found _ _).files.trans ih

theorem Opening.files (opening : Opening self event after)
    (kept : ∀ files, event ≠ .setProfile files) : after.files = self.files := by
  cases opening with
  | profile files => exact absurd rfl (kept files)
  | putBack _ retried _ _ => exact retried.files
  | rearmed _ retried _ _ _ _ => exact retried.files
  | @relaunched ticket index next transfer _ found _ _ =>
      exact (launch_writes { self with timers := self.timers.remove ticket } transfer found index
        next).files
  | _ => rfl

theorem Moves.intact (moves : Moves powers start self) (kept : .clear ∉ powers)
    (intact : Intact start) : Intact self := by
  induction moves with
  | refl => exact intact
  | say _ _ ih =>
      exact ih.frame rfl rfl rfl (fun _ _ held => Or.inl held) (fun _ _ held => held)
  | @wait self call _ unchunked read ih =>
      refine ih.frame rfl rfl rfl ?_ (fun _ _ held => held)
      intro ticket other held
      simp only [Sender.suspend, Callbacks.get?_add] at held
      split at held
      · cases held
        exact Or.inr ⟨by simp [unchunked], read⟩
      · exact Or.inl held
  | disarm _ handle ih =>
      exact ih.frame rfl rfl rfl (fun _ _ held => Or.inl held)
        (fun _ _ held => Callbacks.get?_of_cancel held)
  | mark _ found marks _ ih =>
      refine (put_rewrites _ _ found marks.nextIndex.ge).intact ih ?_ ?_ ?_
      · exact fun cancelled => marks.cancelled.trans cancelled
      · exact fun whole => Or.inr (Or.inr (whole.mark marks))
      · exact fun index member => Or.inl (marks.inflight ▸ member)
  | @stop self transfer status _ found reason ended ih =>
      have stopped := (put_rewrites self { transfer with cancelled := true, status, reason }
        found (Nat.le_refl _)).trans
        (clearTimers_rewrites _ (InsertionMap.get?_set_self _ _ _)) rfl
      exact stopped.intact ih (fun _ => rfl) (fun _ => Or.inl rfl) (by rintro _ ⟨⟩)
  | clear _ _ power _ => exact absurd power kept
  | @drop self transfer _ found listed power ih =>
      have unlisted := ih.unlist transfer.fileId
      have dropped : Dropped { self with transfers := self.transfers.delete transfer.fileId }
          transfer.fileId := by
        constructor
        · exact InsertionMap.has_delete_self _ _
        · intro ticket queued held
          have was := ih.hashing ticket _ queued held
          rw [listed] at was
          cases was
      have cleared := (clearTimers_rewrites
        { self with transfers := self.transfers.delete transfer.fileId } found).intact
        unlisted id (fun _ => Or.inr (Or.inl dropped)) (by rintro _ ⟨⟩)
      simp only [clearTimers, withTransfer, found] at cleared ⊢
      exact cleared
  | @hold self transfer _ found power ih =>
      refine (holdOutstanding_rewrites found).intact ih id 
        (fun whole => Or.inr (Or.inr (whole.hold _))) ?_
      intro index member
      rw [InsertionMap.keys_mapValues] at member
      exact Or.inl member
  | @skip self transfer _ found over_ power ih =>
      refine (put_rewrites self transfer.advance found (Nat.le_succ _)).intact ih id ?_
        (fun _ => Or.inl)
      intro whole
      exact absurd ((whole.taken _).mpr (Or.inr over_)) (Nat.lt_irrefl _)
  | @draw self transfer _ found live running room unsent power ih =>
      have launched := launch_rewrites (self.put transfer.advance) transfer.advance
        (InsertionMap.get?_set_self _ _ _) (Nat.lt_succ_self _) 1
      have drawn := (put_rewrites self transfer.advance found (Nat.le_succ _)).trans launched rfl
      refine drawn.intact ih id (fun whole => Or.inr (Or.inr (whole.draw room unsent _ _))) ?_
      intro index member
      rcases (InsertionMap.mem_keys_set _ _ _ _).mp member with rfl | early
      · exact Or.inr (Nat.lt_succ_self _)
      · exact Or.inl early
  | @relaunch self transfer index item _ found live running held idle within power ih =>
      have small := ih.entries _ transfer found index (InsertionMap.mem_keys_of_get? held)
      exact (launch_rewrites self transfer found small (item.attempts + 1)).write ih live small

/-- A new profile leaves room for what is in flight. -/
def KeepsRoom (sender : Sender) (event : Event) : Prop :=
  ∀ files, event = .setProfile files → ∀ fileId transfer,
    sender.objects.get? fileId = some transfer → transfer.cancelled = false →
      transfer.inflight.size ≤ files.windowChunks

theorem Intact.free_call (intact : Intact self) (ticket : Nat) :
    Intact { self with calls := self.calls.remove ticket } :=
  intact.frame rfl rfl rfl (fun _ _ held => Or.inl (Callbacks.get?_of_remove held))
    (fun _ _ held => held)

theorem Intact.free_timer (intact : Intact self) (ticket : Nat) :
    Intact { self with timers := self.timers.remove ticket } :=
  intact.frame rfl rfl rfl (fun _ _ held => Or.inl held)
    (fun _ _ held => Callbacks.get?_of_remove held)

/-- A made transfer is not in the map, or it is put there in the same step. -/
theorem Intact.make (intact : Intact self) {fileId : String} {file : File}
    {queued : Bool} (absent : self.objects.get? fileId = none)
    (objects : after.objects = self.objects.set fileId (newTransfer self.files fileId file queued))
    (files : after.files = self.files) (timers : after.timers = self.timers)
    (calls : ∀ ticket call, after.calls.get? ticket = some call →
      self.calls.get? ticket = some call ∨ call = .hashing fileId queued)
    (listed : ∀ other, other ≠ fileId → after.transfers.has other = self.transfers.has other)
    (hashing : ∀ ticket late, after.calls.get? ticket = some (.hashing fileId late) →
      after.transfers.has fileId = false) : Intact after := by
  have there : ∀ other transfer, after.objects.get? other = some transfer →
      transfer = newTransfer self.files fileId file queued ∨
        other ≠ fileId ∧ self.objects.get? other = some transfer := by
    intro other transfer found
    rw [objects, InsertionMap.get?_set] at found
    split at found
    · exact Or.inl (Option.some.inj found).symm
    · rename_i different
      exact Or.inr ⟨different, found⟩
  have taken : ∀ other index, Taken self other index → Taken after other index := by
    rintro other index ⟨transfer, found, small⟩
    have different : other ≠ fileId := by
      rintro rfl
      rw [absent] at found
      cases found
    exact ⟨transfer, by rw [objects, InsertionMap.get?_set_ne _ _ different]; exact found, small⟩
  refine ⟨⟨?_, ?_, ?_⟩, ?_, ?_⟩
  · intro other transfer found index member
    rcases there other transfer found with rfl | ⟨_, before⟩
    · cases member
    · exact intact.entries other transfer before index member
  · intro ticket call held index works
    rcases calls ticket call held with early | rfl
    · exact taken _ _ (intact.calls ticket call early index works)
    · cases works
  · intro ticket timer held
    exact taken _ _ (intact.timers ticket timer (timers ▸ held))
  · intro other transfer found
    rcases there other transfer found with rfl | ⟨different, before⟩
    · exact Or.inr (Or.inr (newTransfer_whole _ _ _ _ _))
    · rw [files]
      refine (intact.whole other transfer before).imp id (Or.imp ?_ id)
      rintro ⟨unlisted, unhashed⟩
      refine ⟨(listed other different).trans unlisted, ?_⟩
      intro ticket late held
      rcases calls ticket _ held with early | same
      · exact unhashed ticket late early
      · cases same
        exact different rfl
  · intro ticket other late held
    by_cases same : other = fileId
    · subst same
      exact hashing ticket late held
    · rcases calls ticket _ held with early | fresh
      · exact (listed other same).trans (intact.hashing ticket other late early)
      · cases fresh
        exact absurd rfl same

/-- A transfer whose digest has ended is put into the map. -/
theorem Intact.register (intact : Intact self) {ticket : Nat} {fileId : String} {queued : Bool}
    (held : self.calls.get? ticket = some (.hashing fileId queued))
    (once : ∀ other late, self.calls.get? other = some (.hashing fileId late) → other = ticket) :
    Intact { self with
      calls := self.calls.remove ticket
      transfers := self.transfers.set fileId () } := by
  refine ⟨⟨intact.entries, ?_, intact.timers⟩, ?_, ?_⟩
  · exact fun other call again => intact.calls other call (Callbacks.get?_of_remove again)
  · intro other transfer found
    refine (intact.whole other transfer found).imp id (Or.imp ?_ id)
    rintro ⟨unlisted, unhashed⟩
    have different : other ≠ fileId := by
      rintro rfl
      exact unhashed ticket queued held
    refine ⟨?_, fun another late again => unhashed another late (Callbacks.get?_of_remove again)⟩
    simpa only [InsertionMap.has, InsertionMap.get?_set_ne _ _ different] using unlisted
  · intro other another late again
    have before := Callbacks.get?_of_remove again
    have different : another ≠ fileId := by
      rintro rfl
      cases once other late before
      simp [Callbacks.get?_remove] at again
    simpa only [InsertionMap.has, InsertionMap.get?_set_ne _ _ different] using
      intact.hashing other another late before

theorem Retried.small {free : Sender} {transfer : Transfer} {index next : Nat}
    (retried : Retried self transfer.fileId index event free next) (intact : Intact self)
    (found : self.objects.get? transfer.fileId = some transfer) :
    Intact free ∧ index < transfer.nextIndex := by
  cases retried with
  | rejected reason listed there held =>
      cases found.symm.trans there
      exact ⟨intact, intact.entries _ transfer found index (InsertionMap.mem_keys_of_get? held)⟩
  | unread held => exact ⟨intact.free_call _, (intact.calls _ _ held index rfl).below found⟩
  | unsent held => exact ⟨intact.free_call _, (intact.calls _ _ held index rfl).below found⟩
  | late held => exact ⟨intact.free_timer _, (intact.timers _ _ held).below found⟩

theorem Opening.intact (opening : Opening self event after) (ledger : Ledger self)
    (roomy : KeepsRoom self event) (intact : Intact self) : Intact after := by
  cases opening with
  | still => exact intact
  | profile files =>
      refine ⟨⟨intact.entries, intact.calls, intact.timers⟩, ?_, intact.hashing⟩
      intro fileId transfer found
      rcases intact.whole fileId transfer found with cancelled | dropped | whole
      · exact Or.inl cancelled
      · exact Or.inr (Or.inl dropped)
      · cases live : transfer.cancelled with
        | true => exact Or.inl rfl
        | false =>
            -- A smaller window of the new profile is kept out by `roomy`.
            have room := roomy files rfl fileId transfer found live
            exact Or.inr (Or.inr ⟨whole.apart, whole.taken, room, whole.total, whole.done⟩)
  | global paused reason =>
      exact intact.frame rfl rfl rfl (fun _ _ held => Or.inl held) (fun _ _ held => held)
  | settled outcome held => exact intact.free_call _
  | fired held => exact intact.free_timer _
  | @made fileId file queued absent valid =>
      refine intact.make absent rfl rfl rfl ?_ (fun _ _ => rfl) ?_
      · intro ticket call held
        simp only [Sender.suspend, Callbacks.get?_add] at held
        split at held
        · exact Or.inr (Option.some.inj held).symm
        · exact Or.inl held
      · intro ticket late held
        refine Bool.eq_false_iff.mpr fun listed => ?_
        exact ledger.made fileId listed absent
  | @opened fileId file queued absent valid =>
      refine intact.make absent rfl rfl rfl (fun _ _ held => Or.inl held) ?_ ?_
      · intro other different
        simp only [InsertionMap.has, InsertionMap.get?_set_ne _ _ different]
      · intro ticket late held
        exact absurd held (ledger.unhashed absent ticket late)
  | @hashed ticket outcome queued transfer held found sha256 =>
      have written := (put_rewrites self { transfer with sha256 } found (Nat.le_refl _)).intact
        intact id (fun whole => Or.inr (Or.inr ⟨whole.apart, whole.taken, whole.room, whole.total,
          whole.done⟩)) (fun _ => Or.inl)
      refine written.register held fun other late again => ?_
      -- No second digest of this id is running.
      exact ledger.once other ticket transfer.fileId late queued again held
  | @acknowledged transfer index item found inside held =>
      have written := Rewrites.cancelled (put_rewrites (self.clearInflightTimer (some item))
        (acknowledge transfer index) found (Nat.le_refl _))
        (fun _ _ => Callbacks.get?_of_cancel)
      -- An acknowledged entry was in flight, so the chunk moves from one set to the other.
      have flying : transfer.inflight.has index = true :=
        (InsertionMap.has_iff _ _).mpr (InsertionMap.mem_keys_of_get? held)
      refine written.intact intact id (fun whole => Or.inr (Or.inr (whole.acknowledge flying))) ?_
      exact fun other member => Or.inl ((InsertionMap.mem_keys_delete _ _ _).mp member).2
  | @putBack _ free transfer index next reason retried found live =>
      obtain ⟨kept, inside⟩ := retried.small intact found
      have there : free.objects.get? transfer.fileId = some transfer := retried.objects ▸ found
      have written := Rewrites.cancelled (put_rewrites
        (free.clearInflightTimer (transfer.inflight.get? index))
        (transfer.write index ⟨next - 1, .retryWait, none⟩ (some reason)) there (Nat.le_refl _))
        (fun _ _ => Callbacks.get?_of_cancel)
      exact written.write kept live inside
  | @rearmed _ free transfer index next reason retried found live running within =>
      obtain ⟨kept, inside⟩ := retried.small intact found
      obtain ⟨handle, written⟩ := rearm_rewrites (retried.objects ▸ found) inside next reason
      exact written.write kept live inside
  | @relaunched ticket index next transfer held found live within =>
      have inside := (intact.timers ticket _ held).below found
      exact (launch_rewrites { self with timers := self.timers.remove ticket } transfer found inside
        next).write (intact.free_timer ticket) live inside
  | @parked ticket index next transfer held found live =>
      have inside := (intact.timers ticket _ held).below found
      exact (put_rewrites { self with timers := self.timers.remove ticket }
        (transfer.write index ⟨next, .retryWait, none⟩ transfer.reason) found
        (Nat.le_refl _)).write (intact.free_timer ticket) live inside
  | @sent ticket index attempts fileId message outcome held chunk =>
      refine (intact.free_call ticket).frame rfl rfl rfl ?_ (fun _ _ held => held)
      intro other call added
      simp only [Sender.suspend, Sender.note, Callbacks.get?_add] at added
      split at added
      · cases added
        -- The new call waits for the answer to the chunk that the old one has sliced.
        exact Or.inr ⟨fun other works => by
          cases works
          exact intact.calls ticket _ held index rfl, by simp⟩
      · exact Or.inl added
  | @confirmed ticket index attempts transfer outcome held found live =>
      have inside := (intact.calls ticket _ held index rfl).below found
      obtain ⟨handle, written⟩ := await_rewrites
        { self with calls := self.calls.remove ticket } found inside attempts
      exact written.write (intact.free_call ticket) live inside

theorem clearAll_indexed (named : Named self) (indexed : Indexed self) (ids : List String) :
    Indexed (ids.foldl clearTimers self) := by
  induction ids generalizing self with
  | nil => exact indexed
  | cons id rest ih =>
      refine ih (clearTimers_named named id) ?_
      cases found : self.objects.get? id with
      | none => simpa only [clearTimers, withTransfer, found] using indexed
      | some transfer =>
          have same := named id transfer found
          subst same
          exact (clearTimers_rewrites self found).indexed indexed (by rintro _ ⟨⟩)

/-- A reset drops what was in the map and leaves the other objects alone. -/
theorem reset_intact (named : Named self) (intact : Intact self) : Intact self.reset := by
  have indexed := clearAll_indexed named intact.toIndexed self.transfers.keys
  have files : self.reset.files = self.files := (clearAll_moves self).files
  have calls : self.reset.calls = self.calls := (clearEach self.transfers.keys named).2.2.1
  refine ⟨⟨indexed.entries, indexed.calls, indexed.timers⟩, ?_, fun _ _ _ _ => rfl⟩
  intro fileId transfer found
  rw [files]
  have unhashed : (∀ ticket queued, self.calls.get? ticket ≠ some (.hashing fileId queued)) →
      Dropped self.reset fileId := fun none => ⟨rfl, by rw [calls]; exact none⟩
  cases listed : self.transfers.has fileId with
  | true =>
      refine Or.inr (Or.inl (unhashed fun ticket queued held => ?_))
      rw [intact.hashing ticket fileId queued held] at listed
      cases listed
  | false =>
      have same := (reset_untouched named listed).2.object
      rw [found] at same
      exact (intact.whole fileId transfer same.symm).imp id
        (Or.imp (fun dropped => unhashed dropped.2) id)

theorem turn_intact (digest : Bytes → String) (ledger : Ledger self) (roomy : KeepsRoom self event)
    (intact : Intact self) (stepped : self.turn digest event = some after) : Intact after := by
  by_cases reset : event = .reset
  · subst reset
    cases stepped
    exact reset_intact ledger.named intact
  · obtain ⟨middle, opening, moves⟩ := turn_unfolds digest ledger.named reset stepped
    refine moves.intact ?_ (opening.intact ledger roomy intact)
    cases event with
    | setGlobalPaused paused reason => cases paused <;> simp [Event.powers]
    | reset => exact absurd rfl reset
    | _ => simp [Event.powers]

theorem run_intact (digest : Bytes → String) {limits : FileLimits} {sender : Sender}
    {history : List SenderNote}
    (run : Machine.Run (machine digest) KeepsRoom (create limits) sender history) :
    Ledger sender ∧ Intact sender := by
  refine run.state_invariant (fun sender => Ledger sender ∧ Intact sender)
    ⟨start_ledger limits, create_intact limits⟩ ?_
  rintro before event after outputs ⟨ledger, intact⟩ roomy stepped
  obtain ⟨next, turned, same⟩ := Option.map_eq_some_iff.mp stepped
  cases same
  have quiet : Ledger { before with notes := [] } :=
    ⟨ledger.named, ledger.made, ledger.unlisted, ledger.object, ledger.once⟩
  have still : Intact { before with notes := [] } :=
    intact.frame rfl rfl rfl (fun _ _ held => Or.inl held) (fun _ _ held => held)
  exact ⟨(turn_ledger digest quiet rfl turned).1, turn_intact digest quiet roomy still turned⟩

/-- In every run, for every registered transfer that was not cancelled. -/
theorem window_partitioned (digest : Bytes → String) (limits : FileLimits) (sender : Sender)
    (history : List SenderNote)
    (run : Machine.Run (machine digest) KeepsRoom (create limits) sender history) (fileId : String)
    (transfer : Transfer) (listed : sender.transfers.has fileId = true)
    (found : sender.objects.get? fileId = some transfer) (live : transfer.cancelled = false) :
    (∀ index, ¬ (transfer.acked.has index = true ∧ transfer.inflight.has index = true)) ∧
    (∀ index, index < transfer.nextIndex ↔
      transfer.acked.has index = true ∨ transfer.inflight.has index = true) ∧
    transfer.inflight.size ≤ sender.files.windowChunks ∧
    transfer.nextIndex ≤ transfer.totalChunks ∧
    (transfer.status = .completed →
      ∀ index < transfer.totalChunks, transfer.acked.has index = true) := by
  have whole := (run_intact digest run).2.listed_whole found listed live
  refine ⟨?_, ?_, whole.room, whole.total, whole.done⟩
  · rintro index ⟨acked, flying⟩
    rw [whole.apart index flying] at acked
    cases acked
  · intro index
    rw [whole.taken index, or_comm]

/-- The first of three chunks is acknowledged and the last one follows it. -/
theorem acknowledged_chunk_is_partitioned :
    ∃ sender history transfer,
      Machine.Run (machine fun _ => "") KeepsRoom (create sampleLimits) sender history ∧
      sender.objects.get? "f" = some transfer ∧ transfer.acked.has 0 = true ∧
      transfer.nextIndex = 3 ∧
      (∀ index, index < transfer.nextIndex ↔
        transfer.acked.has index = true ∨ transfer.inflight.has index = true) := by
  have ran : ((machine fun _ => "").execute (create sampleLimits) (sampleTransfer ++
      [.settle 2 (.ok true), .settle 5 (.ok true), .settle 4 (.ok true), .ack "f" 0])).map
      (fun result => (result.1.transfers.has "f", (result.1.objects.get? "f").map fun transfer =>
        (transfer.cancelled, transfer.acked.has 0, transfer.nextIndex))) =
      some (true, some (false, true, 3)) := by decide +kernel
  obtain ⟨⟨sender, history⟩, executed, seen⟩ := Option.map_eq_some_iff.mp ran
  simp only [Prod.mk.injEq, Option.map_eq_some_iff] at seen
  obtain ⟨listed, transfer, found, live, acked, counted⟩ := seen
  have along : (machine fun _ => "").Along KeepsRoom (create sampleLimits) (sampleTransfer ++
      [.settle 2 (.ok true), .settle 5 (.ok true), .settle 4 (.ok true), .ack "f" 0]) := by
    refine Machine.along_of_forall _ _ ?_
    rintro event member sender files rfl
    simp [sampleTransfer] at member
  have run := Machine.execute_run _ along executed
  exact ⟨sender, history, transfer, run, found, acked, counted,
    (window_partitioned _ sampleLimits sender history run "f" transfer listed found live).2.1⟩

end Runs

end OnlyTwo.FileSender
