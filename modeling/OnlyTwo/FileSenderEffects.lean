import OnlyTwo.FileSender

/-!
What the functions of a sender can do, said once. Every function that works on
a transfer is a chain of elementary effects on that transfer: an update of its
object that keeps the file and the acknowledged set, its entry in the map, a
note about it, a suspended call of it, an armed timer of it, a cancelled timer.
A turn prepares some state, runs such a chain, and may end with an offer. The
results about senders are inductions over the chain.
-/

namespace OnlyTwo.FileSender

open Bytes FileProtocol Sender

/-- Objects are stored under their own id. -/
def Named (sender : Sender) : Prop :=
  ∀ fileId transfer, sender.objects.get? fileId = some transfer → transfer.fileId = fileId

/-- What no update of an object changes, and when it may set `completed`; none
puts an object back into the queue. -/
structure Evolves (old new : Transfer) : Prop where
  fileId : new.fileId = old.fileId
  file : new.file = old.file
  size : new.size = old.size
  chunkSize : new.chunkSize = old.chunkSize
  totalChunks : new.totalChunks = old.totalChunks
  acked : new.acked = old.acked
  done : new.status = .completed → old.status = .completed ∨ old.totalChunks ≤ old.acked.size
  waits : new.status = .queued → old.status = .queued

theorem Evolves.refl (transfer : Transfer) : Evolves transfer transfer :=
  ⟨rfl, rfl, rfl, rfl, rfl, rfl, Or.inl, id⟩

theorem Evolves.trans {first second third : Transfer} (early : Evolves first second)
    (late : Evolves second third) : Evolves first third where
  fileId := late.fileId.trans early.fileId
  file := late.file.trans early.file
  size := late.size.trans early.size
  chunkSize := late.chunkSize.trans early.chunkSize
  totalChunks := late.totalChunks.trans early.totalChunks
  acked := late.acked.trans early.acked
  done := by
    intro completed
    rcases late.done completed with before | full
    · exact early.done before
    · rw [early.totalChunks, early.acked] at full
      exact Or.inr full
  waits := fun queued => early.waits (late.waits queued)

/-- The notes a transfer may leave within a chain. -/
def Authors (transfer : Transfer) : SenderNote → Prop
  | .sendApp (.chunk fileId index totalChunks data) _ =>
      fileId = transfer.fileId ∧ totalChunks = transfer.totalChunks ∧
        data = encodeChunk (transfer.file.slice (index * transfer.chunkSize)
          (min (index * transfer.chunkSize + transfer.chunkSize) transfer.size))
  | .sendApp (.cancel fileId _) _ => fileId = transfer.fileId
  | .sendApp (.complete fileId _) _ => fileId = transfer.fileId
  | .sendApp _ _ => False
  | .onUpdate snapshot => snapshot.fileId = transfer.fileId
  | .setTimeout timer => timer.fileId = transfer.fileId

theorem Authors.fileId {transfer : Transfer} {note : SenderNote} (authored : Authors transfer note) :
    note.fileId = transfer.fileId := by
  cases note with
  | sendApp message lane =>
      cases message <;> simp only [Authors] at authored <;>
        simp only [SenderNote.fileId, FileMessage.fileId, authored]
  | onUpdate snapshot => exact authored
  | setTimeout timer => exact authored

theorem Authors.evolve {old new : Transfer} {note : SenderNote} (authored : Authors old note)
    (evolves : Evolves old new) : Authors new note := by
  cases note with
  | sendApp message lane =>
      cases message <;>
        simp only [Authors, evolves.fileId, evolves.file, evolves.size, evolves.chunkSize,
          evolves.totalChunks] at authored ⊢ <;>
        exact authored
  | onUpdate snapshot => simpa only [Authors, evolves.fileId] using authored
  | setTimeout timer => simpa only [Authors, evolves.fileId] using authored

/-- A chain of effects on the transfers that `mine` selects. -/
inductive Acts (mine : String → Prop) (start : Sender) : Sender → Prop where
  | refl : Acts mine start start
  | put {self : Sender} {old new : Transfer} (acts : Acts mine start self)
      (found : self.objects.get? new.fileId = some old) (selected : mine new.fileId)
      (evolves : Evolves old new) : Acts mine start (self.put new)
  | note {self : Sender} {transfer : Transfer} {entry : SenderNote} (acts : Acts mine start self)
      (found : self.objects.get? transfer.fileId = some transfer)
      (selected : mine transfer.fileId) (authored : Authors transfer entry) :
      Acts mine start (self.note entry)
  | suspend {self : Sender} {call : SenderCall} (acts : Acts mine start self)
      (selected : mine call.fileId) (read : ∀ fileId queued, call ≠ .hashing fileId queued) :
      Acts mine start (self.suspend call)
  | arm {self : Sender} {timer : SenderTimer} (acts : Acts mine start self)
      (selected : mine timer.fileId) :
      Acts mine start { self with timers := (self.timers.add timer).1 }
  | cancel {self : Sender} (acts : Acts mine start self) (handle : Option Nat) :
      Acts mine start { self with timers := self.timers.cancel handle }
  | unlist {self : Sender} {fileId : String} (acts : Acts mine start self)
      (selected : mine fileId) :
      Acts mine start { self with transfers := self.transfers.delete fileId }

/-- The selection of a single transfer. -/
def Only (fileId other : String) : Prop := other = fileId

theorem Only.self (fileId : String) : Only fileId fileId := rfl

section Chains

variable {mine : String → Prop} {start self : Sender}

theorem Acts.trans {middle : Sender} (first : Acts mine start middle)
    (second : Acts mine middle self) : Acts mine start self := by
  induction second with
  | refl => exact first
  | put _ found selected evolves ih => exact .put ih found selected evolves
  | note _ found selected authored ih => exact .note ih found selected authored
  | suspend _ selected read ih => exact .suspend ih selected read
  | arm _ selected ih => exact .arm ih selected
  | cancel _ handle ih => exact .cancel ih handle
  | unlist _ selected ih => exact .unlist ih selected

theorem put_named (transfer : Transfer) (named : Named self) : Named (self.put transfer) := by
  intro fileId stored found
  rw [put, InsertionMap.get?_set] at found
  split at found
  · rename_i same
    cases found
    exact same.symm
  · exact named fileId stored found

theorem Acts.named (acts : Acts mine start self) (named : Named start) : Named self := by
  induction acts with
  | refl => exact named
  | put _ _ _ _ ih => exact put_named _ ih
  | note _ _ _ _ ih => exact ih
  | suspend _ _ _ ih => exact ih
  | arm _ _ ih => exact ih
  | cancel _ _ ih => exact ih
  | unlist _ _ ih => exact ih

/-- Along a chain every object evolves and none is dropped or added. -/
theorem Acts.object (acts : Acts mine start self) (fileId : String) :
    (∀ old, start.objects.get? fileId = some old →
      ∃ new, self.objects.get? fileId = some new ∧ Evolves old new) ∧
    (start.objects.get? fileId = none → self.objects.get? fileId = none) := by
  induction acts with
  | refl => exact ⟨fun old found => ⟨old, found, .refl old⟩, id⟩
  | @put self old new _ found _ evolves ih =>
      simp only [Sender.put, InsertionMap.get?_set]
      by_cases same : fileId = new.fileId
      · subst same
        constructor
        · intro first stored
          obtain ⟨current, there, early⟩ := ih.1 first stored
          cases found.symm.trans there
          exact ⟨new, by simp, early.trans evolves⟩
        · intro absent
          rw [ih.2 absent] at found
          cases found
      · simp only [same, ↓reduceIte]
        exact ih
  | note _ _ _ _ ih => exact ih
  | suspend _ _ _ ih => exact ih
  | arm _ _ ih => exact ih
  | cancel _ _ ih => exact ih
  | unlist _ _ ih => exact ih

/-- Every note of a chain was said by a selected object, as it is at the end. -/
theorem Acts.said (acts : Acts mine start self) {entry : SenderNote} (member : entry ∈ self.notes) :
    entry ∈ start.notes ∨ ∃ transfer, self.objects.get? transfer.fileId = some transfer ∧
      mine transfer.fileId ∧ Authors transfer entry := by
  induction acts with
  | refl => exact Or.inl member
  | @put self old new _ found selected evolves ih =>
      rcases ih member with early | ⟨transfer, there, chosen, authored⟩
      · exact Or.inl early
      · refine Or.inr ?_
        by_cases same : transfer.fileId = new.fileId
        · rw [same] at there chosen
          cases found.symm.trans there
          exact ⟨new, InsertionMap.get?_set_self _ _ _, chosen, authored.evolve evolves⟩
        · exact ⟨transfer, by rw [Sender.put, InsertionMap.get?_set_ne _ _ same]; exact there,
            chosen, authored⟩
  | note _ found selected authored ih =>
      rcases List.mem_append.mp member with early | last
      · exact ih early
      · rw [List.mem_singleton.mp last]
        exact Or.inr ⟨_, found, selected, authored⟩
  | suspend _ _ _ ih => exact ih member
  | arm _ _ ih => exact ih member
  | cancel _ _ ih => exact ih member
  | unlist _ _ ih => exact ih member

end Chains

section Functions

variable {mine : String → Prop} {start self : Sender} {fileId : String}

theorem withTransfer_acts {action : Transfer → Sender} (named : Named start)
    (acts : Acts mine start self)
    (runs : ∀ transfer, self.objects.get? transfer.fileId = some transfer →
      transfer.fileId = fileId → Acts mine start (action transfer)) :
    Acts mine start (self.withTransfer fileId action) := by
  unfold withTransfer
  split
  · exact acts
  · rename_i transfer found
    have same := acts.named named fileId transfer found
    exact runs transfer (same ▸ found) same

theorem emit_acts (named : Named start) (selected : mine fileId) (acts : Acts mine start self) :
    Acts mine start (self.emit fileId) := by
  refine withTransfer_acts named acts ?_
  rintro transfer found rfl
  exact .note acts found selected rfl

theorem cancelAll_acts (items : List InflightChunk) {timers : Callbacks SenderTimer}
    (acts : Acts mine start { self with timers }) :
    Acts mine start { self with timers := cancelAll timers items } := by
  induction items generalizing timers with
  | nil => exact acts
  | cons item rest ih => exact ih (.cancel acts item.timer)

theorem clearTimers_acts (named : Named start) (selected : mine fileId)
    (acts : Acts mine start self) : Acts mine start (self.clearTimers fileId) := by
  refine withTransfer_acts named acts ?_
  rintro transfer found rfl
  exact .put (cancelAll_acts _ acts) found selected ⟨rfl, rfl, rfl, rfl, rfl, rfl, Or.inl, id⟩

theorem fail_acts (named : Named start) (selected : mine fileId) (acts : Acts mine start self)
    (reason : String) : Acts mine start (self.fail fileId reason) := by
  refine withTransfer_acts named acts ?_
  rintro transfer found rfl
  refine emit_acts named selected (clearTimers_acts named selected (.put acts found selected ?_))
  exact ⟨rfl, rfl, rfl, rfl, rfl, rfl, nofun, nofun⟩

theorem failAndNotify_acts {transfer : Transfer} (named : Named start) (selected : mine fileId)
    (acts : Acts mine start self) (found : self.objects.get? fileId = some transfer)
    (reason : String) : Acts mine start (self.failAndNotify fileId reason) := by
  have failed := fail_acts named selected acts reason
  obtain ⟨current, there, evolves⟩ := ((fail_acts (acts.named named) selected
    (.refl : Acts mine self self) reason).object fileId).1 transfer found
  have same := failed.named named fileId current there
  refine .suspend (.note failed (same ▸ there) (same ▸ selected) ?_) selected nofun
  exact same.symm

theorem scheduleRetry_acts (named : Named start) (selected : mine fileId)
    (acts : Acts mine start self) (index nextAttempts : Nat) (reason : String) :
    Acts mine start (self.scheduleRetry fileId index nextAttempts reason) := by
  refine withTransfer_acts named acts ?_
  rintro transfer found rfl
  have cleared : Acts mine start (self.clearInflightTimer (transfer.inflight.get? index)) :=
    .cancel acts _
  dsimp only
  split
  · exact acts
  · split
    · exact failAndNotify_acts named selected cleared found _
    · split
      · refine emit_acts named selected (.put cleared found selected ?_)
        exact ⟨rfl, rfl, rfl, rfl, rfl, rfl, Or.inl, id⟩
      · refine emit_acts named selected (.put (.note (.arm cleared selected) found selected rfl)
          found selected ?_)
        exact ⟨rfl, rfl, rfl, rfl, rfl, rfl, Or.inl, id⟩

theorem sendChunk_acts (named : Named start) (selected : mine fileId)
    (acts : Acts mine start self) (index attempts : Nat) :
    Acts mine start (self.sendChunk fileId index attempts) := by
  refine withTransfer_acts named acts ?_
  rintro transfer found rfl
  dsimp only
  split
  · exact acts
  · split
    · refine .put acts found selected ?_
      exact ⟨rfl, rfl, rfl, rfl, rfl, rfl, Or.inl, id⟩
    · split
      · exact failAndNotify_acts named selected acts found _
      · refine .suspend (emit_acts named selected (.put (.cancel acts _) found selected ?_)) selected
          (by simp)
        exact ⟨rfl, rfl, rfl, rfl, rfl, rfl, Or.inl, id⟩

theorem sliced_acts (named : Named start) (selected : mine fileId) (acts : Acts mine start self)
    (index attempts : Nat) (outcome : Outcome) :
    Acts mine start (self.sliced fileId index attempts outcome) := by
  cases outcome with
  | error message => exact scheduleRetry_acts named selected acts _ _ _
  | ok _ =>
      refine withTransfer_acts named acts ?_
      rintro transfer found rfl
      exact .suspend (.note acts found selected ⟨rfl, rfl, rfl⟩) selected nofun

theorem chunkSent_acts (named : Named start) (selected : mine fileId) (acts : Acts mine start self)
    (index attempts : Nat) (outcome : Outcome) :
    Acts mine start (self.chunkSent fileId index attempts outcome) := by
  cases outcome with
  | error message => exact scheduleRetry_acts named selected acts _ _ _
  | ok sent =>
      cases sent with
      | false => exact scheduleRetry_acts named selected acts _ _ _
      | true =>
          refine withTransfer_acts named acts ?_
          rintro transfer found rfl
          dsimp only
          split
          · exact acts
          · refine emit_acts named selected (.put (.note (.arm acts selected) found selected rfl)
              found selected ?_)
            exact ⟨rfl, rfl, rfl, rfl, rfl, rfl, Or.inl, id⟩

theorem completeIfDone_acts (named : Named start) (selected : mine fileId)
    (acts : Acts mine start self) : Acts mine start (self.completeIfDone fileId) := by
  refine withTransfer_acts named acts ?_
  rintro transfer found rfl
  split
  · exact acts
  · split
    · exact acts
    · rename_i unfinished
      simp only [Bool.or_eq_true, decide_eq_true_eq, not_or, Nat.not_lt] at unfinished
      have completed : Acts mine start ((self.put { transfer with
          status := .completed, reason := none }).emit transfer.fileId) :=
        emit_acts named selected (.put acts found selected
          ⟨rfl, rfl, rfl, rfl, rfl, rfl, fun _ => Or.inr unfinished.2, nofun⟩)
      have stored : ((self.put { transfer with status := .completed, reason := none }).emit
          transfer.fileId).objects.get? transfer.fileId =
            some { transfer with status := .completed, reason := none } := by
        simp [emit, withTransfer, Sender.put, Sender.note]
      exact @Acts.note _ _ _ { transfer with status := .completed, reason := none } _ completed
        stored selected rfl

theorem pumpLoop_acts (named : Named start) (selected : mine fileId) (rounds : Nat)
    (acts : Acts mine start self) : Acts mine start (pumpLoop rounds self fileId) := by
  induction rounds generalizing self with
  | zero => exact acts
  | succ rounds ih =>
      refine withTransfer_acts named acts ?_
      rintro transfer found rfl
      split
      · have taken : Acts mine start (self.put { transfer with
            nextIndex := transfer.nextIndex + 1 }) :=
          .put acts found selected ⟨rfl, rfl, rfl, rfl, rfl, rfl, Or.inl, id⟩
        exact ih (sendChunk_acts named selected taken _ _)
      · exact acts

theorem pump_acts (named : Named start) (selected : mine fileId) (acts : Acts mine start self) :
    Acts mine start (self.pump fileId) := by
  refine withTransfer_acts named acts ?_
  rintro transfer found rfl
  split
  · exact acts
  · split
    · exact acts
    · refine .suspend (completeIfDone_acts named selected
        (pumpLoop_acts named selected _ (.put acts found selected ?_))) selected nofun
      exact ⟨rfl, rfl, rfl, rfl, rfl, rfl, Or.inl, id⟩

theorem holdOutstanding_acts (named : Named start) (selected : mine fileId)
    (acts : Acts mine start self) : Acts mine start (self.holdOutstanding fileId) := by
  refine withTransfer_acts named acts ?_
  rintro transfer found rfl
  exact .put (cancelAll_acts _ acts) found selected ⟨rfl, rfl, rfl, rfl, rfl, rfl, Or.inl, id⟩

theorem resumeEach_acts (named : Named start) (selected : mine fileId)
    (items : List (Nat × InflightChunk)) (acts : Acts mine start self) :
    Acts mine start (resumeEach fileId items self) := by
  induction items generalizing self with
  | nil => exact acts
  | cons entry rest ih =>
      obtain ⟨index, item⟩ := entry
      simp only [resumeEach]
      split
      · exact ih (sendChunk_acts named selected acts _ _)
      · exact ih acts

theorem resumeOutstanding_acts (named : Named start) (selected : mine fileId)
    (acts : Acts mine start self) : Acts mine start (self.resumeOutstanding fileId) := by
  refine withTransfer_acts named acts ?_
  rintro transfer found rfl
  split
  · exact acts
  · exact pump_acts named selected (resumeEach_acts named selected _ acts)

theorem pauseOne_acts (named : Named start) (selected : mine fileId) (paused : Bool)
    (reason : String) (acts : Acts mine start self) :
    Acts mine start (pauseOne paused reason self fileId) := by
  refine withTransfer_acts named acts ?_
  rintro transfer found rfl
  split
  · exact acts
  · cases paused with
    | true =>
        exact emit_acts named selected (holdOutstanding_acts named selected
          (.put acts found selected ⟨rfl, rfl, rfl, rfl, rfl, rfl, nofun, nofun⟩))
    | false =>
        exact resumeOutstanding_acts named selected (emit_acts named selected
          (.put acts found selected ⟨rfl, rfl, rfl, rfl, rfl, rfl, nofun, nofun⟩))

theorem foldl_acts {each : Sender → String → Sender} (ids : List String)
    (selected : ∀ id ∈ ids, mine id)
    (runs : ∀ id ∈ ids, ∀ self, Acts mine start self → Acts mine start (each self id))
    (acts : Acts mine start self) : Acts mine start (ids.foldl each self) := by
  induction ids generalizing self with
  | nil => exact acts
  | cons id rest ih =>
      exact ih (fun other member => selected other (List.mem_cons_of_mem id member))
        (fun other member => runs other (List.mem_cons_of_mem id member))
        (runs id List.mem_cons_self self acts)

theorem settle_acts (digest : Bytes → String) (outcome : Outcome) {call : SenderCall}
    (named : Named start) (selected : mine call.fileId)
    (read : ∀ fileId queued, call ≠ .hashing fileId queued) (acts : Acts mine start self) :
    Acts mine start (self.settle digest outcome call) := by
  cases call with
  | hashing fileId queued => exact absurd rfl (read fileId queued)
  | offering fileId =>
      simp only [settle]
      split
      · exact fail_acts named selected acts _
      · exact acts
  | slicing fileId index attempts => exact sliced_acts named selected acts _ _ _
  | sending fileId index attempts => exact chunkSent_acts named selected acts _ _ _
  | pumping fileId =>
      refine withTransfer_acts named acts ?_
      rintro transfer found rfl
      exact .put acts found selected ⟨rfl, rfl, rfl, rfl, rfl, rfl, Or.inl, id⟩
  | notifying fileId => exact acts

theorem runTimer_acts {timer : SenderTimer} (named : Named start) (selected : mine timer.fileId)
    (acts : Acts mine start self) : Acts mine start (self.runTimer timer) := by
  cases timer with
  | ackTimeout fileId index attempts => exact scheduleRetry_acts named selected acts _ _ _
  | retry fileId index nextAttempts => exact sendChunk_acts named selected acts _ _

end Functions

section Calls

variable {mine : String → Prop} {self : Sender} {fileId : String}

theorem withRegistered_acts {action : Transfer → Sender} (named : Named self)
    (runs : ∀ transfer, self.transfers.has transfer.fileId = true →
      self.objects.get? transfer.fileId = some transfer →
      transfer.fileId = fileId → Acts mine self (action transfer)) :
    Acts mine self (self.withRegistered fileId action) := by
  unfold withRegistered
  split
  · rename_i listed
    refine withTransfer_acts named .refl ?_
    intro transfer found same
    exact runs transfer (same ▸ listed) found same
  · exact .refl

/-! The calls on one registered transfer that leave the acknowledged set alone
and offer nothing. -/

theorem accept_acts (named : Named self) (selected : mine fileId) :
    Acts mine self (self.accept fileId) := by
  refine withRegistered_acts named ?_
  rintro transfer _ found rfl
  split
  · exact .refl
  · refine pump_acts named selected (emit_acts named selected
      (.put .refl found selected ⟨rfl, rfl, rfl, rfl, rfl, rfl, ?_, ?_⟩)) <;>
    cases self.globalPaused <;> nofun

theorem nack_acts (named : Named self) (selected : mine fileId) (index : Nat) (reason : String) :
    Acts mine self (self.nack fileId index reason) := by
  refine withRegistered_acts named ?_
  rintro transfer _ found rfl
  split
  · exact .refl
  · split
    · exact .refl
    · exact scheduleRetry_acts named selected .refl _ _ _

theorem pause_acts (named : Named self) (selected : mine fileId) (reason : String) :
    Acts mine self (self.pause fileId reason) := by
  refine withRegistered_acts named ?_
  rintro transfer _ found rfl
  split
  · exact .refl
  · exact emit_acts named selected (holdOutstanding_acts named selected
      (.put .refl found selected ⟨rfl, rfl, rfl, rfl, rfl, rfl, nofun, nofun⟩))

theorem resume_acts (named : Named self) (selected : mine fileId) :
    Acts mine self (self.resume fileId) := by
  refine withRegistered_acts named ?_
  rintro transfer _ found rfl
  split
  · exact .refl
  · refine resumeOutstanding_acts named selected (emit_acts named selected
      (.put .refl found selected ⟨rfl, rfl, rfl, rfl, rfl, rfl, ?_, ?_⟩)) <;>
    cases transfer.accepted <;> nofun

theorem cancel_acts (named : Named self) (selected : mine fileId) (reason : String)
    (notify : Bool) : Acts mine self (self.cancel fileId reason notify) := by
  refine withRegistered_acts named ?_
  rintro transfer _ found rfl
  have cancelled : Acts mine self (((self.put { transfer with
      cancelled := true
      status := .cancelled
      reason := some reason }).clearTimers transfer.fileId).emit transfer.fileId) :=
    emit_acts named selected (clearTimers_acts named selected
      (.put .refl found selected ⟨rfl, rfl, rfl, rfl, rfl, rfl, nofun, nofun⟩))
  dsimp only
  split
  · obtain ⟨current, there, _⟩ := (cancelled.object transfer.fileId).1 transfer found
    have same := cancelled.named named _ current there
    exact .suspend (.note cancelled (same ▸ there) (same ▸ selected) same.symm) selected nofun
  · exact cancelled

theorem remove_acts (named : Named self) (selected : mine fileId) :
    Acts mine self (self.remove fileId) := by
  refine withRegistered_acts named ?_
  rintro transfer _ found rfl
  split
  · exact .unlist (clearTimers_acts named selected .refl) selected
  · exact .refl

theorem setGlobalPaused_acts (named : Named self) (paused : Bool) (reason : String) :
    Acts (· ∈ self.transfers.keys) { self with globalPaused := paused }
      (self.setGlobalPaused paused reason) := by
  have started : Named { self with globalPaused := paused } := named
  exact foldl_acts _ (fun _ member => member)
    (fun _ member _ acts => pauseOne_acts started member paused reason acts) .refl

theorem clearAll_acts (named : Named self) :
    Acts (· ∈ self.transfers.keys) self (self.transfers.keys.foldl clearTimers self) :=
  foldl_acts _ (fun _ member => member)
    (fun _ member _ acts => clearTimers_acts named member acts) .refl

end Calls

section Turns

/-- `startQueued` before it shows and offers the transfer. -/
def dequeue (transfer : Transfer) : Transfer :=
  { transfer with
    status := .offered
    paused := false
    reason := some "Waiting for peer acceptance" }

/-- The part of a turn that is not a chain of effects, done before it: a call
or a timer is taken out, a flag of the sender is set, a chunk in flight is
acknowledged, or a transfer is made, registered or dequeued. The option names
the transfer whose offer ends the turn. -/
inductive Prepared (self : Sender) : Event → Option String → Sender → Prop where
  | plain {event : Event} {middle : Sender} (objects : middle.objects = self.objects)
      (transfers : middle.transfers = self.transfers) (notes : middle.notes = self.notes)
      (calls : ∀ ticket call, middle.calls.get? ticket = some call →
        self.calls.get? ticket = some call)
      (timers : ∀ ticket timer, middle.timers.get? ticket = some timer →
        self.timers.get? ticket = some timer) : Prepared self event none middle
  | acknowledged {index : Nat} {transfer : Transfer} {item : InflightChunk}
      (found : self.objects.get? transfer.fileId = some transfer)
      (inside : index < transfer.totalChunks) :
      Prepared self (.ack transfer.fileId index) none
        ((self.clearInflightTimer (some item)).put (acknowledge transfer index))
  | made {fileId : String} {file : File} {queued : Bool} (absent : self.objects.get? fileId = none) :
      Prepared self (.offer fileId file queued) none
        ((self.put (newTransfer self.files fileId file queued)).suspend (.hashing fileId queued))
  | opened {fileId : String} {file : File} {queued : Bool}
      (absent : self.objects.get? fileId = none) :
      Prepared self (.offer fileId file queued) (if queued then none else some fileId)
        { self.put (newTransfer self.files fileId file queued) with
          transfers := self.transfers.set fileId () }
  | hashed {ticket : Nat} {outcome : Outcome} {queued : Bool} {transfer : Transfer}
      (held : self.calls.get? ticket = some (.hashing transfer.fileId queued))
      (found : self.objects.get? transfer.fileId = some transfer) (sha256 : Option String) :
      Prepared self (.settle ticket outcome) (if queued then none else some transfer.fileId)
        { { self with calls := self.calls.remove ticket }.put { transfer with sha256 } with
          transfers := self.transfers.set transfer.fileId () }
  | started {transfer : Transfer} (found : self.objects.get? transfer.fileId = some transfer)
      (listed : self.transfers.has transfer.fileId = true) (waiting : transfer.status = .queued) :
      Prepared self (.startQueued transfer.fileId) (some transfer.fileId)
        (self.put (dequeue transfer))

def sendDue (self : Sender) : Option String → Sender
  | none => self
  | some fileId => self.sendOffer fileId

/-- The transfers an event is about. -/
def Addresses (self : Sender) : Event → String → Prop
  | .setProfile _ => fun _ => False
  | .offer fileId _ _ => Only fileId
  | .startQueued fileId => Only fileId
  | .accept fileId => Only fileId
  | .ack fileId _ => Only fileId
  | .nack fileId _ _ => Only fileId
  | .pause fileId _ => Only fileId
  | .resume fileId => Only fileId
  | .cancel fileId _ _ => Only fileId
  | .setGlobalPaused _ _ => (· ∈ self.transfers.keys)
  | .remove fileId => Only fileId
  | .reset => (· ∈ self.transfers.keys)
  | .settle ticket _ => fun fileId => ∃ call, self.calls.get? ticket = some call ∧
      fileId = call.fileId
  | .fire ticket => fun fileId => ∃ timer, self.timers.get? ticket = some timer ∧
      fileId = timer.fileId

/-- A turn: a preparation, a chain of effects on the transfers the event is
about, and an offer if one is due. -/
structure Turned (self : Sender) (event : Event) (after : Sender) : Prop where
  decomposed : ∃ due middle last, Prepared self event due middle ∧ Named middle ∧
    Acts (Addresses self event) middle last ∧ after = sendDue last due

variable {self after : Sender}

theorem Prepared.refl (event : Event) : Prepared self event none self :=
  .plain rfl rfl rfl (fun _ _ found => found) (fun _ _ found => found)

theorem Turned.still (named : Named self) (event : Event) : Turned self event self :=
  ⟨none, self, self, .refl event, named, .refl, rfl⟩

theorem Turned.chain {event : Event} (named : Named self)
    (acts : Acts (Addresses self event) self after) : Turned self event after :=
  ⟨none, self, after, .refl event, named, acts, rfl⟩

theorem offer_turned (named : Named self) {fileId : String} (file : File) (queued : Bool)
    (absent : self.objects.get? fileId = none) :
    Turned self (.offer fileId file queued) (self.offer fileId file queued) := by
  unfold offer
  split
  · exact .still named _
  · have kept := put_named (newTransfer self.files fileId file queued) named
    dsimp only
    split
    · exact ⟨_, _, _, .made absent, kept, .refl, rfl⟩
    · have shown : Acts (Addresses self (.offer fileId file queued))
          { self.put (newTransfer self.files fileId file queued) with
            transfers := self.transfers.set fileId () }
          ({ self.put (newTransfer self.files fileId file queued) with
            transfers := self.transfers.set fileId () }.emit fileId) :=
        emit_acts kept (Only.self fileId) .refl
      refine ⟨_, _, _, .opened absent, kept, shown, ?_⟩
      cases queued <;> rfl

theorem ack_turned (named : Named self) (fileId : String) (index : Nat) :
    Turned self (.ack fileId index) (self.ack fileId index) := by
  unfold Sender.ack withRegistered withTransfer
  split
  · split
    · exact .still named _
    · rename_i transfer found
      have same := named fileId transfer found
      subst same
      dsimp only
      split
      · exact .still named _
      · rename_i live
        split
        · exact .still named _
        · rename_i item _
          have kept : Named ((self.clearInflightTimer (some item)).put (acknowledge transfer index)) :=
            put_named _ named
          exact ⟨_, _, _, .acknowledged found (by omega), kept,
            pump_acts kept (Only.self transfer.fileId)
              (emit_acts kept (Only.self transfer.fileId) .refl), rfl⟩
  · exact .still named _

theorem startQueued_turned (named : Named self) (fileId : String) :
    Turned self (.startQueued fileId) (self.startQueued fileId) := by
  unfold startQueued withRegistered withTransfer
  split
  · rename_i listed
    split
    · exact .still named _
    · rename_i transfer found
      have same := named fileId transfer found
      subst same
      dsimp only
      split
      · exact .still named _
      · rename_i idle
        simp only [ne_eq, not_or, not_not] at idle
        have kept := put_named (dequeue transfer) named
        exact ⟨_, _, _, .started found listed idle.2, kept,
          emit_acts kept (Only.self transfer.fileId) .refl, rfl⟩
  · exact .still named _

theorem hashing_turned (digest : Bytes → String) {ticket : Nat} {fileId : String} {queued : Bool}
    (outcome : Outcome) (named : Named self)
    (held : self.calls.get? ticket = some (.hashing fileId queued)) :
    Turned self (.settle ticket outcome)
      ({ self with calls := self.calls.remove ticket }.settle digest outcome
        (.hashing fileId queued)) := by
  cases found : self.objects.get? fileId with
  | none =>
      simp only [settle, withTransfer, found]
      exact ⟨none, { self with calls := self.calls.remove ticket }, _,
        .plain rfl rfl rfl (fun _ _ still => Callbacks.get?_of_remove still)
          (fun _ _ still => still), named, .refl, rfl⟩
  | some transfer =>
      have same := named fileId transfer found
      subst same
      simp only [settle, withTransfer, found]
      let sha256 := outcome.toOption.map fun _ => digest transfer.file.bytes
      have kept := put_named { transfer with sha256 } named
      have chosen : Addresses self (.settle ticket outcome) transfer.fileId := ⟨_, held, rfl⟩
      have shown : Acts (Addresses self (.settle ticket outcome))
          { { self with calls := self.calls.remove ticket }.put { transfer with sha256 } with
            transfers := self.transfers.set transfer.fileId () }
          ({ { self with calls := self.calls.remove ticket }.put { transfer with sha256 } with
            transfers := self.transfers.set transfer.fileId () }.emit transfer.fileId) :=
        emit_acts kept chosen .refl
      refine ⟨_, _, _, .hashed held found sha256, kept, shown, ?_⟩
      cases queued <;> rfl

/-- Every turn but a reset has this form. -/
theorem turn_turned (digest : Bytes → String) {event : Event} (named : Named self)
    (kept : event ≠ .reset) (stepped : self.turn digest event = some after) :
    Turned self event after := by
  cases event with
  | setProfile files =>
      cases stepped
      exact ⟨none, { self with files }, _, .plain rfl rfl rfl (fun _ _ found => found)
        (fun _ _ found => found), named, .refl, rfl⟩
  | offer fileId file queued =>
      simp only [turn] at stepped
      split at stepped
      · cases stepped
      · rename_i new
        cases stepped
        refine offer_turned named file queued ?_
        rw [InsertionMap.get?_eq_none_iff, ← InsertionMap.has_iff]
        exact new
  | startQueued fileId =>
      cases stepped
      exact startQueued_turned named fileId
  | accept fileId =>
      cases stepped
      exact .chain named (accept_acts named (Only.self fileId))
  | ack fileId index =>
      cases stepped
      exact ack_turned named fileId index
  | nack fileId index reason =>
      cases stepped
      exact .chain named (nack_acts named (Only.self fileId) index reason)
  | pause fileId reason =>
      cases stepped
      exact .chain named (pause_acts named (Only.self fileId) reason)
  | resume fileId =>
      cases stepped
      exact .chain named (resume_acts named (Only.self fileId))
  | cancel fileId reason notify =>
      cases stepped
      exact .chain named (cancel_acts named (Only.self fileId) reason notify)
  | setGlobalPaused paused reason =>
      cases stepped
      exact ⟨none, { self with globalPaused := paused }, _, .plain rfl rfl rfl
        (fun _ _ found => found) (fun _ _ found => found), named,
        setGlobalPaused_acts named paused reason, rfl⟩
  | remove fileId =>
      cases stepped
      exact .chain named (remove_acts named (Only.self fileId))
  | reset => exact absurd rfl kept
  | settle ticket outcome =>
      obtain ⟨⟨call, rest⟩, taken, rfl⟩ := Option.map_eq_some_iff.mp stepped
      obtain ⟨held, rfl⟩ := Callbacks.take_eq_some.mp taken
      by_cases hashing : ∃ fileId queued, call = .hashing fileId queued
      · obtain ⟨fileId, queued, rfl⟩ := hashing
        -- Only the end of a digest lists a transfer or sends its offer.
        exact hashing_turned digest outcome named held
      · refine ⟨none, { self with calls := self.calls.remove ticket }, _, .plain rfl rfl rfl
          (fun _ _ found => Callbacks.get?_of_remove found) (fun _ _ found => found), named, ?_,
          rfl⟩
        exact settle_acts digest outcome named ⟨call, held, rfl⟩
          (fun fileId queued same => hashing ⟨fileId, queued, same⟩) .refl
  | fire ticket =>
      obtain ⟨⟨timer, rest⟩, taken, rfl⟩ := Option.map_eq_some_iff.mp stepped
      obtain ⟨held, rfl⟩ := Callbacks.take_eq_some.mp taken
      -- A fired timer works on one transfer and finishes no call.
      exact ⟨none, { self with timers := self.timers.remove ticket }, _, .plain rfl rfl rfl
        (fun _ _ found => found) (fun _ _ found => Callbacks.get?_of_remove found), named,
        runTimer_acts named ⟨timer, held, rfl⟩ .refl, rfl⟩

theorem sendDue_objects (self : Sender) (due : Option String) :
    (sendDue self due).objects = self.objects := by
  cases due with
  | none => rfl
  | some fileId =>
      simp only [sendDue, sendOffer, withTransfer]
      split <;> rfl

/-- The offer that ends a turn is one of a transfer the event is about. -/
theorem Prepared.chosen {event : Event} {due : Option String} {middle : Sender} {fileId : String}
    (prepared : Prepared self event due middle) (duly : due = some fileId) :
    Addresses self event fileId := by
  cases prepared with
  | opened absent =>
      split at duly
      · cases duly
      · cases duly
        exact Only.self _
  | hashed held found sha256 =>
      split at duly
      · cases duly
      · cases duly
        exact ⟨_, held, rfl⟩
  | started found listed waiting =>
      cases duly
      exact Only.self _
  | _ => cases duly

theorem turn_named (digest : Bytes → String) {event : Event} (named : Named self)
    (stepped : self.turn digest event = some after) : Named after := by
  by_cases reset : event = .reset
  · subst reset
    cases stepped
    exact (clearAll_acts named).named named
  · obtain ⟨due, middle, last, _, kept, acts, rfl⟩ := turn_turned digest named reset stepped
    intro fileId transfer found
    rw [sendDue_objects] at found
    exact acts.named kept fileId transfer found

theorem run_named (digest : Bytes → String) {files : FileLimits} {history : List SenderNote}
    {allowed : Sender → Event → Prop}
    (run : Machine.Run (machine digest) allowed (create files) self history) : Named self := by
  refine run.state_invariant Named (by simp [Named, create]) ?_
  intro before event after outputs named _ stepped
  obtain ⟨next, turned, same⟩ := Option.map_eq_some_iff.mp stepped
  cases same
  exact turn_named digest (show Named { before with notes := [] } from named) turned

end Turns

end OnlyTwo.FileSender
