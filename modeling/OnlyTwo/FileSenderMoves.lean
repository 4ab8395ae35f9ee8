import OnlyTwo.FileSenderBounds
import OnlyTwo.FileSenderLedger

/-!
What a turn of a sender does to the chunks of its transfers. A turn opens with one step that
may take up a call or a timer, acknowledge a chunk or put one back, and goes on with a chain of
moves. A launch is whole: the entry in flight is written and the read of its slice suspended in
one move, so between two moves a chunk is as it is between two turns. What only some events do
is a power of the chain.
-/

namespace OnlyTwo.FileSender

open Bytes FileProtocol Sender

section Chunks

def Transfer.write (transfer : Transfer) (index : Nat) (item : InflightChunk)
    (reason : Option String) : Transfer :=
  { transfer with
    inflight := transfer.inflight.set index item
    reason }

/-- The chunk goes out for this attempt. -/
def Transfer.launched (transfer : Transfer) (index attempts : Nat) : Transfer :=
  transfer.write index ⟨attempts, .sending, none⟩
    (if 1 < attempts then some ("Retrying chunk " ++ toString (index + 1)) else none)

def Transfer.advance (transfer : Transfer) : Transfer :=
  { transfer with nextIndex := transfer.nextIndex + 1 }

/-- `accept` of a transfer. -/
def Transfer.accept (transfer : Transfer) (globalPaused : Bool) : Transfer :=
  { transfer with
    accepted := true
    status := if globalPaused then .paused else .sending
    paused := globalPaused
    reason := if globalPaused then some "Paused during voice" else none }

/-- `resume` of a transfer. -/
def Transfer.resume (transfer : Transfer) : Transfer :=
  { transfer with
    paused := false
    status := if transfer.accepted then .sending else .offered
    reason := if transfer.accepted then none else some "Waiting for peer acceptance" }

/-- What the loop of `setGlobalPaused` writes. -/
def Transfer.setPaused (transfer : Transfer) (paused : Bool) (reason : String) : Transfer :=
  { transfer with
    paused := paused
    status := if paused then .paused else .sending
    reason := if paused then some reason else none }

/-- The chunk may still be worked on. -/
def Transfer.Live (transfer : Transfer) (index : Nat) : Prop :=
  transfer.cancelled = false ∧ transfer.acked.has index = false

/-- The chunk waits for a resume. -/
def InflightChunk.Idle (item : InflightChunk) : Prop := item.state = .retryWait ∧ item.timer = none

def Transfer.Ready (transfer : Transfer) : Prop :=
  transfer.accepted = true ∧ transfer.status = .sending ∧ transfer.paused = false

def Transfer.Ended (transfer : Transfer) : Prop :=
  transfer.cancelled = true → transfer.status.terminal = true

def SenderNote.chunk? : SenderNote → Option (String × Nat)
  | .sendApp (.chunk fileId index _ _) _ => some (fileId, index)
  | _ => none

namespace Sender

def Running (self : Sender) (transfer : Transfer) : Prop :=
  transfer.paused = false ∧ self.globalPaused = false

/-- `sendChunk` of a chunk that may be sent now. -/
def launch (self : Sender) (transfer : Transfer) (index attempts : Nat) : Sender :=
  (((self.clearInflightTimer (transfer.inflight.get? index)).put
    (transfer.launched index attempts)).emit transfer.fileId).suspend (.slicing transfer.fileId index attempts)

/-- `scheduleRetry` of a paused transfer. -/
def putBack (self : Sender) (transfer : Transfer) (index nextAttempts : Nat) (reason : String) :
    Sender :=
  (self.clearInflightTimer (transfer.inflight.get? index)).put
    (transfer.write index ⟨nextAttempts - 1, .retryWait, none⟩ (some reason))

/-- `scheduleRetry` of a transfer that is not paused. -/
def rearm (self : Sender) (transfer : Transfer) (index nextAttempts : Nat) (reason : String) :
    Sender :=
  let cleared := self.clearInflightTimer (transfer.inflight.get? index)
  let timer := SenderTimer.retry transfer.fileId index nextAttempts
  let armed := cleared.timers.add timer
  (({ cleared with timers := armed.1 }).note (.setTimeout timer)).put
    (transfer.write index ⟨nextAttempts - 1, .retryWait, some armed.2⟩ (some reason))

/-- The wait for the acknowledgement of a chunk that was sent. -/
def await (self : Sender) (transfer : Transfer) (index attempts : Nat) : Sender :=
  let timer := SenderTimer.ackTimeout transfer.fileId index attempts
  let armed := self.timers.add timer
  (({ self with timers := armed.1 }).note (.setTimeout timer)).put
    (transfer.write index ⟨attempts, .waitingAck, some armed.2⟩ none)

end Sender

end Chunks

section Moves

/-- What only some turns do: make a transfer ready, take its next index, send what was held
back (for one transfer or for all of the map), hold back what is in flight, take it out of the
map, clear the map. -/
inductive Power where
  | wake
  | draw
  | resume (fileId : String)
  | resumeAll
  | hold
  | remove
  | clear
  deriving DecidableEq

def Event.powers : Event → List Power
  | .accept _ => [.wake, .draw]
  | .ack _ _ => [.draw]
  | .pause _ _ => [.hold]
  | .resume fileId => [.wake, .draw, .resume fileId]
  | .setGlobalPaused paused _ => if paused then [.hold] else [.wake, .draw, .resumeAll]
  | .remove _ => [.remove]
  | .reset => [.clear]
  | _ => []

/-- Chunks of the transfer that were held back may be sent. -/
def Resumes (powers : List Power) (sender : Sender) (fileId : String) : Prop :=
  .resume fileId ∈ powers ∨ .resumeAll ∈ powers ∧ sender.transfers.has fileId = true

/-- No event holds chunks back and sends others. -/
theorem Event.apart (event : Event) (sender : Sender) (fileId : String)
    (holds : .hold ∈ event.powers) : ¬ Resumes event.powers sender fileId := by
  cases event with
  | setGlobalPaused paused reason => cases paused <;> simp [Resumes, Event.powers] at holds ⊢
  | _ => simp [Resumes, Event.powers] at holds ⊢

/-- An update that leaves the chunks alone. -/
structure Marks (powers : List Power) (old new : Transfer) : Prop where
  evolves : Evolves old new
  nextIndex : new.nextIndex = old.nextIndex
  inflight : new.inflight = old.inflight
  cancelled : new.cancelled = old.cancelled
  ended : old.Ended → new.Ended
  ready : .wake ∈ powers ∨ (new.Ready → old.Ready)
  pumping : .draw ∈ powers ∨ (new.pumping = true → old.pumping = true)

inductive Moves (powers : List Power) (start : Sender) : Sender → Prop where
  | refl : Moves powers start start
  | say {self : Sender} {entry : SenderNote} (moves : Moves powers start self)
      (silent : entry.chunk? = none) : Moves powers start (self.note entry)
  | wait {self : Sender} {call : SenderCall} (moves : Moves powers start self)
      (unchunked : call.index? = none) (read : ∀ fileId queued, call ≠ .hashing fileId queued) :
      Moves powers start (self.suspend call)
  | disarm {self : Sender} (moves : Moves powers start self) (handle : Option Nat) :
      Moves powers start { self with timers := self.timers.cancel handle }
  | mark {self : Sender} {old new : Transfer} (moves : Moves powers start self)
      (found : self.objects.get? new.fileId = some old) (marks : Marks powers old new)
      (accepts : new.accepted = true →
        old.accepted = true ∨ self.transfers.has new.fileId = true) :
      Moves powers start (self.put new)
  | stop {self : Sender} {transfer : Transfer} {status : SenderStatus}
      (moves : Moves powers start self)
      (found : self.objects.get? transfer.fileId = some transfer) (reason : Option String)
      (ended : status = .cancelled ∨ status = .failed) :
      Moves powers start ((self.put { transfer with
        cancelled := true
        status
        reason }).clearTimers transfer.fileId)
  | clear {self : Sender} (moves : Moves powers start self) (fileId : String)
      (power : .clear ∈ powers) : Moves powers start (self.clearTimers fileId)
  | drop {self : Sender} {transfer : Transfer} (moves : Moves powers start self)
      (found : self.objects.get? transfer.fileId = some transfer)
      (listed : self.transfers.has transfer.fileId = true) (power : .remove ∈ powers) :
      Moves powers start { self.clearTimers transfer.fileId with
        transfers := (self.clearTimers transfer.fileId).transfers.delete transfer.fileId }
  | hold {self : Sender} {transfer : Transfer} (moves : Moves powers start self)
      (found : self.objects.get? transfer.fileId = some transfer) (power : .hold ∈ powers) :
      Moves powers start (self.holdOutstanding transfer.fileId)
  | skip {self : Sender} {transfer : Transfer} (moves : Moves powers start self)
      (found : self.objects.get? transfer.fileId = some transfer)
      (known : transfer.acked.has transfer.nextIndex = true) (power : .draw ∈ powers) :
      Moves powers start (self.put transfer.advance)
  | draw {self : Sender} {transfer : Transfer} (moves : Moves powers start self)
      (found : self.objects.get? transfer.fileId = some transfer)
      (live : transfer.Live transfer.nextIndex) (running : self.Running transfer)
      (room : transfer.inflight.size < self.files.windowChunks)
      (unsent : transfer.nextIndex < transfer.totalChunks) (power : .draw ∈ powers) :
      Moves powers start
        ((self.put transfer.advance).launch transfer.advance transfer.nextIndex 1)
  | relaunch {self : Sender} {transfer : Transfer} {index : Nat} {item : InflightChunk}
      (moves : Moves powers start self)
      (found : self.objects.get? transfer.fileId = some transfer) (live : transfer.Live index)
      (running : self.Running transfer) (held : transfer.inflight.get? index = some item)
      (idle : item.Idle) (within : item.attempts + 1 ≤ self.files.maxRetries + 1)
      (power : Resumes powers self transfer.fileId) :
      Moves powers start (self.launch transfer index (item.attempts + 1))

/-- Where a retry comes from, and the sender without the call or the timer that ended. -/
inductive Retried (self : Sender) (fileId : String) (index : Nat) : Event → Sender → Nat → Prop where
  | rejected {transfer : Transfer} {item : InflightChunk} (reason : String)
      (listed : self.transfers.has fileId = true)
      (found : self.objects.get? fileId = some transfer)
      (held : transfer.inflight.get? index = some item) :
      Retried self fileId index (.nack fileId index reason) self (item.attempts + 1)
  | unread {ticket attempts : Nat} {outcome : Outcome}
      (held : self.calls.get? ticket = some (.slicing fileId index attempts)) :
      Retried self fileId index (.settle ticket outcome)
        { self with calls := self.calls.remove ticket } (attempts + 1)
  | unsent {ticket attempts : Nat} {outcome : Outcome}
      (held : self.calls.get? ticket = some (.sending fileId index attempts)) :
      Retried self fileId index (.settle ticket outcome)
        { self with calls := self.calls.remove ticket } (attempts + 1)
  | late {ticket attempts : Nat}
      (held : self.timers.get? ticket = some (.ackTimeout fileId index attempts)) :
      Retried self fileId index (.fire ticket)
        { self with timers := self.timers.remove ticket } (attempts + 1)

/-- The step that opens a turn. -/
inductive Opening (self : Sender) : Event → Sender → Prop where
  | still (event : Event) : Opening self event self
  | profile (files : FileLimits) : Opening self (.setProfile files) { self with files }
  | global (paused : Bool) (reason : String) :
      Opening self (.setGlobalPaused paused reason) { self with globalPaused := paused }
  | settled {ticket : Nat} {call : SenderCall} (outcome : Outcome)
      (held : self.calls.get? ticket = some call) :
      Opening self (.settle ticket outcome) { self with calls := self.calls.remove ticket }
  | fired {ticket : Nat} {timer : SenderTimer} (held : self.timers.get? ticket = some timer) :
      Opening self (.fire ticket) { self with timers := self.timers.remove ticket }
  | made {fileId : String} {file : File} {queued : Bool} (absent : self.objects.get? fileId = none)
      (valid : validateOutboundFile file self.files = .ok ()) :
      Opening self (.offer fileId file queued)
        ((self.put (newTransfer self.files fileId file queued)).suspend (.hashing fileId queued))
  | opened {fileId : String} {file : File} {queued : Bool}
      (absent : self.objects.get? fileId = none)
      (valid : validateOutboundFile file self.files = .ok ()) :
      Opening self (.offer fileId file queued)
        { self.put (newTransfer self.files fileId file queued) with
          transfers := self.transfers.set fileId () }
  | hashed {ticket : Nat} {outcome : Outcome} {queued : Bool} {transfer : Transfer}
      (held : self.calls.get? ticket = some (.hashing transfer.fileId queued))
      (found : self.objects.get? transfer.fileId = some transfer) (sha256 : Option String) :
      Opening self (.settle ticket outcome)
        { { self with calls := self.calls.remove ticket }.put { transfer with sha256 } with
          transfers := self.transfers.set transfer.fileId () }
  | acknowledged {transfer : Transfer} {index : Nat} {item : InflightChunk}
      (found : self.objects.get? transfer.fileId = some transfer)
      (inside : index < transfer.totalChunks)
      (held : transfer.inflight.get? index = some item) :
      Opening self (.ack transfer.fileId index)
        ((self.clearInflightTimer (some item)).put (acknowledge transfer index))
  | putBack {event : Event} {free : Sender} {transfer : Transfer} {index next : Nat} (reason : String)
      (retried : Retried self transfer.fileId index event free next)
      (found : self.objects.get? transfer.fileId = some transfer) (live : transfer.Live index) :
      Opening self event (free.putBack transfer index next reason)
  | rearmed {event : Event} {free : Sender} {transfer : Transfer} {index next : Nat} (reason : String)
      (retried : Retried self transfer.fileId index event free next)
      (found : self.objects.get? transfer.fileId = some transfer) (live : transfer.Live index)
      (running : self.Running transfer) (within : next ≤ self.files.maxRetries + 1) :
      Opening self event (free.rearm transfer index next reason)
  | relaunched {ticket index next : Nat} {transfer : Transfer}
      (held : self.timers.get? ticket = some (.retry transfer.fileId index next))
      (found : self.objects.get? transfer.fileId = some transfer) (live : transfer.Live index)
      (within : next ≤ self.files.maxRetries + 1) :
      Opening self (.fire ticket)
        ({ self with timers := self.timers.remove ticket }.launch transfer index next)
  | parked {ticket index next : Nat} {transfer : Transfer}
      (held : self.timers.get? ticket = some (.retry transfer.fileId index next))
      (found : self.objects.get? transfer.fileId = some transfer) (live : transfer.Live index) :
      Opening self (.fire ticket)
        ({ self with timers := self.timers.remove ticket }.put
          (transfer.write index ⟨next, .retryWait, none⟩ transfer.reason))
  | sent {ticket index attempts : Nat} {fileId : String} {message : FileMessage} {outcome : Outcome}
      (held : self.calls.get? ticket = some (.slicing fileId index attempts))
      (chunk : (SenderNote.sendApp message .file).chunk? = some (fileId, index)) :
      Opening self (.settle ticket outcome)
        (({ self with calls := self.calls.remove ticket }.note (.sendApp message .file)).suspend
          (.sending fileId index attempts))
  | confirmed {ticket index attempts : Nat} {transfer : Transfer} {outcome : Outcome}
      (held : self.calls.get? ticket = some (.sending transfer.fileId index attempts))
      (found : self.objects.get? transfer.fileId = some transfer) (live : transfer.Live index) :
      Opening self (.settle ticket outcome)
        ({ self with calls := self.calls.remove ticket }.await transfer index attempts)

/-- A turn: its opening and its moves. -/
structure Unfolds (self : Sender) (event : Event) (after : Sender) : Prop where
  split : ∃ middle, Opening self event middle ∧ Moves event.powers middle after

end Moves

section Functions

variable {powers : List Power} {start self : Sender} {fileId : String}

theorem clearTimers_named (named : Named self) (fileId : String) : Named (self.clearTimers fileId) :=
  (clearTimers_acts named (Only.self fileId) .refl).named named

theorem launch_named (named : Named self) (transfer : Transfer) (index attempts : Nat) :
    Named (self.launch transfer index attempts) := by
  unfold Sender.launch emit withTransfer
  split <;> exact put_named _ named

theorem Moves.named (moves : Moves powers start self) (named : Named start) : Named self := by
  induction moves with
  | refl => exact named
  | say _ _ ih => exact ih
  | wait _ _ _ ih => exact ih
  | disarm _ _ ih => exact ih
  | mark _ _ _ _ ih => exact put_named _ ih
  | stop _ _ _ _ ih => exact clearTimers_named (put_named _ ih) _
  | clear _ fileId _ ih => exact clearTimers_named ih fileId
  | drop _ _ _ _ ih => exact clearTimers_named ih _
  | hold _ _ _ ih => exact (holdOutstanding_acts ih (Only.self _) .refl).named ih
  | skip _ _ _ _ ih => exact put_named _ ih
  | draw _ _ _ _ _ _ _ ih => exact launch_named (put_named _ ih) _ _ _
  | relaunch _ _ _ _ _ _ _ _ ih => exact launch_named ih _ _ _

theorem Moves.trans {middle : Sender} (first : Moves powers start middle)
    (second : Moves powers middle self) : Moves powers start self := by
  induction second with
  | refl => exact first
  | say _ silent ih => exact .say ih silent
  | wait _ unchunked read ih => exact .wait ih unchunked read
  | disarm _ handle ih => exact .disarm ih handle
  | mark _ found marks accepts ih => exact .mark ih found marks accepts
  | stop _ found reason ended ih => exact .stop ih found reason ended
  | clear _ fileId power ih => exact .clear ih fileId power
  | drop _ found listed power ih => exact .drop ih found listed power
  | hold _ found power ih => exact .hold ih found power
  | skip _ found over_ power ih => exact .skip ih found over_ power
  | draw _ found live running room unsent power ih =>
      exact .draw ih found live running room unsent power
  | relaunch _ found live running held idle within power ih =>
      exact .relaunch ih found live running held idle within power

theorem withTransfer_moves {action : Transfer → Sender} (named : Named start)
    (moves : Moves powers start self)
    (runs : ∀ transfer, self.objects.get? transfer.fileId = some transfer →
      transfer.fileId = fileId → Moves powers start (action transfer)) :
    Moves powers start (self.withTransfer fileId action) := by
  unfold withTransfer
  split
  · exact moves
  · rename_i transfer found
    have same := moves.named named fileId transfer found
    exact runs transfer (same ▸ found) same

theorem emit_moves (moves : Moves powers start self) : Moves powers start (self.emit fileId) := by
  unfold emit withTransfer
  split
  · exact moves
  · exact .say moves rfl

theorem fail_moves (named : Named start) (moves : Moves powers start self) (reason : String) :
    Moves powers start (self.fail fileId reason) := by
  refine withTransfer_moves named moves ?_
  rintro transfer found rfl
  exact emit_moves (.stop moves found (some reason) (Or.inr rfl))

theorem failAndNotify_moves (named : Named start) (moves : Moves powers start self)
    (reason : String) : Moves powers start (self.failAndNotify fileId reason) :=
  .wait (.say (fail_moves named moves reason) rfl) rfl nofun

/-- The object after a launch. -/
theorem launch_objects (self : Sender) (transfer : Transfer) (index attempts : Nat) :
    (self.launch transfer index attempts).objects =
      self.objects.set transfer.fileId (transfer.launched index attempts) := by
  unfold Sender.launch emit withTransfer
  split <;> rfl

/-- A chunk within the retry limit is launched, another one stops its transfer. -/
theorem sendChunk_eq {transfer : Transfer} {index : Nat}
    (found : self.objects.get? transfer.fileId = some transfer) (live : transfer.Live index)
    (running : self.Running transfer) (attempts : Nat) :
    self.sendChunk transfer.fileId index attempts =
      if self.files.maxRetries + 1 < attempts then
        self.failAndNotify transfer.fileId (retryLimitReason index)
      else self.launch transfer index attempts := by
  simp [sendChunk, withTransfer, found, live.1, live.2, running.1, running.2, Sender.launch,
    Transfer.launched, Transfer.write]

theorem sendChunk_over {transfer : Transfer} {index : Nat}
    (found : self.objects.get? fileId = some transfer)
    (over_ : transfer.cancelled = true ∨ transfer.acked.has index = true) (attempts : Nat) :
    self.sendChunk fileId index attempts = self := by
  have stays : (transfer.cancelled || transfer.acked.has index) = true := by simpa using over_
  simp [sendChunk, withTransfer, found, stays]

theorem sendChunk_parked {transfer : Transfer} {index : Nat}
    (found : self.objects.get? transfer.fileId = some transfer) (live : transfer.Live index)
    (paused : (transfer.paused || self.globalPaused) = true) (attempts : Nat) :
    self.sendChunk transfer.fileId index attempts =
      self.put (transfer.write index ⟨attempts, .retryWait, none⟩ transfer.reason) := by
  have going : (transfer.cancelled || transfer.acked.has index) = false := by
    rw [live.1, live.2]
    rfl
  simp only [sendChunk, withTransfer, found, going, paused, ↓reduceIte, Bool.false_eq_true]
  rfl

theorem live_or_over (transfer : Transfer) (index : Nat) :
    transfer.Live index ∨ (transfer.cancelled = true ∨ transfer.acked.has index = true) := by
  unfold Transfer.Live
  cases transfer.cancelled <;> cases transfer.acked.has index <;> simp

theorem completeIfDone_moves (named : Named start) (moves : Moves powers start self) :
    Moves powers start (self.completeIfDone fileId) := by
  refine withTransfer_moves named moves ?_
  rintro transfer found rfl
  split
  · exact moves
  · rename_i live
    split
    · exact moves
    · rename_i unfinished
      simp only [Bool.or_eq_true, decide_eq_true_eq, not_or, Nat.not_lt] at unfinished
      refine .say (emit_moves (.mark moves found ?_ Or.inl)) rfl
      exact ⟨⟨rfl, rfl, rfl, rfl, rfl, rfl, fun _ => Or.inr unfinished.2, nofun⟩, rfl, rfl, rfl,
        fun _ cancelled => absurd cancelled live, Or.inr (fun ready => nomatch ready.2.1), Or.inr id⟩

theorem pumpLoop_moves (named : Named start) (power : .draw ∈ powers) (rounds : Nat)
    (moves : Moves powers start self) : Moves powers start (pumpLoop rounds self fileId) := by
  induction rounds generalizing self with
  | zero => exact moves
  | succ rounds ih =>
      refine withTransfer_moves named moves ?_
      rintro transfer found rfl
      split
      · rename_i room
        simp only [Bool.and_eq_true, Bool.not_eq_true', decide_eq_true_eq] at room
        obtain ⟨⟨⟨⟨live, resumed⟩, unpaused⟩, free⟩, unsent⟩ := room
        refine ih ?_
        change Moves powers start
          ((self.put transfer.advance).sendChunk transfer.advance.fileId transfer.nextIndex 1)
        have advanced : (self.put transfer.advance).objects.get? transfer.advance.fileId =
            some transfer.advance := InsertionMap.get?_set_self _ _ _
        rcases live_or_over transfer transfer.nextIndex with ready | spent
        · rw [sendChunk_eq advanced ready ⟨resumed, unpaused⟩ 1, if_neg (by omega)]
          exact .draw moves found ready ⟨resumed, unpaused⟩ free unsent power
        · have over_ : transfer.acked.has transfer.nextIndex = true := by
            rcases spent with cancelled | over_
            · rw [live] at cancelled
              cases cancelled
            · exact over_
          rw [sendChunk_over advanced (Or.inr over_) 1]
          exact .skip moves found over_ power
      · exact moves

theorem pump_moves (named : Named start) (power : .draw ∈ powers) (moves : Moves powers start self) :
    Moves powers start (self.pump fileId) := by
  refine withTransfer_moves named moves ?_
  rintro transfer found rfl
  split
  · exact moves
  · split
    · exact moves
    · refine .wait (completeIfDone_moves named (pumpLoop_moves named power _
        (.mark moves found ?_ Or.inl))) rfl nofun
      exact ⟨⟨rfl, rfl, rfl, rfl, rfl, rfl, Or.inl, id⟩, rfl, rfl, rfl, id, Or.inr id, Or.inl power⟩

theorem holdOutstanding_moves (named : Named start) (power : .hold ∈ powers)
    (moves : Moves powers start self) : Moves powers start (self.holdOutstanding fileId) := by
  cases found : self.objects.get? fileId with
  | none => simpa only [holdOutstanding, withTransfer, found] using moves
  | some transfer =>
      have same := moves.named named fileId transfer found
      subst same
      exact .hold moves found power

/-- The rest of the loop of `resumeOutstanding`: each entry that waits is still there, or the
transfer has failed meanwhile. -/
def Pending (powers : List Power) (self : Sender) (fileId : String)
    (items : List (Nat × InflightChunk)) : Prop :=
  Resumes powers self fileId ∧
  ∃ transfer, self.objects.get? transfer.fileId = some transfer ∧ transfer.fileId = fileId ∧
    (transfer.cancelled = true ∨ self.Running transfer ∧
      ∀ index item, (index, item) ∈ items → transfer.inflight.get? index = some item)

theorem failAndNotify_cancels {transfer : Transfer}
    (found : self.objects.get? transfer.fileId = some transfer) (reason : String) :
    ∃ stopped, (self.failAndNotify transfer.fileId reason).objects.get? transfer.fileId =
      some stopped ∧ stopped.fileId = transfer.fileId ∧ stopped.cancelled = true := by
  refine ⟨{ transfer with
    status := .failed
    reason := some reason
    cancelled := true
    inflight := .empty }, ?_, rfl, rfl⟩
  simp [failAndNotify, fail, withTransfer, found, Sender.put, clearTimers, emit, Sender.note,
    Sender.suspend]

theorem launch_running {transfer : Transfer} {index attempts : Nat}
    (running : self.Running transfer) :
    (self.launch transfer index attempts).Running (transfer.launched index attempts) := by
  refine ⟨running.1, ?_⟩
  unfold Sender.launch emit withTransfer
  split <;> exact running.2

theorem launch_transfers (self : Sender) (transfer : Transfer) (index attempts : Nat) :
    (self.launch transfer index attempts).transfers = self.transfers := by
  unfold Sender.launch emit withTransfer
  split <;> rfl

theorem failAndNotify_transfers (self : Sender) (fileId reason : String) :
    (self.failAndNotify fileId reason).transfers = self.transfers := by
  cases found : self.objects.get? fileId with
  | none => simp [failAndNotify, fail, withTransfer, found, Sender.note, Sender.suspend]
  | some transfer =>
      have same : ∀ (self : Sender) (id : String), (self.emit id).transfers = self.transfers := by
        intro self id
        unfold emit withTransfer
        split <;> rfl
      have clear : ∀ (self : Sender) (id : String), (self.clearTimers id).transfers = self.transfers := by
        intro self id
        unfold clearTimers withTransfer
        split <;> rfl
      simp only [failAndNotify, fail, withTransfer, found, Sender.note, Sender.suspend, same, clear,
        Sender.put]

theorem Pending.launch {transfer : Transfer} {index attempts : Nat} {item : InflightChunk}
    {rest : List (Nat × InflightChunk)} (power : Resumes powers self transfer.fileId)
    (running : self.Running transfer)
    (items : ∀ other held, (other, held) ∈ rest → transfer.inflight.get? other = some held)
    (apart : (((index, item) :: rest).map Prod.fst).Nodup) :
    Pending powers (self.launch transfer index attempts) transfer.fileId rest := by
  refine ⟨by unfold Resumes; rw [launch_transfers]; exact power, transfer.launched index attempts, ?_, rfl, Or.inr ⟨launch_running running, ?_⟩⟩
  · rw [launch_objects]
    exact InsertionMap.get?_set_self _ _ _
  · intro other held member
    have different : other ≠ index := by
      rintro rfl
      exact (List.nodup_cons.mp apart).1 (List.mem_map.mpr ⟨_, member, rfl⟩)
    rw [Transfer.launched, Transfer.write, InsertionMap.get?_set_ne _ _ different]
    exact items other held member

theorem resumeEach_moves (named : Named start) (items : List (Nat × InflightChunk))
    (apart : (items.map Prod.fst).Nodup) (moves : Moves powers start self)
    (pending : Pending powers self fileId items) :
    Moves powers start (resumeEach fileId items self) := by
  induction items generalizing self with
  | nil => exact moves
  | cons entry rest ih =>
      obtain ⟨index, item⟩ := entry
      obtain ⟨power, transfer, found, rfl, state⟩ := pending
      have later : ∀ other held, (other, held) ∈ rest → (other, held) ∈ (index, item) :: rest :=
        fun _ _ => List.mem_cons_of_mem _
      have sequel := (List.nodup_cons.mp apart).2
      simp only [resumeEach]
      by_cases idle : item.state = .retryWait ∧ item.timer = none
      · rw [if_pos idle]
        rcases live_or_over transfer index with live | over_
        · rcases state with cancelled | ⟨running, items⟩
          · rw [live.1] at cancelled
            cases cancelled
          · rw [sendChunk_eq found live running]
            split
            · obtain ⟨stopped, there, same, cancelled⟩ :=
                failAndNotify_cancels found (retryLimitReason index)
              exact ih sequel (failAndNotify_moves named moves _)
                ⟨by unfold Resumes; rw [failAndNotify_transfers]; exact power, stopped, same ▸ there,
                  same, Or.inl cancelled⟩
            · refine ih sequel (.relaunch moves found live running
                (items index item List.mem_cons_self) idle (by omega) power) ?_
              exact .launch power running (fun other held member => items other held (later _ _ member))
                apart
        · rw [sendChunk_over found over_]
          exact ih sequel moves ⟨power, transfer, found, rfl, state.imp id fun going =>
            ⟨going.1, fun other held member => going.2 other held (later _ _ member)⟩⟩
      · rw [if_neg idle]
        exact ih sequel moves ⟨power, transfer, found, rfl, state.imp id fun going =>
          ⟨going.1, fun other held member => going.2 other held (later _ _ member)⟩⟩

theorem resumeOutstanding_moves (named : Named start) (draws : .draw ∈ powers)
    (resumes : Resumes powers self fileId) (moves : Moves powers start self) :
    Moves powers start (self.resumeOutstanding fileId) := by
  refine withTransfer_moves named moves ?_
  rintro transfer found rfl
  split
  · exact moves
  · rename_i running
    simp only [Bool.or_eq_true, not_or, Bool.not_eq_true] at running
    refine pump_moves named draws (resumeEach_moves named _ transfer.inflight.keys_nodup moves
      ⟨resumes, transfer, found, rfl, Or.inr ⟨⟨running.1.2, running.2⟩, ?_⟩⟩)
    intro index item member
    exact (InsertionMap.get?_eq_some_iff _ _ _).mpr member

theorem setPaused_marks {transfer : Transfer} (paused : Bool) (reason : String)
    (going : ¬ (transfer.status ≠ .sending ∧ transfer.status ≠ .paused))
    (wakes : paused = false → .wake ∈ powers) :
    Marks powers transfer (transfer.setPaused paused reason) := by
  refine ⟨⟨rfl, rfl, rfl, rfl, rfl, rfl, ?_, ?_⟩, rfl, rfl, rfl, ?_, ?_, Or.inr id⟩
  · cases paused <;> nofun
  · cases paused <;> nofun
  · intro was cancelled
    have stopped := was cancelled
    simp only [SenderStatus.terminal, decide_eq_true_eq] at stopped
    simp only [not_and, not_not] at going
    by_cases sending : transfer.status = .sending
    · simp [sending] at stopped
    · simp [going sending] at stopped
  · cases paused with
    | true => exact Or.inr fun ready => nomatch ready.2.2
    | false => exact Or.inl (wakes rfl)

theorem pauseOne_moves (named : Named start) (paused : Bool) (reason : String)
    (holds : paused = true → .hold ∈ powers)
    (resumes : paused = false → .wake ∈ powers ∧ .draw ∈ powers ∧ Resumes powers self fileId)
    (moves : Moves powers start self) :
    Moves powers start (pauseOne paused reason self fileId) := by
  refine withTransfer_moves named moves ?_
  rintro transfer found rfl
  split
  · exact moves
  · rename_i going
    have marked : Moves powers start (self.put (transfer.setPaused paused reason)) :=
      .mark moves found (setPaused_marks paused reason going fun resumed => (resumes resumed).1) Or.inl
    cases paused with
    | true => exact emit_moves (holdOutstanding_moves named (holds rfl) marked)
    | false =>
        obtain ⟨_, draws, resumed⟩ := resumes rfl
        refine resumeOutstanding_moves named draws ?_ (emit_moves marked)
        unfold Resumes emit withTransfer
        split <;> exact resumed

end Functions

section Turns

variable {self free after : Sender} {event : Event} {fileId : String} {index next : Nat}

theorem Retried.objects (retried : Retried self fileId index event free next) :
    free.objects = self.objects := by
  cases retried <;> rfl

theorem Retried.files (retried : Retried self fileId index event free next) :
    free.files = self.files := by
  cases retried <;> rfl

theorem Retried.opening (retried : Retried self fileId index event free next) :
    Opening self event free := by
  cases retried with
  | rejected reason listed found held => exact .still _
  | unread held => exact .settled _ held
  | unsent held => exact .settled _ held
  | late held => exact .fired held

theorem Opening.named (opening : Opening self event after) (named : Named self) : Named after := by
  cases opening with
  | made _ _ => exact put_named _ named
  | opened _ _ => exact put_named _ named
  | hashed _ _ _ => exact put_named _ named
  | acknowledged _ _ _ => exact put_named _ named
  | putBack _ retried _ _ =>
      refine put_named _ fun other stored found => ?_
      exact named other stored (retried.objects ▸ found)
  | rearmed _ retried _ _ _ _ =>
      refine put_named _ fun other stored found => ?_
      exact named other stored (retried.objects ▸ found)
  | @relaunched ticket _ _ _ _ _ _ _ =>
      have freed : Named { self with timers := self.timers.remove ticket } := named
      exact launch_named freed _ _ _
  | parked _ _ _ => exact put_named _ named
  | confirmed _ _ _ => exact put_named _ named
  | _ => exact named

theorem Unfolds.moves (moves : Moves event.powers self after) : Unfolds self event after :=
  ⟨self, .still event, moves⟩

theorem Unfolds.opening (opening : Opening self event after) : Unfolds self event after :=
  ⟨after, opening, .refl⟩

theorem scheduleRetry_unfolds (named : Named self)
    (retried : Retried self fileId index event free next) (reason : String) :
    Unfolds self event (free.scheduleRetry fileId index next reason) := by
  have kept : Named free := by
    intro other transfer found
    exact named other transfer (retried.objects ▸ found)
  unfold scheduleRetry withTransfer
  split
  · exact .opening retried.opening
  · rename_i transfer found
    have same := kept fileId transfer found
    subst same
    have there : self.objects.get? transfer.fileId = some transfer := retried.objects ▸ found
    dsimp only
    split
    · exact .opening retried.opening
    · rename_i live
      simp only [Bool.or_eq_true, not_or, Bool.not_eq_true] at live
      split
      · exact ⟨free, retried.opening, failAndNotify_moves kept (.disarm .refl _) _⟩
      · rename_i within
        rw [retried.files] at within
        split
        · exact ⟨_, .putBack reason retried there live, emit_moves .refl⟩
        · rename_i running
          simp only [Bool.or_eq_true, not_or, Bool.not_eq_true] at running
          have unpaused : self.globalPaused = false := by
            cases retried <;> exact running.2
          exact ⟨_, .rearmed reason retried there live ⟨running.1, unpaused⟩ (by omega),
            emit_moves .refl⟩

theorem sliced_unfolds {ticket attempts : Nat} (named : Named self) (outcome : Outcome)
    (held : self.calls.get? ticket = some (.slicing fileId index attempts)) :
    Unfolds self (.settle ticket outcome)
      ({ self with calls := self.calls.remove ticket }.sliced fileId index attempts outcome) := by
  cases outcome with
  | error message => exact scheduleRetry_unfolds named (.unread held) message
  | ok _ =>
      simp only [sliced, withTransfer]
      split
      · exact .opening (.settled _ held)
      · rename_i transfer found
        have same := named fileId transfer found
        subst same
        exact .opening (.sent held rfl)

theorem chunkSent_unfolds {ticket attempts : Nat} (named : Named self) (outcome : Outcome)
    (held : self.calls.get? ticket = some (.sending fileId index attempts)) :
    Unfolds self (.settle ticket outcome)
      ({ self with calls := self.calls.remove ticket }.chunkSent fileId index attempts outcome) := by
  cases outcome with
  | error message => exact scheduleRetry_unfolds named (.unsent held) message
  | ok sent =>
      cases sent with
      | false => exact scheduleRetry_unfolds named (.unsent held) _
      | true =>
          simp only [chunkSent, withTransfer]
          split
          · exact .opening (.settled _ held)
          · rename_i transfer found
            have same := named fileId transfer found
            subst same
            split
            · exact .opening (.settled _ held)
            · rename_i live
              simp only [Bool.or_eq_true, not_or, Bool.not_eq_true] at live
              exact ⟨_, .confirmed held found live, emit_moves .refl⟩

theorem retry_unfolds {ticket : Nat} (named : Named self)
    (held : self.timers.get? ticket = some (.retry fileId index next)) :
    Unfolds self (.fire ticket)
      ({ self with timers := self.timers.remove ticket }.sendChunk fileId index next) := by
  have kept : Named { self with timers := self.timers.remove ticket } := named
  cases found : self.objects.get? fileId with
  | none =>
      simp only [sendChunk, withTransfer, found]
      exact .opening (.fired held)
  | some transfer =>
      have same := named fileId transfer found
      subst same
      have there : { self with timers := self.timers.remove ticket }.objects.get? transfer.fileId =
          some transfer := found
      rcases live_or_over transfer index with live | over_
      · by_cases paused : (transfer.paused || self.globalPaused) = true
        · rw [sendChunk_parked there live paused]
          exact .opening (.parked held found live)
        · simp only [Bool.or_eq_true, not_or, Bool.not_eq_true] at paused
          rw [sendChunk_eq there live paused]
          split
          · exact ⟨_, .fired held, failAndNotify_moves kept .refl _⟩
          · exact .opening (.relaunched held found live (Nat.le_of_not_lt ‹_›))
      · rw [sendChunk_over there over_]
        exact .opening (.fired held)

theorem settle_unfolds (digest : Bytes → String) {ticket : Nat} {call : SenderCall}
    (named : Named self) (outcome : Outcome) (held : self.calls.get? ticket = some call) :
    Unfolds self (.settle ticket outcome)
      ({ self with calls := self.calls.remove ticket }.settle digest outcome call) := by
  have kept : Named { self with calls := self.calls.remove ticket } := named
  have freed : Opening self (.settle ticket outcome) { self with calls := self.calls.remove ticket } :=
    .settled outcome held
  cases call with
  | hashing fileId queued =>
      simp only [settle, withTransfer]
      split
      · exact .opening freed
      · rename_i transfer found
        have same := named fileId transfer found
        subst same
        refine ⟨_, .hashed held found (outcome.toOption.map fun _ => digest transfer.file.bytes), ?_⟩
        have shown : Moves (Event.settle ticket outcome).powers _
            ({ { self with calls := self.calls.remove ticket }.put { transfer with
                sha256 := outcome.toOption.map fun _ => digest transfer.file.bytes } with
              transfers := self.transfers.set transfer.fileId () }.emit transfer.fileId) :=
          emit_moves .refl
        cases queued with
        | true => exact shown
        | false =>
            refine withTransfer_moves (put_named _ named) shown ?_
            intro current _ _
            exact .wait (.say shown rfl) rfl (by simp)
  | offering fileId =>
      simp only [settle]
      split
      · exact ⟨_, freed, fail_moves kept .refl _⟩
      · exact .opening freed
  | slicing fileId index attempts => exact sliced_unfolds named outcome held
  | sending fileId index attempts => exact chunkSent_unfolds named outcome held
  | pumping fileId =>
      refine ⟨_, freed, withTransfer_moves kept .refl ?_⟩
      rintro transfer found rfl
      exact .mark .refl found ⟨⟨rfl, rfl, rfl, rfl, rfl, rfl, Or.inl, id⟩, rfl, rfl, rfl, id,
        Or.inr id, Or.inr (by rintro ⟨⟩)⟩ Or.inl
  | notifying fileId => exact .opening freed

theorem sendOffer_moves {powers : List Power} {start : Sender} (moves : Moves powers start self) :
    Moves powers start (self.sendOffer fileId) := by
  unfold sendOffer withTransfer
  split
  · exact moves
  · exact .wait (.say moves rfl) rfl nofun

theorem withRegistered_unfolds {action : Transfer → Sender} (named : Named self)
    (runs : ∀ transfer, self.transfers.has transfer.fileId = true →
      self.objects.get? transfer.fileId = some transfer → transfer.fileId = fileId →
      Unfolds self event (action transfer)) :
    Unfolds self event (self.withRegistered fileId action) := by
  unfold withRegistered withTransfer
  split
  · rename_i listed
    split
    · exact .moves .refl
    · rename_i transfer found
      have same := named fileId transfer found
      exact runs transfer (same ▸ listed) (same ▸ found) same
  · exact .moves .refl

theorem offer_unfolds (file : File) (queued : Bool)
    (absent : self.objects.get? fileId = none) :
    Unfolds self (.offer fileId file queued) (self.offer fileId file queued) := by
  unfold Sender.offer
  split
  · exact .moves .refl
  · rename_i valid
    dsimp only
    split
    · exact .opening (.made absent valid)
    · refine ⟨_, .opened absent valid, ?_⟩
      cases queued with
      | true => exact emit_moves .refl
      | false => exact sendOffer_moves (emit_moves .refl)

/-! The calls on one registered transfer. -/

theorem accept_marks {powers : List Power} {transfer : Transfer} (live : transfer.cancelled = false)
    (globalPaused : Bool) (wakes : .wake ∈ powers) :
    Marks powers transfer (transfer.accept globalPaused) := by
  refine ⟨⟨rfl, rfl, rfl, rfl, rfl, rfl, ?_, ?_⟩, rfl, rfl, rfl, ?_, Or.inl wakes, Or.inr id⟩
  · cases globalPaused <;> nofun
  · cases globalPaused <;> nofun
  · intro _ cancelled
    rw [show (transfer.accept globalPaused).cancelled = transfer.cancelled from rfl, live] at cancelled
    cases cancelled

theorem accept_unfolds (named : Named self) (fileId : String) :
    Unfolds self (.accept fileId) (self.accept fileId) := by
  refine withRegistered_unfolds named ?_
  rintro transfer listed found rfl
  split
  · exact .moves .refl
  · rename_i live
    exact .moves (pump_moves named (by simp [Event.powers]) (emit_moves (.mark .refl found
      (accept_marks (Bool.eq_false_iff.mpr live) self.globalPaused (by simp [Event.powers]))
      fun _ => Or.inr listed)))

theorem startQueued_unfolds (named : Named self) (fileId : String) :
    Unfolds self (.startQueued fileId) (self.startQueued fileId) := by
  refine withRegistered_unfolds named ?_
  rintro transfer _ found rfl
  split
  · exact .moves .refl
  · rename_i waiting
    refine .moves (sendOffer_moves (emit_moves (.mark .refl found ?_ Or.inl)))
    exact ⟨⟨rfl, rfl, rfl, rfl, rfl, rfl, nofun, nofun⟩, rfl, rfl, rfl,
      fun _ cancelled => absurd (Or.inl cancelled) waiting,
      Or.inr (fun ready => nomatch ready.2.1), Or.inr id⟩

theorem ack_unfolds (named : Named self) (fileId : String) (index : Nat) :
    Unfolds self (.ack fileId index) (self.ack fileId index) := by
  refine withRegistered_unfolds named ?_
  rintro transfer _ found rfl
  split
  · exact .moves .refl
  · split
    · exact .moves .refl
    · rename_i inside item held
      exact ⟨_, .acknowledged found (by omega) held,
        pump_moves (put_named _ named) (by simp [Event.powers]) (emit_moves .refl)⟩

theorem nack_unfolds (named : Named self) (fileId : String) (index : Nat) (reason : String) :
    Unfolds self (.nack fileId index reason) (self.nack fileId index reason) := by
  refine withRegistered_unfolds named ?_
  rintro transfer listed found rfl
  split
  · exact .moves .refl
  · split
    · exact .moves .refl
    · rename_i item held
      exact scheduleRetry_unfolds named (.rejected reason listed found held) reason

theorem pause_unfolds (named : Named self) (fileId reason : String) :
    Unfolds self (.pause fileId reason) (self.pause fileId reason) := by
  refine withRegistered_unfolds named ?_
  rintro transfer _ found rfl
  split
  · exact .moves .refl
  · rename_i going
    refine .moves (emit_moves (holdOutstanding_moves named (by simp [Event.powers])
      (.mark .refl found ?_ Or.inl)))
    exact ⟨⟨rfl, rfl, rfl, rfl, rfl, rfl, nofun, nofun⟩, rfl, rfl, rfl,
      fun was cancelled => absurd (was cancelled) going,
      Or.inr (fun ready => nomatch ready.2.1), Or.inr id⟩

theorem resume_marks {powers : List Power} {transfer : Transfer} (paused : transfer.status = .paused)
    (wakes : .wake ∈ powers) : Marks powers transfer transfer.resume := by
  refine ⟨⟨rfl, rfl, rfl, rfl, rfl, rfl, ?_, ?_⟩, rfl, rfl, rfl, ?_, Or.inl wakes, Or.inr id⟩
  · unfold Transfer.resume
    cases transfer.accepted <;> nofun
  · unfold Transfer.resume
    cases transfer.accepted <;> nofun
  · intro was cancelled
    have stopped := was cancelled
    simp [paused, SenderStatus.terminal] at stopped

theorem resume_unfolds (named : Named self) (fileId : String) :
    Unfolds self (.resume fileId) (self.resume fileId) := by
  refine withRegistered_unfolds named ?_
  rintro transfer _ found rfl
  split
  · exact .moves .refl
  · rename_i paused
    simp only [ne_eq, not_not] at paused
    exact .moves (resumeOutstanding_moves named (by simp [Event.powers])
      (Or.inl (by simp [Event.powers])) (emit_moves (.mark .refl found (resume_marks paused (by simp [Event.powers])) Or.inl)))

theorem cancel_unfolds (named : Named self) (fileId reason : String) (notify : Bool) :
    Unfolds self (.cancel fileId reason notify) (self.cancel fileId reason notify) := by
  refine withRegistered_unfolds named ?_
  rintro transfer _ found rfl
  have cancelled : Moves (Event.cancel transfer.fileId reason notify).powers self
      (((self.put { transfer with
        cancelled := true
        status := .cancelled
        reason := some reason }).clearTimers transfer.fileId).emit transfer.fileId) :=
    emit_moves (.stop .refl found (some reason) (Or.inl rfl))
  dsimp only
  split
  · exact .moves (.wait (.say cancelled rfl) rfl nofun)
  · exact .moves cancelled

theorem remove_unfolds (named : Named self) (fileId : String) :
    Unfolds self (.remove fileId) (self.remove fileId) := by
  refine withRegistered_unfolds named ?_
  rintro transfer listed found rfl
  split
  · exact .moves (.drop .refl found listed (by simp [Event.powers]))
  · exact .moves .refl

theorem foldl_moves {powers : List Power} {each : Sender → String → Sender} (ids : List String)
    (runs : ∀ id ∈ ids, ∀ middle, Moves powers self middle → Moves powers self (each middle id)) :
    Moves powers self (ids.foldl each self) := by
  suffices chained : ∀ middle, Moves powers self middle → Moves powers self (ids.foldl each middle) from
    chained self .refl
  induction ids with
  | nil => exact fun _ moves => moves
  | cons id rest ih =>
      exact fun middle moves => ih (fun other member => runs other (List.mem_cons_of_mem id member)) _
        (runs id List.mem_cons_self middle moves)

theorem Moves.transfers {powers : List Power} (moves : Moves powers self after)
    (kept : .remove ∉ powers) : after.transfers = self.transfers := by
  have clear : ∀ (self : Sender) (id : String), (self.clearTimers id).transfers = self.transfers := by
    intro self id
    unfold clearTimers withTransfer
    split <;> rfl
  induction moves with
  | refl => rfl
  | say _ _ ih => exact ih
  | wait _ _ _ ih => exact ih
  | disarm _ _ ih => exact ih
  | mark _ _ _ _ ih => exact ih
  | stop _ _ _ _ ih => exact (clear _ _).trans ih
  | clear _ _ _ ih => exact (clear _ _).trans ih
  | drop _ _ _ power _ => exact absurd power kept
  | hold _ found _ ih =>
      simp only [holdOutstanding, withTransfer, found]
      exact ih
  | skip _ _ _ _ ih => exact ih
  | draw _ _ _ _ _ _ _ ih => exact (launch_transfers _ _ _ _).trans ih
  | relaunch _ _ _ _ _ _ _ _ ih => exact (launch_transfers _ _ _ _).trans ih

theorem clearAll_moves (self : Sender) :
    Moves Event.reset.powers self (self.transfers.keys.foldl clearTimers self) :=
  foldl_moves _ fun id _ _ moves => .clear moves id (by simp [Event.powers])

theorem setGlobalPaused_unfolds (named : Named self) (paused : Bool) (reason : String) :
    Unfolds self (.setGlobalPaused paused reason) (self.setGlobalPaused paused reason) := by
  have started : Named { self with globalPaused := paused } := named
  refine ⟨_, .global paused reason, foldl_moves _ ?_⟩
  intro id member middle moves
  refine pauseOne_moves started paused reason ?_ ?_ moves
  · rintro rfl
    simp [Event.powers]
  · rintro rfl
    have listed := moves.transfers (by simp [Event.powers])
    refine ⟨by simp [Event.powers], by simp [Event.powers], Or.inr ⟨by simp [Event.powers], ?_⟩⟩
    rw [listed]
    exact (InsertionMap.has_iff _ _).mpr member

/-- Every turn but a reset has this form. -/
theorem turn_unfolds (digest : Bytes → String) (named : Named self) (kept : event ≠ .reset)
    (stepped : self.turn digest event = some after) : Unfolds self event after := by
  cases event with
  | setProfile files =>
      cases stepped
      exact .opening (.profile files)
  | offer fileId file queued =>
      simp only [turn] at stepped
      split at stepped
      · cases stepped
      · rename_i new
        cases stepped
        refine offer_unfolds file queued ?_
        rw [InsertionMap.get?_eq_none_iff, ← InsertionMap.has_iff]
        exact new
  | startQueued fileId =>
      cases stepped
      exact startQueued_unfolds named fileId
  | accept fileId =>
      cases stepped
      exact accept_unfolds named fileId
  | ack fileId index =>
      cases stepped
      exact ack_unfolds named fileId index
  | nack fileId index reason =>
      cases stepped
      exact nack_unfolds named fileId index reason
  | pause fileId reason =>
      cases stepped
      exact pause_unfolds named fileId reason
  | resume fileId =>
      cases stepped
      exact resume_unfolds named fileId
  | cancel fileId reason notify =>
      cases stepped
      exact cancel_unfolds named fileId reason notify
  | setGlobalPaused paused reason =>
      cases stepped
      exact setGlobalPaused_unfolds named paused reason
  | remove fileId =>
      cases stepped
      exact remove_unfolds named fileId
  | reset => exact absurd rfl kept
  | settle ticket outcome =>
      obtain ⟨⟨call, rest⟩, taken, rfl⟩ := Option.map_eq_some_iff.mp stepped
      obtain ⟨held, rfl⟩ := Callbacks.take_eq_some.mp taken
      exact settle_unfolds digest named outcome held
  | fire ticket =>
      obtain ⟨⟨timer, rest⟩, taken, rfl⟩ := Option.map_eq_some_iff.mp stepped
      obtain ⟨held, rfl⟩ := Callbacks.take_eq_some.mp taken
      cases timer with
      -- A timeout goes through `scheduleRetry`; a retry timer sends at once.
      | ackTimeout fileId index attempts => exact scheduleRetry_unfolds named (.late held) _
      | retry fileId index next => exact retry_unfolds named held

end Turns

end OnlyTwo.FileSender
