import OnlyTwo.FileSender

/-!
What the pause during voice means to the file sender. Only `setGlobalPaused` and
`reset` change `globalPaused`; while it is set no chunk is read from any file, and
those that were read before are all that can still be sent (`Hushed`).
-/

namespace OnlyTwo.FileSender

open Bytes FileProtocol

/-- A call that waits for the bytes of a chunk. -/
def SenderCall.reads : SenderCall → Bool
  | .slicing _ _ _ => true
  | _ => false

structure Hushed (before after : Sender) : Prop where
  flag : after.globalPaused = before.globalPaused
  reads : before.globalPaused = true → ∀ ticket call, call.reads = true →
    after.calls.get? ticket = some call → before.calls.get? ticket = some call

variable {self before middle after : Sender} {fileId : String}

theorem Hushed.of_same (flag : after.globalPaused = before.globalPaused)
    (calls : after.calls = before.calls) : Hushed before after :=
  ⟨flag, fun _ _ _ _ held => calls ▸ held⟩

theorem Hushed.refl (self : Sender) : Hushed self self := .of_same rfl rfl

theorem Hushed.trans (first : Hushed before middle) (second : Hushed middle after) :
    Hushed before after where
  flag := second.flag.trans first.flag
  reads paused ticket call reads held :=
    first.reads paused ticket call reads
      (second.reads (first.flag.trans paused) ticket call reads held)

/-- The notes of the turns before do not matter. -/
theorem Hushed.uncut (hushed : Hushed { before with notes := [] } after) : Hushed before after :=
  ⟨hushed.flag, hushed.reads⟩

namespace Sender

section Effects

theorem suspend_hushed {call : SenderCall} (idle : call.reads = false) :
    Hushed self (self.suspend call) where
  flag := rfl
  reads _ ticket other reads held := by
    rw [suspend, Callbacks.get?_add] at held
    split at held
    · cases held
      rw [idle] at reads
      cases reads
    · exact held

theorem withTransfer_hushed {action : Transfer → Sender}
    (each : ∀ transfer, Hushed self (action transfer)) :
    Hushed self (self.withTransfer fileId action) := by
  unfold withTransfer
  split
  · exact .refl self
  · exact each _

theorem withRegistered_hushed {action : Transfer → Sender}
    (each : ∀ transfer, Hushed self (action transfer)) :
    Hushed self (self.withRegistered fileId action) := by
  unfold withRegistered
  split
  · exact withTransfer_hushed each
  · exact .refl self

theorem put_hushed (self : Sender) (transfer : Transfer) : Hushed self (self.put transfer) :=
  .of_same rfl rfl

theorem note_hushed (self : Sender) (entry : SenderNote) : Hushed self (self.note entry) :=
  .of_same rfl rfl

theorem emit_hushed (self : Sender) (fileId : String) : Hushed self (self.emit fileId) :=
  withTransfer_hushed fun _ => note_hushed self _

theorem emitted_hushed (kept : Hushed self middle) : Hushed self (middle.emit fileId) :=
  kept.trans (emit_hushed middle fileId)

theorem clearInflightTimer_hushed (self : Sender) (item : Option InflightChunk) :
    Hushed self (self.clearInflightTimer item) := .of_same rfl rfl

theorem clearTimers_hushed (self : Sender) (fileId : String) :
    Hushed self (self.clearTimers fileId) :=
  withTransfer_hushed fun _ => .of_same rfl rfl

end Effects

section Chunks

theorem fail_hushed (self : Sender) (fileId reason : String) :
    Hushed self (self.fail fileId reason) :=
  withTransfer_hushed fun _ =>
    ((put_hushed self _).trans (clearTimers_hushed _ _)).trans (emit_hushed _ _)

theorem failAndNotify_hushed (self : Sender) (fileId reason : String) :
    Hushed self (self.failAndNotify fileId reason) :=
  ((fail_hushed self _ _).trans (note_hushed _ _)).trans (suspend_hushed rfl)

theorem scheduleRetry_hushed (self : Sender) (fileId : String) (index next : Nat)
    (reason : String) : Hushed self (self.scheduleRetry fileId index next reason) := by
  apply withTransfer_hushed
  intro transfer
  have cleared := clearInflightTimer_hushed self (transfer.inflight.get? index)
  dsimp only
  split
  · exact .refl self
  · split
    · exact cleared.trans (failAndNotify_hushed _ _ _)
    · split
      · exact (cleared.trans (put_hushed _ _)).trans (emit_hushed _ _)
      · exact emitted_hushed (.of_same rfl rfl)

/-- The one place that reads a chunk asks for the pause first. -/
theorem sendChunk_hushed (self : Sender) (fileId : String) (index attempts : Nat) :
    Hushed self (self.sendChunk fileId index attempts) := by
  apply withTransfer_hushed
  intro transfer
  dsimp only
  split
  · exact .refl self
  · split
    · exact put_hushed self _
    · rename_i running
      split
      · exact failAndNotify_hushed self _ _
      · have sent : Hushed self (((self.clearInflightTimer (transfer.inflight.get? index)).put
            { transfer with
              inflight := transfer.inflight.set index ⟨attempts, .sending, none⟩
              reason := if 1 < attempts then some ("Retrying chunk " ++ toString (index + 1))
                else none }).emit fileId) :=
          ((clearInflightTimer_hushed self _).trans (put_hushed _ _)).trans (emit_hushed _ _)
        refine ⟨sent.flag, fun paused => ?_⟩
        rw [paused, Bool.or_true] at running
        exact absurd rfl running

theorem sliced_hushed (self : Sender) (fileId : String) (index attempts : Nat)
    (outcome : Outcome) : Hushed self (self.sliced fileId index attempts outcome) := by
  cases outcome with
  | error message => exact scheduleRetry_hushed self _ _ _ _
  | ok value =>
      apply withTransfer_hushed
      intro transfer
      exact (note_hushed self _).trans (suspend_hushed rfl)

theorem chunkSent_hushed (self : Sender) (fileId : String) (index attempts : Nat)
    (outcome : Outcome) : Hushed self (self.chunkSent fileId index attempts outcome) := by
  unfold chunkSent
  split
  · exact scheduleRetry_hushed self _ _ _ _
  · exact scheduleRetry_hushed self _ _ _ _
  · apply withTransfer_hushed
    intro transfer
    dsimp only
    split
    · exact .refl self
    · exact emitted_hushed (.of_same rfl rfl)

end Chunks

section Pumping

theorem completeIfDone_hushed (self : Sender) (fileId : String) :
    Hushed self (self.completeIfDone fileId) := by
  apply withTransfer_hushed
  intro transfer
  split
  · exact .refl self
  · split
    · exact .refl self
    · exact ((put_hushed self _).trans (emit_hushed _ _)).trans (note_hushed _ _)

theorem pumpLoop_hushed (rounds : Nat) (self : Sender) (fileId : String) :
    Hushed self (pumpLoop rounds self fileId) := by
  induction rounds generalizing self with
  | zero => exact .refl self
  | succ rounds ih =>
      apply withTransfer_hushed
      intro transfer
      split
      · exact ((put_hushed self _).trans (sendChunk_hushed _ _ _ _)).trans (ih _)
      · exact .refl self

theorem pump_hushed (self : Sender) (fileId : String) : Hushed self (self.pump fileId) := by
  apply withTransfer_hushed
  intro transfer
  split
  · exact .refl self
  · split
    · exact .refl self
    · exact (((put_hushed self _).trans (pumpLoop_hushed _ _ _)).trans
        (completeIfDone_hushed _ _)).trans (suspend_hushed rfl)

theorem holdOutstanding_hushed (self : Sender) (fileId : String) :
    Hushed self (self.holdOutstanding fileId) :=
  withTransfer_hushed fun _ => .of_same rfl rfl

theorem resumeEach_hushed (self : Sender) (fileId : String)
    (entries : List (Nat × InflightChunk)) : Hushed self (resumeEach fileId entries self) := by
  induction entries generalizing self with
  | nil => exact .refl self
  | cons entry rest ih =>
      obtain ⟨index, item⟩ := entry
      simp only [resumeEach]
      split
      · exact (sendChunk_hushed self _ _ _).trans (ih _)
      · exact ih self

theorem resumeOutstanding_hushed (self : Sender) (fileId : String) :
    Hushed self (self.resumeOutstanding fileId) := by
  apply withTransfer_hushed
  intro transfer
  split
  · exact .refl self
  · exact (resumeEach_hushed self _ _).trans (pump_hushed _ _)

end Pumping

section Calls

theorem remove_hushed (self : Sender) (fileId : String) : Hushed self (self.remove fileId) := by
  apply withRegistered_hushed
  intro transfer
  dsimp only
  split
  · exact (clearTimers_hushed self fileId).trans (.of_same rfl rfl)
  · exact .refl self

theorem sendOffer_hushed (self : Sender) (fileId : String) :
    Hushed self (self.sendOffer fileId) :=
  withTransfer_hushed fun _ => (note_hushed self _).trans (suspend_hushed rfl)

theorem register_hushed (self : Sender) (fileId : String) (queued : Bool) :
    Hushed self (self.register fileId queued) := by
  have listed : Hushed self
      ({ self with transfers := self.transfers.set fileId () }.emit fileId) :=
    emitted_hushed (.of_same rfl rfl)
  unfold register
  dsimp only
  split
  · exact listed
  · exact listed.trans (sendOffer_hushed _ _)

theorem offer_hushed (self : Sender) (fileId : String) (file : File) (queued : Bool) :
    Hushed self (self.offer fileId file queued) := by
  unfold offer
  split
  · exact .refl self
  · dsimp only
    split
    · exact (put_hushed self _).trans (suspend_hushed rfl)
    · exact (put_hushed self _).trans (register_hushed _ _ _)

theorem startQueued_hushed (self : Sender) (fileId : String) :
    Hushed self (self.startQueued fileId) := by
  apply withRegistered_hushed
  intro transfer
  split
  · exact .refl self
  · exact ((put_hushed self _).trans (emit_hushed _ _)).trans (sendOffer_hushed _ _)

theorem accept_hushed (self : Sender) (fileId : String) : Hushed self (self.accept fileId) := by
  apply withRegistered_hushed
  intro transfer
  split
  · exact .refl self
  · exact ((put_hushed self _).trans (emit_hushed _ _)).trans (pump_hushed _ _)

theorem ack_hushed (self : Sender) (fileId : String) (index : Nat) :
    Hushed self (self.ack fileId index) := by
  apply withRegistered_hushed
  intro transfer
  split
  · exact .refl self
  · split
    · exact .refl self
    · exact (((clearInflightTimer_hushed self _).trans (put_hushed _ _)).trans
        (emit_hushed _ _)).trans (pump_hushed _ _)

theorem nack_hushed (self : Sender) (fileId : String) (index : Nat) (reason : String) :
    Hushed self (self.nack fileId index reason) := by
  apply withRegistered_hushed
  intro transfer
  split
  · exact .refl self
  · split
    · exact .refl self
    · exact scheduleRetry_hushed self _ _ _ _

theorem pause_hushed (self : Sender) (fileId reason : String) :
    Hushed self (self.pause fileId reason) := by
  apply withRegistered_hushed
  intro transfer
  split
  · exact .refl self
  · exact ((put_hushed self _).trans (holdOutstanding_hushed _ _)).trans (emit_hushed _ _)

theorem resume_hushed (self : Sender) (fileId : String) : Hushed self (self.resume fileId) := by
  apply withRegistered_hushed
  intro transfer
  split
  · exact .refl self
  · exact ((put_hushed self _).trans (emit_hushed _ _)).trans (resumeOutstanding_hushed _ _)

theorem cancel_hushed (self : Sender) (fileId reason : String) (notify : Bool) :
    Hushed self (self.cancel fileId reason notify) := by
  apply withRegistered_hushed
  intro transfer
  have cancelled : Hushed self (((self.put { transfer with
      cancelled := true
      status := .cancelled
      reason := some reason }).clearTimers fileId).emit fileId) :=
    ((put_hushed self _).trans (clearTimers_hushed _ _)).trans (emit_hushed _ _)
  dsimp only
  split
  · exact (cancelled.trans (note_hushed _ _)).trans (suspend_hushed rfl)
  · exact cancelled

theorem pauseOne_hushed (paused : Bool) (reason : String) (self : Sender) (fileId : String) :
    Hushed self (pauseOne paused reason self fileId) := by
  apply withTransfer_hushed
  intro transfer
  dsimp only
  split
  · exact .refl self
  · split
    · exact ((put_hushed self _).trans (holdOutstanding_hushed _ _)).trans (emit_hushed _ _)
    · exact ((put_hushed self _).trans (emit_hushed _ _)).trans (resumeOutstanding_hushed _ _)

/-- After the flag is set the loop over the transfers keeps it. -/
theorem setGlobalPaused_hushed (self : Sender) (paused : Bool) (reason : String) :
    Hushed { self with globalPaused := paused } (self.setGlobalPaused paused reason) := by
  unfold setGlobalPaused
  generalize { self with globalPaused := paused } = flagged
  generalize self.transfers.keys = fileIds
  induction fileIds generalizing flagged with
  | nil => exact .refl flagged
  | cons fileId rest ih => exact (pauseOne_hushed paused reason flagged fileId).trans (ih _)

end Calls

end Sender

open Sender in
/-- A settled call or a timer leaves the flag alone, and reads nothing under it. -/
theorem turn_hushed {digest : Bytes → String} {event : Event}
    (turned : self.turn digest event = some after)
    (fires : (∃ ticket outcome, event = .settle ticket outcome) ∨ ∃ ticket, event = .fire ticket) :
    Hushed self after := by
  rcases fires with ⟨ticket, outcome, rfl⟩ | ⟨ticket, rfl⟩
  · obtain ⟨⟨call, left⟩, taken, rfl⟩ := Option.map_eq_some_iff.mp turned
    obtain ⟨_, rfl⟩ := Callbacks.take_eq_some.mp taken
    have removed : Hushed self { self with calls := self.calls.remove ticket } :=
      ⟨rfl, fun _ _ _ _ held => Callbacks.get?_of_remove held⟩
    refine removed.trans ?_
    cases call with
    | hashing fileId queued =>
        exact withTransfer_hushed fun _ => (put_hushed _ _).trans (register_hushed _ _ _)
    | offering fileId =>
        simp only [Sender.settle]
        split
        · exact fail_hushed _ _ _
        · exact .refl _
    | slicing fileId index attempts => exact sliced_hushed _ _ _ _ _
    | sending fileId index attempts => exact chunkSent_hushed _ _ _ _ _
    | pumping fileId => exact withTransfer_hushed fun _ => put_hushed _ _
    | notifying fileId => exact .refl _
  · obtain ⟨⟨timer, left⟩, taken, rfl⟩ := Option.map_eq_some_iff.mp turned
    have removed : Hushed self { self with timers := left } := .of_same rfl rfl
    refine removed.trans ?_
    cases timer with
    | ackTimeout fileId index attempts => exact scheduleRetry_hushed _ _ _ _ _
    | retry fileId index next => exact sendChunk_hushed _ _ _ _

end OnlyTwo.FileSender
