import OnlyTwo.FileSenderCalls
import OnlyTwo.FileSenderLedger

/-!
What a sender shows of its transfers. The work of a turn on one transfer shows its status
each time it has changed, and it may end the transfer or move it within its stage, but never
takes it from one stage into another that is not the last. What brings a transfer into the
active stage stands at the beginning of a turn: a digest that is there, an acceptance, a
pause.
-/

namespace OnlyTwo.FileSender

open Bytes FileProtocol Sender

section Statuses

/-- The transfer occupies the line: it is offered, on its way or held up. -/
def SenderStatus.active (status : SenderStatus) : Bool :=
  status ∈ [SenderStatus.offered, .sending, .paused]

/-- The next status that is shown ends the transfer or is of the same stage. -/
def Leads (status : Option SenderStatus) (next : SenderStatus) : Prop :=
  next.terminal = true ∨ ∃ last, status = some last ∧ last.terminal = next.terminal ∧
    last.active = next.active

/-- The statuses that are shown between a first and a last one. -/
inductive Course (first : Option SenderStatus) : List SenderStatus → Option SenderStatus → Prop where
  | still : Course first [] first
  | shown {told : List SenderStatus} {last : Option SenderStatus} {next : SenderStatus}
      (course : Course first told last) (leads : Leads last next) :
      Course first (told ++ [next]) (some next)

theorem Leads.same (status : SenderStatus) : Leads (some status) status :=
  Or.inr ⟨status, rfl, rfl, rfl⟩

theorem Course.trans {first middle last : Option SenderStatus} {early late : List SenderStatus}
    (before : Course first early middle) (after : Course middle late last) :
    Course first (early ++ late) last := by
  induction after with
  | still =>
      rw [List.append_nil]
      exact before
  | shown _ leads ih =>
      rw [← List.append_assoc]
      exact .shown ih leads

theorem active_not_terminal {status : SenderStatus} (active : status.active = true) :
    status.terminal = false := by
  cases status <;> first | rfl | cases active

variable {first last : Option SenderStatus} {told : List SenderStatus}

theorem Course.silent (course : Course first told last) (none : told = []) : last = first := by
  cases course with
  | still => rfl
  | shown => simp at none

/-- The last status that was shown is the one the transfer has. -/
theorem Course.getLast (course : Course first told last) {status : SenderStatus}
    (shown : told.getLast? = some status) : last = some status := by
  cases course with
  | still => cases shown
  | shown =>
      rw [List.getLast?_concat] at shown
      exact shown

/-- Once the transfer has ended, nothing else is shown of it. -/
theorem Course.ended (course : Course first told last) {status : SenderStatus}
    (begun : first = some status ∨ status ∈ told) (terminal : status.terminal = true) :
    ∃ final, last = some final ∧ final.terminal = true := by
  induction course with
  | still =>
      rcases begun with same | none
      · exact ⟨status, same, terminal⟩
      · cases none
  | @shown told before next _ leads ih =>
      refine ⟨next, rfl, ?_⟩
      have earlier : (first = some status ∨ status ∈ told) → next.terminal = true := by
        intro before
        obtain ⟨final, rfl, finished⟩ := ih before
        rcases leads with ends | ⟨_, same, kind, _⟩
        · exact ends
        · cases same
          exact kind ▸ finished
      rcases begun with same | member
      · exact earlier (Or.inl same)
      · rcases List.mem_append.mp member with old | new
        · exact earlier (Or.inr old)
        · rw [← List.mem_singleton.mp new]
          exact terminal

theorem Course.pairwise (course : Course first told last) :
    told.Pairwise fun one two => one.terminal = true → two.terminal = true := by
  induction course with
  | still => exact .nil
  | @shown told before next course leads ih =>
      refine List.pairwise_append.mpr ⟨ih, List.pairwise_singleton _ _, ?_⟩
      intro one earlier two later finished
      rw [List.mem_singleton.mp later]
      obtain ⟨final, rfl, ends⟩ := course.ended (Or.inr earlier) finished
      rcases leads with terminal | ⟨_, same, kind, _⟩
      · exact terminal
      · cases same
        exact kind ▸ ends

/-- Only a transfer that was active is shown as active, or is active at the end. -/
theorem Course.active (course : Course first told last) {status : SenderStatus}
    (reached : status ∈ told ∨ last = some status) (active : status.active = true) :
    ∃ before, first = some before ∧ before.active = true := by
  induction course generalizing status with
  | still =>
      rcases reached with none | same
      · cases none
      · exact ⟨status, same, active⟩
  | @shown told before next _ leads ih =>
      have now : next.active = true → ∃ before, first = some before ∧ before.active = true := by
        intro current
        rcases leads with ends | ⟨last, same, _, kind⟩
        · rw [active_not_terminal current] at ends
          cases ends
        · exact ih (Or.inr same) (kind.trans current)
      rcases reached with member | same
      · rcases List.mem_append.mp member with old | new
        · exact ih (Or.inl old) active
        · exact now (List.mem_singleton.mp new ▸ active)
      · cases same
        exact now active

end Statuses

section Reports

def Sender.statusOf (self : Sender) (fileId : String) : Option SenderStatus :=
  (self.objects.get? fileId).map Transfer.status

/-- What the notes of a turn show. -/
def updates (notes : List SenderNote) : List (String × SenderStatus) :=
  notes.filterMap fun
    | .onUpdate snapshot => some (snapshot.fileId, snapshot.status)
    | _ => none

theorem updates_append (first second : List SenderNote) :
    updates (first ++ second) = updates first ++ updates second := List.filterMap_append

/-- The status of one transfer may have changed, and nothing was shown of it. -/
structure Alters (fileId : String) (before after : Sender) : Prop where
  named : Named after
  listed : after.transfers = before.transfers
  others : ∀ other, other ≠ fileId → after.statusOf other = before.statusOf other
  silent : updates after.notes = updates before.notes

/-- What was shown of one transfer is its course, and no other one has changed. -/
structure Reports (fileId : String) (before after : Sender) : Prop where
  named : Named after
  listed : after.transfers = before.transfers
  others : ∀ other, other ≠ fileId → after.statusOf other = before.statusOf other
  told : ∃ told,
    updates after.notes = updates before.notes ++ told.map (fun status => (fileId, status)) ∧
      Course (before.statusOf fileId) told (after.statusOf fileId)

variable {fileId : String} {start self next : Sender} {transfer : Transfer}

theorem statusOf_of_found (found : self.objects.get? fileId = some transfer) :
    self.statusOf fileId = some transfer.status := by
  rw [Sender.statusOf, found, Option.map_some]

theorem statusOf_put (self : Sender) (transfer : Transfer) (fileId : String) :
    (self.put transfer).statusOf fileId =
      if transfer.fileId = fileId then some transfer.status else self.statusOf fileId := by
  rw [Sender.statusOf, put, InsertionMap.get?_set]
  by_cases same : transfer.fileId = fileId
  · rw [if_pos same.symm, if_pos same, Option.map_some]
  · rw [if_neg (Ne.symm same), if_neg same]
    rfl

theorem statusOf_clearTimers (named : Named self) (fileId other : String) :
    (self.clearTimers fileId).statusOf other = self.statusOf other := by
  unfold clearTimers withTransfer
  split
  · rfl
  · rename_i transfer found
    rw [statusOf_put]
    split
    · rename_i same
      rw [statusOf_of_found (same ▸ (named fileId transfer found).symm ▸ found)]
    · rfl

theorem statusOf_holdOutstanding (named : Named self) (fileId other : String) :
    (self.holdOutstanding fileId).statusOf other = self.statusOf other := by
  unfold holdOutstanding withTransfer
  split
  · rfl
  · rename_i transfer found
    rw [statusOf_put]
    split
    · rename_i same
      rw [statusOf_of_found (same ▸ (named fileId transfer found).symm ▸ found)]
    · rfl

theorem Alters.refl (named : Named self) : Alters fileId self self :=
  ⟨named, rfl, fun _ _ => rfl, rfl⟩

theorem Alters.put (alters : Alters fileId self next) (new : Transfer) (own : new.fileId = fileId) :
    Alters fileId self (next.put new) where
  named := put_named new alters.named
  listed := alters.listed
  others := by
    intro other different
    rw [statusOf_put, if_neg (own ▸ Ne.symm different)]
    exact alters.others other different
  silent := alters.silent

/-- Timers, calls and messages are no concern of the view. -/
theorem Alters.aside {last : Sender} (alters : Alters fileId self next)
    (objects : last.objects = next.objects) (transfers : last.transfers = next.transfers)
    (silent : updates last.notes = updates next.notes) : Alters fileId self last where
  named := by
    intro id transfer found
    rw [objects] at found
    exact alters.named id transfer found
  listed := transfers.trans alters.listed
  others := by
    intro other different
    rw [Sender.statusOf, objects]
    exact alters.others other different
  silent := silent.trans alters.silent

theorem Alters.clearTimers (alters : Alters fileId self next) :
    Alters fileId self (next.clearTimers fileId) := by
  unfold Sender.clearTimers withTransfer
  split
  · exact alters
  · rename_i transfer found
    have freed : Alters fileId self
        { next with timers := cancelAll next.timers transfer.inflight.values } :=
      alters.aside rfl rfl rfl
    exact freed.put { transfer with inflight := .empty } (alters.named fileId transfer found)

theorem Alters.holdOutstanding (alters : Alters fileId self next) :
    Alters fileId self (next.holdOutstanding fileId) := by
  unfold Sender.holdOutstanding withTransfer
  split
  · exact alters
  · rename_i transfer found
    have freed : Alters fileId self
        { next with timers := cancelAll next.timers transfer.inflight.values } :=
      alters.aside rfl rfl rfl
    exact freed.put
      { transfer with
        inflight := transfer.inflight.mapValues fun item => ⟨item.attempts, .retryWait, none⟩ }
      (alters.named fileId transfer found)

theorem Reports.refl (named : Named self) : Reports fileId self self :=
  ⟨named, rfl, fun _ _ => rfl, [], by simp, .still⟩

theorem Reports.trans {middle : Sender} (first : Reports fileId start middle)
    (second : Reports fileId middle self) : Reports fileId start self := by
  obtain ⟨early, earlier, before⟩ := first.told
  obtain ⟨late, later, after⟩ := second.told
  refine ⟨second.named, second.listed.trans first.listed, ?_, early ++ late, ?_, before.trans after⟩
  · intro other different
    rw [second.others other different, first.others other different]
  · rw [later, earlier, List.map_append, List.append_assoc]

theorem Reports.keep (reports : Reports fileId start self) (alters : Alters fileId self next)
    (same : next.statusOf fileId = self.statusOf fileId) : Reports fileId start next := by
  refine reports.trans ⟨alters.named, alters.listed, alters.others, [], ?_, ?_⟩
  · rw [alters.silent, List.map_nil, List.append_nil]
  · rw [same]
    exact .still

theorem Reports.show (reports : Reports fileId start self) (alters : Alters fileId self next)
    (found : next.objects.get? fileId = some transfer)
    (leads : Leads (self.statusOf fileId) transfer.status) :
    Reports fileId start (next.emit fileId) := by
  have own := alters.named fileId transfer found
  rw [emit_eq found]
  refine reports.trans ⟨alters.named, alters.listed, alters.others, [transfer.status], ?_, ?_⟩
  · rw [note, updates_append, alters.silent]
    change _ ++ [(transfer.fileId, transfer.status)] = _
    rw [own]
    rfl
  · have now : (next.note (.onUpdate transfer.snapshot)).statusOf fileId = some transfer.status :=
      statusOf_of_found found
    rw [now]
    exact .shown .still leads

theorem Reports.aside (reports : Reports fileId start self) (objects : next.objects = self.objects)
    (transfers : next.transfers = self.transfers) (silent : updates next.notes = updates self.notes) :
    Reports fileId start next :=
  reports.keep ((Alters.refl reports.named).aside objects transfers silent)
    (by rw [Sender.statusOf, objects]; rfl)

theorem Reports.rewrite (reports : Reports fileId start self)
    (found : self.objects.get? fileId = some transfer) (new : Transfer)
    (own : new.fileId = transfer.fileId) (same : new.status = transfer.status) :
    Reports fileId start (self.put new) := by
  have mine := own.trans (reports.named fileId transfer found)
  refine reports.keep ((Alters.refl reports.named).put new mine) ?_
  rw [statusOf_put, if_pos mine, same, statusOf_of_found found]

theorem emit_reports (reports : Reports fileId start self) :
    Reports fileId start (self.emit fileId) := by
  cases found : self.objects.get? fileId with
  | none =>
      simp only [emit, withTransfer, found]
      exact reports
  | some transfer =>
      refine reports.show (.refl reports.named) found ?_
      rw [statusOf_of_found found]
      exact .same transfer.status

theorem withTransfer_reports {action : Transfer → Sender} (reports : Reports fileId start self)
    (acts : ∀ transfer, self.objects.get? fileId = some transfer → transfer.fileId = fileId →
      Reports fileId start (action transfer)) :
    Reports fileId start (self.withTransfer fileId action) := by
  unfold withTransfer
  split
  · exact reports
  · rename_i transfer found
    exact acts transfer found (reports.named fileId transfer found)

end Reports

section Functions

variable {fileId : String} {start self : Sender}

theorem fail_reports (reports : Reports fileId start self) (reason : String) :
    Reports fileId start (self.fail fileId reason) := by
  refine withTransfer_reports reports ?_
  intro transfer found own
  let ended : Transfer :=
    { transfer with
      status := .failed
      reason := some reason
      cancelled := true }
  have altered : Alters fileId self ((self.put ended).clearTimers fileId) :=
    ((Alters.refl reports.named).put ended own).clearTimers
  have now : ((self.put ended).clearTimers fileId).statusOf fileId = some .failed := by
    rw [statusOf_clearTimers (put_named ended reports.named), statusOf_put, if_pos own]
  obtain ⟨last, stored, status⟩ := Option.map_eq_some_iff.mp now
  exact reports.show altered stored (Or.inl (by rw [status]; rfl))

theorem failAndNotify_reports (reports : Reports fileId start self) (reason : String) :
    Reports fileId start (self.failAndNotify fileId reason) := by
  refine (fail_reports reports reason).aside rfl rfl ?_
  rw [Sender.failAndNotify, suspend, note, updates_append]
  exact List.append_nil _

theorem clearInflightTimer_reports (reports : Reports fileId start self)
    (item : Option InflightChunk) : Reports fileId start (self.clearInflightTimer item) :=
  reports.aside rfl rfl rfl

theorem scheduleRetry_reports (reports : Reports fileId start self) (index nextAttempts : Nat)
    (reason : String) : Reports fileId start (self.scheduleRetry fileId index nextAttempts reason) := by
  refine withTransfer_reports reports ?_
  intro transfer found own
  have cleared := clearInflightTimer_reports reports (transfer.inflight.get? index)
  split
  · exact reports
  · dsimp only
    split
    · exact failAndNotify_reports cleared _
    · split
      · exact emit_reports (cleared.rewrite found _ rfl rfl)
      · have armed : Reports fileId start
            ({ self.clearInflightTimer (transfer.inflight.get? index) with
                timers := ((self.clearInflightTimer (transfer.inflight.get? index)).timers.add
                  (.retry fileId index nextAttempts)).1 }.note
              (.setTimeout (.retry fileId index nextAttempts))) := by
          refine cleared.aside rfl rfl ?_
          rw [note, updates_append]
          exact List.append_nil _
        exact emit_reports (armed.rewrite found _ rfl rfl)

theorem sendChunk_reports (reports : Reports fileId start self) (index attempts : Nat) :
    Reports fileId start (self.sendChunk fileId index attempts) := by
  refine withTransfer_reports reports ?_
  intro transfer found own
  split
  · exact reports
  · split
    · exact reports.rewrite found _ rfl rfl
    · split
      · exact failAndNotify_reports reports _
      · have cleared := clearInflightTimer_reports reports (transfer.inflight.get? index)
        have sent := emit_reports (cleared.rewrite found
          { transfer with
            inflight := transfer.inflight.set index ⟨attempts, .sending, none⟩
            reason := if 1 < attempts then some ("Retrying chunk " ++ toString (index + 1))
              else none } rfl rfl)
        exact sent.aside rfl rfl rfl

theorem sliced_reports (reports : Reports fileId start self) (index attempts : Nat)
    (outcome : Outcome) : Reports fileId start (self.sliced fileId index attempts outcome) := by
  unfold sliced
  split
  · exact scheduleRetry_reports reports _ _ _
  · refine withTransfer_reports reports ?_
    intro transfer found own
    refine reports.aside rfl rfl ?_
    rw [suspend, note, updates_append]
    exact List.append_nil _

theorem chunkSent_reports (reports : Reports fileId start self) (index attempts : Nat)
    (outcome : Outcome) : Reports fileId start (self.chunkSent fileId index attempts outcome) := by
  unfold chunkSent
  split
  · exact scheduleRetry_reports reports _ _ _
  · exact scheduleRetry_reports reports _ _ _
  · refine withTransfer_reports reports ?_
    intro transfer found own
    split
    · exact reports
    · have armed : Reports fileId start
          ({ self with timers := (self.timers.add (.ackTimeout fileId index attempts)).1 }.note
            (.setTimeout (.ackTimeout fileId index attempts))) := by
        refine reports.aside rfl rfl ?_
        rw [note, updates_append]
        exact List.append_nil _
      exact emit_reports (armed.rewrite found _ rfl rfl)

theorem completeIfDone_reports (reports : Reports fileId start self) :
    Reports fileId start (self.completeIfDone fileId) := by
  refine withTransfer_reports reports ?_
  intro transfer found own
  split
  · exact reports
  · split
    · exact reports
    · let done : Transfer := { transfer with status := .completed, reason := none }
      have stored : (self.put done).objects.get? fileId = some done := by
        rw [put, InsertionMap.get?_set, if_pos (show fileId = done.fileId from own.symm)]
      have shown : Reports fileId start ((self.put done).emit fileId) :=
        reports.show ((Alters.refl reports.named).put done own) stored (Or.inl rfl)
      refine shown.aside rfl rfl ?_
      rw [note, updates_append]
      exact List.append_nil _

theorem pumpLoop_reports (rounds : Nat) (reports : Reports fileId start self) :
    Reports fileId start (pumpLoop rounds self fileId) := by
  induction rounds generalizing self with
  | zero => exact reports
  | succ rounds ih =>
      unfold pumpLoop
      refine withTransfer_reports reports ?_
      intro transfer found own
      split
      · have taken := reports.rewrite found
          { transfer with nextIndex := transfer.nextIndex + 1 } rfl rfl
        exact ih (sendChunk_reports taken _ _)
      · exact reports

theorem pump_reports (reports : Reports fileId start self) :
    Reports fileId start (self.pump fileId) := by
  refine withTransfer_reports reports ?_
  intro transfer found own
  split
  · exact reports
  · split
    · exact reports
    · have looped := pumpLoop_reports (transfer.totalChunks - transfer.nextIndex)
        (reports.rewrite found { transfer with pumping := true } rfl rfl)
      exact (completeIfDone_reports looped).aside rfl rfl rfl

theorem resumeEach_reports (items : List (Nat × InflightChunk)) (reports : Reports fileId start self) :
    Reports fileId start (resumeEach fileId items self) := by
  induction items generalizing self with
  | nil => exact reports
  | cons entry rest ih =>
      unfold resumeEach
      split
      · exact ih (sendChunk_reports reports _ _)
      · exact ih reports

theorem resumeOutstanding_reports (reports : Reports fileId start self) :
    Reports fileId start (self.resumeOutstanding fileId) := by
  refine withTransfer_reports reports ?_
  intro transfer found own
  split
  · exact reports
  · exact pump_reports (resumeEach_reports transfer.inflight.entries reports)

/-- Only a transfer that is on its way or held up is paused, and it stays active. -/
theorem pauseOne_reports (reports : Reports fileId start self) (paused : Bool) (reason : String) :
    Reports fileId start (pauseOne paused reason self fileId) := by
  refine withTransfer_reports reports ?_
  intro transfer found own
  split
  · exact reports
  · rename_i going
    have leads : ∀ status : SenderStatus, status = .paused ∨ status = .sending →
        Leads (self.statusOf fileId) status := by
      intro status next
      refine Or.inr ⟨transfer.status, statusOf_of_found found, ?_⟩
      revert going
      rcases next with rfl | rfl <;> cases transfer.status <;> decide
    cases paused with
    | true =>
        let changed : Transfer :=
          { transfer with
            paused := true
            status := .paused
            reason := some reason }
        have altered : Alters fileId self ((self.put changed).holdOutstanding fileId) :=
          ((Alters.refl reports.named).put changed own).holdOutstanding
        have now : ((self.put changed).holdOutstanding fileId).statusOf fileId = some .paused := by
          rw [statusOf_holdOutstanding (put_named changed reports.named), statusOf_put, if_pos own]
        obtain ⟨last, stored, status⟩ := Option.map_eq_some_iff.mp now
        exact reports.show altered stored (leads _ (Or.inl status))
    | false =>
        let changed : Transfer :=
          { transfer with
            paused := false
            status := .sending
            reason := none }
        have stored : (self.put changed).objects.get? fileId = some changed := by
          rw [put, InsertionMap.get?_set, if_pos (show fileId = changed.fileId from own.symm)]
        have shown : Reports fileId start ((self.put changed).emit fileId) :=
          reports.show ((Alters.refl reports.named).put changed own) stored (leads _ (Or.inr rfl))
        exact resumeOutstanding_reports shown

/-- A transfer that is neither on its way nor held up is passed by. -/
theorem pauseOne_idle (paused : Bool) (reason : String)
    (idle : ∀ status, self.statusOf fileId = some status → status.active = false) :
    pauseOne paused reason self fileId = self := by
  unfold pauseOne withTransfer
  split
  · rfl
  · rename_i transfer found
    have quiet := idle transfer.status (statusOf_of_found found)
    have passed : transfer.status ≠ .sending ∧ transfer.status ≠ .paused := by
      revert quiet
      cases transfer.status <;> decide
    exact if_pos passed

theorem pauseEach_idle (paused : Bool) (reason : String) (ids : List String)
    (idle : ∀ other ∈ ids, ∀ status, self.statusOf other = some status → status.active = false) :
    ids.foldl (pauseOne paused reason) self = self := by
  induction ids with
  | nil => rfl
  | cons id rest ih =>
      rw [List.foldl_cons, pauseOne_idle paused reason (idle id List.mem_cons_self)]
      exact ih fun other member => idle other (List.mem_cons_of_mem _ member)

/-- The loop of `setGlobalPaused` when no other registered transfer is active. -/
theorem pauseEach_reports (paused : Bool) (reason : String) (ids : List String)
    (single : ∀ other ∈ ids, other ≠ fileId → ∀ status, start.statusOf other = some status →
      status.active = false) (reports : Reports fileId start self) :
    Reports fileId start (ids.foldl (pauseOne paused reason) self) := by
  induction ids generalizing self with
  | nil => exact reports
  | cons id rest ih =>
      rw [List.foldl_cons]
      refine ih (fun other member => single other (List.mem_cons_of_mem _ member)) ?_
      by_cases mine : id = fileId
      · subst mine
        exact pauseOne_reports reports paused reason
      · rw [pauseOne_idle]
        · exact reports
        · rw [reports.others id mine]
          exact single id List.mem_cons_self mine

theorem withRegistered_reports {action : Transfer → Sender} (named : Named self)
    (acts : ∀ transfer, self.objects.get? fileId = some transfer → transfer.fileId = fileId →
      Reports fileId self (action transfer)) :
    Reports fileId self (self.withRegistered fileId action) := by
  unfold withRegistered
  split
  · exact withTransfer_reports (.refl named) acts
  · exact .refl named

theorem ack_reports (named : Named self) (index : Nat) :
    Reports fileId self (self.ack fileId index) := by
  refine withRegistered_reports named ?_
  intro transfer found own
  split
  · exact .refl named
  · split
    · exact .refl named
    · rename_i item held
      have unchanged : Reports fileId self self := .refl named
      have cleared := clearInflightTimer_reports unchanged (some item)
      exact pump_reports (emit_reports
        (cleared.rewrite found (acknowledge transfer index) rfl rfl))

theorem nack_reports (named : Named self) (index : Nat) (reason : String) :
    Reports fileId self (self.nack fileId index reason) := by
  refine withRegistered_reports named ?_
  intro transfer found own
  split
  · exact .refl named
  · split
    · exact .refl named
    · exact scheduleRetry_reports (.refl named) _ _ _

theorem resume_reports (named : Named self) : Reports fileId self (self.resume fileId) := by
  refine withRegistered_reports named ?_
  intro transfer found own
  split
  · exact .refl named
  · rename_i held
    let resumed : Transfer :=
      { transfer with
        paused := false
        status := if transfer.accepted then .sending else .offered
        reason := if transfer.accepted then none else some "Waiting for peer acceptance" }
    have stored : (self.put resumed).objects.get? fileId = some resumed := by
      rw [put, InsertionMap.get?_set, if_pos (show fileId = resumed.fileId from own.symm)]
    refine resumeOutstanding_reports ((Reports.refl named).show ((Alters.refl named).put resumed own)
      stored (Or.inr ⟨transfer.status, statusOf_of_found found, ?_⟩))
    rw [not_not.mp held]
    cases accepted : transfer.accepted <;> simp only [resumed, accepted] <;> exact ⟨rfl, rfl⟩

theorem cancel_reports (named : Named self) (reason : String) (notify : Bool) :
    Reports fileId self (self.cancel fileId reason notify) := by
  refine withRegistered_reports named ?_
  intro transfer found own
  let ended : Transfer :=
    { transfer with
      cancelled := true
      status := .cancelled
      reason := some reason }
  have altered : Alters fileId self ((self.put ended).clearTimers fileId) :=
    ((Alters.refl named).put ended own).clearTimers
  have now : ((self.put ended).clearTimers fileId).statusOf fileId = some .cancelled := by
    rw [statusOf_clearTimers (put_named ended named), statusOf_put, if_pos own]
  obtain ⟨last, stored, status⟩ := Option.map_eq_some_iff.mp now
  have shown : Reports fileId self (((self.put ended).clearTimers fileId).emit fileId) :=
    (Reports.refl named).show altered stored (Or.inl (by rw [status]; rfl))
  dsimp only
  split
  · refine shown.aside rfl rfl ?_
    rw [suspend, note, updates_append]
    exact List.append_nil _
  · exact shown

end Functions

section Turns

/-- A turn shows only this transfer, and leaves it as it was shown last. -/
structure Told (before after : Sender) (fileId : String) (told : List SenderStatus) : Prop where
  named : Named after
  updates : updates after.notes = told.map fun status => (fileId, status)
  others : ∀ other, other ≠ fileId → after.statusOf other = before.statusOf other ∧
    after.transfers.has other = before.transfers.has other
  silent : told = [] → after.transfers.has fileId = true →
    before.transfers.has fileId = true ∧ after.statusOf fileId = before.statusOf fileId
  last : ∀ status, told.getLast? = some status → after.statusOf fileId = some status
  ended : told.Pairwise fun one two => one.terminal = true → two.terminal = true

def Sender.active (self : Sender) (fileId : String) : Bool :=
  (self.statusOf fileId).any SenderStatus.active

def Sender.finished (self : Sender) (fileId : String) : Bool :=
  (self.statusOf fileId).any SenderStatus.terminal

/-- A registered transfer that occupies the line. -/
def Sender.busy (self : Sender) (fileId : String) : Bool :=
  self.transfers.has fileId && self.active fileId

/-- The chunk is still to be acknowledged. -/
def Sender.lacks (self : Sender) (fileId : String) (index : Nat) : Bool :=
  (self.objects.get? fileId).any fun transfer =>
    !transfer.cancelled && !transfer.acked.has index

/-- `scheduleRetry` shows the transfer, and not because it fails. -/
def Sender.retries (self : Sender) (fileId : String) (index attempts : Nat) : Bool :=
  self.lacks fileId index && attempts ≤ self.files.maxRetries + 1

/-- The rest of a call shows its transfer as it is. -/
def Sender.shows (self : Sender) : SenderCall → Outcome → Bool
  | .hashing _ _, _ => true
  | .slicing fileId index attempts, .error _ => self.retries fileId index (attempts + 1)
  | .sending fileId index _, .ok true => self.lacks fileId index
  | .sending fileId index attempts, _ => self.retries fileId index (attempts + 1)
  | _, _ => false

/-- So does a timer; a paused transfer sends nothing again. -/
def Sender.rings (self : Sender) : SenderTimer → Bool
  | .ackTimeout fileId index attempts => self.retries fileId index (attempts + 1)
  | .retry fileId index nextAttempts => self.retries fileId index nextAttempts &&
      (self.objects.get? fileId).any fun transfer => !transfer.paused && !self.globalPaused

/-- The transfer that the event shows as active without being one of those registered as
active: it is accepted, paused or registered now, or was let go of and still goes on. -/
def Sender.wakes (self : Sender) : Event → Option String
  | .accept fileId =>
      if self.transfers.has fileId &&
          (self.objects.get? fileId).any fun transfer => !transfer.cancelled then some fileId
      else none
  | .pause fileId _ =>
      if self.transfers.has fileId &&
          (self.objects.get? fileId).any fun transfer => !transfer.status.terminal then some fileId
      else none
  | .settle ticket outcome => (self.calls.get? ticket).bind fun call =>
      if self.shows call outcome && self.active call.fileId then some call.fileId else none
  | .fire ticket => (self.timers.get? ticket).bind fun timer =>
      if self.rings timer && self.active timer.fileId then some timer.fileId else none
  | _ => none

variable {before middle after : Sender} {fileId : String} {transfer : Transfer}

theorem Sender.active_iff : before.active fileId = true ↔
    ∃ status, before.statusOf fileId = some status ∧ status.active = true := by
  rw [Sender.active, Option.any_eq_true]

theorem Sender.busy_of_over (finished : before.finished fileId = true) : before.busy fileId = false := by
  obtain ⟨status, found, terminal⟩ := Option.any_eq_true _ _ |>.mp finished
  rw [Sender.busy, Sender.active, found, Option.any_some, Bool.and_eq_false_iff]
  refine Or.inr (Bool.eq_false_iff.mpr fun active => ?_)
  rw [active_not_terminal active] at terminal
  cases terminal

theorem Told.busy {told : List SenderStatus} (whole : Told before after fileId told) {other : String}
    (different : other ≠ fileId) : after.busy other = before.busy other := by
  obtain ⟨status, listed⟩ := whole.others other different
  rw [Sender.busy, Sender.busy, Sender.active, Sender.active, status, listed]

/-- A transfer that was shown as over is over. -/
theorem Told.finished {told : List SenderStatus} (whole : Told before after fileId told)
    {status : SenderStatus} (member : status ∈ told) (terminal : status.terminal = true) :
    after.finished fileId = true := by
  rcases List.eq_nil_or_concat' told with rfl | ⟨front, final, rfl⟩
  · cases member
  · have ended := (List.pairwise_append.mp whole.ended).2.2
    rw [Sender.finished, whole.last final List.getLast?_concat, Option.any_some]
    rcases List.mem_append.mp member with earlier | own
    · exact ended status earlier final (List.mem_singleton_self final) terminal
    · rw [← List.mem_singleton.mp own]
      exact terminal

theorem Reports.told_of (reports : Reports fileId before after) (quiet : updates before.notes = []) :
    ∃ told, Told before after fileId told ∧
      ∀ status ∈ told, status.active = true → before.active fileId = true := by
  obtain ⟨told, shown, course⟩ := reports.told
  rw [quiet, List.nil_append] at shown
  refine ⟨told, ⟨reports.named, shown, ?_, ?_, ?_, course.pairwise⟩, ?_⟩
  · intro other different
    exact ⟨reports.others other different, by rw [reports.listed]⟩
  · intro none listed
    rw [reports.listed] at listed
    exact ⟨listed, course.silent none⟩
  · intro status last
    exact course.getLast last
  · intro status member active
    exact Sender.active_iff.mpr (course.active (Or.inl member) active)

/-- A turn that begins by showing a transfer in a new stage. -/
theorem told_of_woken (named : Named middle) (quiet : updates middle.notes = [])
    (others : ∀ other, other ≠ fileId → middle.statusOf other = before.statusOf other ∧
      middle.transfers.has other = before.transfers.has other)
    (found : middle.objects.get? fileId = some transfer)
    (reports : Reports fileId (middle.emit fileId) after) :
    ∃ told, Told before after fileId told ∧
      ∀ status ∈ told, status.active = true → transfer.status.active = true := by
  have own := named fileId transfer found
  have status := statusOf_of_found found
  obtain ⟨told, shown, course⟩ := reports.told
  have opened : Course (some transfer.status) [transfer.status]
      ((middle.emit fileId).statusOf fileId) := by
    rw [emit_eq found]
    exact status.symm ▸ Course.shown .still (Leads.same transfer.status)
  have whole := opened.trans course
  have first : updates (middle.emit fileId).notes = [(fileId, transfer.status)] := by
    rw [emit_eq found, note, updates_append, quiet, List.nil_append]
    change [(transfer.fileId, transfer.status)] = _
    rw [own]
  have transfers : (middle.emit fileId).transfers = middle.transfers := by rw [emit_eq found]; rfl
  refine ⟨transfer.status :: told, ⟨reports.named, ?_, ?_, by simp, ?_, whole.pairwise⟩, ?_⟩
  · rw [shown, first]
    rfl
  · intro other different
    obtain ⟨same, listed⟩ := others other different
    have unchanged : (middle.emit fileId).statusOf other = middle.statusOf other := by
      rw [emit_eq found]
      rfl
    exact ⟨(reports.others other different).trans (unchanged.trans same), by
      rw [reports.listed, transfers, listed]⟩
  · intro final last
    exact whole.getLast last
  · intro shown member active
    obtain ⟨begun, same, kind⟩ := whole.active (Or.inl member) active
    cases same
    exact kind

/-- What a turn shows as active was registered as active before, or the event has woken it. -/
def Tells (before : Sender) (event : Event) (after : Sender) (fileId : String) : Prop :=
  ∃ told, Told before after fileId told ∧ ∀ status ∈ told, status.active = true →
    before.busy fileId = true ∨ before.wakes event = some fileId

theorem Reports.tells (reports : Reports fileId before after) (quiet : updates before.notes = [])
    {event : Event} (listed : before.transfers.has fileId = true) :
    Tells before event after fileId := by
  obtain ⟨told, whole, active⟩ := reports.told_of quiet
  refine ⟨told, whole, fun status member kind => Or.inl ?_⟩
  rw [Sender.busy, listed, active status member kind]
  rfl

/-- Nothing is shown as active. -/
theorem Reports.tells_idle (reports : Reports fileId before after) (quiet : updates before.notes = [])
    (idle : ∀ entry ∈ updates after.notes, entry.2.active = false) (event : Event) :
    Tells before event after fileId := by
  obtain ⟨told, whole, _⟩ := reports.told_of quiet
  refine ⟨told, whole, fun status member active => ?_⟩
  have shown : (fileId, status) ∈ updates after.notes := by
    rw [whole.updates]
    exact List.mem_map_of_mem member
  rw [idle _ shown] at active
  cases active

theorem still_tells (named : Named before) (quiet : updates before.notes = []) (event : Event)
    (fileId : String) : Tells before event before fileId := by
  refine (Reports.refl named).tells_idle quiet ?_ event
  rw [quiet]
  exact fun entry member => by cases member

/-- A call on a registered transfer. -/
theorem registered_tells (named : Named before) (quiet : updates before.notes = []) {event : Event}
    {action : Transfer → Sender} (reports : Reports fileId before (before.withRegistered fileId action)) :
    Tells before event (before.withRegistered fileId action) fileId := by
  cases listed : before.transfers.has fileId with
  | true => exact reports.tells quiet listed
  | false =>
      have same : before.withRegistered fileId action = before := by
        rw [withRegistered, listed]
        rfl
      rw [same]
      exact still_tells named quiet event fileId

theorem emit_named (named : Named before) (fileId : String) : Named (before.emit fileId) :=
  (emit_later before fileId).named named

theorem accept_tells (named : Named before) (quiet : updates before.notes = []) (fileId : String) :
    Tells before (.accept fileId) (before.accept fileId) fileId := by
  unfold accept withRegistered
  split
  · rename_i listed
    unfold withTransfer
    split
    · exact still_tells named quiet _ _
    · rename_i transfer found
      have own := named fileId transfer found
      dsimp only
      split
      · exact still_tells named quiet _ _
      · rename_i open_
        let woken : Transfer :=
          { transfer with
            accepted := true
            status := if before.globalPaused then .paused else .sending
            paused := before.globalPaused
            reason := if before.globalPaused then some "Paused during voice" else none }
        have stored : (before.put woken).objects.get? fileId = some woken := by
          rw [put, InsertionMap.get?_set, if_pos (show fileId = woken.fileId from own.symm)]
        have shown := emit_named (put_named woken named) fileId
        obtain ⟨told, whole, _⟩ := told_of_woken (put_named woken named) quiet (fun other different =>
          ⟨((Alters.refl named).put woken own).others other different, rfl⟩) stored
          (pump_reports (.refl shown))
        refine ⟨told, whole, fun _ _ _ => Or.inr ?_⟩
        simp [Sender.wakes, listed, found, open_]
  · exact still_tells named quiet _ _

theorem pause_tells (named : Named before) (quiet : updates before.notes = []) (fileId reason : String) :
    Tells before (.pause fileId reason) (before.pause fileId reason) fileId := by
  unfold pause withRegistered
  split
  · rename_i listed
    unfold withTransfer
    split
    · exact still_tells named quiet _ _
    · rename_i transfer found
      have own := named fileId transfer found
      dsimp only
      split
      · exact still_tells named quiet _ _
      · rename_i open_
        let paused : Transfer :=
          { transfer with
            paused := true
            status := .paused
            reason := some reason }
        have altered : Alters fileId before ((before.put paused).holdOutstanding fileId) :=
          ((Alters.refl named).put paused own).holdOutstanding
        have now : ((before.put paused).holdOutstanding fileId).statusOf fileId = some .paused := by
          rw [statusOf_holdOutstanding (put_named paused named), statusOf_put, if_pos own]
        obtain ⟨last, stored, _⟩ := Option.map_eq_some_iff.mp now
        obtain ⟨told, whole, _⟩ := told_of_woken altered.named (altered.silent.trans quiet)
          (fun other different => ⟨altered.others other different, by rw [altered.listed]⟩) stored
          (.refl (emit_named altered.named fileId))
        refine ⟨told, whole, fun _ _ _ => Or.inr ?_⟩
        simp [Sender.wakes, listed, found, open_]
  · exact still_tells named quiet _ _

/-- A registration shows the transfer as it is. -/
theorem register_told (named : Named middle) (quiet : updates middle.notes = [])
    (others : ∀ other, other ≠ fileId → middle.statusOf other = before.statusOf other ∧
      middle.transfers.has other = before.transfers.has other)
    (found : middle.objects.get? fileId = some transfer) (queued : Bool) :
    ∃ told, Told before (middle.register fileId queued) fileId told ∧
      ∀ status ∈ told, status.active = true → transfer.status.active = true := by
  let listed : Sender := { middle with transfers := middle.transfers.set fileId () }
  have namedListed : Named listed := named
  have apart : ∀ other, other ≠ fileId → listed.statusOf other = before.statusOf other ∧
      listed.transfers.has other = before.transfers.has other := by
    intro other different
    refine ⟨(others other different).1, ?_⟩
    rw [← (others other different).2, Bool.eq_iff_iff, InsertionMap.has_iff, InsertionMap.has_iff,
      InsertionMap.mem_keys_set]
    simp [different]
  have shown : Reports fileId (listed.emit fileId) (listed.emit fileId) :=
    .refl (emit_named namedListed fileId)
  refine told_of_woken namedListed quiet apart found ?_
  unfold register
  dsimp only
  split
  · exact shown
  · refine withTransfer_reports shown ?_
    intro transfer _ _
    refine shown.aside rfl rfl ?_
    rw [suspend, note, updates_append]
    exact List.append_nil _

theorem setGlobalPaused_tells (named : Named before) (quiet : updates before.notes = [])
    (single : ∀ other, before.busy other = true → other = fileId) (paused : Bool) (reason : String) :
    Tells before (.setGlobalPaused paused reason) (before.setGlobalPaused paused reason) fileId := by
  have others : ∀ other ∈ before.transfers.keys, other ≠ fileId → ∀ status,
      before.statusOf other = some status → status.active = false := by
    intro other listed different status found
    rw [Bool.eq_false_iff]
    intro active
    refine different (single other ?_)
    rw [Sender.busy, Bool.and_eq_true]
    exact ⟨(InsertionMap.has_iff _ _).mpr listed, Sender.active_iff.mpr ⟨status, found, active⟩⟩
  have flagged : Reports fileId before { before with globalPaused := paused } :=
    (Reports.refl named).aside rfl rfl rfl
  have reports : Reports fileId before (before.setGlobalPaused paused reason) :=
    pauseEach_reports paused reason _ others flagged
  cases listed : before.transfers.has fileId with
  | true => exact reports.tells quiet listed
  | false =>
      have unlisted : ∀ other ∈ before.transfers.keys, other ≠ fileId := by
        rintro other member rfl
        rw [(InsertionMap.has_iff _ _).mpr member] at listed
        cases listed
      have passed : before.setGlobalPaused paused reason = { before with globalPaused := paused } :=
        pauseEach_idle paused reason _ fun other member => others other member (unlisted other member)
      rw [passed]
      refine flagged.tells_idle quiet ?_ _
      change ∀ entry ∈ updates before.notes, _
      rw [quiet]
      exact fun entry member => by cases member

section Rests

theorem fail_updates (named : Named before) (quiet : updates before.notes = []) (reason : String) :
    ∀ entry ∈ updates (before.fail fileId reason).notes, entry.2.active = false := by
  intro entry member
  cases found : before.objects.get? fileId with
  | none =>
      simp only [fail, withTransfer, found, quiet] at member
      cases member
  | some transfer =>
      obtain ⟨failed, own, status, shown⟩ := fail_shows named found reason
      rw [shown, updates_append, quiet] at member
      obtain rfl := List.mem_singleton.mp member
      change failed.status.active = false
      rw [status]
      rfl

theorem failAndNotify_updates (self : Sender) (fileId reason : String) :
    updates (self.failAndNotify fileId reason).notes = updates (self.fail fileId reason).notes := by
  rw [failAndNotify, suspend, note, updates_append]
  exact List.append_nil _

theorem retried_shows (named : Named before) (quiet : updates before.notes = []) {index attempts : Nat}
    (reason : String) : before.retries fileId index attempts = true ∨
      ∀ entry ∈ updates (before.scheduleRetry fileId index attempts reason).notes,
        entry.2.active = false := by
  have silent : ∀ entry ∈ updates before.notes, entry.2.active = false := by
    rw [quiet]
    exact fun entry member => by cases member
  cases retries : before.retries fileId index attempts with
  | true => exact Or.inl rfl
  | false =>
      refine Or.inr ?_
      unfold scheduleRetry withTransfer
      split
      · exact silent
      · rename_i transfer found
        dsimp only
        split
        · exact silent
        · rename_i lacking
          have late : before.files.maxRetries + 1 < attempts := by
            simp only [Sender.retries, Sender.lacks, found, Option.any_some] at retries
            simp only [Bool.or_eq_true, not_or, Bool.not_eq_true] at lacking
            simpa [lacking.1, lacking.2] using retries
          rw [if_pos late, failAndNotify_updates]
          have cleared : Named (before.clearInflightTimer (transfer.inflight.get? index)) := named
          exact fail_updates cleared quiet _

/-- A call that is taken up shows its transfer as it was, if it shows it at all. -/
theorem Reports.tells_call {ticket : Nat} {outcome : Outcome} {call : SenderCall}
    (reports : Reports call.fileId before after) (quiet : updates before.notes = [])
    (held : before.calls.get? ticket = some call)
    (shows : before.shows call outcome = true ∨
      ∀ entry ∈ updates after.notes, entry.2.active = false) :
    Tells before (.settle ticket outcome) after call.fileId := by
  rcases shows with shows | idle
  · obtain ⟨told, whole, active⟩ := reports.told_of quiet
    refine ⟨told, whole, fun status member kind => Or.inr ?_⟩
    simp [Sender.wakes, held, shows, active status member kind]
  · exact reports.tells_idle quiet idle _

theorem hashed_tells (digest : Bytes → String) {ticket : Nat} {outcome : Outcome} {queued : Bool}
    (named : Named before) (quiet : updates before.notes = [])
    (held : before.calls.get? ticket = some (.hashing fileId queued)) :
    Tells before (.settle ticket outcome) ({ before with calls := before.calls.remove ticket }.settle
      digest outcome (.hashing fileId queued)) fileId := by
  have taken : Reports fileId before { before with calls := before.calls.remove ticket } :=
    (Reports.refl named).aside rfl rfl rfl
  cases found : before.objects.get? fileId with
  | none =>
      simp only [settle, withTransfer, found]
      refine taken.tells_idle quiet ?_ _
      change ∀ entry ∈ updates before.notes, _
      rw [quiet]
      exact fun entry member => by cases member
  | some transfer =>
      have own := named fileId transfer found
      let hashed : Transfer :=
        { transfer with sha256 := outcome.toOption.map fun _ => digest transfer.file.bytes }
      have free : Alters fileId before { before with calls := before.calls.remove ticket } :=
        (Alters.refl named).aside rfl rfl rfl
      have altered := free.put hashed own
      have stored : ({ before with calls := before.calls.remove ticket }.put hashed).objects.get?
          fileId = some hashed := by
        rw [put, InsertionMap.get?_set, if_pos (show fileId = hashed.fileId from own.symm)]
      obtain ⟨told, whole, active⟩ := register_told altered.named (altered.silent.trans quiet)
        (fun other different => ⟨altered.others other different, by rw [altered.listed]⟩) stored queued
      simp only [settle, withTransfer, found]
      refine ⟨told, whole, fun status member kind => Or.inr ?_⟩
      have going : before.active fileId = true :=
        Sender.active_iff.mpr ⟨_, statusOf_of_found found, active status member kind⟩
      simp [Sender.wakes, Sender.shows, SenderCall.fileId, held, going]

theorem sliced_updates (self : Sender) (fileId : String) (index attempts : Nat) (sent : Bool) :
    updates (self.sliced fileId index attempts (.ok sent)).notes = updates self.notes := by
  simp only [sliced, withTransfer]
  split
  · rfl
  · rw [suspend, note, updates_append]
    exact List.append_nil _

theorem chunkSent_shows (named : Named before) (quiet : updates before.notes = [])
    (index attempts : Nat) (outcome : Outcome) :
    before.shows (.sending fileId index attempts) outcome = true ∨
      ∀ entry ∈ updates (before.chunkSent fileId index attempts outcome).notes,
        entry.2.active = false := by
  cases outcome with
  | error message => exact retried_shows named quiet message
  | ok sent =>
      cases sent with
      | false => exact retried_shows named quiet _
      | true =>
          cases lacks : before.lacks fileId index with
          | true => exact Or.inl lacks
          | false =>
              refine Or.inr ?_
              have same : before.chunkSent fileId index attempts (.ok true) = before := by
                simp only [chunkSent, withTransfer]
                split
                · rfl
                · rename_i transfer found
                  simp only [Sender.lacks, found, Option.any_some, Bool.and_eq_false_iff,
                    Bool.not_eq_false'] at lacks
                  exact if_pos (by simpa using lacks)
              rw [same, quiet]
              exact fun entry member => by cases member

theorem settle_tells (digest : Bytes → String) {ticket : Nat} {outcome : Outcome} {call : SenderCall}
    (named : Named before) (quiet : updates before.notes = [])
    (held : before.calls.get? ticket = some call) :
    Tells before (.settle ticket outcome) ({ before with calls := before.calls.remove ticket }.settle
      digest outcome call) call.fileId := by
  have taken : Reports call.fileId before { before with calls := before.calls.remove ticket } :=
    (Reports.refl named).aside rfl rfl rfl
  have free : Named { before with calls := before.calls.remove ticket } := named
  have silent : ∀ entry ∈ updates before.notes, entry.2.active = false := by
    rw [quiet]
    exact fun entry member => by cases member
  cases call with
  | hashing fileId queued => exact hashed_tells digest named quiet held
  | offering fileId =>
      by_cases refused : outcome = .ok false
      · subst refused
        refine (fail_reports taken _).tells_idle quiet ?_ _
        exact fail_updates free quiet _
      · rw [offering_still digest refused]
        exact taken.tells_idle quiet silent _
  | slicing fileId index attempts =>
      cases outcome with
      | error message =>
          exact (scheduleRetry_reports taken _ _ _).tells_call quiet held (retried_shows free quiet _)
      | ok sent =>
          have reports := sliced_reports taken index attempts (.ok sent)
          refine reports.tells_idle quiet ?_ _
          rw [SenderCall.fileId, sliced_updates]
          exact silent
  | sending fileId index attempts =>
      exact (chunkSent_reports taken index attempts outcome).tells_call quiet held
        (chunkSent_shows free quiet index attempts outcome)
  | pumping fileId =>
      simp only [settle, withTransfer]
      split
      · exact taken.tells_idle quiet silent _
      · rename_i transfer found
        exact (taken.rewrite found { transfer with pumping := false } rfl rfl).tells_idle quiet silent _
  | notifying fileId => exact taken.tells_idle quiet silent _

theorem sendChunk_shows (named : Named before) (quiet : updates before.notes = [])
    (index nextAttempts : Nat) : before.rings (.retry fileId index nextAttempts) = true ∨
      ∀ entry ∈ updates (before.sendChunk fileId index nextAttempts).notes,
        entry.2.active = false := by
  have silent : ∀ entry ∈ updates before.notes, entry.2.active = false := by
    rw [quiet]
    exact fun entry member => by cases member
  cases rings : before.rings (.retry fileId index nextAttempts) with
  | true => exact Or.inl rfl
  | false =>
      refine Or.inr ?_
      unfold sendChunk withTransfer
      split
      · exact silent
      · rename_i transfer found
        dsimp only
        split
        · exact silent
        · rename_i lacking
          split
          · exact silent
          · rename_i going
            simp only [Bool.or_eq_true, not_or, Bool.not_eq_true] at lacking going
            have late : before.files.maxRetries + 1 < nextAttempts := by
              simp only [Sender.rings, Sender.retries, Sender.lacks, found, Option.any_some] at rings
              simpa [lacking.1, lacking.2, going.1, going.2] using rings
            rw [if_pos late, failAndNotify_updates]
            exact fail_updates named quiet _

theorem runTimer_tells {ticket : Nat} {timer : SenderTimer} (named : Named before)
    (quiet : updates before.notes = []) (held : before.timers.get? ticket = some timer) :
    Tells before (.fire ticket) ({ before with timers := before.timers.remove ticket }.runTimer timer)
      timer.fileId := by
  have taken : Reports timer.fileId before { before with timers := before.timers.remove ticket } :=
    (Reports.refl named).aside rfl rfl rfl
  have free : Named { before with timers := before.timers.remove ticket } := named
  have reports : Reports timer.fileId before
      ({ before with timers := before.timers.remove ticket }.runTimer timer) := by
    cases timer with
    | ackTimeout fileId index attempts => exact scheduleRetry_reports taken _ _ _
    | retry fileId index nextAttempts => exact sendChunk_reports taken _ _
  have shows : before.rings timer = true ∨ ∀ entry ∈ updates
      ({ before with timers := before.timers.remove ticket }.runTimer timer).notes,
        entry.2.active = false := by
    cases timer with
    | ackTimeout fileId index attempts => exact retried_shows free quiet _
    | retry fileId index nextAttempts => exact sendChunk_shows free quiet _ _
  rcases shows with shows | idle
  · obtain ⟨told, whole, active⟩ := reports.told_of quiet
    refine ⟨told, whole, fun status member kind => Or.inr ?_⟩
    simp [Sender.wakes, held, shows, active status member kind]
  · exact reports.tells_idle quiet idle _

end Rests

/-- A peer's message, a call of the session or a continuation. -/
def Event.sent : Event → Bool
  | .accept _ => true
  | .pause _ _ => true
  | .settle _ _ => true
  | .fire _ => true
  | event => event.plain

/-- Such a turn shows one transfer at most, if one at most was registered as active. -/
theorem turn_tells (digest : Bytes → String) {event : Event} (sent : event.sent = true)
    (named : Named before) (quiet : updates before.notes = [])
    (single : ∀ one two, before.busy one = true → before.busy two = true → one = two)
    (stepped : before.turn digest event = some after) : ∃ fileId, Tells before event after fileId := by
  cases event with
  | accept fileId =>
      cases stepped
      exact ⟨fileId, accept_tells named quiet fileId⟩
  | pause fileId reason =>
      cases stepped
      exact ⟨fileId, pause_tells named quiet fileId reason⟩
  | ack fileId index =>
      cases stepped
      exact ⟨fileId, registered_tells named quiet (ack_reports named index)⟩
  | nack fileId index reason =>
      cases stepped
      exact ⟨fileId, registered_tells named quiet (nack_reports named index reason)⟩
  | resume fileId =>
      cases stepped
      exact ⟨fileId, registered_tells named quiet (resume_reports named)⟩
  | cancel fileId reason notify =>
      cases stepped
      exact ⟨fileId, registered_tells named quiet (cancel_reports named reason notify)⟩
  | setGlobalPaused paused reason =>
      cases stepped
      by_cases going : ∃ fileId, before.busy fileId = true
      · obtain ⟨fileId, busy⟩ := going
        exact ⟨fileId, setGlobalPaused_tells named quiet (fun other also => single other fileId also busy)
          paused reason⟩
      · refine ⟨"", setGlobalPaused_tells named quiet (fun other busy => ?_) paused reason⟩
        exact absurd ⟨other, busy⟩ going
  | settle ticket outcome =>
      obtain ⟨⟨call, rest⟩, taken, rfl⟩ := Option.map_eq_some_iff.mp stepped
      obtain ⟨held, rfl⟩ := Callbacks.take_eq_some.mp taken
      exact ⟨call.fileId, settle_tells digest named quiet held⟩
  | fire ticket =>
      obtain ⟨⟨timer, rest⟩, taken, rfl⟩ := Option.map_eq_some_iff.mp stepped
      obtain ⟨held, rfl⟩ := Callbacks.take_eq_some.mp taken
      exact ⟨timer.fileId, runTimer_tells named quiet held⟩
  | _ => cases sent

/-- A transfer that leaves the queue is offered. -/
theorem startQueued_told (named : Named before) (quiet : updates before.notes = []) (fileId : String) :
    ∃ told, Told before (before.startQueued fileId) fileId told := by
  have still : ∃ told, Told before before fileId told :=
    let ⟨told, whole, _⟩ := (Reports.refl named : Reports fileId before before).told_of quiet
    ⟨told, whole⟩
  unfold startQueued withRegistered
  split
  · unfold withTransfer
    split
    · exact still
    · rename_i transfer found
      have own := named fileId transfer found
      dsimp only
      split
      · exact still
      · have kept := put_named (dequeue transfer) named
        have stored : (before.put (dequeue transfer)).objects.get? fileId = some (dequeue transfer) := by
          rw [put, InsertionMap.get?_set, if_pos (show fileId = (dequeue transfer).fileId from own.symm)]
        have shown : Reports fileId ((before.put (dequeue transfer)).emit fileId)
            (((before.put (dequeue transfer)).emit fileId).sendOffer fileId) := by
          refine withTransfer_reports (.refl (emit_named kept fileId)) ?_
          intro offered _ _
          refine (Reports.refl (emit_named kept fileId)).aside rfl rfl ?_
          rw [suspend, note, updates_append]
          exact List.append_nil _
        obtain ⟨told, whole, _⟩ := told_of_woken kept quiet (fun other different =>
          ⟨((Alters.refl named).put (dequeue transfer) own).others other different, rfl⟩) stored shown
        exact ⟨told, whole⟩
  · exact still

/-- What has ended is not started. -/
theorem startQueued_over (named : Named before) (quiet : updates before.notes = []) {other : String}
    (finished : before.finished other = true) (fileId : String) :
    (before.startQueued fileId).finished other = true := by
  by_cases same : other = fileId
  · subst same
    obtain ⟨status, found, terminal⟩ := Option.any_eq_true _ _ |>.mp finished
    obtain ⟨transfer, stored, rfl⟩ := Option.map_eq_some_iff.mp found
    have waits : transfer.cancelled = true ∨ transfer.status ≠ .queued := by
      refine Or.inr fun queued => ?_
      rw [queued] at terminal
      cases terminal
    have still : before.startQueued other = before := by
      unfold startQueued withRegistered withTransfer
      rw [stored]
      dsimp only
      rw [if_pos waits, ite_self]
    rw [still]
    exact finished
  · obtain ⟨told, whole⟩ := startQueued_told named quiet fileId
    rw [Sender.finished, (whole.others other same).1]
    exact finished

/-- A new transfer that is to wait is not shown as active. -/
theorem offer_told (named : Named before) (quiet : updates before.notes = []) {fileId : String}
    (file : File) (queued : Bool) (unlisted : before.transfers.has fileId = false) :
    ∃ told, Told before (before.offer fileId file queued) fileId told ∧
      ∀ status ∈ told, status.active = true → queued = false := by
  have still : ∃ told, Told before before fileId told ∧
      ∀ status ∈ told, status.active = true → queued = false := by
    obtain ⟨told, whole, _⟩ := (Reports.refl named : Reports fileId before before).told_of quiet
    refine ⟨told, whole, fun status member _ => ?_⟩
    have shown := whole.updates
    rw [quiet] at shown
    rw [List.map_eq_nil_iff.mp shown.symm] at member
    cases member
  unfold offer
  split
  · exact still
  · let made := newTransfer before.files fileId file queued
    have kept := put_named made named
    have altered : Alters fileId before (before.put made) := (Alters.refl named).put made rfl
    have others : ∀ other, other ≠ fileId →
        (before.put made).statusOf other = before.statusOf other ∧
          (before.put made).transfers.has other = before.transfers.has other :=
      fun other different => ⟨altered.others other different, rfl⟩
    dsimp only
    split
    · refine ⟨[], ⟨kept, quiet, others, fun _ listed => ?_, nofun, .nil⟩, nofun⟩
      have unlisted : (before.put made).transfers.has fileId = false := unlisted
      exact absurd (unlisted.symm.trans listed) Bool.false_ne_true
    · have stored : (before.put made).objects.get? fileId = some made :=
        InsertionMap.get?_set_self _ _ _
      obtain ⟨told, whole, active⟩ := register_told kept quiet others stored queued
      refine ⟨told, whole, fun status member kind => ?_⟩
      have going := active status member kind
      cases queued with
      | false => rfl
      | true => cases going

end Turns

section Objects

/-- Every registered transfer has an object. -/
def Listed (sender : Sender) : Prop :=
  ∀ fileId, sender.transfers.has fileId = true → sender.statusOf fileId ≠ none

/-- Transfers may be let go of, and no status changes. -/
structure Fades (before after : Sender) : Prop where
  named : Named after
  status : ∀ fileId, after.statusOf fileId = before.statusOf fileId
  listed : ∀ fileId, after.transfers.has fileId = true → before.transfers.has fileId = true
  calls : after.calls = before.calls

variable {self before middle after : Sender} {event : Event} {fileId : String}

theorem statusOf_eq_none : self.statusOf fileId = none ↔ self.objects.get? fileId = none := by
  rw [Sender.statusOf, Option.map_eq_none_iff]

theorem Fades.refl (named : Named self) : Fades self self :=
  ⟨named, fun _ => rfl, fun _ listed => listed, rfl⟩

theorem Fades.trans (first : Fades before middle) (second : Fades middle after) :
    Fades before after where
  named := second.named
  status fileId := (second.status fileId).trans (first.status fileId)
  listed fileId has := first.listed fileId (second.listed fileId has)
  calls := second.calls.trans first.calls

theorem Fades.active (fades : Fades before after) (fileId : String) :
    after.active fileId = before.active fileId := by
  rw [Sender.active, Sender.active, fades.status]

theorem Fades.busy (fades : Fades before after) (busy : after.busy fileId = true) :
    before.busy fileId = true := by
  rw [Sender.busy, Bool.and_eq_true, fades.active] at busy
  rw [Sender.busy, Bool.and_eq_true]
  exact ⟨fades.listed fileId busy.1, busy.2⟩

theorem Listed.fades (listed : Listed before) (fades : Fades before after) : Listed after := by
  intro fileId has
  rw [fades.status]
  exact listed fileId (fades.listed fileId has)

theorem clearTimers_fades (named : Named self) (fileId : String) :
    Fades self (self.clearTimers fileId) := by
  refine ⟨(clearTimers_acts named (Only.self fileId) .refl).named named,
    statusOf_clearTimers named fileId, fun other has => ?_, ?_⟩
  · unfold clearTimers withTransfer at has
    split at has <;> exact has
  · unfold clearTimers withTransfer
    split <;> rfl

theorem remove_fades (named : Named self) (fileId : String) : Fades self (self.remove fileId) := by
  unfold remove withRegistered withTransfer
  split
  · split
    · exact .refl named
    · dsimp only
      split
      · have cleared := clearTimers_fades named fileId
        refine cleared.trans ⟨cleared.named, fun _ => rfl, fun other has => ?_, rfl⟩
        rw [InsertionMap.has_iff] at has ⊢
        exact ((InsertionMap.mem_keys_delete _ _ _).mp has).2
      · exact .refl named
  · exact .refl named

theorem reset_fades (named : Named self) : Fades self self.reset := by
  have cleared : ∀ (fileIds : List String) (sender : Sender), Named sender →
      Fades sender (fileIds.foldl clearTimers sender) := by
    intro fileIds
    induction fileIds with
    | nil => exact fun _ named => .refl named
    | cons fileId rest ih =>
        intro sender named
        have first := clearTimers_fades named fileId
        exact first.trans (ih _ first.named)
  have whole := cleared self.transfers.keys self named
  exact whole.trans ⟨whole.named, fun _ => rfl, fun _ has => (by cases has), rfl⟩

/-- A turn makes no object but that of a new offer. -/
theorem Turned.absent (turned : Turned self event after)
    (fresh : ∀ file queued, event ≠ .offer fileId file queued)
    (absent : self.statusOf fileId = none) : after.statusOf fileId = none := by
  obtain ⟨due, middle, last, prepared, _, acts, rfl⟩ := turned
  rw [statusOf_eq_none] at absent ⊢
  rw [sendDue_objects]
  refine (acts.object fileId).2 ?_
  have apart : ∀ transfer : Transfer, transfer.fileId ≠ fileId →
      (self.objects.set transfer.fileId transfer).get? fileId = none := by
    intro transfer other
    rw [InsertionMap.get?_set, if_neg (Ne.symm other)]
    exact absent
  have held : ∀ transfer : Transfer, self.objects.get? transfer.fileId = some transfer →
      transfer.fileId ≠ fileId := by
    rintro transfer found rfl
    rw [absent] at found
    cases found
  cases prepared with
  | plain objects =>
      rw [objects]
      exact absent
  | @acknowledged index transfer item found =>
      exact apart (acknowledge transfer index) (held transfer found)
  | @made id file queued missing =>
      exact apart (newTransfer self.files id file queued) fun same => fresh file queued (same ▸ rfl)
  | @opened id file queued missing =>
      exact apart (newTransfer self.files id file queued) fun same => fresh file queued (same ▸ rfl)
  | @hashed ticket outcome queued transfer _ found sha256 =>
      exact apart { transfer with sha256 } (held transfer found)
  | @started transfer found => exact apart (dequeue transfer) (held transfer found)

theorem sendDue_transfers (self : Sender) (due : Option String) :
    (sendDue self due).transfers = self.transfers := by
  cases due with
  | none => rfl
  | some fileId =>
      simp only [sendDue, sendOffer, withTransfer]
      split <;> rfl

/-- What a turn registers has an object. -/
theorem Turned.listed (turned : Turned self event after) (listed : Listed self) : Listed after := by
  obtain ⟨due, middle, last, prepared, _, acts, rfl⟩ := turned
  intro fileId has absent
  rw [statusOf_eq_none, sendDue_objects] at absent
  rw [sendDue_transfers] at has
  have registered := acts.listed has
  have gone : middle.objects.get? fileId = none := by
    cases found : middle.objects.get? fileId with
    | none => rfl
    | some transfer =>
        obtain ⟨new, stored, _⟩ := (acts.object fileId).1 transfer found
        rw [absent] at stored
        cases stored
  -- A transfer that the turn has not written has no object only if it had none.
  have kept : ∀ transfer : Transfer, (self.objects.set transfer.fileId transfer).get? fileId = none →
      fileId ≠ transfer.fileId ∧ self.transfers.has fileId = false := by
    intro transfer missing
    rw [InsertionMap.get?_set] at missing
    split at missing
    · cases missing
    · rename_i other
      refine ⟨other, Bool.eq_false_iff.mpr fun has => ?_⟩
      exact listed fileId has (statusOf_eq_none.mpr missing)
  have added : ∀ transfer : Transfer, (self.objects.set transfer.fileId transfer).get? fileId = none →
      (self.transfers.set transfer.fileId ()).has fileId = true → False := by
    intro transfer missing has
    obtain ⟨other, unlisted⟩ := kept transfer missing
    rw [InsertionMap.has_iff, InsertionMap.mem_keys_set] at has
    rw [(InsertionMap.has_iff _ _).mpr (has.resolve_left other)] at unlisted
    cases unlisted
  have old : ∀ transfer : Transfer, (self.objects.set transfer.fileId transfer).get? fileId = none →
      self.transfers.has fileId = true → False := by
    intro transfer missing has
    rw [(kept transfer missing).2] at has
    cases has
  cases prepared with
  | plain objects transfers =>
      rw [objects] at gone
      rw [transfers] at registered
      exact listed fileId registered (statusOf_eq_none.mpr gone)
  | @acknowledged index transfer => exact old (acknowledge transfer index) gone registered
  | @made id file queued => exact old (newTransfer self.files id file queued) gone registered
  | @opened id file queued => exact added (newTransfer self.files id file queued) gone registered
  | @hashed ticket outcome queued transfer _ _ sha256 =>
      -- An offer that goes out lists its transfer under the object's own id.
      exact added { transfer with sha256 } gone registered
  | @started transfer => exact old (dequeue transfer) gone registered

end Objects

end OnlyTwo.FileSender
