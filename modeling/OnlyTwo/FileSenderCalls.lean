import OnlyTwo.FileSenderEffects

/-!
The suspended calls of a sender over its turns. A call that was there is there still or has
been taken up, a new one lies under a new ticket, and an object is never dropped. What an
offer suspends is its own hash or the send of its own offer, and what its calls show is the
transfer it has made.
-/

namespace OnlyTwo.FileSender

open Bytes FileProtocol Sender

structure Later (before after : Sender) : Prop where
  named : Named before → Named after
  next : before.calls.next ≤ after.calls.next
  held : ∀ ticket call, ticket < before.calls.next → after.calls.get? ticket = some call →
    before.calls.get? ticket = some call
  objects : ∀ fileId, before.objects.has fileId = true → after.objects.has fileId = true

section Chains
variable {before middle after self : Sender} {mine : String → Prop} {fileId : String}

theorem Later.refl (self : Sender) : Later self self :=
  ⟨id, le_refl _, fun _ _ _ found => found, fun _ has => has⟩

theorem Later.trans (first : Later before middle) (second : Later middle after) :
    Later before after where
  named := second.named ∘ first.named
  next := first.next.trans second.next
  held ticket call old found :=
    first.held ticket call old (second.held ticket call (old.trans_le first.next) found)
  objects fileId has := second.objects fileId (first.objects fileId has)

theorem Later.of_same (calls : after.calls = before.calls) (objects : after.objects = before.objects) :
    Later before after where
  named names fileId transfer found := names fileId transfer (objects ▸ found)
  next := calls ▸ le_refl _
  held _ _ _ found := calls ▸ found
  objects _ has := objects ▸ has

theorem put_later (self : Sender) (transfer : Transfer) : Later self (self.put transfer) where
  named := put_named transfer
  next := le_refl _
  held _ _ _ found := found
  objects fileId has := by
    rw [InsertionMap.has_iff] at has ⊢
    exact (InsertionMap.mem_keys_set _ _ _ _).mpr (Or.inr has)

theorem suspend_later (self : Sender) (call : SenderCall) : Later self (self.suspend call) where
  named names := names
  next := Nat.le_succ _
  held ticket other old found := by
    rw [suspend, Callbacks.get?_add, if_neg old.ne] at found
    exact found
  objects _ has := has

theorem taken_later (self : Sender) (ticket : Nat) :
    Later self { self with calls := self.calls.remove ticket } where
  named names := names
  next := le_refl _
  held _ _ _ found := Callbacks.get?_of_remove found
  objects _ has := has

theorem Acts.later (acts : Acts mine before after) : Later before after := by
  induction acts with
  | refl => exact .refl before
  | put _ _ _ _ ih => exact ih.trans (put_later _ _)
  | note _ _ _ _ ih => exact ih.trans (.of_same rfl rfl)
  | suspend _ _ _ ih => exact ih.trans (suspend_later _ _)
  | arm _ _ ih => exact ih.trans (.of_same rfl rfl)
  | cancel _ _ ih => exact ih.trans (.of_same rfl rfl)
  | unlist _ _ ih => exact ih.trans (.of_same rfl rfl)

end Chains

section Turns
variable {self after : Sender} {fileId : String}

theorem withTransfer_later {action : Transfer → Sender}
    (acts : ∀ transfer, Later self (action transfer)) :
    Later self (self.withTransfer fileId action) := by
  unfold withTransfer
  split
  · exact .refl self
  · exact acts _

theorem withRegistered_later {action : Transfer → Sender}
    (acts : ∀ transfer, Later self (action transfer)) :
    Later self (self.withRegistered fileId action) := by
  unfold withRegistered
  split
  · exact withTransfer_later acts
  · exact .refl self

theorem emit_later (self : Sender) (fileId : String) : Later self (self.emit fileId) :=
  withTransfer_later fun _ => .of_same rfl rfl

theorem sendOffer_later (self : Sender) (fileId : String) : Later self (self.sendOffer fileId) := by
  refine withTransfer_later fun transfer => ?_
  have told : Later self (self.note (.sendApp (.offer transfer.offer) .control)) := .of_same rfl rfl
  exact told.trans (suspend_later _ _)

theorem register_later (self : Sender) (fileId : String) (queued : Bool) :
    Later self (self.register fileId queued) := by
  have listed : Later self { self with transfers := self.transfers.set fileId () } :=
    .of_same rfl rfl
  have shown := listed.trans (emit_later _ fileId)
  simp only [register]
  split
  · exact shown
  · exact shown.trans (sendOffer_later _ fileId)

theorem offer_later (self : Sender) (fileId : String) (file : File) (queued : Bool) :
    Later self (self.offer fileId file queued) := by
  unfold offer
  split
  · exact .refl self
  · have made := put_later self (newTransfer self.files fileId file queued)
    dsimp only
    split
    · exact made.trans (suspend_later _ _)
    · exact made.trans (register_later _ _ _)

theorem startQueued_later (self : Sender) (fileId : String) :
    Later self (self.startQueued fileId) := by
  refine withRegistered_later fun transfer => ?_
  split
  · exact .refl self
  · exact ((put_later self _).trans (emit_later _ fileId)).trans (sendOffer_later _ fileId)

theorem ack_later (named : Named self) (fileId : String) (index : Nat) :
    Later self (self.ack fileId index) := by
  refine withRegistered_later fun transfer => ?_
  split
  · exact .refl self
  · split
    · exact .refl self
    · rename_i item _
      have cleared : Later self (self.clearInflightTimer (some item)) := .of_same rfl rfl
      have kept : Named ((self.clearInflightTimer (some item)).put (acknowledge transfer index)) :=
        put_named _ named
      exact (cleared.trans (put_later _ (acknowledge transfer index))).trans
        (pump_acts kept (Only.self fileId) (emit_acts kept (Only.self fileId) .refl)).later

theorem settle_later (digest : Bytes → String) (outcome : Outcome) (named : Named self)
    (call : SenderCall) : Later self (self.settle digest outcome call) := by
  by_cases hashing : ∃ fileId queued, call = .hashing fileId queued
  · obtain ⟨fileId, queued, rfl⟩ := hashing
    exact withTransfer_later fun _ => (put_later self _).trans (register_later _ fileId queued)
  · exact (settle_acts digest outcome named (Only.self call.fileId)
      (fun fileId queued same => hashing ⟨fileId, queued, same⟩) .refl).later

theorem reset_later (named : Named self) : Later self self.reset :=
  (clearAll_acts named).later.trans (.of_same rfl rfl)

theorem remove_later (named : Named self) (fileId : String) : Later self (self.remove fileId) :=
  (remove_acts named (Only.self fileId)).later

theorem turn_later (digest : Bytes → String) {event : Event} (named : Named self)
    (stepped : self.turn digest event = some after) : Later self after := by
  cases event with
  | setProfile files =>
      cases stepped
      exact .of_same rfl rfl
  | offer fileId file queued =>
      simp only [turn] at stepped
      split at stepped <;> cases stepped
      exact offer_later self fileId file queued
  | startQueued fileId =>
      cases stepped
      exact startQueued_later self fileId
  | accept fileId =>
      cases stepped
      exact (accept_acts named (Only.self fileId)).later
  | ack fileId index =>
      cases stepped
      exact ack_later named fileId index
  | nack fileId index reason =>
      cases stepped
      exact (nack_acts named (Only.self fileId) index reason).later
  | pause fileId reason =>
      cases stepped
      exact (pause_acts named (Only.self fileId) reason).later
  | resume fileId =>
      cases stepped
      exact (resume_acts named (Only.self fileId)).later
  | cancel fileId reason notify =>
      cases stepped
      exact (cancel_acts named (Only.self fileId) reason notify).later
  | setGlobalPaused paused reason =>
      cases stepped
      have flagged : Later self { self with globalPaused := paused } := .of_same rfl rfl
      exact flagged.trans (setGlobalPaused_acts named paused reason).later
  | remove fileId =>
      cases stepped
      exact remove_later named fileId
  | reset =>
      cases stepped
      exact reset_later named
  | settle ticket outcome =>
      obtain ⟨⟨call, rest⟩, taken, rfl⟩ := Option.map_eq_some_iff.mp stepped
      obtain ⟨held, rfl⟩ := Callbacks.take_eq_some.mp taken
      have free : Named { self with calls := self.calls.remove ticket } := named
      exact (taken_later self ticket).trans (settle_later digest outcome free call)
  | fire ticket =>
      obtain ⟨⟨timer, rest⟩, taken, rfl⟩ := Option.map_eq_some_iff.mp stepped
      obtain ⟨held, rfl⟩ := Callbacks.take_eq_some.mp taken
      have fired : Later self { self with timers := self.timers.remove ticket } := .of_same rfl rfl
      have kept : Named { self with timers := self.timers.remove ticket } := named
      exact fired.trans (runTimer_acts kept (Only.self timer.fileId) .refl).later

end Turns

/-- Calls that bring no transfer into line that was not in it. -/
def Event.plain : Event → Bool
  | .ack _ _ => true
  | .nack _ _ _ => true
  | .resume _ => true
  | .cancel _ _ _ => true
  | .setGlobalPaused _ _ => true
  | _ => false

section Offers
variable {self : Sender} {fileId : String}

/-- A call that `offer` waits for: the hash of its file, or the send of its offer. -/
def SenderCall.offers (call : SenderCall) (fileId : String) : Prop :=
  (∃ queued, call = .hashing fileId queued) ∨ call = .offering fileId

/-- What lies under the first new ticket. -/
def Suspends (before after : Sender) (fileId : String) : Prop :=
  after.objects.has fileId = true ∧
    ∀ call, after.calls.get? before.calls.next = some call → call.offers fileId

theorem sendOffer_suspends (has : self.objects.has fileId = true) :
    Suspends self (self.sendOffer fileId) fileId := by
  unfold sendOffer withTransfer
  split
  · refine ⟨has, fun call found => ?_⟩
    exact absurd (Callbacks.get?_lt found) (lt_irrefl _)
  · refine ⟨has, fun call found => ?_⟩
    have own : (self.calls.add (.offering fileId)).1.get? self.calls.next = some call := found
    rw [Callbacks.get?_add, if_pos rfl] at own
    cases own
    exact Or.inr rfl

theorem register_suspends (has : self.objects.has fileId = true) (queued : Bool) :
    Suspends self (self.register fileId queued) fileId := by
  have shown : ({ self with transfers := self.transfers.set fileId () }.emit fileId).calls =
      self.calls ∧ ({ self with transfers := self.transfers.set fileId () }.emit fileId).objects =
      self.objects := by
    simp only [emit, withTransfer]
    split <;> exact ⟨rfl, rfl⟩
  simp only [register]
  split
  · refine ⟨shown.2.symm ▸ has, fun call found => ?_⟩
    rw [shown.1] at found
    exact absurd (Callbacks.get?_lt found) (lt_irrefl _)
  · obtain ⟨object, call⟩ := sendOffer_suspends (shown.2.symm ▸ has)
    refine ⟨object, ?_⟩
    rw [shown.1] at call
    exact call

theorem offer_suspends (file : File) (queued : Bool)
    (fits : validateOutboundFile file self.files = .ok ()) :
    Suspends self (self.offer fileId file queued) fileId := by
  have made : (self.put (newTransfer self.files fileId file queued)).objects.has fileId = true := by
    rw [InsertionMap.has_iff]
    exact (InsertionMap.mem_keys_set _ _ _ _).mpr (Or.inl rfl)
  simp only [offer, fits]
  split
  · refine ⟨made, fun call found => ?_⟩
    have own : (self.calls.add (.hashing fileId queued)).1.get? self.calls.next = some call := found
    rw [Callbacks.get?_add, if_pos rfl] at own
    cases own
    exact Or.inl ⟨queued, rfl⟩
  · exact register_suspends made queued

theorem fail_calls (self : Sender) (fileId reason : String) :
    (self.fail fileId reason).calls = self.calls := by
  simp only [fail, withTransfer]
  split
  · rfl
  · simp only [emit, clearTimers, withTransfer]
    split <;> split <;> rfl

/-- What goes on after an offer's hash or its send. -/
theorem settle_suspends (digest : Bytes → String) (outcome : Outcome) (named : Named self)
    {call : SenderCall} (offers : call.offers fileId) (has : self.objects.has fileId = true) :
    Suspends self (self.settle digest outcome call) fileId := by
  have kept := (settle_later digest outcome named call).objects fileId has
  rcases offers with ⟨queued, rfl⟩ | rfl
  · simp only [settle, withTransfer]
    split
    · exact ⟨has, fun call found => absurd (Callbacks.get?_lt found) (lt_irrefl _)⟩
    · exact register_suspends ((put_later self _).objects fileId has) queued
  · refine ⟨kept, fun call found => ?_⟩
    have same : (self.settle digest outcome (.offering fileId)).calls = self.calls := by
      simp only [settle]
      split
      · exact fail_calls self fileId _
      · rfl
    rw [same] at found
    exact absurd (Callbacks.get?_lt found) (lt_irrefl _)

end Offers

section Shows

variable {self : Sender} {fileId : String} {transfer : Transfer}

theorem emit_eq (found : self.objects.get? fileId = some transfer) :
    self.emit fileId = self.note (.onUpdate transfer.snapshot) := by
  simp only [emit, withTransfer, found]

theorem sendOffer_eq (found : self.objects.get? fileId = some transfer) :
    self.sendOffer fileId =
      (self.note (.sendApp (.offer transfer.offer) .control)).suspend (.offering fileId) := by
  simp only [sendOffer, withTransfer, found]

theorem get?_put (self : Sender) (transfer : Transfer) :
    (self.put transfer).objects.get? transfer.fileId = some transfer :=
  InsertionMap.get?_set_self _ _ _

theorem startQueued_shows (named : Named self) (fileId : String) :
    (self.startQueued fileId).notes = self.notes ∨
      ∃ transfer : Transfer, transfer.status = .offered ∧ (self.startQueued fileId).notes =
        self.notes ++ [.onUpdate transfer.snapshot, .sendApp (.offer transfer.offer) .control] := by
  unfold startQueued withRegistered withTransfer
  split
  · split
    · exact Or.inl rfl
    · rename_i transfer found
      obtain rfl : transfer.fileId = fileId := named fileId transfer found
      dsimp only
      split
      · exact Or.inl rfl
      · refine Or.inr ⟨dequeue transfer, rfl, ?_⟩
        change (((self.put (dequeue transfer)).emit transfer.fileId).sendOffer transfer.fileId).notes = _
        have stored : (self.put (dequeue transfer)).objects.get? transfer.fileId = _ :=
          get?_put self (dequeue transfer)
        have told : ((self.put (dequeue transfer)).note
            (.onUpdate (dequeue transfer).snapshot)).objects.get? transfer.fileId = _ := stored
        rw [emit_eq stored, sendOffer_eq told]
        simp [note, put, suspend]
  · exact Or.inl rfl

theorem fail_shows (named : Named self) (found : self.objects.get? fileId = some transfer)
    (reason : String) : ∃ failed : Transfer, failed.fileId = fileId ∧ failed.status = .failed ∧
      (self.fail fileId reason).notes = self.notes ++ [.onUpdate failed.snapshot] := by
  obtain rfl : transfer.fileId = fileId := named fileId transfer found
  have stored := get?_put self { transfer with
    status := .failed
    reason := some reason
    cancelled := true }
  refine ⟨{ transfer with
    status := .failed
    reason := some reason
    cancelled := true
    inflight := .empty }, rfl, rfl, ?_⟩
  simp only [fail, withTransfer, found, clearTimers, stored]
  rw [emit_eq (get?_put _ _)]
  rfl

/-- The rest of an offer whose hash is known. -/
theorem hashed_eq (digest : Bytes → String) (outcome : Outcome) (queued : Bool)
    (named : Named self) (found : self.objects.get? fileId = some transfer) :
    ∃ hashed : Transfer, hashed.fileId = fileId ∧ hashed.status = transfer.status ∧
      self.settle digest outcome (.hashing fileId queued) =
        let listed := { self.put hashed with transfers := self.transfers.set fileId () }.note
          (.onUpdate hashed.snapshot)
        if queued then listed
        else (listed.note (.sendApp (.offer hashed.offer) .control)).suspend (.offering fileId) := by
  obtain rfl : transfer.fileId = fileId := named fileId transfer found
  let hashed := { transfer with sha256 := outcome.toOption.map fun _ => digest transfer.file.bytes }
  refine ⟨hashed, rfl, rfl, ?_⟩
  have stored := get?_put self hashed
  have shown : { self.put hashed with transfers := self.transfers.set transfer.fileId () }.emit
      transfer.fileId = _ := emit_eq stored
  have settled : self.settle digest outcome (.hashing transfer.fileId queued) =
      (self.put hashed).register transfer.fileId queued := by
    simp only [settle, withTransfer, found]
    rfl
  rw [settled]
  change (if queued then { self.put hashed with
      transfers := self.transfers.set transfer.fileId () }.emit transfer.fileId
    else ({ self.put hashed with
      transfers := self.transfers.set transfer.fileId () }.emit transfer.fileId).sendOffer
        transfer.fileId) = _
  rw [shown]
  split
  · rfl
  · exact sendOffer_eq stored

theorem offering_still (digest : Bytes → String) {outcome : Outcome} (sent : outcome ≠ .ok false)
    (self : Sender) (fileId : String) :
    self.settle digest outcome (.offering fileId) = self := by
  cases outcome with
  | error message => rfl
  | ok value =>
      cases value with
      | true => rfl
      | false => exact absurd rfl sent

end Shows

end OnlyTwo.FileSender
