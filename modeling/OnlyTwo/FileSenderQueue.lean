import OnlyTwo.FileSenderStages

/-!
What joins the queue of a sender. A registered transfer waits there until it is started or
ends. Only a registration puts one into it: `offer` registers a large file at once and a small
one at the end of its digest. No other turn begins a digest either.
-/

namespace OnlyTwo.FileSender

open Bytes FileProtocol Sender

section Definitions

/-- The registered transfer waits to be started. -/
def Enqueued (sender : Sender) (fileId : String) : Prop :=
  sender.transfers.has fileId = true ∧ sender.statusOf fileId = some .queued

def SenderCall.hashes : SenderCall → Bool
  | .hashing _ _ => true
  | _ => false

/-- The digest of a small file is under way. -/
def Digesting (sender : Sender) (ticket : Nat) : Prop :=
  ∃ fileId queued, sender.calls.get? ticket = some (.hashing fileId queued)

def Undigested (sender : Sender) : Prop := ∀ ticket, ¬Digesting sender ticket

/-- The event ends a digest after which the transfer is offered. -/
def Sender.digested (self : Sender) : Event → Bool
  | .settle ticket _ => (self.calls.get? ticket).any fun
      | .hashing _ queued => !queued
      | _ => false
  | _ => false

/-- No digest begins, and nothing joins the queue. -/
structure Abates (before after : Sender) : Prop where
  named : Named before → Named after
  digests : ∀ ticket fileId queued, after.calls.get? ticket = some (.hashing fileId queued) →
    before.calls.get? ticket = some (.hashing fileId queued)
  queue : ∀ fileId, Enqueued after fileId → Enqueued before fileId

instance (sender : Sender) : Decidable (Undigested sender) :=
  decidable_of_iff (∀ ticket ∈ sender.calls.held.keys,
    (sender.calls.get? ticket).any SenderCall.hashes = false) <| by
    constructor
    · rintro idle ticket ⟨fileId, queued, held⟩
      have quiet := idle ticket (InsertionMap.mem_keys_of_get? held)
      rw [held] at quiet
      cases quiet
    · intro undigested ticket _
      rw [Bool.eq_false_iff]
      intro hashes
      obtain ⟨call, held, kind⟩ := (Option.any_eq_true _ _).mp hashes
      cases call with
      | hashing fileId queued => exact undigested ticket ⟨fileId, queued, held⟩
      | _ => cases kind

end Definitions

section Turns

variable {before middle after : Sender} {event : Event} {due : Option String}
  {mine : String → Prop} {ticket : Nat} {fileId : String}

theorem Abates.refl (self : Sender) : Abates self self :=
  ⟨id, fun _ _ _ held => held, fun _ enqueued => enqueued⟩

theorem Abates.of_eq (same : after = before) : Abates before after := same ▸ .refl before

theorem Abates.trans (first : Abates before middle) (second : Abates middle after) :
    Abates before after where
  named kept := second.named (first.named kept)
  digests ticket fileId queued held := first.digests _ _ _ (second.digests ticket fileId queued held)
  queue fileId enqueued := first.queue fileId (second.queue fileId enqueued)

theorem Abates.digesting (abates : Abates before after) (digesting : Digesting after ticket) :
    Digesting before ticket := by
  obtain ⟨fileId, queued, held⟩ := digesting
  exact ⟨fileId, queued, abates.digests ticket fileId queued held⟩

theorem Abates.of_same (objects : after.objects = before.objects)
    (transfers : after.transfers = before.transfers) (calls : after.calls = before.calls) :
    Abates before after where
  named named fileId transfer found := named fileId transfer (objects ▸ found)
  digests _ _ _ held := calls ▸ held
  queue fileId enqueued := by
    rw [Enqueued, Sender.statusOf, objects, transfers] at enqueued
    exact enqueued

theorem Fades.abates (fades : Fades before after) : Abates before after where
  named _ := fades.named
  digests _ _ _ held := fades.calls ▸ held
  queue fileId enqueued := ⟨fades.listed fileId enqueued.1, fades.status fileId ▸ enqueued.2⟩

theorem Acts.abates (acts : Acts mine before after) : Abates before after where
  named := acts.named
  digests ticket fileId queued := acts.hashing
  queue fileId enqueued := by
    obtain ⟨listed, status⟩ := enqueued
    obtain ⟨new, stored, waiting⟩ := Option.map_eq_some_iff.mp status
    refine ⟨acts.listed listed, ?_⟩
    cases found : before.objects.get? fileId with
    | none =>
        rw [(acts.object fileId).2 found] at stored
        cases stored
    | some old =>
        obtain ⟨current, there, evolves⟩ := (acts.object fileId).1 old found
        cases there.symm.trans stored
        rw [statusOf_of_found found, evolves.waits waiting]

theorem sendDue_abates (self : Sender) (due : Option String) : Abates self (sendDue self due) where
  named named fileId transfer found := named fileId transfer (sendDue_objects self due ▸ found)
  digests ticket fileId queued held := by
    cases due with
    | none => exact held
    | some fileId =>
        simp only [sendDue, sendOffer, withTransfer] at held
        split at held
        · exact held
        · simp only [suspend, Callbacks.get?_add] at held
          split at held
          · cases held
          · exact held
  queue fileId enqueued := by
    rw [Enqueued, Sender.statusOf, sendDue_objects, sendDue_transfers] at enqueued
    exact enqueued

/-- The preparation of a turn registers a transfer only where it is offered or its digest ends. -/
theorem Prepared.abates (prepared : Prepared before event due middle) (kept : Named middle)
    (calm : ∀ fileId file queued, event ≠ .offer fileId file queued)
    (unhashed : ∀ ticket outcome, event = .settle ticket outcome → ¬Digesting before ticket) :
    Abates before middle := by
  cases prepared with
  | plain objects transfers notes calls timers =>
      refine ⟨fun _ => kept, fun ticket fileId queued held => calls ticket _ held, ?_⟩
      intro fileId enqueued
      rw [Enqueued, Sender.statusOf, objects, transfers] at enqueued
      exact enqueued
  | @acknowledged index transfer item found inside =>
      refine ⟨fun _ => kept, fun _ _ _ held => held, ?_⟩
      rintro fileId ⟨listed, status⟩
      refine ⟨listed, ?_⟩
      rw [statusOf_put] at status
      split at status
      · rename_i same
        obtain rfl : transfer.fileId = fileId := same
        rw [statusOf_of_found found]
        exact status
      · exact status
  | made absent => exact absurd rfl (calm _ _ _)
  | opened absent => exact absurd rfl (calm _ _ _)
  | hashed held found sha256 => exact absurd ⟨_, _, held⟩ (unhashed _ _ rfl)
  | @started transfer found listed waiting =>
      refine ⟨fun _ => kept, fun _ _ _ held => held, ?_⟩
      rintro fileId ⟨there, status⟩
      rw [statusOf_put] at status
      split at status
      · cases status
      · exact ⟨there, status⟩

theorem Turned.abates (turned : Turned before event after)
    (calm : ∀ fileId file queued, event ≠ .offer fileId file queued)
    (unhashed : ∀ ticket outcome, event = .settle ticket outcome → ¬Digesting before ticket) :
    Abates before after := by
  obtain ⟨due, middle, last, prepared, kept, acts, rfl⟩ := turned
  exact ((prepared.abates kept calm unhashed).trans acts.abates).trans (sendDue_abates last due)

/-- The end of a digest begins no other one. -/
theorem Turned.digesting (turned : Turned before event after)
    (calm : ∀ fileId file queued, event ≠ .offer fileId file queued)
    (digesting : Digesting after ticket) : Digesting before ticket := by
  obtain ⟨due, middle, last, prepared, _, acts, rfl⟩ := turned
  obtain ⟨fileId, queued, held⟩ := digesting
  refine ⟨fileId, queued, ?_⟩
  have earlier := acts.hashing ((sendDue_abates last due).digests _ _ _ held)
  cases prepared with
  | plain objects transfers notes calls timers => exact calls _ _ earlier
  | acknowledged found inside => exact earlier
  | made absent => exact absurd rfl (calm _ _ _)
  | opened absent => exact absurd rfl (calm _ _ _)
  | hashed held found sha256 => exact Callbacks.get?_of_remove earlier
  | started found listed waiting => exact earlier

/-- A call that has been taken up is gone. -/
theorem settled_gone (digest : Bytes → String) {outcome : Outcome} (named : Named before)
    (stepped : before.turn digest (.settle ticket outcome) = some after) :
    after.calls.get? ticket = none := by
  obtain ⟨⟨call, rest⟩, taken, rfl⟩ := Option.map_eq_some_iff.mp stepped
  obtain ⟨held, rfl⟩ := Callbacks.take_eq_some.mp taken
  have free : Named { before with calls := before.calls.remove ticket } := named
  have later := settle_later digest outcome free call
  have older : ticket < before.calls.next := Callbacks.get?_lt held
  cases left : ({ before with calls := before.calls.remove ticket }.settle digest outcome
      call).calls.get? ticket with
  | none => rfl
  | some other =>
      have removed : (before.calls.remove ticket).get? ticket = some other :=
        later.held ticket other older left
      rw [Callbacks.get?_remove, if_pos rfl] at removed
      cases removed

theorem register_digests (self : Sender) (fileId : String) (queued : Bool) {other : String}
    {late : Bool}
    (held : (self.register fileId queued).calls.get? ticket = some (.hashing other late)) :
    self.calls.get? ticket = some (.hashing other late) := by
  have emitted : ({ self with transfers := self.transfers.set fileId () }.emit fileId).calls =
      self.calls := by
    unfold emit withTransfer
    split <;> rfl
  unfold register at held
  dsimp only at held
  rw [← emitted]
  split at held
  · exact held
  · exact (sendDue_abates _ (some fileId)).digests ticket other late held

/-- A file whose digest is under way has been stored, and nothing else has changed. -/
theorem offer_digests {file : File} {queued late : Bool} {other : String}
    (undigested : Undigested before)
    (held : (before.offer fileId file queued).calls.get? ticket = some (.hashing other late)) :
    before.offer fileId file queued =
      (before.put (newTransfer before.files fileId file queued)).suspend (.hashing fileId queued) ∧
    ticket = before.calls.next ∧ late = queued := by
  unfold offer at held ⊢
  split at held
  · exact absurd ⟨other, late, held⟩ (undigested ticket)
  · dsimp only at held ⊢
    split at held
    · rename_i small
      rw [if_pos small]
      simp only [suspend, Callbacks.get?_add] at held
      split at held
      · rename_i same
        cases held
        exact ⟨rfl, same, rfl⟩
      · exact absurd ⟨other, late, held⟩ (undigested ticket)
    · have early := register_digests _ fileId queued held
      exact absurd ⟨other, late, early⟩ (undigested ticket)

/-- Such an event settles the call that waits for the digest. -/
theorem digested_settles (digested : before.digested event = true) : ∃ ticket outcome fileId,
    event = .settle ticket outcome ∧ before.calls.get? ticket = some (.hashing fileId false) := by
  cases event with
  | settle ticket outcome =>
      obtain ⟨call, held, kind⟩ := (Option.any_eq_true _ _).mp digested
      cases call with
      | hashing fileId queued =>
          cases queued with
          | false => exact ⟨ticket, outcome, fileId, rfl, held⟩
          | true => cases kind
      | _ => cases kind
  | _ => cases digested

theorem wakes_of_plain (plain : event.plain = true) : before.wakes event = none := by
  cases event <;> first | rfl | cases plain

/-- A transfer that does not wait in the queue is not started. -/
theorem startQueued_still (missing : ¬Enqueued before fileId) : before.startQueued fileId = before := by
  unfold startQueued withRegistered withTransfer
  split
  · rename_i listed
    split
    · rfl
    · rename_i transfer found
      refine if_pos (Or.inr fun waiting => missing ⟨listed, ?_⟩)
      rw [statusOf_of_found found, waiting]
  · rfl

end Turns

end OnlyTwo.FileSender
