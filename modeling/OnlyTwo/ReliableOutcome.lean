import OnlyTwo.Reliable

/-!
How often a reliable send is reported. Each turn of the channel creates at most
one id and settles some; `Turn` says so once for every event, and the ledger
invariants follow from it alone. A `sendPending` call that resumes with `false`
settles its id whether or not it is still pending, and that is the only way to
settle an id twice.
-/

namespace OnlyTwo.Reliable

open ReliableChannel

variable {Body : Type} {before after self : ReliableChannel Body} {notes : List (Note Body)}

/-- The note closes the account of this id: a report to the owner, or a reset
that dropped the id while it was pending. -/
def Settles (id : String) : Note Body → Bool
  | .onDelivered other _ => other = id
  | .onFailed other _ _ => other = id
  | .reset dropped => id ∈ dropped
  | _ => false

def outcomes (id : String) (history : List (Note Body)) : Nat := history.countP (Settles id)

theorem outcomes_append (id : String) (past later : List (Note Body)) :
    outcomes id (past ++ later) = outcomes id past + outcomes id later :=
  List.countP_append

def born : Event Body → List String
  | .send id _ _ _ => [id]
  | _ => []

def settled (self : ReliableChannel Body) : Event Body → List String
  | .sendResolved id false => [id]
  | .receive (.ack id) => if self.pending.has id then [id] else []
  | .receive (.nack id _) => if self.pending.has id then [id] else []
  | .fire handle =>
      match self.timers.take handle with
      | some (.expire id, _) => if self.pending.has id then [id] else []
      | _ => []
  | .failAll _ => self.pending.keys
  | .reset => self.pending.keys
  | _ => []

/-- `callbacks.send` answers `false` only for an id that is still pending. -/
def FailsWhilePending (self : ReliableChannel Body) (event : Event Body) : Prop :=
  ∀ id, event = .sendResolved id false → id ∈ self.pending.keys

structure WellFormed (channel : ReliableChannel Body) : Prop where
  named : ∀ id object, channel.objects.get? id = some object → object.id = id
  registered : ∀ id ∈ channel.pending.keys, id ∈ channel.objects.keys

/-- The effect of one turn on which ids exist, which are pending and which were
reported. -/
structure Turn (before after : ReliableChannel Body) (fresh gone : List String)
    (notes : List (Note Body)) : Prop where
  named : ∀ id object, after.objects.get? id = some object → object.id = id
  known : ∀ id, id ∈ after.objects.keys ↔ id ∈ before.objects.keys ∨ id ∈ fresh
  listed : ∀ id, id ∈ after.pending.keys ↔ (id ∈ before.pending.keys ∧ id ∉ gone) ∨ id ∈ fresh
  unborn : ∀ id ∈ fresh, id ∉ before.objects.keys
  reported : ∀ id, outcomes id notes = if id ∈ gone then 1 else 0
  created : ∀ id ∈ gone, id ∈ before.objects.keys

section Operations

theorem Turn.of_eq {fresh gone : List String}
    {result : ReliableChannel Body × List (Note Body)}
    (turn : Turn before result.1 fresh gone result.2) (same : result = (after, notes)) :
    Turn before after fresh gone notes := by
  subst same
  exact turn

theorem named_set {objects : InsertionMap String (PendingReliable Body)}
    (named : ∀ id object, objects.get? id = some object → object.id = id)
    {key : String} {pending : PendingReliable Body} (same : pending.id = key) :
    ∀ id object, (objects.set key pending).get? id = some object → object.id = id := by
  intro id object found
  rw [InsertionMap.get?_set] at found
  split at found
  · rename_i hit
    cases found
    exact same.trans hit.symm
  · exact named id object found

/-- A turn that creates and settles nothing. -/
theorem Turn.quiet (formed : WellFormed before) (objects : after.objects = before.objects)
    (pending : after.pending = before.pending) (silent : ∀ id, outcomes id notes = 0) :
    Turn before after [] [] notes where
  named := by rw [objects]; exact formed.named
  known := by simp [objects]
  listed := by simp [pending]
  unborn := by simp
  reported := by simp [silent]
  created := by simp

/-- A turn that replaces the object of a known id and settles nothing. -/
theorem Turn.updated (formed : WellFormed before) (pending : PendingReliable Body)
    (known : pending.id ∈ before.objects.keys)
    (objects : after.objects = before.objects.set pending.id pending)
    (same : after.pending = before.pending) (silent : ∀ id, outcomes id notes = 0) :
    Turn before after [] [] notes where
  named := by rw [objects]; exact named_set formed.named rfl
  known := by
    intro id
    rw [objects, InsertionMap.mem_keys_set]
    constructor
    · rintro (rfl | old)
      · exact Or.inl known
      · exact Or.inl old
    · rintro (old | none)
      · exact Or.inr old
      · simp at none
  listed := by simp [same]
  unborn := by simp
  reported := by simp [silent]
  created := by simp

/-- A turn that clears one known id and reports it once. -/
theorem Turn.cleared (formed : WellFormed before) {pending : PendingReliable Body}
    (known : pending.id ∈ before.objects.keys) (objects : after.objects = before.objects)
    (removed : after.pending = before.pending.delete pending.id)
    (reported : ∀ id, outcomes id notes = if pending.id = id then 1 else 0) :
    Turn before after [] [pending.id] notes where
  named := by rw [objects]; exact formed.named
  known := by simp [objects]
  listed := by
    intro id
    rw [removed, InsertionMap.mem_keys_delete]
    simp [and_comm]
  unborn := by simp
  reported := by
    intro id
    simp [reported, eq_comm]
  created := by simpa using known

theorem send_turn (formed : WellFormed self) {id : String} (trackingId : Option String)
    (channel : ReliableChannelName) (body : Body) (new : ¬ self.objects.has id) :
    Turn self (self.send id trackingId channel body).1 [id] []
      (self.send id trackingId channel body).2 := by
  rw [InsertionMap.has_iff] at new
  have present : (self.pending.set id ()).has id = true := by
    rw [InsertionMap.has_iff, InsertionMap.mem_keys_set]
    exact Or.inl rfl
  simp only [send, sendPending, present, ↓reduceIte]
  refine ⟨?_, ?_, ?_, ?_, ?_, ?_⟩
  · refine named_set (named_set formed.named ?_) ?_ <;> rfl
  · intro other
    simp only [InsertionMap.mem_keys_set, List.mem_singleton]
    tauto
  · intro other
    simp only [InsertionMap.mem_keys_set, List.not_mem_nil, not_false_eq_true, and_true,
      List.mem_singleton]
    tauto
  · simpa using new
  · intro other
    simp [outcomes, Settles]
  · simp

theorem sendPending_turn (formed : WellFormed self) {pending : PendingReliable Body}
    (known : pending.id ∈ self.objects.keys) :
    Turn self (self.sendPending pending).1 [] [] (self.sendPending pending).2 := by
  by_cases listed : self.pending.has pending.id
  · simp only [sendPending, listed, ↓reduceIte]
    refine Turn.updated formed
      { pending with attempts := pending.attempts + 1, lastSentAt := self.now }
      known rfl rfl ?_
    simp [outcomes, Settles]
  · simp only [sendPending, listed]
    exact Turn.quiet formed rfl rfl (by simp [outcomes, Settles])

theorem sendResolved_turn (formed : WellFormed self) {pending : PendingReliable Body}
    (known : pending.id ∈ self.objects.keys) (ok : Bool) :
    Turn self (self.sendResolved pending ok).1 [] (settled self (.sendResolved pending.id ok))
      (self.sendResolved pending ok).2 := by
  cases ok with
  | true =>
      refine Turn.updated formed
        { pending with timer := some (self.timers.cancel pending.timer).next }
        known rfl rfl ?_
      simp [sendResolved, outcomes, Settles]
  | false =>
      refine Turn.cleared formed known rfl rfl ?_
      intro id
      simp [sendResolved, failPending, outcomes, Settles, List.countP_cons]

theorem lookup_some {id : String} {pending : PendingReliable Body}
    (found : self.lookup id = some pending) :
    self.pending.has id = true ∧ self.objects.get? id = some pending := by
  simp only [lookup] at found
  split at found
  · rename_i listed
    exact ⟨listed, found⟩
  · cases found

theorem lookup_none (formed : WellFormed self) {id : String} (missing : self.lookup id = none) :
    ¬ self.pending.has id = true := by
  intro listed
  simp only [lookup, listed, ↓reduceIte, InsertionMap.get?_eq_none_iff] at missing
  rw [InsertionMap.has_iff] at listed
  exact missing (formed.registered id listed)

theorem sweepSeen_formed (formed : WellFormed self) : WellFormed self.sweepSeen :=
  ⟨formed.named, formed.registered⟩

/-- An ACK or a NACK settles the id if it is pending and is ignored otherwise. -/
theorem answer_turn (formed : WellFormed self) (id : String)
    (report : PendingReliable Body → Note Body)
    (reports : ∀ pending other, outcomes other [report pending] = if id = other then 1 else 0) :
    Turn self
      (match self.sweepSeen.lookup id with
        | none => (self.sweepSeen, [])
        | some pending => (self.sweepSeen.clearPending pending, [report pending])).1
      [] (if self.pending.has id then [id] else [])
      (match self.sweepSeen.lookup id with
        | none => (self.sweepSeen, [])
        | some pending => (self.sweepSeen.clearPending pending, [report pending])).2 := by
  cases found : self.sweepSeen.lookup id with
  | none =>
      have unlisted : ¬ self.pending.has id = true := lookup_none (sweepSeen_formed formed) found
      rw [if_neg unlisted]
      exact Turn.quiet formed rfl rfl (by simp [outcomes])
  | some pending =>
      obtain ⟨listed, stored⟩ := lookup_some found
      have listed' : self.pending.has id = true := listed
      have same : pending.id = id := formed.named id pending stored
      rw [if_pos listed', ← same]
      refine Turn.cleared formed ?_ rfl rfl ?_
      · rw [same]
        exact InsertionMap.mem_keys_of_get? stored
      · intro other
        rw [same]
        exact reports pending other

theorem receive_turn (formed : WellFormed self) (message : ReliableEnvelopeMessage Body) :
    Turn self (self.receive message).1 [] (settled self (.receive message))
      (self.receive message).2 := by
  cases message with
  | ack id =>
      exact answer_turn formed id (fun pending => .onDelivered id pending.trackingId)
        (by intro pending other; simp [outcomes, Settles, List.countP_cons])
  | nack id reason =>
      exact answer_turn formed id (fun pending => .onFailed id pending.trackingId reason)
        (by intro pending other; simp [outcomes, Settles, List.countP_cons])
  | msg id channel body createdAt attempt =>
      exact Turn.quiet formed rfl rfl (by simp [receive, outcomes, Settles])

theorem ackSent_turn (formed : WellFormed self) (index : Nat) (call : Receipt Body) :
    Turn self (self.ackSent index call).1 [] [] (self.ackSent index call).2 := by
  by_cases duplicate : self.seen.has call.id
  · simp only [ackSent, duplicate, ↓reduceIte]
    exact Turn.quiet formed rfl rfl (by simp [outcomes, Settles])
  · simp only [ackSent, duplicate]
    exact Turn.quiet formed rfl rfl (by simp [outcomes, Settles])

/-- The loop of `failAll` reports each id of its snapshot once. -/
theorem failEach_turn (reason : String) (ids : List String) (formed : WellFormed self)
    (distinct : ids.Nodup) (known : ∀ id ∈ ids, id ∈ self.objects.keys) :
    Turn self (failEach reason ids self).1 [] ids (failEach reason ids self).2 := by
  induction ids generalizing self with
  | nil => exact Turn.quiet formed rfl rfl (by simp [failEach, outcomes])
  | cons id rest ih =>
      have here := known id List.mem_cons_self
      rw [← InsertionMap.has_iff, InsertionMap.has, Option.isSome_iff_exists] at here
      obtain ⟨pending, stored⟩ := here
      have same : pending.id = id := formed.named id pending stored
      obtain ⟨absent, distinctRest⟩ := List.nodup_cons.mp distinct
      have first : WellFormed (self.clearPending pending) := by
        refine ⟨formed.named, ?_⟩
        intro other listed
        exact formed.registered other ((InsertionMap.mem_keys_delete _ _ _).mp listed).2
      have others := ih first distinctRest
        (fun other member => known other (List.mem_cons_of_mem id member))
      simp only [failEach, stored, failPending]
      refine ⟨others.named, others.known, ?_, by simp, ?_, known⟩
      · intro other
        rw [others.listed]
        simp only [clearPending, InsertionMap.mem_keys_delete, same, List.mem_cons,
          List.not_mem_nil, or_false, not_or]
        tauto
      · intro other
        rw [List.singleton_append, outcomes, List.countP_cons]
        have counted := others.reported other
        rw [outcomes] at counted
        rw [counted]
        simp only [Settles, same, decide_eq_true_eq, List.mem_cons]
        by_cases hit : id = other
        · subst hit
          simp [absent]
        · simp [hit, Ne.symm hit]

theorem reset_turn (formed : WellFormed self) :
    Turn self self.reset.1 [] self.pending.keys self.reset.2 where
  named := formed.named
  known := by simp [reset]
  listed := by simp [reset]
  unborn := by simp
  reported := by simp [reset, outcomes, Settles, List.countP_cons]
  created := formed.registered

def RetryTask.id : RetryTask → String
  | .resend id => id
  | .expire id => id

/-- What the callback of a fired timer can do. -/
inductive Fires (self : ReliableChannel Body) :
    RetryTask → ReliableChannel Body → List (Note Body) → Prop where
  | resend (pending : PendingReliable Body) {id : String} {after : ReliableChannel Body}
      {notes : List (Note Body)} (listed : self.pending.has id = true)
      (stored : self.objects.get? id = some pending)
      (sent : self.sendPending pending = (after, notes)) : Fires self (.resend id) after notes
  | expire (pending : PendingReliable Body) {id : String} (listed : self.pending.has id = true)
      (stored : self.objects.get? id = some pending) :
      Fires self (.expire id) (self.clearPending pending)
        [.onFailed pending.id pending.trackingId "Message delivery timed out"]
  | idle {task : RetryTask} (unlisted : ¬ self.pending.has task.id = true) : Fires self task self []

theorem runTimer_fires {task : RetryTask} (stepped : self.runTimer task = some (after, notes)) :
    Fires self task after notes := by
  cases task with
  | resend id =>
      simp only [runTimer] at stepped
      split at stepped
      · rename_i listed
        obtain ⟨pending, stored, sent⟩ := Option.map_eq_some_iff.mp stepped
        exact .resend pending listed stored sent
      · rename_i unlisted
        cases stepped
        exact .idle unlisted
  | expire id =>
      simp only [runTimer] at stepped
      split at stepped
      · rename_i listed
        obtain ⟨pending, stored, failed⟩ := Option.map_eq_some_iff.mp stepped
        cases failed
        exact .expire pending listed stored
      · rename_i unlisted
        cases stepped
        exact .idle unlisted

theorem fire_turn (formed : WellFormed self) {handle : Nat}
    (stepped : self.step (.fire handle) = some (after, notes)) :
    Turn self after [] (settled self (.fire handle)) notes := by
  simp only [step] at stepped
  simp only [settled]
  cases fired : self.timers.take handle with
  | none => simp [fired] at stepped
  | some result =>
      obtain ⟨task, timers⟩ := result
      simp only [fired] at stepped
      have ready : WellFormed { self with timers } := ⟨formed.named, formed.registered⟩
      cases runTimer_fires stepped with
      | resend pending listed stored sent =>
          have same := formed.named _ pending stored
          have turn := sendPending_turn ready
            (same ▸ InsertionMap.mem_keys_of_get? stored : pending.id ∈ self.objects.keys)
          have moved := turn.of_eq sent
          exact ⟨moved.named, moved.known, moved.listed, moved.unborn, moved.reported,
            moved.created⟩
      | expire pending listed stored =>
          have same := formed.named _ pending stored
          subst same
          simp only [show self.pending.has pending.id = true from listed, ↓reduceIte]
          refine Turn.cleared formed (InsertionMap.mem_keys_of_get? stored) rfl rfl ?_
          intro other
          simp [outcomes, Settles, List.countP_cons]
      | idle unlisted =>
          cases task with
          | resend id => exact Turn.quiet formed rfl rfl (by simp [outcomes])
          | expire id =>
              simp only [show ¬ self.pending.has id = true from unlisted]
              exact Turn.quiet formed rfl rfl (by simp [outcomes])

/-- What any event does to the ledger. -/
theorem step_turn (formed : WellFormed self) (event : Event Body)
    (stepped : self.step event = some (after, notes)) :
    Turn self after (born event) (settled self event) notes := by
  cases event with
  | send id trackingId channel body =>
      simp only [step] at stepped
      split at stepped
      · cases stepped
      · rename_i new
        exact (send_turn formed trackingId channel body new).of_eq (Option.some.inj stepped)
  | sendResolved id ok =>
      simp only [step] at stepped
      split at stepped
      · obtain ⟨pending, stored, resumed⟩ := Option.map_eq_some_iff.mp stepped
        have same : pending.id = id := formed.named id pending stored
        have known : pending.id ∈ self.objects.keys := by
          rw [same]
          exact InsertionMap.mem_keys_of_get? stored
        rw [← same]
        exact (sendResolved_turn formed known ok).of_eq resumed
      · cases stepped
  | receive message =>
      exact (receive_turn formed message).of_eq (Option.some.inj stepped)
  | ackSent index =>
      obtain ⟨call, _, resumed⟩ := Option.map_eq_some_iff.mp stepped
      exact (ackSent_turn formed index call).of_eq resumed
  | fire handle => exact fire_turn formed stepped
  | failAll reason =>
      -- The ids are taken before the loop, so none is reported twice.
      exact (failEach_turn reason self.pending.keys formed self.pending.keys_nodup
        formed.registered).of_eq (Option.some.inj stepped)
  | reset => exact (reset_turn formed).of_eq (Option.some.inj stepped)
  | tick elapsed =>
      cases stepped
      exact Turn.quiet formed rfl rfl (by simp [outcomes])

end Operations

section Ledger

/-- Where the account of every id stands after a history. -/
structure Ledger (channel : ReliableChannel Body) (history : List (Note Body)) : Prop where
  formed : WellFormed channel
  unknown : ∀ id, id ∉ channel.objects.keys → outcomes id history = 0
  opened : ∀ id ∈ channel.pending.keys, outcomes id history = 0
  closed : ∀ id ∈ channel.objects.keys, id ∉ channel.pending.keys → 1 ≤ outcomes id history

theorem create_ledger (policy : ReliablePolicy) : Ledger (create policy : ReliableChannel Body) [] where
  formed := ⟨by simp [create], by simp [create]⟩
  unknown := by simp [outcomes]
  opened := by simp [outcomes]
  closed := by simp [create]

theorem Turn.ledger {past : List (Note Body)} {fresh gone : List String}
    (turn : Turn before after fresh gone notes) (ledger : Ledger before past) :
    Ledger after (past ++ notes) where
  formed := by
    refine ⟨turn.named, ?_⟩
    intro id listed
    rw [turn.known]
    rcases (turn.listed id).mp listed with ⟨old, _⟩ | new
    · exact Or.inl (ledger.formed.registered id old)
    · exact Or.inr new
  unknown := by
    intro id absent
    rw [turn.known, not_or] at absent
    rw [outcomes_append, ledger.unknown id absent.1, turn.reported,
      if_neg (fun member => absent.1 (turn.created id member))]
  opened := by
    intro id listed
    rw [outcomes_append, turn.reported]
    rcases (turn.listed id).mp listed with ⟨old, stays⟩ | new
    · rw [ledger.opened id old, if_neg stays]
    · have absent := turn.unborn id new
      rw [ledger.unknown id absent, if_neg (fun member => absent (turn.created id member))]
  closed := by
    intro id present unlisted
    rw [turn.listed, not_or, not_and_not_right] at unlisted
    rw [outcomes_append, turn.reported]
    rcases (turn.known id).mp present with old | new
    · by_cases open_ : id ∈ before.pending.keys
      · rw [if_pos (unlisted.1 open_)]
        omega
      · have settledOnce := ledger.closed id old open_
        omega
    · exact absurd new unlisted.2

/-- A turn that settles only pending ids keeps every account at one report. -/
theorem Turn.once {past : List (Note Body)} {fresh gone : List String}
    (turn : Turn before after fresh gone notes) (ledger : Ledger before past)
    (pending : ∀ id ∈ gone, id ∈ before.pending.keys) {id : String}
    (once : outcomes id past ≤ 1) : outcomes id (past ++ notes) ≤ 1 := by
  rw [outcomes_append, turn.reported]
  by_cases hit : id ∈ gone
  · simp [ledger.opened id (pending id hit), hit]
  · simpa [hit] using once

theorem settled_pending {event : Event Body} (fails : FailsWhilePending self event) :
    ∀ id ∈ settled self event, id ∈ self.pending.keys := by
  intro id member
  cases event with
  | sendResolved other ok =>
      cases ok with
      | true => simp [settled] at member
      | false =>
          rw [settled, List.mem_singleton] at member
          exact member ▸ fails other rfl
  | receive message =>
      cases message <;> simp [settled] at member
      all_goals exact (InsertionMap.has_iff _ _).mp (member.2 ▸ member.1)
  | fire handle =>
      simp only [settled] at member
      split at member
      · split at member
        · rename_i listed
          rw [List.mem_singleton] at member
          exact member ▸ (InsertionMap.has_iff _ _).mp listed
        · simp at member
      · simp at member
  | failAll reason => exact member
  | reset => exact member
  | send _ _ _ _ => simp [settled] at member
  | ackSent _ => simp [settled] at member
  | tick _ => simp [settled] at member

/-- Whatever comes after, an account with two reports keeps them. -/
theorem outcomes_mono (id : String) (past later : List (Note Body)) :
    outcomes id past ≤ outcomes id (past ++ later) := by
  rw [outcomes_append]
  omega

/-- From any state with a sound ledger, an execution leaves every account at
one report or none exactly when each of its steps meets the condition. -/
theorem execute_once_iff (events : List (Event Body)) {past : List (Note Body)}
    (ledger : Ledger before past) (once : ∀ id, outcomes id past ≤ 1)
    (ran : (machine Body).execute before events = some (after, notes)) :
    (∀ id, outcomes id (past ++ notes) ≤ 1) ↔
      (machine Body).Along FailsWhilePending before events := by
  induction events generalizing before past notes with
  | nil =>
      simp only [Machine.execute, Option.some.injEq, Prod.mk.injEq] at ran
      obtain ⟨rfl, rfl⟩ := ran
      simp [Machine.Along, once]
  | cons event rest ih =>
      obtain ⟨next, first, later, stepped, remaining, rfl⟩ := Machine.execute_cons.mp ran
      have turn := step_turn ledger.formed event stepped
      rw [← List.append_assoc]
      constructor
      · intro all
        -- An id that is settled here was pending, or its second report is in `first`.
        have meets : FailsWhilePending before event := by
          rintro id rfl
          apply Classical.byContradiction
          intro unlisted
          have gone : id ∈ settled before (.sendResolved id false) := by simp [settled]
          have earlier := ledger.closed id (turn.created id gone) unlisted
          have twice : outcomes id (past ++ first) = outcomes id past + 1 := by
            rw [outcomes_append, turn.reported, if_pos gone]
          have kept := outcomes_mono id (past ++ first) later
          have bound := all id
          omega
        refine ⟨meets, ?_⟩
        intro other outputs same
        cases stepped.symm.trans same
        exact (ih (turn.ledger ledger)
          (fun id => turn.once ledger (settled_pending meets) (once id)) remaining).mp all
      · rintro ⟨meets, along⟩
        exact (ih (turn.ledger ledger)
          (fun id => turn.once ledger (settled_pending meets) (once id)) remaining).mpr
          (along next first stepped)

/-- Over every run of a channel each id is reported at most once, nothing is
reported after a reset that dropped it, and a delivered message is not reported
failed, exactly when `callbacks.send` never answers `false` for an id that has
already left `pending`. -/
theorem one_outcome_iff (Body : Type) (policy : ReliablePolicy) (events : List (Event Body))
    (final : ReliableChannel Body) (history : List (Note Body))
    (ran : (machine Body).execute (create policy) events = some (final, history)) :
    (∀ id, outcomes id history ≤ 1) ↔
      (machine Body).Along FailsWhilePending (create policy) events :=
  execute_once_iff events (create_ledger policy) (by simp [outcomes]) ran

/-- A send whose retry is answered by the ACK of its first transmission, and
the retry then resolves. -/
def retriedSend (ok : Bool) : List (Event String) :=
  [.send "m" none .text "hello", .sendResolved "m" true, .fire 0, .receive (.ack "m"),
    .sendResolved "m" ok]

theorem retried_send_reported_once :
    ∃ final history,
      (machine String).execute (create defaultPolicy) (retriedSend true) = some (final, history) ∧
      ((∀ id, outcomes id history ≤ 1) ↔
        (machine String).Along FailsWhilePending (create defaultPolicy) (retriedSend true)) := by
  have ran : ((machine String).execute (create defaultPolicy) (retriedSend true)).isSome = true := by
    decide +kernel
  obtain ⟨⟨final, history⟩, executed⟩ := Option.isSome_iff_exists.mp ran
  exact ⟨final, history, executed,
    one_outcome_iff String defaultPolicy (retriedSend true) final history executed⟩

/-- The ACK reports the message delivered, and the retry that was suspended
meanwhile reports it failed. -/
theorem late_failure_reported_after_delivery :
    ¬ ∀ (policy : ReliablePolicy) (events : List (Event String)) (final : ReliableChannel String)
      (history : List (Note String)),
      (machine String).execute (create policy) events = some (final, history) →
      ∀ id, outcomes id history ≤ 1 := by
  intro once
  have ran : ((machine String).execute (create defaultPolicy) (retriedSend false)).map
      (fun result => outcomes "m" result.2) = some 2 := by decide +kernel
  obtain ⟨⟨final, history⟩, executed, twice⟩ := Option.map_eq_some_iff.mp ran
  have bound := once defaultPolicy (retriedSend false) final history executed "m"
  simp only at twice
  omega

end Ledger

end OnlyTwo.Reliable
