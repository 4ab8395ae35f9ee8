import Mathlib.Logic.Function.Basic
import OnlyTwo.ReliableOutcome

/-!
Two channels joined by a network that loses, duplicates and reorders frames.
On one channel, a `receive` call is followed from the start that acknowledges
the message to the finish that returns its body or drops it as a duplicate;
across the two, an ACK on the wire is traced back to a call of the peer.
-/

namespace OnlyTwo.Reliable

open ReliableChannel

variable {Body : Type} {before after self : ReliableChannel Body} {notes : List (Note Body)}

section Receiving

/-- Notes of the two ends of a `receive` call. -/
def IsReceipt : Note Body → Bool
  | .started _ _ _ => true
  | .finished _ _ _ => true
  | _ => false

/-- The state a `receive` call can observe, when no call starts or finishes. A
sweep may drop entries that have expired. -/
structure Bystander (before after : ReliableChannel Body) : Prop where
  policy : after.policy = before.policy
  clock : before.now ≤ after.now
  kept : ∀ id expiresAt, before.seen.get? id = some expiresAt →
    after.seen.get? id = some expiresAt ∨ expiresAt ≤ after.now
  subset : ∀ id ∈ after.seen.keys, id ∈ before.seen.keys

/-- How a step concerns the `receive` calls of its channel. -/
inductive ReceiveStep (before : ReliableChannel Body) :
    ReliableChannel Body → List (Note Body) → Prop where
  | other {after : ReliableChannel Body} {notes : List (Note Body)}
      (bystander : Bystander before after) (calls : after.receiving = before.receiving)
      (silent : ∀ note ∈ notes, IsReceipt note = false) : ReceiveStep before after notes
  | start {after : ReliableChannel Body} (id : String) (body : Body)
      (bystander : Bystander before after)
      (calls : after.receiving = before.receiving ++ [⟨id, body⟩]) :
      ReceiveStep before after [.started id body before.now, .transmit (.ack id) .control]
  | duplicate (index : Nat) (call : Receipt Body)
      (suspended : before.receiving[index]? = some call) (seen : call.id ∈ before.seen.keys) :
      ReceiveStep before { before with receiving := before.receiving.eraseIdx index }
        [.onDuplicate call.id, .finished call.id none before.now]
  | accept (index : Nat) (call : Receipt Body)
      (suspended : before.receiving[index]? = some call) (new : call.id ∉ before.seen.keys) :
      ReceiveStep before
        { before with
          receiving := before.receiving.eraseIdx index
          seen := before.seen.set call.id (before.now + before.policy.seenTtlMs) }
        [.finished call.id (some call.body) before.now]

theorem Bystander.of_eq (policy : after.policy = before.policy) (clock : before.now ≤ after.now)
    (seen : after.seen = before.seen) : Bystander before after :=
  ⟨policy, clock, fun _ _ found => Or.inl (seen ▸ found), fun _ present => seen ▸ present⟩

theorem sweepSeen_bystander (self : ReliableChannel Body) : Bystander self self.sweepSeen where
  policy := rfl
  clock := Nat.le_refl _
  kept := by
    intro id expiresAt found
    by_cases live : self.now < expiresAt
    · refine Or.inl ((InsertionMap.get?_filter_eq_some_iff _ _ _ _).mpr ⟨found, ?_⟩)
      simpa using live
    · exact Or.inr (Nat.le_of_not_lt live)
  subset := by
    intro id present
    rw [← InsertionMap.has_iff, InsertionMap.has, Option.isSome_iff_exists] at present
    obtain ⟨expiresAt, found⟩ := present
    exact InsertionMap.mem_keys_of_get? ((InsertionMap.get?_filter_eq_some_iff _ _ _ _).mp found).1

theorem ReceiveStep.of_eq {result : ReliableChannel Body × List (Note Body)}
    (same : result = (after, notes)) (step : ReceiveStep before result.1 result.2) :
    ReceiveStep before after notes := by
  subst same
  exact step

theorem sendPending_receives (pending : PendingReliable Body)
    (bystander : Bystander before self) (calls : self.receiving = before.receiving) :
    ReceiveStep before (self.sendPending pending).1 (self.sendPending pending).2 := by
  simp only [sendPending]
  split
  · exact .other ⟨bystander.policy, bystander.clock, bystander.kept, bystander.subset⟩ calls
      (by simp [IsReceipt])
  · exact .other bystander calls (by simp [IsReceipt])

theorem receive_receives (message : ReliableEnvelopeMessage Body) :
    ReceiveStep self (self.receive message).1 (self.receive message).2 := by
  have swept := sweepSeen_bystander self
  cases message with
  | msg id channel body createdAt attempt =>
      exact .start id body ⟨swept.policy, swept.clock, swept.kept, swept.subset⟩ rfl
  | ack id =>
      simp only [receive]
      split
      · exact .other swept rfl (by simp)
      · exact .other ⟨swept.policy, swept.clock, swept.kept, swept.subset⟩ rfl
          (by simp [IsReceipt])
  | nack id reason =>
      simp only [receive]
      split
      · exact .other swept rfl (by simp)
      · exact .other ⟨swept.policy, swept.clock, swept.kept, swept.subset⟩ rfl
          (by simp [IsReceipt])

theorem ackSent_receives {index : Nat} {call : Receipt Body}
    (suspended : self.receiving[index]? = some call) :
    ReceiveStep self (self.ackSent index call).1 (self.ackSent index call).2 := by
  by_cases seen : self.seen.has call.id
  · simp only [ackSent, seen, ↓reduceIte]
    exact .duplicate index call suspended ((InsertionMap.has_iff _ _).mp seen)
  · simp only [ackSent, seen]
    exact .accept index call suspended (fun present => seen ((InsertionMap.has_iff _ _).mpr present))

/-- `failAll` changes nothing a `receive` call can see and only reports failures. -/
theorem failEach_frame (reason : String) (ids : List String) (self : ReliableChannel Body) :
    (failEach reason ids self).1.policy = self.policy ∧
      (failEach reason ids self).1.now = self.now ∧
      (failEach reason ids self).1.seen = self.seen ∧
      (failEach reason ids self).1.receiving = self.receiving ∧
      (failEach reason ids self).1.objects = self.objects ∧
      ∀ note ∈ (failEach reason ids self).2, ∃ id trackingId, note = .onFailed id trackingId reason := by
  induction ids generalizing self with
  | nil => simp [failEach]
  | cons id rest ih =>
      simp only [failEach]
      cases stored : self.objects.get? id with
      | none => exact ih self
      | some pending =>
          obtain ⟨policy, now, seen, receiving, objects, reported⟩ := ih (self.clearPending pending)
          refine ⟨policy, now, seen, receiving, objects, ?_⟩
          intro note member
          rcases List.mem_append.mp member with first | later
          · exact ⟨_, _, List.mem_singleton.mp first⟩
          · exact reported note later

theorem runTimer_receives {timers : Callbacks RetryTask} {task : RetryTask}
    (stepped : { self with timers }.runTimer task = some (after, notes)) :
    ReceiveStep self after notes := by
  cases runTimer_fires stepped with
  | resend pending _ _ sent =>
      exact .of_eq sent (sendPending_receives pending (.of_eq rfl (Nat.le_refl _) rfl) rfl)
  | expire pending => exact .other (.of_eq rfl (Nat.le_refl _) rfl) rfl (by simp [IsReceipt])
  | idle => exact .other (.of_eq rfl (Nat.le_refl _) rfl) rfl (by simp)

/-- Every step other than a reset is of one of the four kinds. -/
theorem step_receives {event : Event Body} (kept : event ≠ .reset)
    (stepped : self.step event = some (after, notes)) : ReceiveStep self after notes := by
  cases event with
  | send id trackingId channel body =>
      simp only [step] at stepped
      split at stepped
      · cases stepped
      · exact .of_eq (Option.some.inj stepped)
          (sendPending_receives _ (.of_eq rfl (Nat.le_refl _) rfl) rfl)
  | sendResolved id ok =>
      simp only [step] at stepped
      split at stepped
      · obtain ⟨pending, _, resumed⟩ := Option.map_eq_some_iff.mp stepped
        cases ok with
        | true =>
            cases resumed
            exact .other (.of_eq rfl (Nat.le_refl _) rfl) rfl (by simp [IsReceipt])
        | false =>
            cases resumed
            exact .other (.of_eq rfl (Nat.le_refl _) rfl) rfl (by simp [IsReceipt, failPending])
      · cases stepped
  | receive message => exact .of_eq (Option.some.inj stepped) (receive_receives message)
  | ackSent index =>
      obtain ⟨call, suspended, resumed⟩ := Option.map_eq_some_iff.mp stepped
      exact .of_eq resumed (ackSent_receives suspended)
  | fire handle =>
      simp only [step] at stepped
      split at stepped
      · cases stepped
      · exact runTimer_receives stepped
  | failAll reason =>
      obtain ⟨policy, now, seen, receiving, _, reported⟩ :=
        failEach_frame reason self.pending.keys self
      refine .of_eq (Option.some.inj stepped)
        (.other (.of_eq policy (Nat.le_of_eq now.symm) seen) receiving ?_)
      intro note member
      obtain ⟨id, trackingId, rfl⟩ := reported note member
      rfl
  | reset => exact absurd rfl kept
  | tick elapsed =>
      cases stepped
      exact .other (.of_eq rfl (Nat.le_add_right _ _) rfl) rfl (by simp)

/-- What the notes of a channel say about its suspended calls and its `seen` map. -/
structure Received (ttl : Nat) (channel : ReliableChannel Body) (history : List (Note Body)) :
    Prop where
  policy : channel.policy.seenTtlMs = ttl
  calls : ∀ call ∈ channel.receiving, ∃ start, .started call.id call.body start ∈ history ∧
    start ≤ channel.now
  paired : ∀ id body time, .finished id (some body) time ∈ history →
    time ≤ channel.now ∧ ∃ start, .started id body start ∈ history ∧ start ≤ time
  remembered : ∀ id body time, .finished id (some body) time ∈ history →
    (∃ expiresAt, channel.seen.get? id = some expiresAt ∧ time + ttl ≤ expiresAt) ∨
      time + ttl ≤ channel.now
  recorded : ∀ id ∈ channel.seen.keys, ∃ body time, .finished id (some body) time ∈ history
  progress : ∀ id body start, .started id body start ∈ history →
    (∃ other time, .finished id (some other) time ∈ history) ∨
      ((⟨id, body⟩ : Receipt Body) ∈ channel.receiving ∧ id ∉ channel.seen.keys)

theorem create_received (policy : ReliablePolicy) :
    Received policy.seenTtlMs (create policy : ReliableChannel Body) [] where
  policy := rfl
  calls := by simp [create]
  paired := by simp
  remembered := by simp
  recorded := by simp [create]
  progress := by simp

variable {ttl : Nat} {past : List (Note Body)}

theorem silent_started {id : String} {body : Body} {time : Nat}
    (silent : ∀ note ∈ notes, IsReceipt note = false)
    (member : .started id body time ∈ past ++ notes) : .started id body time ∈ past := by
  rcases List.mem_append.mp member with old | new
  · exact old
  · exact absurd (silent _ new) (by simp [IsReceipt])

theorem silent_finished {id : String} {result : Option Body} {time : Nat}
    (silent : ∀ note ∈ notes, IsReceipt note = false)
    (member : .finished id result time ∈ past ++ notes) : .finished id result time ∈ past := by
  rcases List.mem_append.mp member with old | new
  · exact old
  · exact absurd (silent _ new) (by simp [IsReceipt])

/-- An entry that a bystander step drops has expired. -/
theorem Bystander.remembers (bystander : Bystander before after) {id : String} {time : Nat}
    (remembered : (∃ expiresAt, before.seen.get? id = some expiresAt ∧ time + ttl ≤ expiresAt) ∨
      time + ttl ≤ before.now) :
    (∃ expiresAt, after.seen.get? id = some expiresAt ∧ time + ttl ≤ expiresAt) ∨
      time + ttl ≤ after.now := by
  have clock := bystander.clock
  rcases remembered with ⟨expiresAt, found, bound⟩ | expired
  · rcases bystander.kept id expiresAt found with still | dropped
    · exact Or.inl ⟨expiresAt, still, bound⟩
    · exact Or.inr (by omega)
  · exact Or.inr (by omega)

theorem Received.other (received : Received ttl before past) (bystander : Bystander before after)
    (calls : after.receiving = before.receiving)
    (silent : ∀ note ∈ notes, IsReceipt note = false) :
    Received ttl after (past ++ notes) where
  policy := by rw [bystander.policy, received.policy]
  calls := by
    intro call member
    obtain ⟨start, noted, earlier⟩ := received.calls call (calls ▸ member)
    exact ⟨start, List.mem_append_left _ noted, Nat.le_trans earlier bystander.clock⟩
  paired := by
    intro id body time finished
    obtain ⟨bound, start, noted, earlier⟩ := received.paired id body time
      (silent_finished silent finished)
    exact ⟨Nat.le_trans bound bystander.clock, start, List.mem_append_left _ noted, earlier⟩
  remembered := by
    intro id body time finished
    exact bystander.remembers (received.remembered id body time (silent_finished silent finished))
  recorded := by
    intro id present
    obtain ⟨body, time, finished⟩ := received.recorded id (bystander.subset id present)
    exact ⟨body, time, List.mem_append_left _ finished⟩
  progress := by
    intro id body start noted
    rcases received.progress id body start (silent_started silent noted) with
      ⟨other, time, finished⟩ | ⟨waiting, unseen⟩
    · exact Or.inl ⟨other, time, List.mem_append_left _ finished⟩
    · exact Or.inr ⟨calls ▸ waiting, fun present => unseen (bystander.subset id present)⟩

theorem Received.start (received : Received ttl before past) (id : String) (body : Body)
    (bystander : Bystander before after)
    (calls : after.receiving = before.receiving ++ [⟨id, body⟩]) :
    Received ttl after
      (past ++ [.started id body before.now, .transmit (.ack id) .control]) where
  policy := by rw [bystander.policy, received.policy]
  calls := by
    intro call member
    rw [calls] at member
    rcases List.mem_append.mp member with old | new
    · obtain ⟨start, noted, earlier⟩ := received.calls call old
      exact ⟨start, List.mem_append_left _ noted, Nat.le_trans earlier bystander.clock⟩
    · rw [List.mem_singleton.mp new]
      exact ⟨before.now, by simp, bystander.clock⟩
  paired := by
    intro other result time finished
    simp only [List.mem_append, List.mem_cons, List.not_mem_nil, reduceCtorEq, or_self,
      or_false] at finished
    obtain ⟨bound, start, noted, earlier⟩ := received.paired other result time finished
    exact ⟨Nat.le_trans bound bystander.clock, start, List.mem_append_left _ noted, earlier⟩
  remembered := by
    intro other result time finished
    simp only [List.mem_append, List.mem_cons, List.not_mem_nil, reduceCtorEq, or_self,
      or_false] at finished
    exact bystander.remembers (received.remembered other result time finished)
  recorded := by
    intro other present
    obtain ⟨result, time, finished⟩ := received.recorded other (bystander.subset other present)
    exact ⟨result, time, List.mem_append_left _ finished⟩
  progress := by
    intro other result start noted
    have finishedOr : (∃ answer time, .finished other (some answer) time ∈ past) ∨
        ((⟨other, result⟩ : Receipt Body) ∈ after.receiving ∧ other ∉ before.seen.keys) := by
      rw [calls]
      rcases List.mem_append.mp noted with old | new
      · exact (received.progress other result start old).imp_right
          (fun waiting => ⟨List.mem_append_left _ waiting.1, waiting.2⟩)
      · simp only [List.mem_cons, Note.started.injEq, reduceCtorEq, List.not_mem_nil,
          or_false] at new
        obtain ⟨rfl, rfl, _⟩ := new
        -- A remembered id was returned before; a new one waits in this call.
        by_cases seen : other ∈ before.seen.keys
        · exact Or.inl (received.recorded other seen)
        · exact Or.inr ⟨List.mem_append_right _ (List.mem_singleton.mpr rfl), seen⟩
    rcases finishedOr with ⟨answer, time, finished⟩ | ⟨waiting, unseen⟩
    · exact Or.inl ⟨answer, time, List.mem_append_left _ finished⟩
    · exact Or.inr ⟨waiting, fun present => unseen (bystander.subset other present)⟩

theorem mem_eraseIdx_or_removed {Item : Type} {items : List Item} {index : Nat} {item removed : Item}
    (there : items[index]? = some removed) (member : item ∈ items) :
    item ∈ items.eraseIdx index ∨ item = removed := by
  induction items generalizing index with
  | nil => simp at member
  | cons head rest ih =>
      cases index with
      | zero =>
          simp only [List.getElem?_cons_zero, Option.some.injEq] at there
          rcases List.mem_cons.mp member with here | later
          · exact Or.inr (here.trans there)
          · exact Or.inl later
      | succ index =>
          simp only [List.getElem?_cons_succ] at there
          simp only [List.eraseIdx_cons_succ, List.mem_cons]
          rcases List.mem_cons.mp member with here | later
          · exact Or.inl (Or.inl here)
          · exact (ih there later).imp_left Or.inr

theorem Received.duplicate (received : Received ttl before past) (index : Nat)
    (call : Receipt Body) (suspended : before.receiving[index]? = some call)
    (seen : call.id ∈ before.seen.keys) :
    Received ttl { before with receiving := before.receiving.eraseIdx index }
      (past ++ [.onDuplicate call.id, .finished call.id none before.now]) where
  policy := received.policy
  calls := by
    intro other member
    obtain ⟨start, noted, earlier⟩ := received.calls other (List.mem_of_mem_eraseIdx member)
    exact ⟨start, List.mem_append_left _ noted, earlier⟩
  paired := by
    intro id body time finished
    simp only [List.mem_append, List.mem_cons, List.not_mem_nil, reduceCtorEq, Note.finished.injEq,
      false_and, and_false, or_false] at finished
    obtain ⟨bound, start, noted, earlier⟩ := received.paired id body time finished
    exact ⟨bound, start, List.mem_append_left _ noted, earlier⟩
  remembered := by
    intro id body time finished
    simp only [List.mem_append, List.mem_cons, List.not_mem_nil, reduceCtorEq, Note.finished.injEq,
      false_and, and_false, or_false] at finished
    exact received.remembered id body time finished
  recorded := by
    intro id present
    obtain ⟨body, time, finished⟩ := received.recorded id present
    exact ⟨body, time, List.mem_append_left _ finished⟩
  progress := by
    intro id body start noted
    simp only [List.mem_append, List.mem_cons, List.not_mem_nil, reduceCtorEq, or_self,
      or_false] at noted
    rcases received.progress id body start noted with ⟨other, time, finished⟩ | ⟨waiting, unseen⟩
    · exact Or.inl ⟨other, time, List.mem_append_left _ finished⟩
    · rcases mem_eraseIdx_or_removed suspended waiting with still | resumed
      · exact Or.inr ⟨still, unseen⟩
      · subst resumed
        exact absurd seen unseen

theorem Received.accept (received : Received ttl before past) (index : Nat)
    (call : Receipt Body) (suspended : before.receiving[index]? = some call)
    (new : call.id ∉ before.seen.keys) :
    Received ttl
      { before with
        receiving := before.receiving.eraseIdx index
        seen := before.seen.set call.id (before.now + before.policy.seenTtlMs) }
      (past ++ [.finished call.id (some call.body) before.now]) where
  policy := received.policy
  calls := by
    intro other member
    obtain ⟨start, noted, earlier⟩ := received.calls other (List.mem_of_mem_eraseIdx member)
    exact ⟨start, List.mem_append_left _ noted, earlier⟩
  paired := by
    intro id body time finished
    rcases List.mem_append.mp finished with old | now
    · obtain ⟨bound, start, noted, earlier⟩ := received.paired id body time old
      exact ⟨bound, start, List.mem_append_left _ noted, earlier⟩
    · simp only [List.mem_singleton, Note.finished.injEq, Option.some.injEq] at now
      obtain ⟨rfl, rfl, rfl⟩ := now
      obtain ⟨start, noted, earlier⟩ := received.calls call (List.mem_of_getElem? suspended)
      exact ⟨Nat.le_refl _, start, List.mem_append_left _ noted, earlier⟩
  remembered := by
    intro id body time finished
    rw [InsertionMap.get?_set, received.policy]
    rcases List.mem_append.mp finished with old | now
    · by_cases same : id = call.id
      · -- An earlier return whose entry is gone has expired.
        rcases received.remembered id body time old with ⟨expiresAt, found, _⟩ | expired
        · exact absurd (same ▸ InsertionMap.mem_keys_of_get? found) new
        · exact Or.inr expired
      · rw [if_neg same]
        exact received.remembered id body time old
    · simp only [List.mem_singleton, Note.finished.injEq, Option.some.injEq] at now
      obtain ⟨rfl, rfl, rfl⟩ := now
      exact Or.inl ⟨before.now + ttl, by simp, Nat.le_refl _⟩
  recorded := by
    intro id present
    rcases (InsertionMap.mem_keys_set _ _ _ _).mp present with rfl | old
    · exact ⟨call.body, before.now, by simp⟩
    · obtain ⟨body, time, finished⟩ := received.recorded id old
      exact ⟨body, time, List.mem_append_left _ finished⟩
  progress := by
    intro id body start noted
    simp only [List.mem_append, List.mem_singleton, reduceCtorEq, or_false] at noted
    rcases received.progress id body start noted with ⟨other, time, finished⟩ | ⟨waiting, unseen⟩
    · exact Or.inl ⟨other, time, List.mem_append_left _ finished⟩
    · by_cases same : id = call.id
      · exact Or.inl ⟨call.body, before.now, by simp [same]⟩
      · rcases mem_eraseIdx_or_removed suspended waiting with still | resumed
        · refine Or.inr ⟨still, fun present => ?_⟩
          rcases (InsertionMap.mem_keys_set _ _ _ _).mp present with hit | old
          · exact same hit
          · exact unseen old
        · exact absurd (congrArg Receipt.id resumed) same

theorem ReceiveStep.received (step : ReceiveStep before after notes)
    (received : Received ttl before past) : Received ttl after (past ++ notes) := by
  cases step with
  | other bystander calls silent => exact received.other bystander calls silent
  | start id body bystander calls => exact received.start id body bystander calls
  | duplicate index call suspended seen => exact received.duplicate index call suspended seen
  | accept index call suspended new => exact received.accept index call suspended new

def Returns (id : String) : Note Body → Bool
  | .finished other (some _) _ => other = id
  | _ => false

def returns (id : String) (history : List (Note Body)) : Nat := history.countP (Returns id)

/-- All `receive` calls for this id finish less than `ttl` after any of them,
hence after the first of them, started. -/
def Timely (ttl : Nat) (id : String) (history : List (Note Body)) : Prop :=
  ∀ body start result time, .started id body start ∈ history →
    .finished id result time ∈ history → time < start + ttl

theorem Timely.earlier {id : String} (timely : Timely ttl id (past ++ notes)) :
    Timely ttl id past :=
  fun body start result time started finished => timely body start result time
    (List.mem_append_left _ started) (List.mem_append_left _ finished)

theorem returned_of_returns {id : String} (some_ : 1 ≤ returns id past) :
    ∃ body time, Note.finished id (some body) time ∈ past := by
  obtain ⟨note, member, hit⟩ := List.countP_pos_iff.mp some_
  cases note with
  | finished other result time =>
      cases result with
      | none => simp [Returns] at hit
      | some body =>
          simp only [Returns, decide_eq_true_eq] at hit
          subst hit
          exact ⟨body, time, member⟩
  | _ => simp [Returns] at hit

theorem ReceiveStep.once (step : ReceiveStep before after notes)
    (received : Received ttl before past) {id : String} (timely : Timely ttl id (past ++ notes))
    (once : returns id past ≤ 1) : returns id (past ++ notes) ≤ 1 := by
  rw [returns, List.countP_append]
  cases step with
  | other bystander calls silent =>
      have none_ : notes.countP (Returns id) = 0 := by
        rw [List.countP_eq_zero]
        intro note member hit
        have quiet := silent note member
        cases note <;> simp [Returns, IsReceipt] at hit quiet
      rw [none_]
      exact once
  | start other body bystander calls => simpa [Returns, returns] using once
  | duplicate index call suspended seen => simpa [Returns, returns] using once
  | accept index call suspended new =>
      by_cases same : call.id = id
      · -- A second return comes a full lifetime after the first.
        have first : past.countP (Returns id) = 0 := by
          apply Classical.byContradiction
          intro some_
          obtain ⟨body, time, finished⟩ := returned_of_returns (Nat.pos_of_ne_zero some_)
          obtain ⟨_, start, started, earlier⟩ := received.paired id body time finished
          have late := timely body start (some call.body) before.now
            (List.mem_append_left _ started) (by simp [same])
          rcases received.remembered id body time finished with ⟨expiresAt, found, _⟩ | expired
          · exact new (same ▸ InsertionMap.mem_keys_of_get? found)
          · omega
        simp [first, Returns, same]
      · simpa [Returns, returns, same] using once

end Receiving

section Sending

/-- Objects are never dropped and keep their bodies. -/
def Keeps (before after : ReliableChannel Body) : Prop :=
  ∀ id object, before.objects.get? id = some object →
    ∃ current, after.objects.get? id = some current ∧ current.body = object.body

/-- Where the frames and the delivery reports of a step come from. -/
structure Outgoing (before : ReliableChannel Body) (event : Event Body)
    (after : ReliableChannel Body) (notes : List (Note Body)) : Prop where
  keeps : Keeps before after
  msg : ∀ id channel body createdAt attempt lane,
    .transmit (.msg id channel body createdAt attempt) lane ∈ notes →
    ∃ object, after.objects.get? id = some object ∧ object.body = body
  ack : ∀ id lane, .transmit (.ack id) lane ∈ notes → ∃ body time, .started id body time ∈ notes
  started : ∀ id body time, .started id body time ∈ notes →
    ∃ channel createdAt attempt, event = .receive (.msg id channel body createdAt attempt)
  delivered : ∀ id trackingId, .onDelivered id trackingId ∈ notes → event = .receive (.ack id)

theorem Keeps.of_eq (same : after.objects = before.objects) : Keeps before after :=
  fun _ object found => ⟨object, same ▸ found, rfl⟩

theorem Keeps.set {key : String} {pending : PendingReliable Body}
    (body : ∀ object, before.objects.get? key = some object → pending.body = object.body)
    (same : after.objects = before.objects.set key pending) : Keeps before after := by
  intro id object found
  rw [same, InsertionMap.get?_set]
  by_cases hit : id = key
  · subst hit
    exact ⟨pending, by simp, body object found⟩
  · rw [if_neg hit]
    exact ⟨object, found, rfl⟩

/-- A step that neither transmits, nor starts a call, nor reports a delivery. -/
theorem Outgoing.quiet {event : Event Body} (keeps : Keeps before after)
    (resolved : ∀ note ∈ notes, (∃ id ok, note = .resolved id ok) ∨
      (∃ id trackingId reason, note = .onFailed id trackingId reason) ∨
      (∃ id, note = .onDuplicate id) ∨ ∃ id result time, note = .finished id result time) :
    Outgoing before event after notes where
  keeps := keeps
  msg := by
    intro id channel body createdAt attempt lane member
    simpa using resolved _ member
  ack := by
    intro id lane member
    simpa using resolved _ member
  started := by
    intro id body time member
    simpa using resolved _ member
  delivered := by
    intro id trackingId member
    simpa using resolved _ member

theorem Outgoing.of_eq {event : Event Body} {result : ReliableChannel Body × List (Note Body)}
    (same : result = (after, notes)) (outgoing : Outgoing before event result.1 result.2) :
    Outgoing before event after notes := by
  subst same
  exact outgoing

theorem sendPending_outgoing {event : Event Body} {pending : PendingReliable Body}
    (keeps : Keeps before self)
    (stored : self.objects.get? pending.id = some pending) :
    Outgoing before event (self.sendPending pending).1 (self.sendPending pending).2 := by
  simp only [sendPending]
  split
  · refine ⟨?_, ?_, by simp, by simp, by simp⟩
    · intro id object found
      obtain ⟨current, there, same⟩ := keeps id object found
      rw [InsertionMap.get?_set]
      by_cases hit : id = pending.id
      · subst hit
        cases stored.symm.trans there
        exact ⟨_, if_pos rfl, same⟩
      · rw [if_neg hit]
        exact ⟨current, there, same⟩
    · intro id channel body createdAt attempt lane member
      simp only [List.mem_singleton, Note.transmit.injEq, ReliableEnvelopeMessage.msg.injEq] at member
      obtain ⟨⟨rfl, _, rfl, _⟩, _⟩ := member
      exact ⟨_, InsertionMap.get?_set_self _ _ _, rfl⟩
  · exact .quiet keeps (by simp)

theorem receive_outgoing (message : ReliableEnvelopeMessage Body) :
    Outgoing self (.receive message) (self.receive message).1 (self.receive message).2 := by
  cases message with
  | msg id channel body createdAt attempt =>
      refine ⟨.of_eq rfl, by simp [receive], ?_, ?_, by simp [receive]⟩
      · intro other lane member
        simp only [receive, List.mem_cons, reduceCtorEq, Note.transmit.injEq,
          ReliableEnvelopeMessage.ack.injEq, List.not_mem_nil, or_false, false_or] at member
        exact ⟨body, self.now, by simp [receive, member.1]⟩
      · intro other result time member
        simp only [receive, List.mem_cons, Note.started.injEq, reduceCtorEq, List.not_mem_nil,
          or_false] at member
        obtain ⟨rfl, rfl, _⟩ := member
        exact ⟨channel, createdAt, attempt, rfl⟩
  | ack id =>
      simp only [receive]
      split
      · exact .quiet (.of_eq rfl) (by simp)
      · refine ⟨.of_eq rfl, by simp, by simp, by simp, ?_⟩
        intro other trackingId member
        simp only [List.mem_singleton, Note.onDelivered.injEq] at member
        rw [member.1]
  | nack id reason =>
      simp only [receive]
      split
      · exact .quiet (.of_eq rfl) (by simp)
      · exact .quiet (.of_eq rfl) (by simp)

theorem step_outgoing (formed : WellFormed self) {event : Event Body} (kept : event ≠ .reset)
    (stepped : self.step event = some (after, notes)) : Outgoing self event after notes := by
  cases event with
  | send id trackingId channel body =>
      simp only [step] at stepped
      split at stepped
      · cases stepped
      · rename_i new
        refine .of_eq (Option.some.inj stepped) (sendPending_outgoing ?_ ?_)
        · refine Keeps.set ?_ rfl
          intro object found
          exact absurd (Option.isSome_iff_exists.mpr ⟨object, found⟩) new
        · exact InsertionMap.get?_set_self _ _ _
  | sendResolved id ok =>
      simp only [step] at stepped
      split at stepped
      · obtain ⟨pending, stored, resumed⟩ := Option.map_eq_some_iff.mp stepped
        have same : pending.id = id := formed.named id pending stored
        subst same
        cases ok with
        | true =>
            cases resumed
            refine .quiet (Keeps.set ?_ rfl) (by simp)
            intro object found
            cases stored.symm.trans found
            rfl
        | false =>
            cases resumed
            exact .quiet (.of_eq rfl) (by simp [failPending])
      · cases stepped
  | receive message => exact .of_eq (Option.some.inj stepped) (receive_outgoing message)
  | ackSent index =>
      obtain ⟨call, _, resumed⟩ := Option.map_eq_some_iff.mp stepped
      refine .of_eq resumed ?_
      simp only [ackSent]
      split
      · exact .quiet (.of_eq rfl) (by simp)
      · exact .quiet (.of_eq rfl) (by simp)
  | fire handle =>
      simp only [step] at stepped
      split at stepped
      · cases stepped
      · rename_i task timers fired
        cases runTimer_fires stepped with
        | resend pending _ stored sent =>
            have same := formed.named _ pending stored
            subst same
            exact .of_eq sent (sendPending_outgoing (.of_eq rfl) stored)
        | expire pending => exact .quiet (.of_eq rfl) (by simp)
        | idle => exact .quiet (.of_eq rfl) (by simp)
  -- Failures leave every object as it is; only `pending` shrinks.
  | failAll reason =>
      obtain ⟨_, _, _, _, objects, reported⟩ := failEach_frame reason self.pending.keys self
      refine .of_eq (Option.some.inj stepped) (.quiet (.of_eq objects) ?_)
      intro note member
      obtain ⟨id, trackingId, rfl⟩ := reported note member
      exact Or.inr (Or.inl ⟨id, trackingId, reason, rfl⟩)
  | reset => exact absurd rfl kept
  | tick elapsed =>
      cases stepped
      exact .quiet (.of_eq rfl) (by simp)

end Sending

section Pair

inductive Side where
  | left
  | right
  deriving DecidableEq, Repr

def Side.other : Side → Side
  | .left => .right
  | .right => .left

@[simp] theorem Side.other_other (side : Side) : side.other.other = side := by
  cases side <;> rfl

/-- Two channels, and every frame each of them has handed to the network. -/
structure Pair (Body : Type) where
  channel : Side → ReliableChannel Body
  wire : Side → List (ReliableEnvelopeMessage Body)

def Note.frame : Note Body → Option (ReliableEnvelopeMessage Body)
  | .transmit message _ => some message
  | _ => none

def pairMachine (Body : Type) : Machine (Pair Body) (Side × Event Body) (Side × Note Body) where
  step pair event :=
    ((pair.channel event.1).step event.2).map fun result =>
      (⟨Function.update pair.channel event.1 result.1,
        Function.update pair.wire event.1 (pair.wire event.1 ++ result.2.filterMap Note.frame)⟩,
        result.2.map fun note => (event.1, note))

/-- The network delivers frames of the peer, in any order and any number of
times; ids are new on both sides; neither side resets. -/
def Connected (pair : Pair Body) (event : Side × Event Body) : Prop :=
  match event.2 with
  | .send id _ _ _ => id ∉ (pair.channel event.1.other).objects.keys
  | .receive message => message ∈ pair.wire event.1.other
  | .reset => False
  | _ => True

instance [DecidableEq Body] (pair : Pair Body) (event : Side × Event Body) :
    Decidable (Connected pair event) := by
  unfold Connected
  split <;> infer_instance

def connect (policy : Side → ReliablePolicy) : Pair Body :=
  ⟨fun side => create (policy side), fun _ => []⟩

def notesOf (side : Side) (history : List (Side × Note Body)) : List (Note Body) :=
  history.filterMap fun entry => if entry.1 = side then some entry.2 else none

theorem mem_notesOf {side : Side} {history : List (Side × Note Body)} {note : Note Body} :
    note ∈ notesOf side history ↔ (side, note) ∈ history := by
  simp only [notesOf, List.mem_filterMap, Prod.exists, Option.ite_none_right_eq_some,
    Option.some.injEq]
  constructor
  · rintro ⟨_, _, member, rfl, rfl⟩
    exact member
  · exact fun member => ⟨side, note, member, rfl, rfl⟩

theorem notesOf_tagged (side tag : Side) (notes : List (Note Body)) :
    notesOf side (notes.map fun note => (tag, note)) = if tag = side then notes else [] := by
  by_cases same : tag = side <;> simp [notesOf, List.filterMap_map, same]

variable {policy : Side → ReliablePolicy} {pair : Pair Body} {history : List (Side × Note Body)}

theorem connected_no_reset {event : Side × Event Body} (connected : Connected pair event) :
    event.2 ≠ .reset := by
  intro reset
  simp [Connected, reset] at connected

/-- Each side of a run of the pair is a run of its channel. -/
theorem run_channel {allowed : Pair Body → Side × Event Body → Prop}
    {each : ReliableChannel Body → Event Body → Prop}
    (narrows : ∀ pair tag event, allowed pair (tag, event) → each (pair.channel tag) event)
    (run : Machine.Run (pairMachine Body) allowed (connect policy) pair history) (side : Side) :
    Machine.Run (machine Body) each (create (policy side)) (pair.channel side)
      (notesOf side history) := by
  refine run.invariant (fun pair history => Machine.Run (machine Body) each
    (create (policy side)) (pair.channel side) (notesOf side history)) Machine.Run.refl ?_
  rintro before past ⟨tag, event⟩ after outputs run connected stepped
  obtain ⟨⟨next, notes⟩, taken, same⟩ := Option.map_eq_some_iff.mp stepped
  cases same
  rw [notesOf, List.filterMap_append]
  change Machine.Run _ _ _ _ (notesOf side past ++ notesOf side _)
  rw [notesOf_tagged]
  by_cases here : tag = side
  · subst here
    simp only [Function.update_self, ↓reduceIte]
    exact run.next (narrows before tag event connected) taken
  · simpa [here, Function.update_of_ne (Ne.symm here)] using run

theorem run_side (run : Machine.Run (pairMachine Body) Connected (connect policy) pair history)
    (side : Side) :
    Machine.Run (machine Body) (fun _ event => event ≠ .reset) (create (policy side))
      (pair.channel side) (notesOf side history) :=
  run_channel (fun _ _ _ connected => connected_no_reset connected) run side

theorem run_ledger {start : ReliableChannel Body} {final : ReliableChannel Body}
    {allowed : ReliableChannel Body → Event Body → Prop} {past : List (Note Body)}
    (begun : Ledger start []) (run : Machine.Run (machine Body) allowed start final past) :
    Ledger final past :=
  run.invariant Ledger begun (fun _ _ event _ _ ledger _ stepped =>
    (step_turn ledger.formed event stepped).ledger ledger)

theorem run_received {final : ReliableChannel Body} {past : List (Note Body)} {one : ReliablePolicy}
    (run : Machine.Run (machine Body) (fun _ event => event ≠ .reset) (create one) final past) :
    Received one.seenTtlMs final past :=
  run.invariant (Received one.seenTtlMs) (create_received one)
    (fun _ _ _ _ _ received kept stepped => (step_receives kept stepped).received received)

/-- While its calls are timely, a channel returns the body of an id once. -/
theorem run_once {final : ReliableChannel Body} {past : List (Note Body)} {one : ReliablePolicy}
    (run : Machine.Run (machine Body) (fun _ event => event ≠ .reset) (create one) final past)
    {id : String} (timely : Timely one.seenTtlMs id past) : returns id past ≤ 1 := by
  induction run with
  | refl => simp [returns]
  | next earlier kept stepped ih =>
      exact (step_receives kept stepped).once (run_received earlier) timely (ih timely.earlier)

/-- Bodies on the wire, in calls and in objects agree, and reports go back to a
call of the peer. -/
structure Honest (pair : Pair Body) (history : List (Side × Note Body)) : Prop where
  msgs : ∀ side id channel body createdAt attempt,
    .msg id channel body createdAt attempt ∈ pair.wire side →
    ∃ object, (pair.channel side).objects.get? id = some object ∧ object.body = body
  acks : ∀ side id, .ack id ∈ pair.wire side →
    ∃ body time, (side, .started id body time) ∈ history
  starts : ∀ side id body time, (side, .started id body time) ∈ history →
    ∃ object, (pair.channel side.other).objects.get? id = some object ∧ object.body = body
  reports : ∀ side id trackingId, (side, .onDelivered id trackingId) ∈ history →
    ∃ body time, (side.other, .started id body time) ∈ history

theorem update_keeps {tag : Side} {next : ReliableChannel Body}
    (keeps : Keeps (pair.channel tag) next) (side : Side) :
    Keeps (pair.channel side) (Function.update pair.channel tag next side) := by
  by_cases here : side = tag
  · subst here
    rw [Function.update_self]
    exact keeps
  · rw [Function.update_of_ne here]
    exact .of_eq rfl

/-- What is on a wire was there before, or was handed to it in this step. -/
theorem mem_wire {tag side : Side} {message : ReliableEnvelopeMessage Body}
    (member : message ∈
      Function.update pair.wire tag (pair.wire tag ++ notes.filterMap Note.frame) side) :
    message ∈ pair.wire side ∨ side = tag ∧ ∃ lane, .transmit message lane ∈ notes := by
  by_cases here : side = tag
  · subst here
    rw [Function.update_self, List.mem_append, List.mem_filterMap] at member
    rcases member with old | ⟨note, noted, framed⟩
    · exact Or.inl old
    · cases note <;> simp [Note.frame] at framed
      subst framed
      exact Or.inr ⟨rfl, _, noted⟩
  · rw [Function.update_of_ne here] at member
    exact Or.inl member

theorem step_honest {tag : Side} {event : Event Body} {next : ReliableChannel Body}
    (honest : Honest pair history) (connected : Connected pair (tag, event))
    (outgoing : Outgoing (pair.channel tag) event next notes) :
    Honest ⟨Function.update pair.channel tag next,
      Function.update pair.wire tag (pair.wire tag ++ notes.filterMap Note.frame)⟩
      (history ++ notes.map fun note => (tag, note)) := by
  have noted : ∀ side note, (side, note) ∈ history ++ notes.map (fun note => (tag, note)) →
      (side, note) ∈ history ∨ side = tag ∧ note ∈ notes := by
    intro side note member
    simp only [List.mem_append, List.mem_map, Prod.mk.injEq] at member
    rcases member with old | ⟨_, new, rfl, rfl⟩
    · exact Or.inl old
    · exact Or.inr ⟨rfl, new⟩
  constructor
  · intro side id channel body createdAt attempt member
    rcases mem_wire member with old | ⟨rfl, lane, transmitted⟩
    · obtain ⟨object, found, same⟩ := honest.msgs side id channel body createdAt attempt old
      obtain ⟨current, there, body'⟩ := update_keeps outgoing.keeps side id object found
      exact ⟨current, there, body'.trans same⟩
    · obtain ⟨object, found, same⟩ := outgoing.msg id channel body createdAt attempt lane transmitted
      exact ⟨object, by simpa using found, same⟩
  · intro side id member
    rcases mem_wire member with old | ⟨rfl, lane, transmitted⟩
    · obtain ⟨body, time, started⟩ := honest.acks side id old
      exact ⟨body, time, List.mem_append_left _ started⟩
    · obtain ⟨body, time, started⟩ := outgoing.ack id lane transmitted
      exact ⟨body, time, List.mem_append_right _ (List.mem_map.mpr ⟨_, started, rfl⟩)⟩
  · intro side id body time member
    have before : ∃ object, (pair.channel side.other).objects.get? id = some object ∧
        object.body = body := by
      rcases noted side _ member with old | ⟨rfl, new⟩
      · exact honest.starts side id body time old
      · obtain ⟨channel, createdAt, attempt, rfl⟩ := outgoing.started id body time new
        exact honest.msgs side.other id channel body createdAt attempt connected
    obtain ⟨object, found, same⟩ := before
    obtain ⟨current, there, body'⟩ := update_keeps outgoing.keeps side.other id object found
    exact ⟨current, there, body'.trans same⟩
  · intro side id trackingId member
    have before : ∃ body time, (side.other, .started id body time) ∈ history := by
      rcases noted side _ member with old | ⟨rfl, new⟩
      · exact honest.reports side id trackingId old
      · obtain rfl := outgoing.delivered id trackingId new
        exact honest.acks side.other id connected
    obtain ⟨body, time, started⟩ := before
    exact ⟨body, time, List.mem_append_left _ started⟩

theorem run_honest
    (run : Machine.Run (pairMachine Body) Connected (connect policy) pair history) :
    Honest pair history := by
  induction run with
  | refl => exact ⟨by simp [connect], by simp [connect], by simp, by simp⟩
  | @next before after past outputs event earlier connected stepped honest =>
      obtain ⟨tag, event⟩ := event
      obtain ⟨⟨next, notes⟩, taken, same⟩ := Option.map_eq_some_iff.mp stepped
      cases same
      have ledger := run_ledger (create_ledger (policy tag)) (run_side earlier tag)
      exact step_honest honest connected
        (step_outgoing ledger.formed (connected_no_reset connected) taken)

/-- A suspended call for an id that is not in `seen` returns its body when it
is the next one to resume. -/
theorem resume_returns {side : Side} {id : String} {body : Body}
    (waiting : (⟨id, body⟩ : Receipt Body) ∈ (pair.channel side).receiving)
    (unseen : id ∉ (pair.channel side).seen.keys) :
    ∃ index after outputs, (pairMachine Body).step pair (side, .ackSent index) = some (after, outputs) ∧
      (side, .finished id (some body) (pair.channel side).now) ∈ outputs := by
  obtain ⟨index, there⟩ := List.mem_iff_getElem?.mp waiting
  have fresh : (pair.channel side).seen.has id = false := by
    rw [Bool.eq_false_iff, Ne, InsertionMap.has_iff]
    exact unseen
  have stepped : (pair.channel side).step (.ackSent index) =
      some ((pair.channel side).ackSent index ⟨id, body⟩) := by
    simp only [step, there, Option.map_some]
  have moved : ((pairMachine Body).step pair (side, .ackSent index)).map Prod.snd =
      some [(side, .finished id (some body) (pair.channel side).now)] := by
    simp [pairMachine, stepped, ackSent, fresh]
  obtain ⟨⟨after, outputs⟩, taken, same⟩ := Option.map_eq_some_iff.mp moved
  exact ⟨index, after, outputs, taken, by simp [show outputs = _ from same]⟩

/-- Over every run of two connected channels, a side returns the body of an id
at most once if its calls for that id are timely; and a delivery report means
that the peer has returned the very body that was sent, or has a call for it
that returns it as soon as it resumes. -/
theorem at_most_once_and_honest_reports (Body : Type) (policy : Side → ReliablePolicy)
    (pair : Pair Body) (history : List (Side × Note Body))
    (run : Machine.Run (pairMachine Body) Connected (connect policy) pair history) :
    (∀ side id, Timely (policy side).seenTtlMs id (notesOf side history) →
      returns id (notesOf side history) ≤ 1) ∧
    (∀ side id trackingId, (side, .onDelivered id trackingId) ∈ history →
      ∃ object, (pair.channel side).objects.get? id = some object ∧
        ((∃ time, (side.other, .finished id (some object.body) time) ∈ history) ∨
          ∃ index after outputs,
            (pairMachine Body).step pair (side.other, .ackSent index) = some (after, outputs) ∧
            (side.other, .finished id (some object.body) (pair.channel side.other).now) ∈
              outputs)) := by
  constructor
  · intro side id timely
    exact run_once (run_side run side) timely
  · intro side id trackingId reported
    have honest := run_honest run
    have received := run_received (run_side run side.other)
    obtain ⟨body, start, started⟩ := honest.reports side id trackingId reported
    obtain ⟨object, found, same⟩ := honest.starts side.other id body start started
    rw [Side.other_other] at found
    refine ⟨object, found, ?_⟩
    rw [same]
    rcases received.progress id body start (mem_notesOf.mpr started) with
      ⟨returned, time, finished⟩ | ⟨waiting, unseen⟩
    · -- Whatever call returned a body for this id, it is the body of the sender's object.
      obtain ⟨_, began, startedToo, _⟩ := received.paired id returned time finished
      obtain ⟨sameObject, there, body'⟩ :=
        honest.starts side.other id returned began (mem_notesOf.mp startedToo)
      rw [Side.other_other] at there
      cases found.symm.trans there
      have equal : returned = body := body'.symm.trans same
      exact Or.inl ⟨time, mem_notesOf.mp (equal ▸ finished)⟩
    · exact Or.inr (resume_returns waiting unseen)

/-- One message, delivered twice before its first ACK is handed over. -/
def sampleExchange : List (Side × Event String) :=
  [(.left, .send "m" none .text "hello"), (.left, .sendResolved "m" true),
    (.right, .receive (.msg "m" .text "hello" 0 1)),
    (.right, .receive (.msg "m" .text "hello" 0 1)),
    (.left, .receive (.ack "m")), (.right, .ackSent 1), (.right, .ackSent 0)]

theorem sample_exchange_delivers_once :
    ∃ pair history,
      (pairMachine String).execute (connect fun _ => defaultPolicy) sampleExchange =
        some (pair, history) ∧
      (.left, .onDelivered "m" none) ∈ history ∧
      (Timely defaultPolicy.seenTtlMs "m" (notesOf .right history) →
        returns "m" (notesOf .right history) ≤ 1) ∧
      ∃ object, (pair.channel .left).objects.get? "m" = some object ∧
        ((∃ time, (Side.right, .finished "m" (some object.body) time) ∈ history) ∨
          ∃ index after outputs,
            (pairMachine String).step pair (.right, .ackSent index) = some (after, outputs) ∧
            (Side.right, .finished "m" (some object.body) (pair.channel .right).now) ∈ outputs) := by
  have ran : ((pairMachine String).execute (connect fun _ => defaultPolicy) sampleExchange).map
      (fun result => decide ((Side.left, Note.onDelivered "m" none) ∈ result.2)) = some true := by
    decide +kernel
  obtain ⟨⟨pair, history⟩, executed, reported⟩ := Option.map_eq_some_iff.mp ran
  have delivered : (Side.left, Note.onDelivered "m" none) ∈ history := by simpa using reported
  have result := at_most_once_and_honest_reports String (fun _ => defaultPolicy) pair history
    (Machine.execute_run sampleExchange (by decide +kernel) executed)
  exact ⟨pair, history, executed, delivered, result.1 .right "m",
    result.2 .left "m" none delivered⟩

end Pair

end OnlyTwo.Reliable
