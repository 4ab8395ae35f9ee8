import OnlyTwo.ReliableBounds
import OnlyTwo.ReliableOutcome

/-!
No reliable message is stuck. A pending message has a transmission under way or an armed timer
of its own, and every expiry of such a timer either transmits the message once more or ends it,
so the attempts bound the transmissions and the expiries alike. The counts are kept beside the
channel: what was transmitted in the history, and which timers fired along the events.
-/

namespace OnlyTwo.Reliable

open ReliableChannel

variable {Body : Type}

section Counts

/-- The note hands the message to `callbacks.send`. -/
def Transmits (id : String) : Note Body → Bool
  | .transmit (.msg other _ _ _ _) _ => other = id
  | _ => false

def transmissions (id : String) (history : List (Note Body)) : Nat := history.countP (Transmits id)

/-- A timer of the message runs out. -/
def Expires (self : ReliableChannel Body) (id : String) : Event Body → Bool
  | .fire handle => (self.timers.get? handle).map RetryTask.id = some id
  | _ => false

/-- How many timers of the message run out along the events. -/
def expiries (id : String) : ReliableChannel Body → List (Event Body) → Nat
  | _, [] => 0
  | self, event :: rest =>
      match self.step event with
      | none => 0
      | some (next, _) => (if Expires self id event then 1 else 0) + expiries id next rest

theorem transmissions_append (id : String) (past later : List (Note Body)) :
    transmissions id (past ++ later) = transmissions id past + transmissions id later :=
  List.countP_append

end Counts

section Service

/-- The attempts of the object under an id, none if there is no object. -/
def attempted (self : ReliableChannel Body) (id : String) : Nat :=
  ((self.objects.get? id).map PendingReliable.attempts).getD 0

/-- An object knows its own timers only, and a timer works for an object. -/
structure Owned (channel : ReliableChannel Body) : Prop where
  made : ∀ id object handle, channel.objects.get? id = some object → object.timer = some handle →
    handle < channel.timers.next
  own : ∀ id object handle task, channel.objects.get? id = some object →
    object.timer = some handle → channel.timers.get? handle = some task → task.id = id
  known : ∀ handle task, channel.timers.get? handle = some task →
    ∃ object, channel.objects.get? task.id = some object

/-- Something is under way for a pending message: a transmission or a timer of its own. -/
structure Attended (channel : ReliableChannel Body) (fired : Nat) (id : String)
    (object : PendingReliable Body) : Prop where
  stored : channel.objects.get? id = some object
  counted : fired + 1 = object.attempts
  served : id ∈ channel.sending ∨ ∃ handle task, object.timer = some handle ∧
    channel.timers.get? handle = some task ∧ task.id = id

/-- Bodies and ids do not matter here. -/
def anything : Terms Body := ⟨fun _ _ _ _ => True, fun _ => True, fun _ => True⟩

structure Served (limit : Nat) (past : List (Note Body)) (fired : String → Nat)
    (channel : ReliableChannel Body) : Prop where
  paced : Paced anything channel
  policy : channel.policy.maxAttempts = limit
  owned : Owned channel
  counted : ∀ id, transmissions id past = attempted channel id
  within : ∀ id, attempted channel id ≤ limit
  unfired : ∀ id, channel.objects.get? id = none → fired id = 0
  attended : ∀ id ∈ channel.pending.keys, ∃ object, Attended channel (fired id) id object

variable {limit : Nat} {past notes : List (Note Body)} {fired later : String → Nat}
  {self after : ReliableChannel Body} {id : String}

theorem attempted_of_get? {object : PendingReliable Body} (found : self.objects.get? id = some object) :
    attempted self id = object.attempts := by
  rw [attempted, found]
  rfl

theorem Served.formed (served : Served limit past fired self) : WellFormed self where
  named := served.paced.named
  registered := by
    intro id listed
    obtain ⟨object, attended⟩ := served.attended id listed
    exact InsertionMap.mem_keys_of_get? attended.stored

/-- Nothing of the message is touched. -/
theorem Attended.keep {count : Nat} {object : PendingReliable Body}
    (attended : Attended self count id object)
    (objects : after.objects.get? id = self.objects.get? id)
    (sending : id ∈ self.sending → id ∈ after.sending)
    (timers : ∀ handle task, self.timers.get? handle = some task → task.id = id →
      after.timers.get? handle = some task) : Attended after count id object where
  stored := objects.trans attended.stored
  counted := attended.counted
  served := by
    refine attended.served.imp sending ?_
    rintro ⟨handle, task, armed, held, same⟩
    exact ⟨handle, task, armed, timers handle task held same, same⟩

/-- The timer of one object is cancelled: those of the others stay. -/
theorem Owned.cancel_other (owned : Owned self) {object : PendingReliable Body}
    (found : self.objects.get? id = some object) {handle : Nat} {task : RetryTask}
    (held : self.timers.get? handle = some task) (other : task.id ≠ id) :
    (self.timers.cancel object.timer).get? handle = some task := by
  cases armed : object.timer with
  | none => exact held
  | some spent =>
      rw [Callbacks.cancel, Callbacks.get?_remove]
      split
      · rename_i same
        subst same
        exact absurd (owned.own id object handle task found armed held) other
      · exact held

/-- The objects stay and timers may go. -/
theorem Owned.frame (owned : Owned self) (objects : after.objects = self.objects)
    (next : after.timers.next = self.timers.next)
    (timers : ∀ handle task, after.timers.get? handle = some task →
      self.timers.get? handle = some task) : Owned after where
  made := by
    rw [objects, next]
    exact owned.made
  own := by
    intro id object handle task found armed held
    exact owned.own id object handle task (objects ▸ found) armed (timers handle task held)
  known := by
    intro handle task held
    rw [objects]
    exact owned.known handle task (timers handle task held)

/-- Nothing is transmitted or armed. What is still pending keeps what is under way for it. -/
theorem Served.rest (served : Served limit past fired self) (paced : Paced anything after)
    (policy : after.policy = self.policy) (objects : after.objects = self.objects)
    (next : after.timers.next = self.timers.next)
    (timers : ∀ handle task, after.timers.get? handle = some task →
      self.timers.get? handle = some task)
    (silent : ∀ id, transmissions id notes = 0)
    (pending : ∀ id ∈ after.pending.keys, id ∈ self.pending.keys)
    (sending : ∀ id ∈ after.pending.keys, id ∈ self.sending → id ∈ after.sending)
    (kept : ∀ handle task, self.timers.get? handle = some task → task.id ∈ after.pending.keys →
      after.timers.get? handle = some task)
    (unfired : ∀ id, self.objects.get? id = none → later id = fired id)
    (unexpired : ∀ id ∈ after.pending.keys, later id = fired id) :
    Served limit (past ++ notes) later after where
  paced := paced
  policy := (congrArg ReliablePolicy.maxAttempts policy).trans served.policy
  owned := served.owned.frame objects next timers
  counted := by
    intro id
    rw [transmissions_append, silent, Nat.add_zero, served.counted, attempted, attempted, objects]
  within := by
    intro id
    rw [attempted, objects]
    exact served.within id
  unfired := by
    intro id missing
    rw [objects] at missing
    rw [unfired id missing]
    exact served.unfired id missing
  attended := by
    intro id listed
    obtain ⟨object, attended⟩ := served.attended id (pending id listed)
    refine ⟨object, ?_⟩
    rw [unexpired id listed]
    refine attended.keep (by rw [objects]) (sending id listed) ?_
    rintro handle task held rfl
    exact kept handle task held listed

/-- One message is transmitted once more. -/
theorem Served.transmit (served : Served limit past fired self) (id : String)
    (sent : PendingReliable Body)
    (paced : Paced anything after) (policy : after.policy = self.policy)
    (objects : ∀ other, after.objects.get? other =
      if other = id then some sent else self.objects.get? other)
    (sending : after.sending = self.sending ++ [id])
    (next : after.timers.next = self.timers.next)
    (timers : ∀ handle task, after.timers.get? handle = some task →
      self.timers.get? handle = some task)
    (kept : ∀ handle task, self.timers.get? handle = some task → task.id ≠ id →
      after.timers.get? handle = some task)
    (armed : ∀ handle, sent.timer = some handle → ∃ object, self.objects.get? id = some object ∧
      object.timer = some handle)
    (said : ∀ other, transmissions other notes = if other = id then 1 else 0)
    (attempts : sent.attempts = attempted self id + 1) (room : sent.attempts ≤ limit)
    (pending : ∀ other ∈ after.pending.keys, other = id ∨ other ∈ self.pending.keys)
    (count : later id + 1 = sent.attempts) (others : ∀ other, other ≠ id → later other = fired other) :
    Served limit (past ++ notes) later after where
  paced := paced
  policy := (congrArg ReliablePolicy.maxAttempts policy).trans served.policy
  owned := by
    refine ⟨?_, ?_, ?_⟩
    · intro other object handle found known
      rw [next]
      rw [objects] at found
      split at found
      · cases found
        obtain ⟨old, early, same⟩ := armed handle known
        exact served.owned.made id old handle early same
      · exact served.owned.made other object handle found known
    · intro other object handle task found known held
      rw [objects] at found
      split at found
      · rename_i same
        cases found
        obtain ⟨old, early, again⟩ := armed handle known
        exact (served.owned.own id old handle task early again (timers handle task held)).trans same.symm
      · exact served.owned.own other object handle task found known (timers handle task held)
    · intro handle task held
      obtain ⟨object, found⟩ := served.owned.known handle task (timers handle task held)
      rw [objects]
      split
      · exact ⟨sent, rfl⟩
      · exact ⟨object, found⟩
  counted := by
    intro other
    rw [transmissions_append, said, served.counted, attempted, attempted, objects]
    split
    · rename_i same
      subst same
      exact attempts.symm
    · rfl
  within := by
    intro other
    rw [attempted, objects]
    split
    · exact room
    · exact served.within other
  unfired := by
    intro other missing
    rw [objects] at missing
    split at missing
    · cases missing
    · rename_i different
      rw [others other different]
      exact served.unfired other missing
  attended := by
    intro other listed
    by_cases same : other = id
    · subst same
      refine ⟨sent, (objects other).trans (if_pos rfl), count, Or.inl ?_⟩
      rw [sending]
      exact List.mem_append_right _ (List.mem_singleton.mpr rfl)
    · rcases pending other listed with hit | early
      · exact absurd hit same
      · obtain ⟨object, attended⟩ := served.attended other early
        refine ⟨object, ?_⟩
        rw [others other same]
        refine attended.keep ((objects other).trans (if_neg same)) ?_ ?_
        · intro member
          rw [sending]
          exact List.mem_append_left _ member
        · rintro handle task held rfl
          exact kept handle task held same

theorem next_cancel {Task : Type} (callbacks : Callbacks Task) (handle : Option Nat) :
    (callbacks.cancel handle).next = callbacks.next := by
  cases handle <;> rfl

/-- A transmission ends and arms the timer of its message. -/
theorem Served.arm (served : Served limit past fired self) {object : PendingReliable Body}
    (stored : self.objects.get? object.id = some object) (under : object.id ∈ self.sending)
    (silent : ∀ id, transmissions id notes = 0) :
    Served limit (past ++ notes) fired
      ({ self with sending := self.sending.erase object.id }.armRetry object) := by
  have objects : ∀ other,
      ({ self with sending := self.sending.erase object.id }.armRetry object).objects.get? other =
        if other = object.id then some { object with timer := some self.timers.next }
        else self.objects.get? other := by
    intro other
    simp only [armRetry, InsertionMap.get?_set, Callbacks.add, next_cancel]
  have timers : ∀ handle task,
      ({ self with sending := self.sending.erase object.id }.armRetry object).timers.get? handle =
        some task → handle = self.timers.next ∧ task.id = object.id ∨
          (self.timers.cancel object.timer).get? handle = some task := by
    intro handle task held
    simp only [armRetry, Callbacks.get?_add, next_cancel] at held
    split at held
    · refine Or.inl ⟨‹_›, ?_⟩
      cases held
      split <;> rfl
    · exact Or.inr held
  have fresh : ∀ handle, handle < self.timers.next → handle ≠ self.timers.next := fun _ => Nat.ne_of_lt
  refine ⟨armRetry_paced served.paced stored under, served.policy, ⟨?_, ?_, ?_⟩, ?_, ?_, ?_, ?_⟩
  · intro other found_ handle found known
    simp only [armRetry, Callbacks.add, next_cancel]
    rw [objects] at found
    split at found
    · cases found
      cases known
      exact Nat.lt_succ_self _
    · exact Nat.lt_succ_of_lt (served.owned.made other found_ handle found known)
  · intro other found_ handle task found known held
    rw [objects] at found
    split at found
    · rename_i same
      cases found
      cases known
      rcases timers _ task held with ⟨_, own⟩ | early
      · exact own.trans same.symm
      · exact absurd (Callbacks.get?_lt (Callbacks.get?_of_cancel early)) (Nat.lt_irrefl _)
    · rcases timers handle task held with ⟨rfl, _⟩ | early
      · exact absurd (served.owned.made other found_ _ found known) (Nat.lt_irrefl _)
      · exact served.owned.own other found_ handle task found known (Callbacks.get?_of_cancel early)
  · intro handle task held
    rw [objects]
    split
    · exact ⟨_, rfl⟩
    · rename_i different
      rcases timers handle task held with ⟨_, own⟩ | early
      · exact absurd own different
      · exact served.owned.known handle task (Callbacks.get?_of_cancel early)
  · intro other
    rw [transmissions_append, silent, Nat.add_zero, served.counted, attempted, attempted, objects]
    split
    · rename_i same
      rw [same, stored]
      rfl
    · rfl
  · intro other
    rw [attempted, objects]
    split
    · exact Nat.le_trans (Nat.le_of_eq (attempted_of_get? stored).symm) (served.within object.id)
    · exact served.within other
  · intro other missing
    rw [objects] at missing
    split at missing
    · cases missing
    · exact served.unfired other missing
  · intro other listed
    obtain ⟨found_, attended⟩ := served.attended other listed
    by_cases same : other = object.id
    · subst same
      cases stored.symm.trans attended.stored
      refine ⟨_, (objects _).trans (if_pos rfl), attended.counted, Or.inr ?_⟩
      refine ⟨self.timers.next, if self.policy.maxAttempts ≤ object.attempts then .expire object.id
        else .resend object.id, rfl, ?_, ?_⟩
      · simp only [armRetry, Callbacks.get?_add, next_cancel, if_true]
      · split <;> rfl
    · refine ⟨found_, attended.keep ((objects other).trans (if_neg same)) ?_ ?_⟩
      · exact fun member => (List.mem_erase_of_ne same).mpr member
      · rintro handle task held rfl
        have kept := served.owned.cancel_other stored held same
        simp only [armRetry, Callbacks.get?_add, next_cancel]
        rw [if_neg (Nat.ne_of_lt (Callbacks.get?_lt held))]
        exact kept

end Service

section Steps

variable {limit : Nat} {past notes : List (Note Body)} {fired : String → Nat}
  {self after : ReliableChannel Body}

/-- The expiries after one more event. -/
def tally (self : ReliableChannel Body) (event : Event Body) (fired : String → Nat) (id : String) : Nat :=
  fired id + if Expires self id event then 1 else 0

/-- An object under its id is transmitted: by a `send`, or when its timer runs out. -/
theorem Served.sendPending (served : Served limit past fired self) {event : Event Body}
    {before : ReliableChannel Body} {pending : PendingReliable Body}
    (paced : Paced anything (before.sendPending pending).1)
    (listed : before.pending.has pending.id = true) (policy : before.policy = self.policy)
    (objects : ∀ other, other ≠ pending.id → before.objects.get? other = self.objects.get? other)
    (sending : before.sending = self.sending) (next : before.timers.next = self.timers.next)
    (timers : ∀ handle task, before.timers.get? handle = some task →
      self.timers.get? handle = some task)
    (kept : ∀ handle task, self.timers.get? handle = some task → task.id ≠ pending.id →
      before.timers.get? handle = some task)
    (known : self.objects.get? pending.id = some pending ∨
      self.objects.get? pending.id = none ∧ pending.timer = none ∧ pending.attempts = 0)
    (room : pending.attempts < limit)
    (others : ∀ other ∈ before.pending.keys, other = pending.id ∨ other ∈ self.pending.keys)
    (count : tally self event fired pending.id = pending.attempts)
    (same : ∀ other, other ≠ pending.id → Expires self other event = false) :
    Served limit (past ++ (before.sendPending pending).2) (tally self event fired)
      (before.sendPending pending).1 := by
  have attempts : attempted self pending.id = pending.attempts := by
    rcases known with stored | ⟨missing, _, none⟩
    · exact attempted_of_get? stored
    · rw [attempted, missing, none]
      rfl
  simp only [ReliableChannel.sendPending, listed, ↓reduceIte] at paced ⊢
  refine served.transmit pending.id { pending with
      attempts := pending.attempts + 1
      lastSentAt := before.now } paced policy ?_ (by rw [sending]) next timers kept ?_ ?_
    (by rw [attempts]) room others (by rw [count]) ?_
  · intro other
    rw [InsertionMap.get?_set]
    split
    · rfl
    · exact objects other ‹_›
  · intro handle armed
    rcases known with stored | ⟨_, none, _⟩
    · exact ⟨pending, stored, armed⟩
    · cases none.symm.trans armed
  · intro other
    simp only [transmissions, List.countP_singleton, Transmits, decide_eq_true_eq]
    exact if_congr eq_comm rfl rfl
  · intro other different
    rw [tally, same other different]
    rfl

theorem Served.send (served : Served limit past fired self) (positive : 0 < limit) {id : String}
    (trackingId : Option String) (channel : ReliableChannelName) (body : Body)
    (new : self.objects.get? id = none)
    (paced : Paced anything (self.send id trackingId channel body).1) :
    Served limit (past ++ (self.send id trackingId channel body).2)
      (tally self (.send id trackingId channel body) fired)
      (self.send id trackingId channel body).1 := by
  refine served.sendPending paced ?_ rfl ?_ rfl rfl (fun _ _ held => held) (fun _ _ held _ => held)
    (Or.inr ⟨new, rfl, rfl⟩) positive ?_ ?_ (fun _ _ => rfl)
  · rw [InsertionMap.has_iff, InsertionMap.mem_keys_set]
    exact Or.inl rfl
  · exact fun other different => InsertionMap.get?_set_ne _ _ different
  · exact fun other listed => (InsertionMap.mem_keys_set _ _ _ _).mp listed
  · exact served.unfired id new

/-- A message leaves `pending`, and its timer goes. -/
theorem Served.clear (served : Served limit past fired self) {later : String → Nat}
    {before : ReliableChannel Body} {pending : PendingReliable Body}
    (stored : self.objects.get? pending.id = some pending)
    (paced : Paced anything (before.clearPending pending)) (policy : before.policy = self.policy)
    (objects : before.objects = self.objects) (listed : before.pending = self.pending)
    (next : before.timers.next = self.timers.next)
    (timers : ∀ handle task, before.timers.get? handle = some task →
      self.timers.get? handle = some task)
    (kept : ∀ handle task, self.timers.get? handle = some task → task.id ≠ pending.id →
      before.timers.get? handle = some task)
    (sending : ∀ other, other ≠ pending.id → other ∈ self.sending → other ∈ before.sending)
    (silent : ∀ id, transmissions id notes = 0)
    (others : ∀ other, other ≠ pending.id → later other = fired other) :
    Served limit (past ++ notes) later (before.clearPending pending) := by
  have left : ∀ other ∈ (before.clearPending pending).pending.keys,
      other ≠ pending.id ∧ other ∈ self.pending.keys := by
    intro other member
    rw [← listed]
    exact (InsertionMap.mem_keys_delete _ _ _).mp member
  refine served.rest paced policy objects ((next_cancel _ _).trans next) ?_ silent
    (fun other member => (left other member).2)
    (fun other member => sending other (left other member).1) ?_ ?_
    (fun other member => others other (left other member).1)
  · exact fun handle task held => timers handle task (Callbacks.get?_of_cancel held)
  · intro handle task held member
    have different := (left task.id member).1
    have owned : Owned before := served.owned.frame objects next timers
    exact owned.cancel_other (objects ▸ stored) (kept handle task held different) different
  · intro other missing
    refine others other ?_
    rintro rfl
    cases missing.symm.trans stored

theorem Expires.of_armed {handle : Nat} {task : RetryTask} (held : self.timers.get? handle = some task)
    (id : String) : Expires self id (.fire handle) = decide (task.id = id) := by
  simp only [Expires, held, Option.map_some, Option.some.injEq]

/-- The timer of a message that is not pending runs out. -/
theorem Served.idle (served : Served limit past fired self) {handle : Nat} {task : RetryTask}
    (held : self.timers.get? handle = some task) (unlisted : ¬ self.pending.has task.id = true)
    (paced : Paced anything { self with timers := self.timers.remove handle }) :
    Served limit (past ++ []) (tally self (.fire handle) fired)
      { self with timers := self.timers.remove handle } := by
  have other : ∀ id, id ≠ task.id → tally self (.fire handle) fired id = fired id := by
    intro id different
    rw [tally, Expires.of_armed held, decide_eq_false (Ne.symm different)]
    rfl
  refine served.rest paced rfl rfl rfl (fun _ _ => Callbacks.get?_of_remove) (fun _ => rfl)
    (fun _ member => member) (fun _ _ member => member) ?_ ?_ ?_
  · intro also another there member
    rw [Callbacks.get?_remove]
    split
    · rename_i same
      subst same
      cases held.symm.trans there
      exact absurd ((InsertionMap.has_iff _ _).mpr member) unlisted
    · exact there
  · intro id missing
    refine other id ?_
    rintro rfl
    obtain ⟨object, found⟩ := served.owned.known handle task held
    cases missing.symm.trans found
  · intro id member
    refine other id ?_
    rintro rfl
    exact unlisted ((InsertionMap.has_iff _ _).mpr member)

theorem Served.fire (served : Served limit past fired self) {handle : Nat} {task : RetryTask}
    (held : self.timers.get? handle = some task)
    (fires : { self with timers := self.timers.remove handle }.runTimer task = some (after, notes))
    (paced : Paced anything after) :
    Served limit (past ++ notes) (tally self (.fire handle) fired) after := by
  have kept : ∀ other another, self.timers.get? other = some another → another.id ≠ task.id →
      (self.timers.remove handle).get? other = some another := by
    intro other another there different
    rw [Callbacks.get?_remove]
    split
    · rename_i same
      subst same
      cases held.symm.trans there
      exact absurd rfl different
    · exact there
  have expires : ∀ other, other ≠ task.id → Expires self other (.fire handle) = false := by
    intro other different
    rw [Expires.of_armed held, decide_eq_false (Ne.symm different)]
  cases runTimer_fires fires with
  | resend object listed stored sent =>
      have named := served.paced.named _ object stored
      subst named
      obtain ⟨found, attended⟩ := served.attended object.id ((InsertionMap.has_iff _ _).mp listed)
      cases attended.stored.symm.trans stored
      obtain ⟨again, there, waits⟩ := served.paced.resends handle object.id held
      cases stored.symm.trans there
      obtain ⟨rfl, rfl⟩ := Prod.mk.inj sent
      refine served.sendPending paced listed rfl (fun _ _ => rfl) rfl rfl
        (fun _ _ => Callbacks.get?_of_remove) kept (Or.inl stored) (served.policy ▸ waits.room)
        (fun _ => Or.inr) ?_ expires
      rw [tally, Expires.of_armed held]
      simp only [RetryTask.id, decide_true, if_true]
      exact attended.counted
  | expire object listed stored =>
      have named := served.paced.named _ object stored
      subst named
      refine served.clear stored paced rfl rfl rfl rfl (fun _ _ => Callbacks.get?_of_remove) kept
        (fun _ _ member => member) (fun _ => rfl) ?_
      intro other different
      rw [tally, expires other different]
      rfl
  | idle unlisted => exact served.idle held unlisted paced

theorem Served.sendResolved (served : Served limit past fired self) {pending : PendingReliable Body}
    (stored : self.objects.get? pending.id = some pending) (under : pending.id ∈ self.sending)
    (ok : Bool) (paced : Paced anything (self.sendResolved pending ok).1) :
    Served limit (past ++ (self.sendResolved pending ok).2) fired (self.sendResolved pending ok).1 := by
  cases ok with
  | true => exact served.arm stored under fun _ => rfl
  | false =>
      refine served.clear stored paced rfl rfl rfl rfl (fun _ _ held => held) (fun _ _ held _ => held)
        ?_ (fun _ => rfl) (fun _ _ => rfl)
      exact fun other different member => (List.mem_erase_of_ne different).mpr member

/-- What is neither transmitted, armed nor ended. -/
theorem Served.still (served : Served limit past fired self) (paced : Paced anything after)
    (policy : after.policy = self.policy) (objects : after.objects = self.objects)
    (timers : after.timers = self.timers) (sending : after.sending = self.sending)
    (pending : after.pending = self.pending) (silent : ∀ id, transmissions id notes = 0) :
    Served limit (past ++ notes) fired after := by
  refine served.rest paced policy objects (by rw [timers]) (fun _ _ held => timers ▸ held) silent ?_ ?_
    (fun _ _ held _ => timers.symm ▸ held) (fun _ _ => rfl) (fun _ _ => rfl)
  · rw [pending]
    exact fun _ member => member
  · rw [sending]
    exact fun _ _ member => member

/-- An ACK or a NACK ends its message if it is pending. -/
theorem Served.answer (served : Served limit past fired self) (id : String)
    (report : PendingReliable Body → Note Body)
    (silent : ∀ pending other, transmissions other [report pending] = 0) :
    Served limit
      (past ++ (match self.sweepSeen.lookup id with
        | none => (self.sweepSeen, [])
        | some pending => (self.sweepSeen.clearPending pending, [report pending])).2) fired
      (match self.sweepSeen.lookup id with
        | none => (self.sweepSeen, [])
        | some pending => (self.sweepSeen.clearPending pending, [report pending])).1 := by
  have swept := sweepSeen_paced served.paced
  cases found : self.sweepSeen.lookup id with
  | none => exact served.still swept rfl rfl rfl rfl rfl fun _ => rfl
  | some pending =>
      obtain ⟨_, stored⟩ := lookup_some found
      have same := served.paced.named id pending stored
      subst same
      exact served.clear stored (clearPending_paced swept pending) rfl rfl rfl rfl
        (fun _ _ held => held) (fun _ _ held _ => held) (fun _ _ member => member) (silent pending)
        (fun _ _ => rfl)

theorem Served.receive (served : Served limit past fired self) (message : ReliableEnvelopeMessage Body)
    (paced : Paced anything (self.receive message).1) :
    Served limit (past ++ (self.receive message).2) fired (self.receive message).1 := by
  cases message with
  | ack id => exact served.answer id (fun pending => .onDelivered id pending.trackingId) fun _ _ => rfl
  | nack id reason =>
      exact served.answer id (fun pending => .onFailed id pending.trackingId reason) fun _ _ => rfl
  | msg id channel body createdAt attempt =>
      exact served.still paced rfl rfl rfl rfl rfl fun _ => rfl

theorem failEach_rest (reason : String) (ids : List String) (self : ReliableChannel Body) :
    (failEach reason ids self).1.objects = self.objects ∧
    (failEach reason ids self).1.timers.next = self.timers.next ∧
    (∀ handle task, (failEach reason ids self).1.timers.get? handle = some task →
      self.timers.get? handle = some task) ∧
    ∀ id, transmissions id (failEach reason ids self).2 = 0 := by
  induction ids generalizing self with
  | nil => exact ⟨rfl, rfl, fun _ _ held => held, fun _ => rfl⟩
  | cons id rest ih =>
      simp only [failEach]
      split
      · exact ih self
      · rename_i pending _
        obtain ⟨objects, next, timers, silent⟩ := ih (self.clearPending pending)
        refine ⟨objects, next.trans (next_cancel _ _), ?_, ?_⟩
        · exact fun handle task held => Callbacks.get?_of_cancel (timers handle task held)
        · intro other
          rw [transmissions_append, show (self.failPending pending reason).1 =
            self.clearPending pending from rfl, silent other]
          rfl

theorem resetTimers_next (ids : List String) (timers : Callbacks RetryTask) :
    (self.resetTimers ids timers).next = timers.next := by
  induction ids generalizing timers with
  | nil => rfl
  | cons id rest ih => exact (ih _).trans (next_cancel _ _)

/-- Everything pending is ended at once. -/
theorem Served.end_all (served : Served limit past fired self) (paced : Paced anything after)
    (policy : after.policy = self.policy) (objects : after.objects = self.objects)
    (next : after.timers.next = self.timers.next)
    (timers : ∀ handle task, after.timers.get? handle = some task →
      self.timers.get? handle = some task)
    (silent : ∀ id, transmissions id notes = 0) (none : ∀ id, id ∉ after.pending.keys) :
    Served limit (past ++ notes) fired after :=
  served.rest paced policy objects next timers silent (fun id member => absurd member (none id))
    (fun id member => absurd member (none id)) (fun _ task _ member => absurd member (none task.id))
    (fun _ _ => rfl) (fun _ _ => rfl)

theorem Served.of_eq {later : String → Nat} {result : ReliableChannel Body × List (Note Body)}
    (served : Served limit (past ++ result.2) later result.1) (same : result = (after, notes)) :
    Served limit (past ++ notes) later after := by
  subst same
  exact served

theorem Served.step (served : Served limit past fired self) (positive : 0 < limit)
    {event : Event Body} (stepped : self.step event = some (after, notes)) :
    Served limit (past ++ notes) (tally self event fired) after := by
  have admits : Admits anything self event := by
    cases event with
    | receive message => cases message <;> trivial
    | _ => trivial
  have paces : (∀ elapsed, event ≠ .tick elapsed) → Paces anything self (after, notes) :=
    fun still => step_paces served.paced (served.policy ▸ positive) admits still stepped
  -- Only a timer that runs out is counted.
  have untallied : (∀ handle, event ≠ .fire handle) → tally self event fired = fired := by
    intro other
    funext id
    cases event with
    | fire handle => exact absurd rfl (other handle)
    | _ => rfl
  cases event with
  | send id trackingId channel body =>
      have turned := paces (by simp)
      simp only [ReliableChannel.step] at stepped
      split at stepped
      · cases stepped
      · rename_i new
        have same := Option.some.inj stepped
        -- The id of a new message is drawn at random and names no object yet.
        have missing : self.objects.get? id = none := by
          rw [InsertionMap.get?_eq_none_iff, ← InsertionMap.has_iff]
          exact new
        refine (served.send positive trackingId channel body missing ?_).of_eq same
        rw [same]
        exact turned.paced
  | sendResolved id ok =>
      have turned := paces (by simp)
      rw [untallied (by simp)]
      simp only [ReliableChannel.step] at stepped
      split at stepped
      · rename_i under
        obtain ⟨pending, stored, same⟩ := Option.map_eq_some_iff.mp stepped
        have named := served.paced.named id pending stored
        subst named
        refine (served.sendResolved stored under ok ?_).of_eq same
        rw [same]
        exact turned.paced
      · cases stepped
  | receive message =>
      have turned := paces (by simp)
      rw [untallied (by simp)]
      have same := Option.some.inj stepped
      refine (served.receive message ?_).of_eq same
      rw [same]
      exact turned.paced
  | ackSent index =>
      have turned := paces (by simp)
      rw [untallied (by simp)]
      obtain ⟨call, _, same⟩ := Option.map_eq_some_iff.mp stepped
      simp only [ReliableChannel.ackSent] at same
      split at same
      · cases same
        exact served.still turned.paced rfl rfl rfl rfl rfl fun _ => rfl
      · cases same
        exact served.still turned.paced rfl rfl rfl rfl rfl fun _ => rfl
  | fire handle =>
      have turned := paces (by simp)
      simp only [ReliableChannel.step] at stepped
      split at stepped
      · cases stepped
      · rename_i task timers taken
        obtain ⟨held, rfl⟩ := Callbacks.take_eq_some.mp taken
        exact served.fire held stepped turned.paced
  | failAll reason =>
      have turned := paces (by simp)
      -- What the ledger says of `failAll`: nothing of its snapshot stays pending.
      have ended := step_turn served.formed _ stepped
      rw [untallied (by simp)]
      have rest := failEach_rest reason self.pending.keys self
      rw [show failEach reason self.pending.keys self = (after, notes) from Option.some.inj stepped]
        at rest
      obtain ⟨objects, next, timers, silent⟩ := rest
      refine served.end_all turned.paced turned.policy objects next timers silent fun id member => ?_
      rcases (ended.listed id).mp member with ⟨was, stays⟩ | new
      · exact stays was
      · cases new
  | reset =>
      have turned := paces (by simp)
      rw [untallied (by simp)]
      cases stepped
      exact served.end_all turned.paced rfl rfl (resetTimers_next _ _)
        (fun _ _ => resetTimers_held _) (fun _ => rfl) (fun _ => List.not_mem_nil)
  | tick elapsed =>
      rw [untallied (by simp)]
      cases stepped
      refine served.still ?_ rfl rfl rfl rfl rfl fun _ => rfl
      exact served.paced.frame rfl rfl rfl (fun _ _ held => held) served.paced.receipts

end Steps

section Runs

variable {limit : Nat} {policy : ReliablePolicy}

theorem create_served (policy : ReliablePolicy) :
    Served policy.maxAttempts [] (fun _ => 0) (create policy : ReliableChannel Body) where
  paced := create_paced policy
  policy := rfl
  owned := by constructor <;> simp [create]
  counted := fun _ => rfl
  within := fun _ => Nat.zero_le _
  unfired := fun _ _ => rfl
  attended := by simp [create]

/-- The expiries along the events are those counted before them and their own. -/
theorem execute_served (positive : 0 < limit) (events : List (Event Body))
    {past history : List (Note Body)} {fired : String → Nat} {self final : ReliableChannel Body}
    (served : Served limit past fired self)
    (ran : (machine Body).execute self events = some (final, history)) :
    Served limit (past ++ history) (fun id => fired id + expiries id self events) final := by
  induction events generalizing self past history fired with
  | nil =>
      simp only [Machine.execute, Option.some.injEq, Prod.mk.injEq] at ran
      obtain ⟨rfl, rfl⟩ := ran
      simpa [expiries] using served
  | cons event rest ih =>
      obtain ⟨next, first, later, stepped, remaining, rfl⟩ := Machine.execute_cons.mp ran
      have ended := ih (served.step positive stepped) remaining
      rw [← List.append_assoc]
      have counts : (fun id => fired id + expiries id self (event :: rest)) =
          fun id => tally self event fired id + expiries id next rest := by
        funext id
        have taken : self.step event = some (next, first) := stepped
        simp only [expiries, taken, tally, Nat.add_assoc]
      rw [counts]
      exact ended

/-- In every execution, for every message: it is transmitted at most `maxAttempts` times, and while
it is pending a transmission is under way or its own timer is armed, its attempts stay within the
limit, and fewer than `maxAttempts` of its timers have run out. -/
theorem pending_message_is_attended (Body : Type) (policy : ReliablePolicy)
    (positive : 1 ≤ policy.maxAttempts) (events : List (Event Body)) (final : ReliableChannel Body)
    (history : List (Note Body))
    (ran : (machine Body).execute (create policy) events = some (final, history)) (id : String) :
    transmissions id history ≤ policy.maxAttempts ∧
    (id ∈ final.pending.keys → ∃ object, final.objects.get? id = some object ∧
      object.attempts ≤ policy.maxAttempts ∧
      (id ∈ final.sending ∨ ∃ handle task, object.timer = some handle ∧
        final.timers.get? handle = some task ∧ task.id = id) ∧
      expiries id (create policy) events < policy.maxAttempts) := by
  have served := execute_served positive events (create_served policy) ran
  have within := served.within id
  constructor
  · have counted := served.counted id
    rw [List.nil_append] at counted
    exact Nat.le_trans (Nat.le_of_eq counted) within
  · intro listed
    obtain ⟨object, attended⟩ := served.attended id listed
    rw [attempted_of_get? attended.stored] at within
    have fewer := attended.counted
    exact ⟨object, attended.stored, within, attended.served, by omega⟩

/-- A message whose first transmission was not acknowledged waits for its second one. -/
theorem retried_message_is_attended :
    ∃ final history object,
      (machine String).execute (create defaultPolicy) [.send "m" none .text "hello",
        .sendResolved "m" true, .fire 0] = some (final, history) ∧
      final.objects.get? "m" = some object ∧ object.attempts = 2 ∧
      object.attempts ≤ defaultPolicy.maxAttempts ∧
      expiries "m" (create defaultPolicy) [.send "m" none .text "hello", .sendResolved "m" true,
        .fire 0] < defaultPolicy.maxAttempts := by
  have ran : ((machine String).execute (create defaultPolicy) [.send "m" none .text "hello",
      .sendResolved "m" true, .fire 0]).map (fun result => (result.1.pending.keys,
        (result.1.objects.get? "m").map PendingReliable.attempts)) = some (["m"], some 2) := by
    decide +kernel
  obtain ⟨⟨final, history⟩, executed, seen⟩ := Option.map_eq_some_iff.mp ran
  simp only [Prod.mk.injEq] at seen
  obtain ⟨listed, attempts⟩ := seen
  obtain ⟨object, stored, within, _, fewer⟩ := (pending_message_is_attended String defaultPolicy
    (by decide) _ final history executed "m").2 (by rw [listed]; exact List.mem_singleton.mpr rfl)
  rw [stored, Option.map_some, Option.some.injEq] at attempts
  exact ⟨final, history, object, executed, stored, attempts, within, fewer⟩

end Runs

end OnlyTwo.Reliable
