import OnlyTwo.ReliableDelivery

/-!
What a reliable channel transmits: an envelope around a body it was given, on the lane of
its channel, never more often than `maxAttempts`, and the ACK of a message that came in.
The attempts are bounded because a timer that sends again belongs to one object, is the
timer this object knows, and waits while no transmission of the object is under way.
-/

namespace OnlyTwo.Reliable

open ReliableChannel

variable {Body : Type}

/-- What is known of the arguments of a `send`, of an id that is acknowledged and of a body
that came in. -/
structure Terms (Body : Type) where
  sent : String → ReliableChannelName → Body → Nat → Prop
  acked : String → Prop
  arrived : Body → Prop

def Terms.carries (terms : Terms Body) (pending : PendingReliable Body) : Prop :=
  terms.sent pending.id pending.channel pending.body pending.createdAt

/-- The timer that sends an object again. -/
structure Waits (channel : ReliableChannel Body) (handle : Nat) (pending : PendingReliable Body) :
    Prop where
  idle : pending.id ∉ channel.sending
  room : pending.attempts < channel.policy.maxAttempts
  armed : pending.timer = some handle

structure Paced (terms : Terms Body) (channel : ReliableChannel Body) : Prop where
  named : ∀ id pending, channel.objects.get? id = some pending → pending.id = id
  carries : ∀ id pending, channel.objects.get? id = some pending → terms.carries pending
  once : channel.sending.Nodup
  held : ∀ id ∈ channel.sending, ∃ pending, channel.objects.get? id = some pending
  resends : ∀ handle id, channel.timers.get? handle = some (.resend id) →
    ∃ pending, channel.objects.get? id = some pending ∧ Waits channel handle pending
  receipts : ∀ call ∈ channel.receiving, terms.arrived call.body

/-- What a note may tell `callbacks.send`. -/
def Emitted (terms : Terms Body) (limit : Nat) : Note Body → Prop
  | .transmit (.msg id channel body createdAt attempt) lane =>
      lane = channel ∧ terms.sent id channel body createdAt ∧ 1 ≤ attempt ∧ attempt ≤ limit
  | .transmit (.ack id) lane => lane = .control ∧ terms.acked id
  | .transmit (.nack _ _) _ => False
  | _ => True

def Admits (terms : Terms Body) (self : ReliableChannel Body) : Event Body → Prop
  | .send id _ channel body => terms.sent id channel body self.now
  | .receive (.msg id _ body _ _) => terms.acked id ∧ terms.arrived body
  | _ => True

variable {terms : Terms Body} {self after : ReliableChannel Body} {notes : List (Note Body)}

theorem create_paced (policy : ReliablePolicy) :
    Paced terms (create policy : ReliableChannel Body) :=
  ⟨nofun, nofun, List.nodup_nil, nofun, nofun, nofun⟩

/-- Timers may be cancelled, and what is pending or seen does not matter. -/
theorem Paced.frame (paced : Paced terms self) (policy : after.policy = self.policy)
    (objects : after.objects = self.objects) (sending : after.sending = self.sending)
    (timers : ∀ handle task, after.timers.get? handle = some task →
      self.timers.get? handle = some task)
    (receiving : ∀ call ∈ after.receiving, terms.arrived call.body) : Paced terms after where
  named := objects ▸ paced.named
  carries := objects ▸ paced.carries
  once := sending ▸ paced.once
  held := by
    rw [sending, objects]
    exact paced.held
  resends := by
    intro handle id armed
    obtain ⟨pending, stored, waits⟩ := paced.resends handle id (timers handle _ armed)
    refine ⟨pending, objects ▸ stored, ?_, ?_, waits.armed⟩
    · rw [sending]
      exact waits.idle
    · rw [policy]
      exact waits.room
  receipts := receiving

/-- What a turn leaves behind. -/
structure Paces (terms : Terms Body) (before : ReliableChannel Body)
    (result : ReliableChannel Body × List (Note Body)) : Prop where
  paced : Paced terms result.1
  policy : result.1.policy = before.policy
  now : result.1.now = before.now
  emitted : ∀ note ∈ result.2, Emitted terms before.policy.maxAttempts note

theorem clearPending_paced (paced : Paced terms self) (pending : PendingReliable Body) :
    Paced terms (self.clearPending pending) :=
  paced.frame rfl rfl rfl (fun _ _ held => Callbacks.get?_of_cancel held) paced.receipts

theorem failPending_paces (paced : Paced terms self) (pending : PendingReliable Body)
    (reason : String) : Paces terms self (self.failPending pending reason) := by
  refine ⟨clearPending_paced paced pending, rfl, rfl, ?_⟩
  intro note member
  rw [List.mem_singleton.mp member]
  trivial

theorem failEach_paces (reason : String) (ids : List String) (paced : Paced terms self) :
    Paces terms self (failEach reason ids self) := by
  induction ids generalizing self with
  | nil => exact ⟨paced, rfl, rfl, nofun⟩
  | cons id rest ih =>
      simp only [failEach]
      split
      · exact ih paced
      · rename_i pending _
        have first := failPending_paces paced pending reason
        have others := ih first.paced
        refine ⟨others.paced, others.policy.trans first.policy, others.now.trans first.now, ?_⟩
        intro note member
        rcases List.mem_append.mp member with early | late
        · exact first.emitted note early
        · exact first.policy ▸ others.emitted note late

/-- A transmission that may still be counted, of an object that no timer will send again. -/
theorem sendPending_paces (paced : Paced terms self) {pending : PendingReliable Body}
    (stored : self.objects.get? pending.id = some pending) (idle : pending.id ∉ self.sending)
    (room : pending.attempts < self.policy.maxAttempts)
    (unarmed : ∀ handle, self.timers.get? handle ≠ some (.resend pending.id)) :
    Paces terms self (self.sendPending pending) := by
  have carries := paced.carries _ pending stored
  simp only [sendPending]
  split
  · refine ⟨⟨named_set paced.named rfl, ?_, ?_, ?_, ?_, paced.receipts⟩, rfl, rfl, ?_⟩
    · intro id object found
      rw [InsertionMap.get?_set] at found
      split at found
      · cases found
        exact carries
      · exact paced.carries id object found
    · rw [List.nodup_append]
      refine ⟨paced.once, List.nodup_singleton _, ?_⟩
      intro id early other late same
      rw [List.mem_singleton.mp late] at same
      exact idle (same ▸ early)
    · intro id member
      rw [InsertionMap.get?_set]
      split
      · exact ⟨_, rfl⟩
      · rename_i other
        rcases List.mem_append.mp member with early | late
        · exact paced.held id early
        · exact absurd (List.mem_singleton.mp late) other
    · intro handle id armed
      obtain ⟨object, found, waits⟩ := paced.resends handle id armed
      have other : id ≠ pending.id := by
        rintro rfl
        exact unarmed handle armed
      refine ⟨object, (InsertionMap.get?_set_ne _ _ other).trans found, ?_, waits.room, waits.armed⟩
      rw [List.mem_append, not_or, List.mem_singleton]
      refine ⟨waits.idle, ?_⟩
      rw [paced.named id object found]
      exact other
    · intro note member
      rw [List.mem_singleton.mp member]
      exact ⟨rfl, carries, Nat.le_add_left 1 _, room⟩
  · refine ⟨paced, rfl, rfl, ?_⟩
    intro note member
    rw [List.mem_singleton.mp member]
    trivial

theorem send_paces (paced : Paced terms self) (positive : 0 < self.policy.maxAttempts) {id : String}
    (new : ¬ self.objects.has id) (trackingId : Option String) {channel : ReliableChannelName}
    {body : Body} (sent : terms.sent id channel body self.now) :
    Paces terms self (self.send id trackingId channel body) := by
  rw [InsertionMap.has_iff, ← InsertionMap.get?_eq_none_iff] at new
  have silent : ∀ handle, self.timers.get? handle ≠ some (.resend id) := by
    intro handle armed
    obtain ⟨object, found, _⟩ := paced.resends handle id armed
    cases new.symm.trans found
  have quiet : id ∉ self.sending := by
    intro member
    obtain ⟨object, found⟩ := paced.held id member
    cases new.symm.trans found
  have other : ∀ known object, self.objects.get? known = some object → known ≠ id := by
    rintro known object found rfl
    cases new.symm.trans found
  let pending : PendingReliable Body := ⟨id, trackingId, channel, body, 0, self.now, 0, none⟩
  have made : Paced terms { self with
      objects := self.objects.set id pending
      pending := self.pending.set id () } := by
    refine ⟨named_set paced.named rfl, ?_, paced.once, ?_, ?_, paced.receipts⟩
    · intro known object found
      rw [InsertionMap.get?_set] at found
      split at found
      · cases found
        exact sent
      · exact paced.carries known object found
    · intro known member
      obtain ⟨object, found⟩ := paced.held known member
      exact ⟨object, (InsertionMap.get?_set_ne _ _ (other known object found)).trans found⟩
    · intro handle known armed
      obtain ⟨object, found, waits⟩ := paced.resends handle known armed
      exact ⟨object, (InsertionMap.get?_set_ne _ _ (other known object found)).trans found,
        waits.idle, waits.room, waits.armed⟩
  have stored : (self.objects.set id pending).get? pending.id = some pending :=
    InsertionMap.get?_set_self _ _ _
  have turned := sendPending_paces made stored quiet positive silent
  exact ⟨turned.paced, turned.policy, turned.now, turned.emitted⟩

/-- The transmission under way leaves no timer of the object that could send it again. -/
theorem armRetry_paced {pending : PendingReliable Body} (paced : Paced terms self)
    (stored : self.objects.get? pending.id = some pending) (under : pending.id ∈ self.sending) :
    Paced terms
      ({ self with sending := self.sending.erase pending.id }.armRetry pending) := by
  have over_ : pending.id ∉ self.sending.erase pending.id := paced.once.not_mem_erase
  refine ⟨named_set paced.named rfl, ?_, paced.once.erase _, ?_, ?_, paced.receipts⟩
  · intro id object found
    simp only [armRetry, InsertionMap.get?_set] at found
    split at found
    · cases found
      exact paced.carries _ pending stored
    · exact paced.carries id object found
  · intro id member
    simp only [armRetry, InsertionMap.get?_set]
    split
    · exact ⟨_, rfl⟩
    · exact paced.held id (List.mem_of_mem_erase member)
  · intro handle id armed
    simp only [armRetry, Callbacks.get?_add] at armed
    split at armed
    · rename_i last
      subst last
      split at armed
      · cases armed
      · rename_i room
        cases armed
        exact ⟨_, InsertionMap.get?_set_self _ _ _, over_, Nat.lt_of_not_le room, rfl⟩
    · obtain ⟨object, found, waits⟩ := paced.resends handle id (Callbacks.get?_of_cancel armed)
      have named := paced.named id object found
      have other : id ≠ pending.id := by
        rintro rfl
        exact waits.idle (named ▸ under)
      refine ⟨object, (InsertionMap.get?_set_ne _ _ other).trans found, ?_, waits.room, waits.armed⟩
      intro member
      exact waits.idle (List.mem_of_mem_erase member)

theorem sendResolved_paces {pending : PendingReliable Body} (paced : Paced terms self)
    (stored : self.objects.get? pending.id = some pending) (under : pending.id ∈ self.sending)
    (ok : Bool) : Paces terms self (self.sendResolved pending ok) := by
  cases ok with
  | true =>
      refine ⟨armRetry_paced paced stored under, rfl, rfl, ?_⟩
      intro note member
      rw [List.mem_singleton.mp member]
      trivial
  | false =>
      have resumed : Paced terms { self with sending := self.sending.erase pending.id } := by
        refine ⟨paced.named, paced.carries, paced.once.erase _, ?_, ?_, paced.receipts⟩
        · exact fun id member => paced.held id (List.mem_of_mem_erase member)
        · intro handle id armed
          obtain ⟨object, found, waits⟩ := paced.resends handle id armed
          exact ⟨object, found, fun member => waits.idle (List.mem_of_mem_erase member), waits.room,
            waits.armed⟩
      have failed := failPending_paces resumed pending "Message could not be queued for transport"
      refine ⟨failed.paced, failed.policy, failed.now, ?_⟩
      intro note member
      rcases List.mem_append.mp member with early | late
      · exact failed.emitted note early
      · rw [List.mem_singleton.mp late]
        trivial

theorem sweepSeen_paced (paced : Paced terms self) : Paced terms self.sweepSeen :=
  paced.frame rfl rfl rfl (fun _ _ held => held) paced.receipts

theorem receive_paces (paced : Paced terms self) (message : ReliableEnvelopeMessage Body)
    (admits : Admits terms self (.receive message)) :
    Paces terms self (self.receive message) := by
  have swept := sweepSeen_paced paced
  cases message with
  | msg id channel body createdAt attempt =>
      refine ⟨swept.frame rfl rfl rfl (fun _ _ held => held) ?_, rfl, rfl, ?_⟩
      · intro call member
        rcases List.mem_append.mp member with early | late
        · exact paced.receipts call early
        · rw [List.mem_singleton.mp late]
          exact admits.2
      · intro note member
        simp only [receive, List.mem_cons, List.not_mem_nil, or_false] at member
        rcases member with rfl | rfl
        · trivial
        · exact ⟨rfl, admits.1⟩
  | ack id =>
      simp only [receive]
      split
      · exact ⟨swept, rfl, rfl, List.forall_mem_nil _⟩
      · refine ⟨clearPending_paced swept _, rfl, rfl, ?_⟩
        intro note member
        rw [List.mem_singleton.mp member]
        trivial
  | nack id reason =>
      simp only [receive]
      split
      · exact ⟨swept, rfl, rfl, List.forall_mem_nil _⟩
      · refine ⟨clearPending_paced swept _, rfl, rfl, ?_⟩
        intro note member
        rw [List.mem_singleton.mp member]
        trivial

theorem ackSent_paces (paced : Paced terms self) (index : Nat) (call : Receipt Body) :
    Paces terms self (self.ackSent index call) := by
  have left : ∀ other ∈ self.receiving.eraseIdx index, terms.arrived other.body :=
    fun other member => paced.receipts other (List.mem_of_mem_eraseIdx member)
  simp only [ackSent]
  split
  · refine ⟨paced.frame rfl rfl rfl (fun _ _ held => held) left, rfl, rfl, ?_⟩
    intro note member
    simp only [List.mem_cons, List.not_mem_nil, or_false] at member
    rcases member with rfl | rfl <;> trivial
  · refine ⟨paced.frame rfl rfl rfl (fun _ _ held => held) left, rfl, rfl, ?_⟩
    intro note member
    rw [List.mem_singleton.mp member]
    trivial

theorem resetTimers_held (ids : List String) {timers : Callbacks RetryTask} {handle : Nat}
    {task : RetryTask} (held : (self.resetTimers ids timers).get? handle = some task) :
    timers.get? handle = some task := by
  induction ids generalizing timers with
  | nil => exact held
  | cons id rest ih => exact Callbacks.get?_of_cancel (ih held)

theorem runTimer_paces {timers : Callbacks RetryTask} {handle : Nat} {task : RetryTask}
    (paced : Paced terms self) (taken : self.timers.take handle = some (task, timers))
    {result : ReliableChannel Body × List (Note Body)}
    (fired : { self with timers }.runTimer task = some result) : Paces terms self result := by
  obtain ⟨armed, rfl⟩ := Callbacks.take_eq_some.mp taken
  have rest : Paced terms { self with timers := self.timers.remove handle } :=
    paced.frame rfl rfl rfl (fun _ _ held => Callbacks.get?_of_remove held) paced.receipts
  obtain ⟨after, notes⟩ := result
  cases runTimer_fires fired with
  | resend pending _ stored sent =>
      obtain ⟨object, found, waits⟩ := paced.resends handle _ armed
      have same := paced.named _ pending stored
      subst same
      cases stored.symm.trans found
      have turned := sendPending_paces rest stored waits.idle waits.room ?_
      · rw [sent] at turned
        exact ⟨turned.paced, turned.policy, turned.now, turned.emitted⟩
      · -- Another timer of the object would be the one the object knows.
        intro other held
        obtain ⟨again, twice, known⟩ := paced.resends other _ (Callbacks.get?_of_remove held)
        cases stored.symm.trans twice
        cases waits.armed.symm.trans known.armed
        simp only [Callbacks.get?_remove, if_true] at held
        cases held
  | expire pending =>
      have failed := failPending_paces rest pending "Message delivery timed out"
      exact ⟨failed.paced, failed.policy, failed.now, failed.emitted⟩
  | idle => exact ⟨rest, rfl, rfl, List.forall_mem_nil _⟩

/-- One event of a paced channel that leaves the clock alone. -/
theorem step_paces (paced : Paced terms self) (positive : 0 < self.policy.maxAttempts)
    {event : Event Body} (admits : Admits terms self event) (still : ∀ elapsed, event ≠ .tick elapsed)
    (stepped : self.step event = some (after, notes)) : Paces terms self (after, notes) := by
  cases event with
  | send id trackingId channel body =>
      simp only [step] at stepped
      split at stepped
      · cases stepped
      · rename_i new
        rw [← Option.some.inj stepped]
        exact send_paces paced positive new trackingId admits
  | sendResolved id ok =>
      simp only [step] at stepped
      split at stepped
      · rename_i under
        obtain ⟨pending, stored, same⟩ := Option.map_eq_some_iff.mp stepped
        have named := paced.named id pending stored
        subst named
        rw [← same]
        exact sendResolved_paces paced stored under ok
      · cases stepped
  | receive message =>
      rw [← Option.some.inj stepped]
      exact receive_paces paced message admits
  | ackSent index =>
      obtain ⟨call, _, same⟩ := Option.map_eq_some_iff.mp stepped
      rw [← same]
      exact ackSent_paces paced index call
  | fire handle =>
      simp only [step] at stepped
      split at stepped
      · cases stepped
      · rename_i task timers taken
        exact runTimer_paces paced taken stepped
  | failAll reason =>
      rw [← Option.some.inj stepped]
      -- `failAll` clears the timers one by one as it goes.
      exact failEach_paces reason self.pending.keys paced
  | reset =>
      rw [← Option.some.inj stepped]
      refine ⟨paced.frame rfl rfl rfl (fun _ _ held => resetTimers_held _ held) paced.receipts, rfl,
        rfl, ?_⟩
      intro note member
      rw [List.mem_singleton.mp member]
      trivial
  | tick elapsed => exact absurd rfl (still elapsed)

end OnlyTwo.Reliable
