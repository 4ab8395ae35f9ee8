import OnlyTwo.FileSenderEffects

/-!
What survives `FileSender.reset`. It forgets the transfers of the map and
clears the timers their in-flight entries hold, but suspended calls keep their
reference to a `Transfer`, and so does a timer whose entry was overwritten.
`Inert` says which of these can still do something for the transfer.
-/

namespace OnlyTwo.FileSender

open Bytes FileProtocol Sender

variable {self before after : Sender} {fileId : String} {transfer : Transfer}

/-- A suspended call that does nothing for its transfer any more. -/
def InertCall (transfer : Transfer) : SenderCall → Prop
  | .pumping _ => True
  | .notifying _ => True
  | .sending _ index _ => transfer.cancelled = true ∨ transfer.acked.has index = true
  | _ => False

def InertTimer (transfer : Transfer) : SenderTimer → Prop
  | .ackTimeout _ index _ => transfer.cancelled = true ∨ transfer.acked.has index = true
  | .retry _ index _ =>
      transfer.cancelled = true ∨ transfer.acked.has index = true ∨ transfer.paused = true

/-- The timer of an in-flight entry of a registered transfer. -/
def HeldByEntry (sender : Sender) (ticket : Nat) : Prop :=
  ∃ owner object, sender.transfers.has owner = true ∧ sender.objects.get? owner = some object ∧
    ∃ item ∈ object.inflight.values, item.timer = some ticket

/-- At this moment nothing that outlives a reset can act for the transfer. -/
structure Discardable (sender : Sender) (fileId : String) (transfer : Transfer) : Prop where
  calls : ∀ ticket call, sender.calls.get? ticket = some call → call.fileId = fileId →
    InertCall transfer call
  timers : ∀ ticket timer, sender.timers.get? ticket = some timer → timer.fileId = fileId →
    HeldByEntry sender ticket ∨ InertTimer transfer timer

/-- The fields of an object that decide whether its callbacks are inert. -/
structure SameFlags (old new : Transfer) : Prop where
  cancelled : new.cancelled = old.cancelled
  acked : new.acked = old.acked
  paused : new.paused = old.paused

/-- Everything that is known about a transfer, except that timers and calls of
it may be gone. -/
structure Untouched (fileId : String) (before after : Sender) : Prop where
  object : after.objects.get? fileId = before.objects.get? fileId
  listed : after.transfers.has fileId = before.transfers.has fileId
  timers : ∀ ticket timer, after.timers.get? ticket = some timer → timer.fileId = fileId →
    before.timers.get? ticket = some timer
  calls : ∀ ticket call, after.calls.get? ticket = some call → call.fileId = fileId →
    before.calls.get? ticket = some call
  notes : ∀ note ∈ after.notes, note.fileId = fileId → note ∈ before.notes

theorem Untouched.refl (fileId : String) (sender : Sender) : Untouched fileId sender sender :=
  ⟨rfl, rfl, fun _ _ found _ => found, fun _ _ found _ => found, fun _ member _ => member⟩

theorem Untouched.trans {middle : Sender} (first : Untouched fileId before middle)
    (second : Untouched fileId middle after) : Untouched fileId before after where
  object := second.object.trans first.object
  listed := second.listed.trans first.listed
  timers := fun ticket timer found same =>
    first.timers ticket timer (second.timers ticket timer found same) same
  calls := fun ticket call found same =>
    first.calls ticket call (second.calls ticket call found same) same
  notes := fun note member same => first.notes note (second.notes note member same) same

theorem put_untouched (self : Sender) {new : Transfer} (different : fileId ≠ new.fileId) :
    Untouched fileId self (self.put new) := by
  refine ⟨?_, rfl, fun _ _ found _ => found, fun _ _ found _ => found, fun _ member _ => member⟩
  rw [Sender.put, InsertionMap.get?_set_ne _ _ different]

theorem list_untouched (self : Sender) {listed : String} (different : fileId ≠ listed) :
    Untouched fileId self { self with transfers := self.transfers.set listed () } := by
  refine ⟨rfl, ?_, fun _ _ found _ => found, fun _ _ found _ => found, fun _ member _ => member⟩
  simp only [InsertionMap.has, InsertionMap.get?_set_ne _ _ different]

theorem suspend_untouched (self : Sender) {call : SenderCall} (different : fileId ≠ call.fileId) :
    Untouched fileId self (self.suspend call) := by
  refine ⟨rfl, rfl, fun _ _ found _ => found, ?_, fun _ member _ => member⟩
  intro ticket stored found same
  simp only [Sender.suspend, Callbacks.get?_add] at found
  split at found
  · cases found
    exact absurd same.symm different
  · exact found

theorem Acts.untouched {mine : String → Prop} (acts : Acts mine before after)
    (other : ¬ mine fileId) : Untouched fileId before after := by
  induction acts with
  | refl => exact .refl fileId _
  | @put self old new _ found selected evolves ih =>
      refine ⟨?_, ih.listed, ih.timers, ih.calls, ih.notes⟩
      have different : fileId ≠ new.fileId := fun same => other (same ▸ selected)
      rw [Sender.put, InsertionMap.get?_set_ne _ _ different]
      exact ih.object
  | note _ found selected authored ih =>
      refine ⟨ih.object, ih.listed, ih.timers, ih.calls, ?_⟩
      intro entry member same
      rcases List.mem_append.mp member with early | last
      · exact ih.notes entry early same
      · rw [List.mem_singleton.mp last, authored.fileId] at same
        exact absurd (same ▸ selected) other
  | @suspend self call _ selected _ ih =>
      have different : fileId ≠ call.fileId := fun same => other (same ▸ selected)
      exact ih.trans (suspend_untouched self different)
  | @arm self timer _ selected ih =>
      refine ⟨ih.object, ih.listed, ?_, ih.calls, ih.notes⟩
      intro ticket stored found same
      rw [Callbacks.get?_add] at found
      split at found
      · cases found
        exact absurd (same ▸ selected) other
      · exact ih.timers ticket stored found same
  | cancel _ handle ih =>
      exact ⟨ih.object, ih.listed, fun ticket timer found same =>
        ih.timers ticket timer (Callbacks.get?_of_cancel found) same, ih.calls, ih.notes⟩
  | @unlist self listed _ selected ih =>
      refine ⟨ih.object, ?_, ih.timers, ih.calls, ih.notes⟩
      have different : fileId ≠ listed := fun same => other (same ▸ selected)
      simp only [InsertionMap.has, InsertionMap.get?_delete, different, ↓reduceIte]
      exact ih.listed

section Afterwards

/-- A transfer that is out of the map and has only inert callbacks. -/
structure Silent (fileId : String) (transfer : Transfer) (sender : Sender) : Prop where
  named : Named sender
  unlisted : sender.transfers.has fileId = false
  object : ∃ current, sender.objects.get? fileId = some current ∧ SameFlags transfer current
  calls : ∀ ticket call, sender.calls.get? ticket = some call → call.fileId = fileId →
    InertCall transfer call
  timers : ∀ ticket timer, sender.timers.get? ticket = some timer → timer.fileId = fileId →
    InertTimer transfer timer

theorem Untouched.silent (untouched : Untouched fileId before after) (named : Named after)
    (silent : Silent fileId transfer before) : Silent fileId transfer after where
  named := named
  unlisted := untouched.listed.trans silent.unlisted
  object := by
    rw [untouched.object]
    exact silent.object
  calls := fun ticket call found same =>
    silent.calls ticket call (untouched.calls ticket call found same) same
  timers := fun ticket timer found same =>
    silent.timers ticket timer (untouched.timers ticket timer found same) same

theorem withRegistered_unlisted {action : Transfer → Sender}
    (unlisted : self.transfers.has fileId = false) :
    self.withRegistered fileId action = self := by
  simp [withRegistered, unlisted]

theorem scheduleRetry_inert (found : self.objects.get? fileId = some transfer) {index : Nat}
    (spent : transfer.cancelled = true ∨ transfer.acked.has index = true) (nextAttempts : Nat)
    (reason : String) : self.scheduleRetry fileId index nextAttempts reason = self := by
  have over_ : (transfer.cancelled || transfer.acked.has index) = true := by simpa using spent
  simp [scheduleRetry, withTransfer, found, over_]

/-- Settling an inert call changes nothing but the `pumping` flag. -/
theorem settle_inert (self : Sender) (digest : Bytes → String) (outcome : Outcome) {call : SenderCall}
    (found : self.objects.get? call.fileId = some transfer) (inert : InertCall transfer call) :
    self.settle digest outcome call = self ∨
      self.settle digest outcome call = self.put { transfer with pumping := false } := by
  cases call with
  | pumping fileId =>
      right
      simp only [SenderCall.fileId] at found
      simp [settle, withTransfer, found]
  | notifying fileId => exact Or.inl rfl
  | sending fileId index attempts =>
      left
      simp only [SenderCall.fileId] at found
      have spent : (transfer.cancelled || transfer.acked.has index) = true := by
        simpa [InertCall] using inert
      cases outcome with
      | error message => exact scheduleRetry_inert found inert _ _
      | ok sent =>
          cases sent with
          | false => exact scheduleRetry_inert found inert _ _
          | true => simp [settle, chunkSent, withTransfer, found, spent]
  | hashing fileId queued => exact inert.elim
  | offering fileId => exact inert.elim
  | slicing fileId index attempts => exact inert.elim

/-- Firing an inert timer changes nothing but an in-flight entry. -/
theorem runTimer_inert (self : Sender) {timer : SenderTimer} (found : self.objects.get? timer.fileId = some transfer)
    (inert : InertTimer transfer timer) :
    self.runTimer timer = self ∨
      ∃ inflight, self.runTimer timer = self.put { transfer with inflight } := by
  cases timer with
  | ackTimeout fileId index attempts => exact Or.inl (scheduleRetry_inert found inert _ _)
  | retry fileId index nextAttempts =>
      simp only [SenderTimer.fileId] at found
      by_cases spent : (transfer.cancelled || transfer.acked.has index) = true
      · left
        simp [runTimer, sendChunk, withTransfer, found, spent]
      · right
        have paused : transfer.paused = true := by
          simp only [InertTimer] at inert
          simp only [Bool.or_eq_true] at spent
          tauto
        exact ⟨transfer.inflight.set index ⟨nextAttempts, .retryWait, none⟩,
          by simp [runTimer, sendChunk, withTransfer, found, spent, paused]⟩

/-- An update of the silent object itself that keeps its flags. -/
theorem Silent.put {new current : Transfer} (silent : Silent fileId transfer self)
    (found : self.objects.get? fileId = some current) (same : new.fileId = fileId)
    (flags : SameFlags current new) : Silent fileId transfer (self.put new) where
  named := put_named new silent.named
  unlisted := silent.unlisted
  object := by
    obtain ⟨stored, there, kept⟩ := silent.object
    cases found.symm.trans there
    refine ⟨new, ?_, flags.cancelled.trans kept.cancelled, flags.acked.trans kept.acked,
      flags.paused.trans kept.paused⟩
    rw [Sender.put, same, InsertionMap.get?_set_self]
  calls := silent.calls
  timers := silent.timers

theorem InertCall.same {old new : Transfer} {call : SenderCall} (flags : SameFlags old new)
    (inert : InertCall old call) : InertCall new call := by
  cases call <;> simp only [InertCall, flags.cancelled, flags.acked] at inert ⊢
  exact inert

theorem InertTimer.same {old new : Transfer} {timer : SenderTimer} (flags : SameFlags old new)
    (inert : InertTimer old timer) : InertTimer new timer := by
  cases timer <;> simpa only [InertTimer, flags.cancelled, flags.acked, flags.paused] using inert

theorem absent_of_unlisted (unlisted : self.transfers.has fileId = false) :
    fileId ∉ self.transfers.keys := by
  rw [← InsertionMap.has_iff, unlisted]
  exact Bool.false_ne_true

theorem reset_untouched (named : Named self) (unlisted : self.transfers.has fileId = false) :
    Named self.reset ∧ Untouched fileId self self.reset := by
  have cleared := clearAll_acts named
  have untouched := cleared.untouched (absent_of_unlisted unlisted)
  refine ⟨cleared.named named, untouched.object, ?_, untouched.timers, untouched.calls,
    untouched.notes⟩
  rw [unlisted]
  rfl

theorem Prepared.untouched {event : Event} {due : Option String} {middle : Sender}
    (prepared : Prepared self event due middle) (other : ¬ Addresses self event fileId) :
    Untouched fileId self middle := by
  cases prepared with
  | plain objects transfers notes calls timers =>
      exact ⟨by rw [objects], by rw [transfers], fun ticket timer found _ => timers ticket timer found,
        fun ticket call found _ => calls ticket call found, fun note member _ => notes ▸ member⟩
  | @acknowledged index transfer item found inside =>
      have cleared : Acts (Only transfer.fileId) self (self.clearInflightTimer (some item)) :=
        .cancel .refl _
      exact (cleared.untouched other).trans (put_untouched _ other)
  | @made named file queued absent =>
      have apart : fileId ≠ (newTransfer self.files named file queued).fileId := other
      have waits : fileId ≠ (SenderCall.hashing named queued).fileId := other
      exact (put_untouched self apart).trans (suspend_untouched _ waits)
  | @opened named file queued absent =>
      have apart : fileId ≠ (newTransfer self.files named file queued).fileId := other
      exact (put_untouched self apart).trans (list_untouched _ apart)
  | @hashed ticket outcome queued object held found sha256 =>
      have apart : fileId ≠ object.fileId := fun same => other ⟨_, held, same⟩
      have freed : Untouched fileId self { self with calls := self.calls.remove ticket } :=
        ⟨rfl, rfl, fun _ _ found _ => found, fun _ _ found _ => Callbacks.get?_of_remove found,
          fun _ member _ => member⟩
      have stored : fileId ≠ ({ object with sha256 } : Transfer).fileId := apart
      exact (freed.trans (put_untouched _ stored)).trans (list_untouched _ apart)
  | started found listed waiting => exact put_untouched self other

theorem sendOffer_untouched {named : String} (different : fileId ≠ named)
    (kept : Named self) : Untouched fileId self (self.sendOffer named) := by
  unfold sendOffer withTransfer
  split
  · exact .refl fileId self
  · rename_i object found
    have same := kept named object found
    have said : Untouched fileId self (self.note (.sendApp (.offer object.offer) .control)) := by
      refine ⟨rfl, rfl, fun _ _ found _ => found, fun _ _ found _ => found, ?_⟩
      intro note member about
      rcases List.mem_append.mp member with early | last
      · exact early
      · rw [List.mem_singleton.mp last] at about
        exact absurd (about.symm.trans same) different
    have waits : fileId ≠ (SenderCall.offering named).fileId := different
    exact said.trans (suspend_untouched _ waits)

/-- An event about a transfer that is out of the map reaches it only through a
callback of its own. -/
theorem addressed_unlisted (digest : Bytes → String) {event : Event} (found : ∃ object,
      self.objects.get? fileId = some object) (unlisted : self.transfers.has fileId = false)
    (addressed : Addresses self event fileId) (stepped : self.turn digest event = some after) :
    after = self ∨
      (∃ ticket outcome call, event = .settle ticket outcome ∧
        self.calls.get? ticket = some call ∧ fileId = call.fileId) ∨
      ∃ ticket timer, event = .fire ticket ∧ self.timers.get? ticket = some timer ∧
        fileId = timer.fileId := by
  cases event with
  | setProfile files => exact addressed.elim
  | offer other file queued =>
      obtain ⟨object, stored⟩ := found
      have taken : self.objects.has other = true := by
        simp [InsertionMap.has, ← (show fileId = other from addressed), stored]
      simp [turn, taken] at stepped
  | setGlobalPaused paused reason => exact absurd addressed (absent_of_unlisted unlisted)
  | reset => exact absurd addressed (absent_of_unlisted unlisted)
  | settle ticket outcome =>
      obtain ⟨call, held, same⟩ := addressed
      exact Or.inr (Or.inl ⟨ticket, outcome, call, rfl, held, same⟩)
  | fire ticket =>
      obtain ⟨timer, held, same⟩ := addressed
      exact Or.inr (Or.inr ⟨ticket, timer, rfl, held, same⟩)
  | _ =>
      cases (show fileId = _ from addressed)
      left
      exact (Option.some.inj stepped).symm.trans (withRegistered_unlisted unlisted)

/-- No turn of the loop mentions a silent transfer, and it stays silent. -/
theorem turn_silent (digest : Bytes → String) (event : Event)
    (silent : Silent fileId transfer self) (stepped : self.turn digest event = some after) :
    Silent fileId transfer after ∧ ∀ note ∈ after.notes, note.fileId = fileId → note ∈ self.notes := by
  have named := silent.named
  have unlisted := silent.unlisted
  obtain ⟨current, stored, flags⟩ := silent.object
  suffices moved : Named after ∧ Untouched fileId self after ∨
      Silent fileId transfer after ∧ after.notes = self.notes by
    rcases moved with ⟨kept, untouched⟩ | ⟨still, same⟩
    · exact ⟨untouched.silent kept silent, untouched.notes⟩
    · exact ⟨still, fun note member _ => same ▸ member⟩
  by_cases reset : event = .reset
  · subst reset
    cases stepped
    exact Or.inl (reset_untouched named unlisted)
  by_cases addressed : Addresses self event fileId
  · right
    have same := named _ current stored
    rcases addressed_unlisted digest ⟨current, stored⟩ unlisted addressed stepped with
      rfl | ⟨ticket, outcome, call, rfl, held, rfl⟩ | ⟨ticket, timer, rfl, held, rfl⟩
    · exact ⟨silent, rfl⟩
    · simp only [turn, Callbacks.take, held, Option.map_some, Option.some.injEq] at stepped
      subst stepped
      have waiting : Silent call.fileId transfer { self with calls := self.calls.remove ticket } :=
        ⟨named, unlisted, ⟨current, stored, flags⟩,
          fun other stays found => silent.calls other stays (Callbacks.get?_of_remove found),
          silent.timers⟩
      rcases settle_inert { self with calls := self.calls.remove ticket } digest outcome stored
          ((silent.calls ticket call held rfl).same flags) with kept | changed
      · rw [kept]
        exact ⟨waiting, rfl⟩
      · rw [changed]
        exact ⟨waiting.put stored same ⟨rfl, rfl, rfl⟩, rfl⟩
    · simp only [turn, Callbacks.take, held, Option.map_some, Option.some.injEq] at stepped
      subst stepped
      have waiting : Silent timer.fileId transfer { self with timers := self.timers.remove ticket } :=
        ⟨named, unlisted, ⟨current, stored, flags⟩, silent.calls,
          fun other stays found => silent.timers other stays (Callbacks.get?_of_remove found)⟩
      rcases runTimer_inert { self with timers := self.timers.remove ticket } stored
          ((silent.timers ticket timer held rfl).same flags) with kept | ⟨inflight, changed⟩
      · rw [kept]
        exact ⟨waiting, rfl⟩
      · rw [changed]
        exact ⟨waiting.put stored same ⟨rfl, rfl, rfl⟩, rfl⟩
  · left
    refine ⟨turn_named digest named stepped, ?_⟩
    obtain ⟨due, middle, last, prepared, kept, acts, rfl⟩ := turn_turned digest named reset stepped
    have chained := (prepared.untouched addressed).trans (acts.untouched addressed)
    cases ended : due with
    | none => exact chained
    | some offered =>
        refine chained.trans (sendOffer_untouched ?_ (acts.named kept))
        rintro rfl
        exact addressed (prepared.chosen ended)

end Afterwards

section Reset

theorem get?_cancelAll (items : List InflightChunk) (timers : Callbacks SenderTimer) (ticket : Nat)
    (timer : SenderTimer) :
    (cancelAll timers items).get? ticket = some timer ↔
      timers.get? ticket = some timer ∧ ∀ item ∈ items, item.timer ≠ some ticket := by
  induction items generalizing timers with
  | nil => simp [cancelAll]
  | cons item rest ih =>
      rw [cancelAll, ih]
      cases held : item.timer with
      | none => simp [Callbacks.cancel, held]
      | some spent =>
          simp only [Callbacks.cancel, Callbacks.get?_remove, List.mem_cons, forall_eq_or_imp, held]
          by_cases same : ticket = spent
          · subst same
            simp
          · simp [same, Ne.symm same]

/-- The entry timers of the transfers in a list. -/
def HeldAmong (sender : Sender) (owners : List String) (ticket : Nat) : Prop :=
  ∃ owner ∈ owners, ∃ object, sender.objects.get? owner = some object ∧
    ∃ item ∈ object.inflight.values, item.timer = some ticket

theorem clearTimers_object (named : Named self) (owner other : String) {object : Transfer}
    (found : self.objects.get? other = some object) :
    (self.clearTimers owner).objects.get? other =
      some (if other = owner then { object with inflight := .empty } else object) := by
  unfold clearTimers withTransfer
  cases stored : self.objects.get? owner with
  | none =>
      have different : other ≠ owner := by
        rintro rfl
        rw [found] at stored
        cases stored
      simp [different, found]
  | some held =>
      have same := named owner held stored
      simp only [Sender.put, same, InsertionMap.get?_set]
      by_cases hit : other = owner
      · subst hit
        rw [found] at stored
        cases stored
        simp [same]
      · simp [hit, found]

theorem clearTimers_timers (owner : String) (ticket : Nat) (timer : SenderTimer) :
    (self.clearTimers owner).timers.get? ticket = some timer ↔
      self.timers.get? ticket = some timer ∧ ¬ HeldAmong self [owner] ticket := by
  unfold clearTimers withTransfer
  cases stored : self.objects.get? owner with
  | none => simp [HeldAmong, stored]
  | some object => simp [Sender.put, get?_cancelAll, HeldAmong, stored]

theorem clearTimers_rest (owner : String) :
    (self.clearTimers owner).calls = self.calls ∧ (self.clearTimers owner).notes = self.notes := by
  unfold clearTimers withTransfer
  split <;> exact ⟨rfl, rfl⟩

/-- The loop of `reset`: flags, calls and notes stay, and exactly the timers of
the visited entries go. -/
theorem clearEach (owners : List String) (named : Named self) :
    Named (owners.foldl clearTimers self) ∧
    (∀ other object, self.objects.get? other = some object →
      ∃ current, (owners.foldl clearTimers self).objects.get? other = some current ∧
        SameFlags object current) ∧
    (owners.foldl clearTimers self).calls = self.calls ∧
    (owners.foldl clearTimers self).notes = self.notes ∧
    ∀ ticket timer, (owners.foldl clearTimers self).timers.get? ticket = some timer ↔
      self.timers.get? ticket = some timer ∧ ¬ HeldAmong self owners ticket := by
  induction owners generalizing self with
  | nil =>
      exact ⟨named, fun _ object found => ⟨object, found, rfl, rfl, rfl⟩, rfl, rfl,
        by simp [HeldAmong]⟩
  | cons owner rest ih =>
      have kept : Named (self.clearTimers owner) :=
        (clearTimers_acts named (Only.self owner) .refl).named named
      obtain ⟨still, objects, calls, notes, timers⟩ := ih kept
      refine ⟨still, ?_, calls.trans (clearTimers_rest owner).1,
        notes.trans (clearTimers_rest owner).2, ?_⟩
      · intro other object found
        obtain ⟨current, there, flags⟩ := objects other _ (clearTimers_object named owner other found)
        refine ⟨current, there, ?_⟩
        by_cases hit : other = owner
        · simp only [hit, ↓reduceIte] at flags
          exact ⟨flags.cancelled, flags.acked, flags.paused⟩
        · simpa only [hit, ↓reduceIte] using flags
      · intro ticket timer
        rw [List.foldl_cons, timers, clearTimers_timers, and_assoc]
        refine and_congr_right fun _ => ?_
        constructor
        · rintro ⟨notHere, notLater⟩ ⟨holder, member, object, found, held⟩
          rcases List.mem_cons.mp member with rfl | later
          · exact notHere ⟨holder, List.mem_singleton.mpr rfl, object, found, held⟩
          · by_cases hit : holder = owner
            · exact notHere ⟨holder, List.mem_singleton.mpr hit, object, found, held⟩
            · have there := clearTimers_object named owner holder found
              rw [if_neg hit] at there
              exact notLater ⟨holder, later, object, there, held⟩
        · intro nowhere
          constructor
          · rintro ⟨holder, member, object, found, held⟩
            exact nowhere ⟨holder, List.mem_cons.mpr (Or.inl (List.mem_singleton.mp member)), object,
              found, held⟩
          · rintro ⟨holder, member, object, found, item, listed, timed⟩
            by_cases hit : holder = owner
            · -- The entries of this owner are gone, so it holds nothing any more.
              subst hit
              cases stored : self.objects.get? holder with
              | none =>
                  have gone := ((clearTimers_acts named (Only.self holder) .refl).object holder).2 stored
                  rw [gone] at found
                  cases found
              | some old =>
                  have there := clearTimers_object named holder holder stored
                  rw [found, if_pos rfl] at there
                  cases there
                  simp [InsertionMap.values, InsertionMap.empty] at listed
            · cases stored : self.objects.get? holder with
              | none =>
                  have gone := ((clearTimers_acts named (Only.self owner) .refl).object holder).2 stored
                  rw [gone] at found
                  cases found
              | some old =>
                  have there := clearTimers_object named owner holder stored
                  rw [found, if_neg hit] at there
                  cases there
                  exact nowhere ⟨holder, List.mem_cons_of_mem _ member, object, stored, item, listed,
                    timed⟩

theorem heldByEntry_iff (sender : Sender) (ticket : Nat) :
    HeldByEntry sender ticket ↔ HeldAmong sender sender.transfers.keys ticket := by
  simp only [HeldByEntry, HeldAmong, InsertionMap.has_iff]
  constructor
  · rintro ⟨owner, object, listed, found, held⟩
    exact ⟨owner, listed, object, found, held⟩
  · rintro ⟨owner, listed, object, found, held⟩
    exact ⟨owner, object, listed, found, held⟩

end Reset

section Speaking

/-- The current turn has done something for the transfer. -/
def Speaks (fileId : String) (sender : Sender) : Prop :=
  ∃ note ∈ sender.notes, note.fileId = fileId

theorem Acts.notes_mono {mine : String → Prop} (acts : Acts mine before after) {note : SenderNote}
    (member : note ∈ before.notes) : note ∈ after.notes := by
  induction acts with
  | refl => exact member
  | put _ _ _ _ ih => exact ih
  | note _ _ _ _ ih => exact List.mem_append_left _ ih
  | suspend _ _ _ ih => exact ih
  | arm _ _ ih => exact ih
  | cancel _ _ ih => exact ih
  | unlist _ _ ih => exact ih

theorem note_speaks {entry : SenderNote} (about : entry.fileId = fileId) :
    Speaks fileId (self.note entry) :=
  ⟨entry, List.mem_append_right _ (List.mem_singleton.mpr rfl), about⟩

theorem Speaks.later {mine : String → Prop} (speaks : Speaks fileId before)
    (acts : Acts mine before after) : Speaks fileId after := by
  obtain ⟨note, member, about⟩ := speaks
  exact ⟨note, acts.notes_mono member, about⟩

theorem emit_speaks (transfer : Transfer) (named : Named self)
    (found : self.objects.get? fileId = some transfer) :
    Speaks fileId (self.emit fileId) := by
  simp only [emit, withTransfer, found]
  exact note_speaks (named fileId transfer found)

theorem put_emit_speaks {new : Transfer} (same : new.fileId = fileId) (named : Named self) :
    Speaks fileId ((self.put new).emit fileId) :=
  emit_speaks new (put_named new named)
    (by rw [Sender.put, same, InsertionMap.get?_set_self])

theorem fail_speaks (named : Named self) (found : self.objects.get? fileId = some transfer)
    (reason : String) : Speaks fileId (self.fail fileId reason) := by
  have same := named fileId transfer found
  simp only [fail, withTransfer, found]
  let failed : Transfer := { transfer with
    status := .failed
    reason := some reason
    cancelled := true }
  have kept : Named (self.put failed) := put_named failed named
  have cleared := clearTimers_acts kept (Only.self fileId) .refl
  obtain ⟨current, there, _⟩ := (cleared.object fileId).1 failed (by simp [Sender.put, failed, same])
  exact emit_speaks current (cleared.named kept) there

theorem failAndNotify_speaks (self : Sender) (fileId reason : String) :
    Speaks fileId (self.failAndNotify fileId reason) :=
  note_speaks rfl

theorem scheduleRetry_speaks (named : Named self)
    (found : self.objects.get? fileId = some transfer) {index : Nat}
    (live : ¬ (transfer.cancelled = true ∨ transfer.acked.has index = true)) (nextAttempts : Nat)
    (reason : String) : Speaks fileId (self.scheduleRetry fileId index nextAttempts reason) := by
  have same := named fileId transfer found
  have goes : ¬ (transfer.cancelled || transfer.acked.has index) = true := by simpa using live
  simp only [scheduleRetry, withTransfer, found, goes]
  simp only [Bool.false_eq_true, ↓reduceIte]
  split
  · exact failAndNotify_speaks _ fileId _
  · split
    · exact put_emit_speaks same named
    · exact put_emit_speaks same named

theorem sendChunk_speaks (named : Named self) (found : self.objects.get? fileId = some transfer)
    {index : Nat}
    (live : ¬ (transfer.cancelled = true ∨ transfer.acked.has index = true ∨
      transfer.paused = true)) (running : self.globalPaused = false) (attempts : Nat) :
    Speaks fileId (self.sendChunk fileId index attempts) := by
  have same := named fileId transfer found
  simp only [not_or, Bool.not_eq_true] at live
  simp only [sendChunk, withTransfer, found, live, running, Bool.or_self, Bool.false_eq_true,
    ↓reduceIte]
  split
  · exact failAndNotify_speaks self fileId _
  · exact put_emit_speaks same named

theorem register_speaks (transfer : Transfer) (named : Named self)
    (found : self.objects.get? fileId = some transfer)
    (queued : Bool) : Speaks fileId (self.register fileId queued) := by
  have listed : Named { self with transfers := self.transfers.set fileId () } := named
  have shown : Speaks fileId ({ self with transfers := self.transfers.set fileId () }.emit fileId) :=
    emit_speaks transfer listed found
  cases queued with
  | true => exact shown
  | false =>
      obtain ⟨note, member, about⟩ := shown
      refine ⟨note, ?_, about⟩
      change note ∈ (Sender.sendOffer _ fileId).notes
      unfold sendOffer withTransfer
      split
      · exact member
      · exact List.mem_append_left _ member

/-- Every call that is not inert has a way to act once it is settled. -/
theorem settle_speaks (self : Sender) (digest : Bytes → String) {call : SenderCall} (named : Named self)
    (found : self.objects.get? call.fileId = some transfer) (live : ¬ InertCall transfer call) :
    ∃ outcome, Speaks call.fileId (self.settle digest outcome call) := by
  cases call with
  | hashing fileId queued =>
      have same := named fileId transfer found
      refine ⟨.ok true, ?_⟩
      simp only [SenderCall.fileId] at found ⊢
      simp only [settle, withTransfer, found]
      let hashed : Transfer := { transfer with sha256 := some (digest transfer.file.bytes) }
      exact register_speaks hashed (put_named hashed named)
        (by simp [Sender.put, hashed, same]) queued
  | offering fileId => exact ⟨.ok false, fail_speaks named found _⟩
  | slicing fileId index attempts =>
      refine ⟨.ok true, ?_⟩
      have same := named fileId transfer found
      simp only [SenderCall.fileId] at found ⊢
      simp only [settle, sliced, withTransfer, found]
      exact note_speaks same
  | sending fileId index attempts =>
      exact ⟨.ok false, scheduleRetry_speaks named found live _ _⟩
  | pumping fileId => exact absurd trivial live
  | notifying fileId => exact absurd trivial live

theorem runTimer_speaks (self : Sender) {timer : SenderTimer} (named : Named self)
    (found : self.objects.get? timer.fileId = some transfer) (running : self.globalPaused = false)
    (live : ¬ InertTimer transfer timer) : Speaks timer.fileId (self.runTimer timer) := by
  cases timer with
  | ackTimeout fileId index attempts => exact scheduleRetry_speaks named found live _ _
  | retry fileId index nextAttempts => exact sendChunk_speaks named found live running _

end Speaking

section Discard

variable {digest : Bytes → String}

theorem SameFlags.symm {old new : Transfer} (flags : SameFlags old new) : SameFlags new old :=
  ⟨flags.cancelled.symm, flags.acked.symm, flags.paused.symm⟩

theorem execute_silent (events : List Event) {history : List SenderNote}
    (silent : Silent fileId transfer self)
    (ran : (machine digest).execute self events = some (after, history)) :
    ∀ note ∈ history, note.fileId ≠ fileId := by
  induction events generalizing self history with
  | nil =>
      simp only [Machine.execute, Option.some.injEq, Prod.mk.injEq] at ran
      obtain ⟨_, rfl⟩ := ran
      simp
  | cons event rest ih =>
      obtain ⟨next, first, later, stepped, remaining, rfl⟩ := Machine.execute_cons.mp ran
      obtain ⟨turned, moved, same⟩ := Option.map_eq_some_iff.mp stepped
      cases same
      have fresh : Silent fileId transfer { self with notes := [] } :=
        ⟨silent.named, silent.unlisted, silent.object, silent.calls, silent.timers⟩
      obtain ⟨still, unheard⟩ := turn_silent digest event fresh moved
      intro note member about
      rcases List.mem_append.mp member with here | there
      · cases unheard note here about
      · exact ih still remaining note there about

/-- What is left of a sender after `reset`, as far as one transfer sees it. -/
theorem reset_spec (named : Named self) (made : self.objects.get? fileId = some transfer) :
    Named self.reset ∧
    (∃ current, self.reset.objects.get? fileId = some current ∧ SameFlags transfer current) ∧
    self.reset.calls = self.calls ∧ self.reset.notes = self.notes ∧
    ∀ ticket timer, self.reset.timers.get? ticket = some timer ↔
      self.timers.get? ticket = some timer ∧ ¬ HeldByEntry self ticket := by
  obtain ⟨kept, objects, calls, notes, timers⟩ := clearEach self.transfers.keys named
  refine ⟨kept, objects fileId transfer made, calls, notes, ?_⟩
  intro ticket timer
  rw [heldByEntry_iff]
  exact timers ticket timer

theorem reset_silent (named : Named self) (made : self.objects.get? fileId = some transfer)
    (discardable : Discardable self fileId transfer) : Silent fileId transfer self.reset := by
  obtain ⟨kept, object, calls, _, timers⟩ := reset_spec named made
  refine ⟨kept, rfl, object, ?_, ?_⟩
  · intro ticket call found same
    exact discardable.calls ticket call (calls ▸ found) same
  · intro ticket timer found same
    obtain ⟨armed, unheld⟩ := (timers ticket timer).mp found
    exact (discardable.timers ticket timer armed same).resolve_left unheld

/-- The next turn after a reset can be any settlement or firing. -/
theorem reset_speaks {event : Event} (named : Named self)
    (made : self.objects.get? fileId = some transfer)
    (turned : { self.reset with notes := [] }.turn digest event = some after)
    (speaks : Speaks fileId after) (fresh : self.notes = []) :
    ∃ middle outputs final later, self.turn digest .reset = some middle ∧ outputs = middle.notes ∧
      (machine digest).execute middle [event] = some (final, later) ∧
      ∃ note ∈ outputs ++ later, note.fileId = fileId := by
  obtain ⟨note, member, about⟩ := speaks
  refine ⟨self.reset, [], after, after.notes, rfl, ?_, ?_, note, by simpa using member, about⟩
  · rw [(reset_spec named made).2.2.2.1, fresh]
  · simp [Machine.execute, machine, turned]

/-- In every reachable state, whatever runs after a reset does nothing for a
transfer that existed before it exactly when the transfer is discardable: no
call of it is suspended in the digest, the offer or a slice, a chunk on its way
through `sendApp` is acknowledged or cancelled, and each of its timers is held
by an entry or inert. -/
theorem reset_discards_iff (digest : Bytes → String) (files : FileLimits) (sender : Sender)
    (history : List SenderNote)
    (run : Machine.Run (machine digest) Machine.Unrestricted (create files) sender history)
    (fileId : String) (transfer : Transfer) (made : sender.objects.get? fileId = some transfer) :
    (∀ after outputs events final later,
      (machine digest).step sender .reset = some (after, outputs) →
      (machine digest).execute after events = some (final, later) →
      ∀ note ∈ outputs ++ later, note.fileId ≠ fileId) ↔
    Discardable sender fileId transfer := by
  have namedBefore : Named sender := run_named digest run
  have named : Named { sender with notes := [] } := namedBefore
  have stored : { sender with notes := [] }.objects.get? fileId = some transfer := made
  obtain ⟨kept, ⟨current, there, flags⟩, calls, notes, timers⟩ := reset_spec named stored
  constructor
  · intro quiet
    -- A callback that is not inert speaks in the very next turn.
    have unspoken : ∀ event after,
        { { sender with notes := [] }.reset with notes := [] }.turn digest event = some after →
        ¬ Speaks fileId after := by
      intro event after turned speaks
      obtain ⟨middle, outputs, final, later, reset, rfl, ran, note, member, about⟩ :=
        reset_speaks named stored turned speaks rfl
      refine quiet middle middle.notes [event] final later ?_ ran note member about
      simp only [machine, reset, Option.map_some]
    constructor
    · intro ticket call held same
      apply Classical.byContradiction
      intro live
      subst same
      have liveNow : ¬ InertCall current call := fun inert => live (inert.same flags.symm)
      have waiting : ({ sender with notes := [] }.reset).calls.get? ticket = some call := by
        rw [calls]
        exact held
      obtain ⟨outcome, speaks⟩ := settle_speaks { { sender with notes := [] }.reset with
        notes := [], calls := ({ sender with notes := [] }.reset).calls.remove ticket } digest kept
        there liveNow
      refine unspoken (.settle ticket outcome) _ ?_ speaks
      simp [turn, Callbacks.take, waiting]
    · intro ticket timer armed same
      apply Classical.byContradiction
      intro neither
      rw [not_or] at neither
      subst same
      have liveNow : ¬ InertTimer current timer := fun inert => neither.2 (inert.same flags.symm)
      have waiting : ({ sender with notes := [] }.reset).timers.get? ticket = some timer :=
        (timers ticket timer).mpr ⟨armed, neither.1⟩
      have speaks := runTimer_speaks { { sender with notes := [] }.reset with
        notes := [], timers := ({ sender with notes := [] }.reset).timers.remove ticket } kept there
        rfl liveNow
      refine unspoken (.fire ticket) _ ?_ speaks
      simp [turn, Callbacks.take, waiting]
  · intro discardable after outputs events final later stepped ran note member about
    simp only [machine, turn, Option.map_some, Option.some.injEq, Prod.mk.injEq] at stepped
    obtain ⟨rfl, rfl⟩ := stepped
    rw [notes, List.nil_append] at member
    have silent := reset_silent named stored ⟨discardable.calls, discardable.timers⟩
    exact execute_silent events silent ran note member about

/-- A three-chunk file that is offered, accepted and about to be read. -/
def sampleTransfer : List Event :=
  [.offer "f" ⟨utf16 "a.bin", [], [1, 2, 3, 4, 5]⟩ false, .settle 0 (.ok true), .settle 1 (.ok true),
    .accept "f"]

def sampleLimits : FileLimits := ⟨10, 100, 100, 2, 2, 3, Nat.two_pos⟩

/-- The equivalence for a file that has been offered and not yet accepted. -/
theorem offered_transfer_discarded :
    ∃ sender history transfer,
      Machine.Run (machine fun _ => "") Machine.Unrestricted (create sampleLimits) sender history ∧
      sender.objects.get? "f" = some transfer ∧
      ((∀ after outputs events final later,
        (machine fun _ => "").step sender .reset = some (after, outputs) →
        (machine fun _ => "").execute after events = some (final, later) →
        ∀ note ∈ outputs ++ later, note.fileId ≠ "f") ↔ Discardable sender "f" transfer) := by
  have ran : ((machine fun _ => "").execute (create sampleLimits) (sampleTransfer.take 3)).isSome =
      true := by decide +kernel
  obtain ⟨⟨sender, history⟩, executed⟩ := Option.isSome_iff_exists.mp ran
  have run := Machine.execute_run _ (Machine.along_unrestricted _ _) executed
  have made : ((machine fun _ => "").execute (create sampleLimits) (sampleTransfer.take 3)).map
      (fun result => (result.1.objects.get? "f").isSome) = some true := by decide +kernel
  rw [executed, Option.map_some, Option.some.injEq] at made
  obtain ⟨transfer, stored⟩ := Option.isSome_iff_exists.mp made
  exact ⟨sender, history, transfer, run, stored,
    reset_discards_iff (fun _ => "") sampleLimits sender history run "f" transfer stored⟩

/-- A slice that was being read when the sender was reset is still sent. -/
theorem slice_sent_after_reset :
    ¬ ∀ (digest : Bytes → String) (files : FileLimits) (sender : Sender)
      (history : List SenderNote),
      Machine.Run (machine digest) Machine.Unrestricted (create files) sender history →
      ∀ fileId ∈ sender.transfers.keys, ∀ after outputs events final later,
        (machine digest).step sender .reset = some (after, outputs) →
        (machine digest).execute after events = some (final, later) →
        ∀ note ∈ outputs ++ later, note.fileId ≠ fileId := by
  intro discards
  have ran : ((machine fun _ => "").execute (create sampleLimits) sampleTransfer).bind (fun first =>
      ((machine fun _ => "").step first.1 .reset).bind fun second =>
        ((machine fun _ => "").execute second.1 [.settle 2 (.ok true)]).map fun third =>
          (decide ("f" ∈ first.1.transfers.keys),
            (second.2 ++ third.2).any fun note => note.fileId == "f")) = some (true, true) := by
    decide +kernel
  obtain ⟨⟨sender, history⟩, first, ran⟩ := Option.bind_eq_some_iff.mp ran
  obtain ⟨⟨after, outputs⟩, second, ran⟩ := Option.bind_eq_some_iff.mp ran
  obtain ⟨⟨final, later⟩, third, found⟩ := Option.map_eq_some_iff.mp ran
  simp only [Prod.mk.injEq, decide_eq_true_eq, List.any_eq_true, beq_iff_eq] at found
  obtain ⟨listed, note, member, about⟩ := found
  exact discards _ _ sender history
    (Machine.execute_run _ (Machine.along_unrestricted _ _) first) "f" listed after outputs _ final
    later second third note member about

end Discard

end OnlyTwo.FileSender
