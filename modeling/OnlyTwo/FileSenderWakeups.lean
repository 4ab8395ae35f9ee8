import OnlyTwo.FileSenderWindow

/-!
When a sender goes on by itself. A pump fills the window, and a transfer that is ready stays
filled until an acknowledgement, an acceptance or a resume calls `pump` again. The flag of a
pump stays set until its await is over, and a call of `pump` meanwhile does nothing. The results
here need that such a call had nothing to do.
-/

namespace OnlyTwo.FileSender

open Bytes FileProtocol Sender

section Transfers

/-- A pump would do nothing for the transfer. -/
def Satisfied (files : FileLimits) (transfer : Transfer) : Prop :=
  (transfer.inflight.size = files.windowChunks ∨ transfer.nextIndex = transfer.totalChunks) ∧
    transfer.acked.size < transfer.totalChunks

/-- What a pump looks at is as it was. -/
structure Calm (old new : Transfer) : Prop where
  ready : old.Ready
  pumping : new.pumping = true → old.pumping = true
  acked : new.acked = old.acked
  nextIndex : new.nextIndex = old.nextIndex
  totalChunks : new.totalChunks = old.totalChunks
  inflight : new.inflight.size = old.inflight.size

/-- A transfer that is ready has been ready all along. -/
def Rests (old new : Transfer) : Prop := new.Ready → Calm old new

variable {files : FileLimits} {first middle last transfer : Transfer} {window index : Nat}

theorem Rests.refl (transfer : Transfer) : Rests transfer transfer :=
  fun ready => ⟨ready, id, rfl, rfl, rfl, rfl⟩

theorem Rests.trans (early : Rests first middle) (late : Rests middle last) : Rests first last := by
  intro ready
  have second := late ready
  have one := early second.ready
  exact ⟨one.ready, fun pumping => one.pumping (second.pumping pumping),
    second.acked.trans one.acked, second.nextIndex.trans one.nextIndex,
    second.totalChunks.trans one.totalChunks, second.inflight.trans one.inflight⟩

theorem Calm.satisfied (calm : Calm first last) (satisfied : Satisfied files first) :
    Satisfied files last := by
  unfold Satisfied
  rw [calm.inflight, calm.nextIndex, calm.totalChunks, calm.acked]
  exact satisfied

theorem Rests.write (flying : transfer.inflight.has index = true) (item : InflightChunk)
    (reason : Option String) : Rests transfer (transfer.write index item reason) := by
  intro ready
  have member := (InsertionMap.has_iff _ _).mp flying
  refine ⟨ready, id, rfl, rfl, rfl, ?_⟩
  rw [Transfer.write, InsertionMap.size_set, if_pos member]

/-- A full window or the last index taken, and the transfer not done. -/
theorem Whole.satisfied (whole : Whole files.windowChunks transfer)
    (filled : files.windowChunks ≤ transfer.inflight.size ∨ transfer.totalChunks ≤ transfer.nextIndex)
    (undone : ¬ (transfer.totalChunks ≤ transfer.nextIndex ∧ transfer.inflight.size = 0 ∧
      transfer.totalChunks ≤ transfer.acked.size)) : Satisfied files transfer := by
  have counted := whole.count
  have room := whole.room
  have total := whole.total
  constructor
  · rcases filled with full | taken
    · exact Or.inl (Nat.le_antisymm room full)
    · exact Or.inr (Nat.le_antisymm total taken)
  · by_contra all
    exact undone ⟨by omega, by omega, by omega⟩

end Transfers

section Moves

/-- The chain makes no transfer ready, takes no index and clears nothing. -/
def Quiet (powers : List Power) : Prop :=
  Power.wake ∉ powers ∧ Power.draw ∉ powers ∧ Power.clear ∉ powers

/-- What a chain keeps of each object. -/
structure Follows (powers : List Power) (start after : Sender) : Prop where
  globalPaused : after.globalPaused = false → start.globalPaused = false ∨ .wake ∈ powers
  listed : ∀ fileId, after.transfers.has fileId = true → start.transfers.has fileId = true
  hashing : ∀ ticket fileId queued, after.calls.get? ticket = some (.hashing fileId queued) →
    start.calls.get? ticket = some (.hashing fileId queued)
  object : ∀ fileId new, after.objects.get? fileId = some new →
    ∃ old, start.objects.get? fileId = some old ∧ (old.Ended → new.Ended) ∧
      (new.accepted = true → old.accepted = true ∨ start.transfers.has fileId = true) ∧
      (Quiet powers → after.transfers.has fileId = true → Rests old new)

variable {powers : List Power} {start self after : Sender} {old new : Transfer}

theorem Follows.refl (powers : List Power) (self : Sender) : Follows powers self self where
  globalPaused := Or.inl
  listed := fun _ => id
  hashing := fun _ _ _ => id
  object := fun _ transfer found => ⟨transfer, found, id, Or.inl, fun _ _ => .refl transfer⟩

theorem Follows.frame (follows : Follows powers start self) (objects : after.objects = self.objects)
    (transfers : ∀ fileId, after.transfers.has fileId = true → self.transfers.has fileId = true)
    (globalPaused : after.globalPaused = self.globalPaused)
    (hashing : ∀ ticket fileId queued, after.calls.get? ticket = some (.hashing fileId queued) →
      self.calls.get? ticket = some (.hashing fileId queued)) : Follows powers start after where
  globalPaused := fun unpaused => follows.globalPaused (globalPaused ▸ unpaused)
  listed := fun fileId there => follows.listed fileId (transfers fileId there)
  hashing := fun _ _ _ held => follows.hashing _ _ _ (hashing _ _ _ held)
  object := by
    intro fileId new found
    obtain ⟨old, before, ended, accepted, rests⟩ := follows.object fileId new (objects ▸ found)
    exact ⟨old, before, ended, accepted, fun quiet there => rests quiet (transfers fileId there)⟩

theorem Follows.write (follows : Follows powers start self) (writes : Writes self after old new)
    (hashing : ∀ ticket fileId queued, after.calls.get? ticket = some (.hashing fileId queued) →
      self.calls.get? ticket = some (.hashing fileId queued)) (ended : old.Ended → new.Ended)
    (accepts : new.accepted = true → old.accepted = true ∨ self.transfers.has new.fileId = true)
    (rests : Quiet powers → self.transfers.has new.fileId = true → Rests old new) :
    Follows powers start after where
  globalPaused := fun unpaused => follows.globalPaused (writes.globalPaused ▸ unpaused)
  listed := by
    rw [writes.transfers]
    exact follows.listed
  hashing := fun _ _ _ held => follows.hashing _ _ _ (hashing _ _ _ held)
  object := by
    intro fileId current found
    rw [writes.objects] at found
    rw [writes.transfers]
    split at found
    · rename_i same
      cases found
      subst same
      obtain ⟨first, before, early, accepted, rested⟩ := follows.object _ old writes.found
      refine ⟨first, before, fun was => ended (early was), ?_,
        fun quiet listed => (rested quiet listed).trans (rests quiet listed)⟩
      intro heard
      rcases accepts heard with was | listed
      · exact accepted was
      · exact Or.inr (follows.listed _ listed)
    · exact follows.object fileId current found

theorem launch_hashing {transfer : Transfer} {index attempts ticket : Nat} {fileId : String}
    {queued : Bool} (held : (self.launch transfer index attempts).calls.get? ticket =
      some (.hashing fileId queued)) : self.calls.get? ticket = some (.hashing fileId queued) := by
  rw [launch_calls] at held
  split at held
  · cases held
  · exact held

/-- A chain keeps what a pump looks at, unless it may pump itself. -/
theorem Moves.follows (moves : Moves powers start self) (named : Named start) :
    Follows powers start self := by
  induction moves with
  | refl => exact .refl powers start
  | say _ _ ih => exact ih.frame rfl (fun _ => id) rfl (fun _ _ _ => id)
  | wait _ _ read ih =>
      refine ih.frame rfl (fun _ => id) rfl ?_
      intro ticket fileId queued held
      simp only [Sender.suspend, Callbacks.get?_add] at held
      split at held
      · exact absurd (Option.some.inj held) (read fileId queued)
      · exact held
  | disarm _ _ ih => exact ih.frame rfl (fun _ => id) rfl (fun _ _ _ => id)
  | mark moves found marks accepts ih =>
      refine ih.write (put_rewrites _ _ found marks.nextIndex.ge).toWrites (fun _ _ _ => id) marks.ended accepts ?_
      intro quiet listed ready
      refine ⟨?_, ?_, marks.evolves.acked, marks.nextIndex, marks.evolves.totalChunks, ?_⟩
      · exact (marks.ready.resolve_left quiet.1) ready
      · exact marks.pumping.resolve_left quiet.2.1
      · rw [marks.inflight]
  | @stop self transfer status moves found reason ended ih =>
      have stopped := (put_rewrites self { transfer with cancelled := true, status, reason }
        found (Nat.le_refl _)).trans
        (clearTimers_rewrites _ (InsertionMap.get?_set_self _ _ _)) rfl
      refine ih.write stopped.toWrites (fun _ _ _ => stopped.hashing) ?_ Or.inl ?_
      · intro _ _
        rcases ended with rfl | rfl <;> rfl
      · rintro _ _ ⟨_, sending, _⟩
        rcases ended with rfl | rfl <;> cases sending
  | @clear self moves fileId power ih =>
      cases found : self.objects.get? fileId with
      | none =>
          have same : self.clearTimers fileId = self := by simp [clearTimers, withTransfer, found]
          rw [same]
          exact ih
      | some transfer =>
          have same := moves.named named fileId transfer found
          subst same
          have cleared := clearTimers_rewrites self found
          exact ih.write cleared.toWrites (fun _ _ _ => cleared.hashing) id Or.inl
            fun quiet => absurd power quiet.2.2
  | @drop self transfer moves found listed power ih =>
      have unlisted : Follows powers start
          { self with transfers := self.transfers.delete transfer.fileId } := by
        refine ih.frame rfl ?_ rfl (fun _ _ _ => id)
        intro fileId there
        rw [InsertionMap.has_iff, InsertionMap.mem_keys_delete] at there
        exact (InsertionMap.has_iff _ _).mpr there.2
      have rewrites := clearTimers_rewrites
        { self with transfers := self.transfers.delete transfer.fileId } found
      have cleared := unlisted.write rewrites.toWrites (fun _ _ _ => rewrites.hashing) id Or.inl
        fun _ there => by
          rw [InsertionMap.has_delete_self] at there
          cases there
      simp only [clearTimers, withTransfer, found] at cleared ⊢
      exact cleared
  | hold moves found power ih =>
      have held := holdOutstanding_rewrites found
      refine ih.write held.toWrites (fun _ _ _ => held.hashing) id Or.inl ?_
      exact fun _ _ ready => ⟨ready, id, rfl, rfl, rfl, InsertionMap.size_mapValues _ _⟩
  | @skip self transfer moves found over_ power ih =>
      exact ih.write (put_rewrites self transfer.advance found (Nat.le_succ _)).toWrites
        (fun _ _ _ => id) id Or.inl fun quiet => absurd power quiet.2.1
  | @draw self transfer moves found live running room unsent power ih =>
      have launched := launch_writes (self.put transfer.advance) transfer.advance
        (InsertionMap.get?_set_self _ _ _) transfer.nextIndex 1
      have drawn := (put_rewrites self transfer.advance found (Nat.le_succ _)).toWrites.trans
        launched rfl
      exact ih.write drawn (fun _ _ _ => launch_hashing) id Or.inl fun quiet => absurd power quiet.2.1
  | @relaunch self transfer index item moves found live running held idle within power ih =>
      have flying : transfer.inflight.has index = true :=
        (InsertionMap.has_iff _ _).mpr (InsertionMap.mem_keys_of_get? held)
      exact ih.write (launch_writes self transfer found index (item.attempts + 1)) (fun _ _ _ => launch_hashing) id
        Or.inl fun _ _ => .write flying _ _

end Moves

section Pumping

/-- What the property says about one transfer of the map. -/
def Filled (sender : Sender) (fileId : String) : Prop :=
  sender.transfers.has fileId = true → ∀ transfer, sender.objects.get? fileId = some transfer →
    transfer.Ready → sender.globalPaused = false → Satisfied sender.files transfer

/-- If a pump is under way, a further one would find nothing to do. -/
def Spares (sender : Sender) (fileId : String) : Prop :=
  sender.transfers.has fileId = true → ∀ transfer, sender.objects.get? fileId = some transfer →
    transfer.pumping = true → transfer.Ready → sender.globalPaused = false →
      Satisfied sender.files transfer

variable {self after : Sender} {transfer : Transfer} {fileId : String}

theorem pumpLoop_succ (found : self.objects.get? fileId = some transfer) (rounds : Nat) :
    pumpLoop (rounds + 1) self fileId =
      if !transfer.cancelled && !transfer.paused && !self.globalPaused &&
          transfer.inflight.size < self.files.windowChunks &&
          transfer.nextIndex < transfer.totalChunks then
        pumpLoop rounds ((self.put transfer.advance).sendChunk fileId transfer.nextIndex 1) fileId
      else self := by
  simp only [pumpLoop, withTransfer, found]
  rfl

theorem pumpLoop_fills (rounds : Nat) (found : self.objects.get? transfer.fileId = some transfer)
    (enough : transfer.totalChunks - transfer.nextIndex ≤ rounds)
    (live : transfer.cancelled = false) (running : self.Running transfer) :
    ∃ last, (pumpLoop rounds self transfer.fileId).objects.get? transfer.fileId = some last ∧
      last.cancelled = false ∧
      (self.files.windowChunks ≤ last.inflight.size ∨ last.totalChunks ≤ last.nextIndex) := by
  induction rounds generalizing self transfer with
  | zero => exact ⟨transfer, found, live, Or.inr (by omega)⟩
  | succ rounds ih =>
      rw [pumpLoop_succ found]
      split
      · have advanced : (self.put transfer.advance).objects.get? transfer.advance.fileId =
            some transfer.advance := InsertionMap.get?_set_self _ _ _
        rcases live_or_over transfer transfer.nextIndex with ready | spent
        · have launched := launch_writes (self.put transfer.advance) transfer.advance
            advanced transfer.nextIndex 1
          have once : (self.put transfer.advance).sendChunk transfer.fileId transfer.nextIndex 1 =
              (self.put transfer.advance).launch transfer.advance transfer.nextIndex 1 :=
            (sendChunk_eq advanced ready running 1).trans (if_neg (by omega))
          rw [once]
          have filled := @ih ((self.put transfer.advance).launch transfer.advance
            transfer.nextIndex 1) (transfer.advance.launched transfer.nextIndex 1)
            (by rw [launched.objects]; exact if_pos rfl) (by
              change transfer.totalChunks - (transfer.nextIndex + 1) ≤ rounds
              omega) live (launch_running running)
          rw [launched.files] at filled
          exact filled
        · have over_ := spent.resolve_left (by rw [live]; exact Bool.false_ne_true)
          have once : (self.put transfer.advance).sendChunk transfer.fileId transfer.nextIndex 1 =
              self.put transfer.advance := sendChunk_over advanced (Or.inr over_) 1
          rw [once]
          exact @ih (self.put transfer.advance) transfer.advance advanced (by
              change transfer.totalChunks - (transfer.nextIndex + 1) ≤ rounds
              omega) live running
      · rename_i full
        simp only [live, running.1, running.2, Bool.not_false, Bool.true_and, Bool.and_eq_true,
          decide_eq_true_eq, not_and, Nat.not_lt] at full
        exact ⟨transfer, found, live, by omega⟩

theorem completeIfDone_filled (found : self.objects.get? fileId = some transfer)
    (same : transfer.fileId = fileId) (live : transfer.cancelled = false)
    (whole : self.transfers.has fileId = true → Whole self.files.windowChunks transfer)
    (filled : self.files.windowChunks ≤ transfer.inflight.size ∨
      transfer.totalChunks ≤ transfer.nextIndex) :
    Filled (self.completeIfDone fileId) fileId := by
  subst same
  simp only [completeIfDone, withTransfer, found, live, Bool.false_eq_true, ↓reduceIte]
  split
  · rename_i undone
    intro listed current there ready _
    cases found.symm.trans there
    refine (whole listed).satisfied filled ?_
    rintro ⟨taken, empty, all⟩
    simp only [Bool.or_eq_true, decide_eq_true_eq] at undone
    omega
  · intro _ current there ready
    simp only [Sender.note, emit, withTransfer, Sender.put, InsertionMap.get?_set_self,
      Option.some.injEq] at there
    subst there
    cases ready.2.1

/-- After a call of `pump` the transfer is filled, unless the call was skipped for good. -/
theorem pump_filled (named : Named self) (intact : Intact self)
    (ended : ∀ transfer, self.objects.get? fileId = some transfer → transfer.Ended)
    (spares : Spares self fileId) : Filled (self.pump fileId) fileId := by
  unfold pump withTransfer
  split
  · rename_i absent
    intro _ transfer found
    rw [absent] at found
    cases found
  · rename_i transfer found
    have same := named fileId transfer found
    subst same
    dsimp only
    split
    · rename_i pumping
      intro listed current there
      cases found.symm.trans there
      exact spares listed transfer found pumping
    · split
      · rename_i idle
        rintro listed current there ⟨accepted, sending, resumed⟩ unpaused
        cases found.symm.trans there
        have stopped := ended transfer found
        simp only [Bool.or_eq_true, Bool.not_eq_true', ne_eq, decide_eq_true_eq, accepted, resumed,
          unpaused, sending, Bool.false_eq_true, or_false, not_true_eq_false, Bool.true_eq_false]
          at idle
        have terminal := stopped idle
        rw [sending] at terminal
        cases terminal
      · rename_i going
        simp only [Bool.or_eq_true, Bool.not_eq_true', ne_eq, decide_eq_true_eq, not_or,
          Bool.not_eq_true, Bool.not_eq_false, not_not] at going
        obtain ⟨⟨⟨⟨live, accepted⟩, resumed⟩, unpaused⟩, sending⟩ := going
        have started : (self.put { transfer with pumping := true }).objects.get? transfer.fileId =
            some { transfer with pumping := true } := InsertionMap.get?_set_self _ _ _
        obtain ⟨last, there, living, filled⟩ := @pumpLoop_fills
          (self.put { transfer with pumping := true }) { transfer with pumping := true } (transfer.totalChunks - transfer.nextIndex)
          started (Nat.le_refl _) live ⟨resumed, unpaused⟩
        have moves : Moves [.draw] self (pumpLoop (transfer.totalChunks - transfer.nextIndex)
            (self.put { transfer with pumping := true }) transfer.fileId) :=
          pumpLoop_moves named (by simp) _ (.mark .refl found
            ⟨⟨rfl, rfl, rfl, rfl, rfl, rfl, Or.inl, id⟩, rfl, rfl, rfl, id, Or.inr id,
              Or.inl (by simp)⟩ Or.inl)
        have same := (moves.named named) _ last there
        refine completeIfDone_filled there same living ?_ ?_
        · intro listed
          exact (moves.intact (by simp) intact).listed_whole there listed living
        · rw [moves.files]
          exact filled

theorem resumeOutstanding_filled (named : Named self) (intact : Intact self)
    (ended : ∀ transfer, self.objects.get? fileId = some transfer → transfer.Ended)
    (spares : Spares self fileId) : Filled (self.resumeOutstanding fileId) fileId := by
  unfold resumeOutstanding withTransfer
  split
  · rename_i absent
    intro _ transfer found
    rw [absent] at found
    cases found
  · rename_i transfer found
    have same := named fileId transfer found
    subst same
    dsimp only
    split
    · rename_i idle
      rintro listed current there ⟨accepted, sending, resumed⟩ unpaused
      cases found.symm.trans there
      simp only [Bool.or_eq_true, resumed, unpaused, Bool.false_eq_true, or_false] at idle
      have terminal := ended transfer found idle
      rw [sending] at terminal
      cases terminal
    · rename_i running
      simp only [Bool.or_eq_true, not_or, Bool.not_eq_true] at running
      have moves : Moves [.resume transfer.fileId] self
          (resumeEach transfer.fileId transfer.inflight.entries self) := by
        refine resumeEach_moves named _ transfer.inflight.keys_nodup .refl
          ⟨Or.inl (by simp), transfer, found, rfl, Or.inr ⟨⟨running.1.2, running.2⟩, ?_⟩⟩
        intro index item member
        exact (InsertionMap.get?_eq_some_iff _ _ _).mpr member
      have follows := moves.follows named
      refine pump_filled (moves.named named) (moves.intact (by simp) intact) ?_ ?_
      · intro current there
        obtain ⟨old, before, carried, _⟩ := follows.object _ current there
        exact carried (ended old before)
      · -- Nothing that a pump looks at has changed, so the skipped one is spared as before.
        intro listed current there pumping ready unpaused
        obtain ⟨old, before, _, _, rests⟩ := follows.object _ current there
        have calm := rests (by simp [Quiet]) listed ready
        rw [moves.files]
        exact calm.satisfied (spares (follows.listed _ listed) old before (calm.pumping pumping)
          calm.ready ((follows.globalPaused unpaused).resolve_right (by simp)))

end Pumping

section States

/-- Cancelled transfers have an end status, and a transfer is accepted in the map only. -/
structure Orderly (sender : Sender) : Prop where
  ended : ∀ fileId transfer, sender.objects.get? fileId = some transfer → transfer.Ended
  unheard : ∀ ticket fileId queued, sender.calls.get? ticket = some (.hashing fileId queued) →
    ∀ transfer, sender.objects.get? fileId = some transfer → transfer.accepted = false

/-- A transfer that is not accepted is made or put into the map. -/
structure Introduces (before after : Sender) (fileId : String) (new : Transfer) : Prop where
  objects : ∀ other, after.objects.get? other =
    if other = fileId then some new else before.objects.get? other
  listed : ∀ other, other ≠ fileId → after.transfers.has other = before.transfers.has other
  globalPaused : after.globalPaused = before.globalPaused
  files : after.files = before.files
  hashing : ∀ ticket other queued, after.calls.get? ticket = some (.hashing other queued) →
    other = fileId ∨ before.calls.get? ticket = some (.hashing other queued)
  ended : new.Ended
  unheard : new.accepted = false

variable {powers : List Power} {start self after : Sender} {event : Event} {fileId : String}
  {new : Transfer}

theorem Follows.orderly (follows : Follows powers self after) (intact : Intact self)
    (orderly : Orderly self) : Orderly after where
  ended := by
    intro fileId transfer found
    obtain ⟨old, before, ended, _⟩ := follows.object fileId transfer found
    exact ended (orderly.ended fileId old before)
  unheard := by
    intro ticket fileId queued held transfer found
    have early := follows.hashing ticket fileId queued held
    obtain ⟨old, before, _, accepted, _⟩ := follows.object fileId transfer found
    refine Bool.eq_false_iff.mpr fun heard => ?_
    rcases accepted heard with was | listed
    · rw [orderly.unheard ticket fileId queued early old before] at was
      cases was
    · rw [intact.hashing ticket fileId queued early] at listed
      cases listed

theorem Follows.filled (follows : Follows powers self after) (quiet : Quiet powers)
    (files : after.files = self.files) (filled : ∀ fileId, Filled self fileId) (fileId : String) :
    Filled after fileId := by
  intro listed transfer found ready unpaused
  obtain ⟨old, before, _, _, rests⟩ := follows.object fileId transfer found
  have calm := rests quiet listed ready
  rw [files]
  exact calm.satisfied (filled fileId (follows.listed fileId listed) old before calm.ready
    ((follows.globalPaused unpaused).resolve_right quiet.1))

theorem Introduces.orderly (introduces : Introduces self after fileId new) (orderly : Orderly self) :
    Orderly after where
  ended := by
    intro other transfer found
    rw [introduces.objects] at found
    split at found
    · cases found
      exact introduces.ended
    · exact orderly.ended other transfer found
  unheard := by
    intro ticket other queued held transfer found
    rw [introduces.objects] at found
    split at found
    · cases found
      exact introduces.unheard
    · rename_i different
      exact orderly.unheard ticket other queued
        ((introduces.hashing ticket other queued held).resolve_left different) transfer found

theorem Introduces.filled (introduces : Introduces self after fileId new)
    (filled : ∀ fileId, Filled self fileId) (other : String) : Filled after other := by
  intro listed transfer found ready unpaused
  rw [introduces.objects] at found
  split at found
  · cases found
    have heard := ready.1
    rw [introduces.unheard] at heard
    cases heard
  · rename_i different
    rw [introduces.files]
    exact filled other (introduces.listed other different ▸ listed) transfer found ready
      (introduces.globalPaused ▸ unpaused)

/-- The entry of a taken index is written anew. -/
theorem Follows.overwrite {transfer : Transfer} {index : Nat} {item : InflightChunk}
    {reason : Option String} (follows : Follows powers start self)
    (writes : Writes self after transfer (transfer.write index item reason))
    (hashing : ∀ ticket fileId queued, after.calls.get? ticket = some (.hashing fileId queued) →
      self.calls.get? ticket = some (.hashing fileId queued)) (intact : Intact self)
    (live : transfer.Live index) (small : index < transfer.nextIndex) :
    Follows powers start after := by
  refine follows.write writes hashing id Or.inl fun _ listed => ?_
  have whole := intact.listed_whole writes.found listed live.1
  exact .write (whole.in_flight live small) _ _

theorem Follows.free_call (powers : List Power) (self : Sender) (ticket : Nat) :
    Follows powers self { self with calls := self.calls.remove ticket } :=
  (Follows.refl powers self).frame rfl (fun _ => id) rfl fun _ _ _ => Callbacks.get?_of_remove

theorem Follows.free_timer (powers : List Power) (self : Sender) (ticket : Nat) :
    Follows powers self { self with timers := self.timers.remove ticket } :=
  (Follows.refl powers self).frame rfl (fun _ => id) rfl fun _ _ _ => id

theorem Retried.follows {free : Sender} {index next : Nat}
    (retried : Retried self fileId index event free next) (powers : List Power) :
    Follows powers self free := by
  cases retried with
  | rejected _ _ _ _ => exact .refl powers self
  | unread _ => exact .free_call powers self _
  | unsent _ => exact .free_call powers self _
  | late _ => exact .free_timer powers self _

/-- How a turn opens: what a pump looks at stays, or a transfer is new to the map. -/
theorem Opening.follows (opening : Opening self event after) (intact : Intact self)
    (orderly : Orderly self) :
    Follows event.powers self after ∨ ∃ fileId new, Introduces self after fileId new := by
  cases opening with
  | still => exact Or.inl (.refl _ self)
  | profile files => exact Or.inl ((Follows.refl _ self).frame rfl (fun _ => id) rfl fun _ _ _ => id)
  | global paused reason =>
      refine Or.inl ⟨?_, fun _ => id, fun _ _ _ => id, (Follows.refl _ self).object⟩
      rintro rfl
      -- Unpausing pumps every transfer in the rest of the turn.
      exact Or.inr (by simp [Event.powers])
  | settled outcome held => exact Or.inl (.free_call _ self _)
  | fired held => exact Or.inl (.free_timer _ self _)
  | @made fileId file queued absent valid =>
      refine Or.inr ⟨fileId, newTransfer self.files fileId file queued,
        fun _ => InsertionMap.get?_set _ _ _ _, fun _ _ => rfl, rfl, rfl, ?_, by rintro ⟨⟩, rfl⟩
      intro ticket other late held
      simp only [Sender.suspend, Callbacks.get?_add] at held
      split at held
      · cases held
        exact Or.inl rfl
      · exact Or.inr held
  | @opened fileId file queued absent valid =>
      refine Or.inr ⟨fileId, newTransfer self.files fileId file queued,
        fun _ => InsertionMap.get?_set _ _ _ _, ?_, rfl, rfl, fun _ _ _ held => Or.inr held,
        by rintro ⟨⟩, rfl⟩
      intro other different
      simp only [InsertionMap.has, InsertionMap.get?_set_ne _ _ different]
  | @hashed ticket outcome queued transfer held found sha256 =>
      refine Or.inr ⟨transfer.fileId, { transfer with sha256 },
        fun _ => InsertionMap.get?_set _ _ _ _, ?_, rfl, rfl,
        fun _ _ _ again => Or.inr (Callbacks.get?_of_remove again),
        orderly.ended transfer.fileId transfer found,
        orderly.unheard ticket transfer.fileId queued held transfer found⟩
      intro other different
      simp only [InsertionMap.has, InsertionMap.get?_set_ne _ _ different]
  | @acknowledged transfer index item found inside held =>
      have writes : Writes self ((self.clearInflightTimer (some item)).put
          (acknowledge transfer index)) transfer (acknowledge transfer index) :=
        ⟨found, fun _ => InsertionMap.get?_set _ _ _ _, rfl, rfl, rfl, Nat.le_refl _⟩
      exact Or.inl ((Follows.refl _ self).write writes (fun _ _ _ => id) id Or.inl
        -- An ACK is followed by a pump, so nothing is left to wait for.
        fun quiet => absurd quiet (by simp [Quiet, Event.powers]))
  | @putBack _ free transfer index next reason retried found live =>
      obtain ⟨there, inside⟩ := retried.small intact found
      exact Or.inl ((retried.follows _).overwrite ⟨retried.objects ▸ found,
        fun _ => InsertionMap.get?_set _ _ _ _, rfl, rfl, rfl, Nat.le_refl _⟩
        (fun _ _ _ => id) there live inside)
  | @rearmed _ free transfer index next reason retried found live running within =>
      obtain ⟨there, inside⟩ := retried.small intact found
      obtain ⟨handle, written⟩ := rearm_rewrites (retried.objects ▸ found) inside next reason
      exact Or.inl ((retried.follows _).overwrite written.toWrites (fun _ _ _ => written.hashing) there
        live inside)
  | @relaunched ticket index next transfer held found live within =>
      have inside := (intact.timers ticket _ held).below found
      exact Or.inl ((Follows.free_timer _ self ticket).overwrite
        (launch_writes { self with timers := self.timers.remove ticket } transfer found index next)
        (fun _ _ _ => launch_hashing) (intact.free_timer ticket) live inside)
  | @parked ticket index next transfer held found live =>
      have inside := (intact.timers ticket _ held).below found
      exact Or.inl ((Follows.free_timer _ self ticket).overwrite ⟨found,
        fun _ => InsertionMap.get?_set _ _ _ _, rfl, rfl, rfl, Nat.le_refl _⟩ (fun _ _ _ => id)
        (intact.free_timer ticket) live inside)
  | @sent ticket index attempts fileId message outcome held chunk =>
      refine Or.inl ((Follows.free_call _ self ticket).frame rfl (fun _ => id) rfl ?_)
      intro other fileId queued added
      simp only [Sender.suspend, Sender.note, Callbacks.get?_add] at added
      split at added
      · cases added
      · exact added
  | @confirmed ticket index attempts transfer outcome held found live =>
      have inside := (intact.calls ticket _ held index rfl).below found
      obtain ⟨handle, written⟩ := await_rewrites
        { self with calls := self.calls.remove ticket } found inside attempts
      exact Or.inl ((Follows.free_call _ self ticket).overwrite written.toWrites
        (fun _ _ _ => written.hashing) (intact.free_call ticket) live inside)

end States

section Turns

variable {self after : Sender} {event : Event} {fileId : String} {index : Nat}

theorem Acts.settings {mine : String → Prop} (acts : Acts mine self after) :
    after.files = self.files ∧ after.globalPaused = self.globalPaused := by
  induction acts with
  | refl => exact ⟨rfl, rfl⟩
  | put _ _ _ _ ih => exact ih
  | note _ _ _ _ ih => exact ih
  | suspend _ _ _ ih => exact ih
  | arm _ _ ih => exact ih
  | cancel _ _ ih => exact ih
  | unlist _ _ ih => exact ih

/-- What is done to one transfer leaves the others as they are. -/
theorem Acts.filled_other {other : String} (acts : Acts (Only fileId) self after)
    (different : other ≠ fileId) (filled : Filled self other) : Filled after other := by
  have untouched : Untouched other self after := acts.untouched different
  intro listed transfer found
  rw [untouched.object] at found
  rw [acts.settings.1, acts.settings.2]
  exact filled (untouched.listed ▸ listed) transfer found

theorem Acts.filled (acts : Acts (Only fileId) self after)
    (others : ∀ other, other ≠ fileId → Filled self other) (own : Filled after fileId)
    (other : String) : Filled after other := by
  by_cases same : other = fileId
  · exact same ▸ own
  · exact acts.filled_other same (others other same)

theorem emit_put_object (self : Sender) (new : Transfer) (fileId : String) :
    ((self.put new).emit fileId).objects.get? new.fileId = some new := by
  unfold emit withTransfer
  split <;> exact InsertionMap.get?_set_self _ _ _

/-- A call of `pump` on this transfer would be skipped. -/
def Pumping (sender : Sender) (fileId : String) (transfer : Transfer) : Prop :=
  sender.transfers.has fileId = true ∧ sender.objects.get? fileId = some transfer ∧
    transfer.pumping = true

/-- No call of `pump` is skipped that had something to do, and a new window is as full as the
old one. -/
def Unskipped (sender : Sender) : Event → Prop
  | .setProfile files =>
      (∀ fileId transfer, sender.objects.get? fileId = some transfer → transfer.cancelled = false →
        transfer.inflight.size ≤ files.windowChunks) ∧
      ∀ fileId transfer, sender.transfers.has fileId = true →
        sender.objects.get? fileId = some transfer → transfer.Ready → sender.globalPaused = false →
        transfer.inflight.size = files.windowChunks ∨ transfer.nextIndex = transfer.totalChunks
  | .ack fileId index => ∀ transfer, Pumping sender fileId transfer → transfer.Ready →
      sender.globalPaused = false → transfer.inflight.has index = true →
      transfer.nextIndex = transfer.totalChunks ∧ 1 < transfer.inflight.size
  | .accept fileId => ∀ transfer, Pumping sender fileId transfer → transfer.cancelled = false →
      sender.globalPaused = false → Satisfied sender.files transfer
  | .resume fileId => ∀ transfer, Pumping sender fileId transfer → transfer.status = .paused →
      transfer.accepted = true → sender.globalPaused = false → Satisfied sender.files transfer
  | .setGlobalPaused paused _ => paused = false → ∀ fileId transfer,
      Pumping sender fileId transfer → transfer.accepted = true →
      transfer.status = .sending ∨ transfer.status = .paused → Satisfied sender.files transfer
  | _ => True

theorem accept_filled (named : Named self) (intact : Intact self) (orderly : Orderly self)
    (filled : ∀ other, Filled self other) (unskipped : Unskipped self (.accept fileId))
    (other : String) : Filled (self.accept fileId) other := by
  refine (accept_acts named (Only.self fileId)).filled (fun other _ => filled other) ?_ other
  unfold Sender.accept withRegistered withTransfer
  split
  · rename_i registered
    split
    · exact filled fileId
    · rename_i transfer found
      have same := named fileId transfer found
      subst same
      dsimp only
      split
      · exact filled transfer.fileId
      · rename_i live
        simp only [Bool.not_eq_true] at live
        have moves : Moves [.wake] self
            ((self.put (transfer.accept self.globalPaused)).emit transfer.fileId) :=
          emit_moves (.mark .refl found (accept_marks live self.globalPaused (by simp))
            fun _ => Or.inr registered)
        have kept := (moves.follows named).orderly intact orderly
        change Filled (((self.put (transfer.accept self.globalPaused)).emit transfer.fileId).pump
          transfer.fileId) transfer.fileId
        refine pump_filled (moves.named named) (moves.intact (by simp) intact)
          (kept.ended transfer.fileId) ?_
        intro _ current there pumping ready unpaused
        cases (emit_put_object self (transfer.accept self.globalPaused) _).symm.trans there
        rw [moves.files]
        have resumed : self.globalPaused = false := ready.2.2
        exact unskipped transfer ⟨registered, found, pumping⟩ live resumed
  · exact filled fileId

theorem resume_filled (named : Named self) (intact : Intact self) (orderly : Orderly self)
    (filled : ∀ other, Filled self other) (unskipped : Unskipped self (.resume fileId))
    (other : String) : Filled (self.resume fileId) other := by
  refine (resume_acts named (Only.self fileId)).filled (fun other _ => filled other) ?_ other
  unfold Sender.resume withRegistered withTransfer
  split
  · rename_i registered
    split
    · exact filled fileId
    · rename_i transfer found
      have same := named fileId transfer found
      subst same
      dsimp only
      split
      · exact filled transfer.fileId
      · rename_i paused
        simp only [ne_eq, not_not] at paused
        have moves : Moves [.wake] self ((self.put transfer.resume).emit transfer.fileId) :=
          emit_moves (.mark .refl found (resume_marks paused (by simp)) Or.inl)
        have follows := moves.follows named
        change Filled (((self.put transfer.resume).emit transfer.fileId).resumeOutstanding
          transfer.fileId) transfer.fileId
        refine resumeOutstanding_filled (moves.named named) (moves.intact (by simp) intact)
          ((follows.orderly intact orderly).ended transfer.fileId) ?_
        intro _ current there pumping ready unpaused
        cases (emit_put_object self transfer.resume _).symm.trans there
        rw [moves.files]
        have running : self.globalPaused = false := by
          rw [← unpaused]
          unfold emit withTransfer
          split <;> rfl
        exact unskipped transfer ⟨registered, found, pumping⟩ paused ready.1 running
  · exact filled fileId

/-- One of several chunks in flight is acknowledged after the last index was taken. -/
theorem Whole.satisfied_acknowledge {files : FileLimits} {transfer : Transfer}
    (whole : Whole files.windowChunks transfer) (flying : transfer.inflight.has index = true)
    (taken : transfer.nextIndex = transfer.totalChunks) (several : 1 < transfer.inflight.size) :
    Satisfied files (Sender.acknowledge transfer index) := by
  refine ⟨Or.inr taken, ?_⟩
  have counted := whole.count
  have absent : index ∉ transfer.acked.keys := by
    rw [← InsertionMap.has_iff, whole.apart index flying]
    exact Bool.false_ne_true
  change (transfer.acked.set index ()).size < transfer.totalChunks
  rw [InsertionMap.size_set, if_neg absent]
  omega

theorem ack_filled (ledger : Ledger self) (intact : Intact self) (orderly : Orderly self)
    (filled : ∀ other, Filled self other) (unskipped : Unskipped self (.ack fileId index))
    (other : String) : Filled (self.ack fileId index) other := by
  unfold Sender.ack withRegistered withTransfer
  split
  · rename_i registered
    split
    · exact filled other
    · rename_i transfer found
      have same := ledger.named fileId transfer found
      subst same
      dsimp only
      split
      · exact filled other
      · rename_i live
        simp only [not_or, Bool.not_eq_true, Nat.not_le] at live
        split
        · exact filled other
        · rename_i item held
          have flying : transfer.inflight.has index = true :=
            (InsertionMap.has_iff _ _).mpr (InsertionMap.mem_keys_of_get? held)
          have opening : Opening self (.ack transfer.fileId index)
              ((self.clearInflightTimer (some item)).put (acknowledge transfer index)) :=
            .acknowledged found live.2 held
          have named : Named ((self.clearInflightTimer (some item)).put
              (acknowledge transfer index)) := put_named _ ledger.named
          have kept := opening.intact ledger (by rintro _ ⟨⟩) intact
          have ordered : Orderly ((self.clearInflightTimer (some item)).put
              (acknowledge transfer index)) := by
            rcases opening.follows intact orderly with follows | ⟨_, _, introduces⟩
            · exact follows.orderly intact orderly
            · exact introduces.orderly orderly
          have moves : Moves [] _ (((self.clearInflightTimer (some item)).put
              (acknowledge transfer index)).emit transfer.fileId) := emit_moves .refl
          refine (pump_acts named (Only.self transfer.fileId) (emit_acts named (Only.self _)
            .refl)).filled ?_ (pump_filled (moves.named named) (moves.intact (by simp) kept)
              (((moves.follows named).orderly kept ordered).ended transfer.fileId) ?_) other
          · intro other different listed current there
            have apart : other ≠ (acknowledge transfer index).fileId := different
            rw [Sender.put, InsertionMap.get?_set_ne _ _ apart] at there
            exact filled other listed current there
          · intro _ current there pumping ready unpaused
            cases (emit_put_object (self.clearInflightTimer (some item))
              (acknowledge transfer index) _).symm.trans there
            rw [moves.files]
            have running : self.globalPaused = false := by
              rw [← unpaused]
              unfold emit withTransfer
              split <;> rfl
            obtain ⟨taken, several⟩ :=
              unskipped transfer ⟨registered, found, pumping⟩ ready running flying
            have whole := intact.listed_whole found registered live.1
            exact whole.satisfied_acknowledge flying taken several
  · exact filled other

theorem unpauseOne_filled (named : Named self) (intact : Intact self) (orderly : Orderly self)
    (reason : String)
    (spares : ∀ transfer, Pumping self fileId transfer → transfer.accepted = true →
      transfer.status = .sending ∨ transfer.status = .paused → Satisfied self.files transfer) :
    Filled (pauseOne false reason self fileId) fileId := by
  unfold pauseOne withTransfer
  split
  · rename_i absent
    intro _ transfer found
    rw [absent] at found
    cases found
  · rename_i transfer found
    have same := named fileId transfer found
    subst same
    dsimp only
    split
    · rename_i idle
      intro _ current there ready
      cases found.symm.trans there
      exact absurd ready.2.1 idle.1
    · rename_i going
      have moves : Moves [.wake] self
          ((self.put (transfer.setPaused false reason)).emit transfer.fileId) :=
        emit_moves (.mark .refl found (setPaused_marks false reason going (by simp)) Or.inl)
      have follows := moves.follows named
      change Filled (((self.put (transfer.setPaused false reason)).emit
        transfer.fileId).resumeOutstanding transfer.fileId) transfer.fileId
      refine resumeOutstanding_filled (moves.named named) (moves.intact (by simp) intact)
        ((follows.orderly intact orderly).ended transfer.fileId) ?_
      intro listed current there pumping ready unpaused
      cases (emit_put_object self (transfer.setPaused false reason) _).symm.trans there
      rw [moves.files]
      simp only [ne_eq, not_and, not_not] at going
      exact spares transfer ⟨follows.listed _ listed, found, pumping⟩ ready.1
        (or_iff_not_imp_left.mpr going)

/-- The loop of `setGlobalPaused` when the pause ends. What it has been through is filled. -/
theorem unpause_filled (reason : String) (ids : List String) (distinct : ids.Nodup)
    (named : Named self) (intact : Intact self) (orderly : Orderly self)
    (others : ∀ other, other ∉ ids → Filled self other)
    (spares : ∀ fileId ∈ ids, ∀ transfer, Pumping self fileId transfer → transfer.accepted = true →
      transfer.status = .sending ∨ transfer.status = .paused → Satisfied self.files transfer)
    (other : String) : Filled (ids.foldl (pauseOne false reason) self) other := by
  induction ids generalizing self with
  | nil => exact others other List.not_mem_nil
  | cons id rest ih =>
      obtain ⟨fresh, distinct⟩ := List.nodup_cons.mp distinct
      have acts : Acts (Only id) self (pauseOne false reason self id) :=
        pauseOne_acts named (Only.self id) false reason .refl
      have moves : Moves [.wake, .draw, .resume id] self (pauseOne false reason self id) :=
        pauseOne_moves named false reason nofun (fun _ => by simp [Resumes]) .refl
      refine ih distinct (acts.named named) (moves.intact (by simp) intact)
        ((moves.follows named).orderly intact orderly) ?_ ?_
      · intro other missing
        by_cases same : other = id
        · subst same
          exact unpauseOne_filled named intact orderly reason (spares other List.mem_cons_self)
        · refine acts.filled_other same (others other ?_)
          exact fun member => (List.mem_cons.mp member).elim same missing
      · rintro fileId member transfer ⟨listed, found, pumping⟩ accepted going
        have different : fileId ≠ id := by
          rintro rfl
          exact fresh member
        have untouched : Untouched fileId self (pauseOne false reason self id) :=
          acts.untouched different
        rw [acts.settings.1]
        exact spares fileId (List.mem_cons_of_mem id member) transfer
          ⟨untouched.listed ▸ listed, untouched.object ▸ found, pumping⟩ accepted going

/-- A turn that pumps nothing leaves every transfer filled. -/
theorem quiet_filled (digest : Bytes → String) (ledger : Ledger self) (intact : Intact self)
    (orderly : Orderly self) (filled : ∀ fileId, Filled self fileId) (quiet : Quiet event.powers)
    (kept : event ≠ .reset) (same : ∀ files, event ≠ .setProfile files)
    (stepped : self.turn digest event = some after) (fileId : String) : Filled after fileId := by
  obtain ⟨middle, opening, moves⟩ := turn_unfolds digest ledger.named kept stepped
  have opened : ∀ fileId, Filled middle fileId := by
    rcases opening.follows intact orderly with follows | ⟨_, _, introduces⟩
    · exact follows.filled quiet (opening.files same) filled
    · exact introduces.filled filled
  exact (moves.follows (opening.named ledger.named)).filled quiet moves.files opened fileId

theorem turn_filled (digest : Bytes → String) (ledger : Ledger self) (intact : Intact self)
    (orderly : Orderly self) (filled : ∀ fileId, Filled self fileId)
    (unskipped : Unskipped self event) (stepped : self.turn digest event = some after)
    (fileId : String) : Filled after fileId := by
  have quietly : Quiet event.powers → event ≠ .reset → (∀ files, event ≠ .setProfile files) →
      Filled after fileId := fun quiet kept same =>
    quiet_filled digest ledger intact orderly filled quiet kept same stepped fileId
  cases event with
  | setProfile files =>
      cases stepped
      intro listed transfer found ready unpaused
      exact ⟨unskipped.2 fileId transfer listed found ready unpaused,
        (filled fileId listed transfer found ready unpaused).2⟩
  | accept id =>
      cases stepped
      exact accept_filled ledger.named intact orderly filled unskipped fileId
  | resume id =>
      cases stepped
      exact resume_filled ledger.named intact orderly filled unskipped fileId
  | ack id index =>
      cases stepped
      exact ack_filled ledger intact orderly filled unskipped fileId
  | setGlobalPaused paused reason =>
      cases paused with
      | true => exact quietly (by simp [Quiet, Event.powers]) (by simp) (by simp)
      | false =>
          cases stepped
          have started : Intact { self with globalPaused := false } :=
            intact.frame rfl rfl rfl (fun _ _ held => Or.inl held) (fun _ _ held => held)
          have named : Named { self with globalPaused := false } := ledger.named
          refine unpause_filled reason _ self.transfers.keys_nodup named started
            ⟨orderly.ended, orderly.unheard⟩ ?_ ?_ fileId
          · intro other missing listed
            exact absurd ((InsertionMap.has_iff _ _).mp listed) missing
          · intro id _ transfer pumping accepted going
            exact unskipped rfl id transfer pumping accepted going
  | reset =>
      cases stepped
      rintro ⟨⟩
  | _ => exact quietly (by simp [Quiet, Event.powers]) (by simp) (by simp)

theorem turn_orderly (digest : Bytes → String) (named : Named self) (intact : Intact self)
    (roomy : KeepsRoom self event) (ledger : Ledger self) (orderly : Orderly self)
    (stepped : self.turn digest event = some after) : Orderly after := by
  by_cases reset : event = .reset
  · subst reset
    cases stepped
    have cleared := ((clearAll_moves self).follows named).orderly intact orderly
    exact ⟨cleared.ended, cleared.unheard⟩
  · obtain ⟨middle, opening, moves⟩ := turn_unfolds digest named reset stepped
    have opened : Orderly middle := by
      rcases opening.follows intact orderly with follows | ⟨_, _, introduces⟩
      · exact follows.orderly intact orderly
      · exact introduces.orderly orderly
    exact (moves.follows (opening.named named)).orderly (opening.intact ledger roomy intact) opened

end Turns

section Runs

variable {sender : Sender} {history : List SenderNote} {limits : FileLimits}

theorem Unskipped.keepsRoom {event : Event} (unskipped : Unskipped sender event) :
    KeepsRoom sender event := by
  rintro files rfl
  exact unskipped.1

theorem run_filled (digest : Bytes → String)
    (run : Machine.Run (machine digest) Unskipped (create limits) sender history) :
    Ledger sender ∧ Intact sender ∧ Orderly sender ∧ ∀ fileId, Filled sender fileId := by
  refine run.state_invariant (fun sender => Ledger sender ∧ Intact sender ∧ Orderly sender ∧
    ∀ fileId, Filled sender fileId) ⟨start_ledger limits, create_intact limits, ?_, ?_⟩ ?_
  · constructor <;> simp [create]
  · rintro _ ⟨⟩
  · rintro before event after outputs ⟨ledger, intact, orderly, filled⟩ unskipped stepped
    obtain ⟨next, turned, same⟩ := Option.map_eq_some_iff.mp stepped
    cases same
    have quiet : Ledger { before with notes := [] } :=
      ⟨ledger.named, ledger.made, ledger.unlisted, ledger.object, ledger.once⟩
    have still : Intact { before with notes := [] } :=
      intact.frame rfl rfl rfl (fun _ _ held => Or.inl held) (fun _ _ held => held)
    have ordered : Orderly { before with notes := [] } := ⟨orderly.ended, orderly.unheard⟩
    have admitted : Unskipped { before with notes := [] } event := by
      cases event <;> exact unskipped
    exact ⟨(turn_ledger digest quiet rfl turned).1,
      turn_intact digest quiet admitted.keepsRoom still turned,
      turn_orderly digest quiet.named still admitted.keepsRoom quiet ordered turned,
      turn_filled digest quiet still ordered filled admitted turned⟩

/-- No call of a pump or of a chunk's sending is suspended for the transfer. -/
def Settled (sender : Sender) (fileId : String) : Prop :=
  ∀ ticket call, sender.calls.get? ticket = some call → call.fileId = fileId →
    call.index? = none ∧ call ≠ .pumping fileId

/-- A ready transfer has a full window or nothing left to send, and is not done. -/
def GoesOn (sender : Sender) (transfer : Transfer) : Prop :=
  (transfer.inflight.size = sender.files.windowChunks ∨ transfer.nextIndex = transfer.totalChunks) ∧
    ∃ index < transfer.totalChunks, transfer.acked.has index = false

/-- In every run in which no call of `pump` is skipped that had something to do. -/
theorem ready_transfer_goes_on (digest : Bytes → String) (limits : FileLimits) (sender : Sender)
    (history : List SenderNote)
    (run : Machine.Run (machine digest) Unskipped (create limits) sender history) (fileId : String)
    (transfer : Transfer) (listed : sender.transfers.has fileId = true)
    (found : sender.objects.get? fileId = some transfer) (accepted : transfer.accepted = true)
    (sending : transfer.status = .sending) (resumed : transfer.paused = false)
    (unpaused : sender.globalPaused = false) : GoesOn sender transfer := by
  obtain ⟨filled, undone⟩ := (run_filled digest run).2.2.2 fileId listed transfer found
    ⟨accepted, sending, resumed⟩ unpaused
  refine ⟨filled, ?_⟩
  by_contra none
  have all : List.range transfer.totalChunks ⊆ transfer.acked.keys := by
    intro index member
    rw [← InsertionMap.has_iff, ← Bool.not_eq_false]
    exact fun missing => none ⟨index, List.mem_range.mp member, missing⟩
  have counted := (List.nodup_range.subperm all).length_le
  rw [List.length_range, InsertionMap.length_keys] at counted
  omega

set_option synthInstance.maxSize 1000 in
/-- Two of three chunks are out once the offer was accepted. -/
theorem accepted_transfer_goes_on :
    ∃ sender history transfer,
      Machine.Run (machine fun _ => "") Unskipped (create sampleLimits) sender history ∧
      sender.objects.get? "f" = some transfer ∧ transfer.nextIndex = 2 ∧ GoesOn sender transfer := by
  have ran : ((machine fun _ => "").execute (create sampleLimits) (sampleTransfer.take 3)).bind
      (fun first => ((machine fun _ => "").step first.1 (.accept "f")).map fun second =>
        ((first.1.objects.get? "f").map Transfer.pumping, second.1.transfers.has "f",
          second.1.globalPaused, (second.1.objects.get? "f").map fun transfer =>
            (transfer.accepted, transfer.status, transfer.paused, transfer.nextIndex))) =
      some (some false, true, false, some (true, .sending, false, 2)) := by decide +kernel
  obtain ⟨⟨before, past⟩, executed, ran⟩ := Option.bind_eq_some_iff.mp ran
  obtain ⟨⟨sender, outputs⟩, stepped, seen⟩ := Option.map_eq_some_iff.mp ran
  simp only [Prod.mk.injEq, Option.map_eq_some_iff] at seen
  obtain ⟨⟨old, stored, idle⟩, listed, unpaused, transfer, found, accepted, sending, resumed,
    counted⟩ := seen
  have along : (machine fun _ => "").Along Unskipped (create sampleLimits)
      (sampleTransfer.take 3) := by
    refine Machine.along_of_forall _ _ fun event member state => ?_
    simp only [sampleTransfer, List.take_succ_cons, List.take_zero, List.mem_cons,
      List.not_mem_nil, or_false] at member
    rcases member with rfl | rfl | rfl <;> trivial
  have spared : Unskipped before (.accept "f") := by
    rintro current ⟨_, there, pumping⟩
    cases stored.symm.trans there
    rw [idle] at pumping
    cases pumping
  have run := (Machine.execute_run _ along executed).next spared stepped
  exact ⟨sender, _, transfer, run, found, counted, ready_transfer_goes_on _ sampleLimits sender _ run
    "f" transfer listed found accepted sending resumed unpaused⟩

set_option synthInstance.maxSize 1000 in
/-- Both chunks are acknowledged in one turn of the loop: the second acknowledgement comes while
the pump of the first is suspended, and nothing completes the transfer. -/
theorem acknowledged_transfer_stays :
    ¬ ∀ (digest : Bytes → String) (limits : FileLimits) (sender : Sender)
      (history : List SenderNote),
      Machine.Run (machine digest) Machine.Unrestricted (create limits) sender history →
      ∀ fileId transfer, sender.transfers.has fileId = true →
        sender.objects.get? fileId = some transfer → Settled sender fileId →
        transfer.accepted = true → transfer.status = .sending → transfer.paused = false →
        sender.globalPaused = false → GoesOn sender transfer := by
  intro goes
  have ran : ((machine fun _ => "").execute (create sampleLimits)
      [.offer "f" ⟨utf16 "a.bin", [], [1, 2, 3, 4]⟩ false, .settle 0 (.ok true), .settle 1 (.ok true),
        .accept "f", .settle 4 (.ok true), .settle 2 (.ok true), .settle 3 (.ok true),
        .settle 5 (.ok true), .settle 6 (.ok true), .ack "f" 0, .ack "f" 1,
        .settle 7 (.ok true)]).map (fun result => (result.1.calls.held.size,
          result.1.transfers.has "f", result.1.globalPaused,
          (result.1.objects.get? "f").map fun transfer =>
            (transfer.accepted && transfer.status == .sending && !transfer.paused,
              transfer.totalChunks, transfer.acked.keys))) =
      some (0, true, false, some (true, 2, [0, 1])) := by decide +kernel
  obtain ⟨⟨sender, history⟩, executed, seen⟩ := Option.map_eq_some_iff.mp ran
  simp only [Prod.mk.injEq, Option.map_eq_some_iff, Bool.and_eq_true, beq_iff_eq,
    Bool.not_eq_true'] at seen
  obtain ⟨quiet, listed, unpaused, transfer, found, ⟨⟨accepted, sending⟩, resumed⟩, total, acked⟩ :=
    seen
  have settled : Settled sender "f" := by
    intro ticket call held
    have none := List.length_eq_zero_iff.mp quiet
    rw [Callbacks.get?, InsertionMap.get?, none] at held
    cases held
  obtain ⟨_, index, inside, missing⟩ := goes _ sampleLimits sender history
    (Machine.execute_run _ (Machine.along_unrestricted _ _) executed) "f" transfer listed found
    settled accepted sending resumed unpaused
  rw [← Bool.not_eq_true, InsertionMap.has_iff, acked] at missing
  rw [total] at inside
  simp only [List.mem_cons, List.not_mem_nil, or_false] at missing
  omega

end Runs

end OnlyTwo.FileSender
