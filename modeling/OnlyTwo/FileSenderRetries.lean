import OnlyTwo.FileSenderWindow

/-!
How often a chunk is sent. As long as one call or one timer at most works on an index, each
send of its chunk uses up an attempt number of its own, and the retry limit bounds the sends.
`nack` and `resume` may start a second `sendChunk` beside a suspended one, which then takes the
same numbers again: the bound is proved of the runs in which they do not.
-/

namespace OnlyTwo.FileSender

open Bytes FileProtocol Sender

section Lanes

/-- How many of the notes send the chunk. -/
def chunksSaid (notes : List SenderNote) (fileId : String) (index : Nat) : Nat :=
  notes.countP fun note => note.chunk? == some (fileId, index)

/-- The transfer and the index that a call works on. -/
def SenderCall.lane : SenderCall → Option (String × Nat)
  | .slicing fileId index _ => some (fileId, index)
  | .sending fileId index _ => some (fileId, index)
  | _ => none

def SenderTimer.lane : SenderTimer → String × Nat
  | .ackTimeout fileId index _ => (fileId, index)
  | .retry fileId index _ => (fileId, index)

/-- The attempt number covers the sends so far; a read of a slice is followed by one more. -/
def SenderCall.Admits (said : Nat) : SenderCall → Prop
  | .slicing _ _ attempts => said < attempts
  | .sending _ _ attempts => said ≤ attempts
  | _ => True

def SenderTimer.Admits (said : Nat) : SenderTimer → Prop
  | .ackTimeout _ _ attempts => said ≤ attempts
  | .retry _ _ nextAttempts => said < nextAttempts

def Sender.entry? (sender : Sender) (fileId : String) (index : Nat) : Option InflightChunk :=
  (sender.objects.get? fileId).bind fun transfer => transfer.inflight.get? index

/-- No suspended call works on the index. -/
def Uncalled (sender : Sender) (fileId : String) (index : Nat) : Prop :=
  ∀ ticket call, sender.calls.get? ticket = some call → call.lane ≠ some (fileId, index)

/-- Nor does an armed timer. -/
def Unworked (sender : Sender) (fileId : String) (index : Nat) : Prop :=
  Uncalled sender fileId index ∧
    ∀ ticket timer, sender.timers.get? ticket = some timer → timer.lane ≠ (fileId, index)

/-- One call or one timer at most works on the index, after `said` sends of its chunk. -/
structure Lane (retries said : Nat) (sender : Sender) (fileId : String) (index : Nat) : Prop where
  bounded : said ≤ retries + 1
  calls : ∀ ticket call, sender.calls.get? ticket = some call →
    call.lane = some (fileId, index) → call.Admits said
  timers : ∀ ticket timer, sender.timers.get? ticket = some timer →
    timer.lane = (fileId, index) → timer.Admits said
  owned : ∀ ticket timer, sender.timers.get? ticket = some timer → timer.lane = (fileId, index) →
    ∃ item, sender.entry? fileId index = some item ∧ item.timer = some ticket
  entry : ∀ item, sender.entry? fileId index = some item → said ≤ item.attempts
  once : ∀ ticket call other another, sender.calls.get? ticket = some call →
    call.lane = some (fileId, index) → sender.calls.get? other = some another →
    another.lane = some (fileId, index) → ticket = other
  alone : ∀ ticket call, sender.calls.get? ticket = some call → call.lane = some (fileId, index) →
    ∀ other timer, sender.timers.get? other = some timer → timer.lane ≠ (fileId, index)
  slices : ∀ ticket attempts, sender.calls.get? ticket = some (.slicing fileId index attempts) →
    attempts ≤ retries + 1 ∧
      ∀ item, sender.entry? fileId index = some item → attempts ≤ item.attempts
  taken : Taken sender fileId index ∨
    said = 0 ∧ Unworked sender fileId index ∧ sender.entry? fileId index = none

/-- Every index, after the sends of earlier turns and of this one. -/
def Lanes (retries : Nat) (past : String → Nat → Nat) (sender : Sender) : Prop :=
  ∀ fileId index, Lane retries (past fileId index + chunksSaid sender.notes fileId index) sender
    fileId index

variable {retries said : Nat} {past : String → Nat → Nat} {self after : Sender} {fileId : String}
  {index : Nat} {transfer old new : Transfer}

theorem chunksSaid_append (first second : List SenderNote) (fileId : String) (index : Nat) :
    chunksSaid (first ++ second) fileId index =
      chunksSaid first fileId index + chunksSaid second fileId index :=
  List.countP_append

theorem chunksSaid_silent (notes : List SenderNote) {entry : SenderNote} (silent : entry.chunk? = none)
    (fileId : String) (index : Nat) :
    chunksSaid (notes ++ [entry]) fileId index = chunksSaid notes fileId index := by
  have none : chunksSaid [entry] fileId index = 0 := by
    rw [chunksSaid, List.countP_singleton, silent]
    rfl
  rw [chunksSaid_append, none, Nat.add_zero]

theorem entry?_eq (found : self.objects.get? fileId = some transfer) (index : Nat) :
    self.entry? fileId index = transfer.inflight.get? index := by
  rw [Sender.entry?, found]
  rfl

theorem Writes.entry? (writes : Writes self after old new) (fileId : String) (index : Nat) :
    after.entry? fileId index =
      if fileId = new.fileId then new.inflight.get? index else self.entry? fileId index := by
  unfold Sender.entry?
  rw [writes.objects]
  split <;> rfl

/-- The index is left alone: what works on it is fewer, and its entry keeps its number, and its
timer as long as that is armed. -/
theorem Lane.frame (lane : Lane retries said self fileId index)
    (calls : ∀ ticket call, after.calls.get? ticket = some call →
      call.lane = some (fileId, index) → self.calls.get? ticket = some call)
    (timers : ∀ ticket timer, after.timers.get? ticket = some timer →
      timer.lane = (fileId, index) → self.timers.get? ticket = some timer)
    (entries : ∀ item, after.entry? fileId index = some item →
      ∃ was, self.entry? fileId index = some was ∧ was.attempts = item.attempts)
    (owned : ∀ ticket timer item, after.timers.get? ticket = some timer →
      timer.lane = (fileId, index) → self.entry? fileId index = some item →
      item.timer = some ticket → ∃ now, after.entry? fileId index = some now ∧
        now.timer = some ticket)
    (taken : Taken self fileId index → Taken after fileId index) :
    Lane retries said after fileId index where
  bounded := lane.bounded
  calls := fun ticket call held here => lane.calls ticket call (calls ticket call held here) here
  timers := fun ticket timer held here =>
    lane.timers ticket timer (timers ticket timer held here) here
  owned := by
    intro ticket timer held here
    obtain ⟨item, found, armed⟩ := lane.owned ticket timer (timers ticket timer held here) here
    exact owned ticket timer item held here found armed
  entry := by
    intro item found
    obtain ⟨was, there, same⟩ := entries item found
    rw [← same]
    exact lane.entry was there
  once := fun ticket call other another held here also there => lane.once ticket call other another
    (calls ticket call held here) here (calls other another also there) there
  alone := fun ticket call held here other timer armed there =>
    lane.alone ticket call (calls ticket call held here) here other timer
      (timers other timer armed there) there
  slices := by
    intro ticket attempts held
    obtain ⟨small, below⟩ := lane.slices ticket attempts (calls ticket _ held rfl)
    refine ⟨small, fun item found => ?_⟩
    obtain ⟨was, there, same⟩ := entries item found
    rw [← same]
    exact below was there
  taken := by
    refine lane.taken.imp taken ?_
    rintro ⟨none, ⟨uncalled, unarmed⟩, missing⟩
    refine ⟨none, ⟨?_, ?_⟩, Option.eq_none_iff_forall_ne_some.mpr ?_⟩
    · exact fun ticket call held here => uncalled ticket call (calls ticket call held here) here
    · exact fun ticket timer held here => unarmed ticket timer (timers ticket timer held here) here
    · intro item found
      obtain ⟨was, there, _⟩ := entries item found
      cases missing.symm.trans there

/-- Calls and timers may go. -/
theorem Lanes.frame (lanes : Lanes retries past self) (objects : after.objects = self.objects)
    (silent : ∀ fileId index, chunksSaid after.notes fileId index = chunksSaid self.notes fileId index)
    (calls : ∀ ticket call, after.calls.get? ticket = some call → call.lane ≠ none →
      self.calls.get? ticket = some call)
    (timers : ∀ ticket timer, after.timers.get? ticket = some timer →
      self.timers.get? ticket = some timer) : Lanes retries past after := by
  intro fileId index
  rw [silent]
  have same : after.entry? fileId index = self.entry? fileId index := by
    unfold Sender.entry?
    rw [objects]
  refine (lanes fileId index).frame ?_ (fun ticket timer held _ => timers ticket timer held)
    ?_ ?_ ?_
  · intro ticket call held here
    exact calls ticket call held (by rw [here]; exact Option.some_ne_none _)
  · exact fun item found => ⟨item, same ▸ found, rfl⟩
  · exact fun _ _ item _ _ found armed => ⟨item, same.symm ▸ found, armed⟩
  · unfold Taken
    rw [objects]
    exact id

/-- A transfer is written and its entries keep their numbers, or go. -/
theorem Lanes.rewrite (lanes : Lanes retries past self) (writes : Writes self after old new)
    (notes : after.notes = self.notes) (calls : after.calls = self.calls)
    (timers : ∀ ticket timer, after.timers.get? ticket = some timer →
      self.timers.get? ticket = some timer)
    (entries : ∀ index item, new.inflight.get? index = some item →
      ∃ was, old.inflight.get? index = some was ∧ was.attempts = item.attempts)
    (owned : ∀ ticket timer index item, after.timers.get? ticket = some timer →
      old.inflight.get? index = some item → item.timer = some ticket →
      ∃ now, new.inflight.get? index = some now ∧ now.timer = some ticket) :
    Lanes retries past after := by
  intro fileId index
  rw [notes]
  refine (lanes fileId index).frame (fun ticket call held _ => calls ▸ held)
    (fun ticket timer held _ => timers ticket timer held) ?_ ?_ writes.taken
  · intro item found
    rw [writes.entry?] at found
    split at found
    · rename_i same
      subst same
      rw [entry?_eq writes.found]
      exact entries index item found
    · exact ⟨item, found, rfl⟩
  · intro ticket timer item held _ found armed
    rw [writes.entry?]
    split
    · rename_i same
      subst same
      rw [entry?_eq writes.found] at found
      exact owned ticket timer index item held found armed
    · exact ⟨item, found, armed⟩

/-- The entry of one index is written: the other indices are left alone. -/
theorem Lanes.visit (lanes : Lanes retries past self) {item : InflightChunk}
    (writes : Writes self after old new)
    (written : new.inflight = old.inflight.set index item)
    (silent : ∀ fileId index, chunksSaid after.notes fileId index = chunksSaid self.notes fileId index)
    (calls : ∀ ticket call, after.calls.get? ticket = some call →
      self.calls.get? ticket = some call ∨ call.lane = some (new.fileId, index))
    (timers : ∀ ticket timer, after.timers.get? ticket = some timer →
      self.timers.get? ticket = some timer ∨ timer.lane = (new.fileId, index))
    (here : Lane retries (past new.fileId index + chunksSaid self.notes new.fileId index) after
      new.fileId index) : Lanes retries past after := by
  intro fileId other
  rw [silent]
  by_cases same : (fileId, other) = (new.fileId, index)
  · cases same
    exact here
  have entry : after.entry? fileId other = self.entry? fileId other := by
    rw [writes.entry?]
    split
    · rename_i own
      subst own
      have different : other ≠ index := fun hit => same (by rw [hit])
      rw [entry?_eq writes.found, written, InsertionMap.get?_set_ne _ _ different]
    · rfl
  refine (lanes fileId other).frame ?_ ?_ ?_ ?_ writes.taken
  · intro ticket call held there
    refine (calls ticket call held).elim id fun hit => ?_
    exact absurd (Option.some.inj (there.symm.trans hit)) same
  · intro ticket timer held there
    exact (timers ticket timer held).elim id fun hit => absurd (there.symm.trans hit) same
  · exact fun item found => ⟨item, entry ▸ found, rfl⟩
  · exact fun _ _ item _ _ found armed => ⟨item, entry.symm ▸ found, armed⟩

end Lanes

section Visits

variable {retries said index : Nat} {past : String → Nat → Nat} {self after : Sender}
  {fileId : String} {transfer : Transfer} {item : InflightChunk}

/-- No suspended call works on the index, and no armed timer but the one of its entry. -/
structure Spare (sender : Sender) (transfer : Transfer) (index : Nat) : Prop where
  uncalled : Uncalled sender transfer.fileId index
  timers : ∀ ticket timer, sender.timers.get? ticket = some timer →
    timer.lane = (transfer.fileId, index) →
    (transfer.inflight.get? index).bind InflightChunk.timer = some ticket

theorem Lane.spare (lane : Lane retries said self transfer.fileId index)
    (found : self.objects.get? transfer.fileId = some transfer)
    (uncalled : Uncalled self transfer.fileId index) : Spare self transfer index where
  uncalled := uncalled
  timers := by
    intro ticket timer held here
    obtain ⟨item, there, armed⟩ := lane.owned ticket timer held here
    rw [entry?_eq found] at there
    rw [there]
    exact armed

/-- What is worked on was taken. -/
theorem Lane.began (lane : Lane retries said self transfer.fileId index)
    (found : self.objects.get? transfer.fileId = some transfer)
    (worked : ¬ (Unworked self transfer.fileId index ∧ self.entry? transfer.fileId index = none)) :
    index < transfer.nextIndex := by
  rcases lane.taken with ⟨current, there, small⟩ | ⟨_, idle⟩
  · cases found.symm.trans there
    exact small
  · exact absurd idle worked

theorem Unworked.spare (unworked : Unworked self transfer.fileId index) : Spare self transfer index where
  uncalled := unworked.1
  timers := fun ticket timer held here => absurd here (unworked.2 ticket timer held)

/-- The timer of the entry is cancelled and no other one is left. -/
theorem Spare.cleared (spare : Spare self transfer index) (ticket : Nat) (timer : SenderTimer)
    (held : (self.timers.cancel ((transfer.inflight.get? index).bind InflightChunk.timer)).get?
      ticket = some timer) : timer.lane ≠ (transfer.fileId, index) := by
  intro here
  have owned := spare.timers ticket timer (Callbacks.get?_of_cancel held) here
  rw [owned, Callbacks.cancel, Callbacks.get?_remove, if_pos rfl] at held
  cases held

/-- No call works on the index, and at most the timer of its entry. -/
theorem Lane.rested (bounded : said ≤ retries + 1) (uncalled : Uncalled self fileId index)
    (found : self.entry? fileId index = some item) (number : said ≤ item.attempts)
    (timers : ∀ ticket timer, self.timers.get? ticket = some timer → timer.lane = (fileId, index) →
      timer.Admits said ∧ item.timer = some ticket)
    (taken : Taken self fileId index) : Lane retries said self fileId index where
  bounded := bounded
  calls := fun ticket call held here => absurd here (uncalled ticket call held)
  timers := fun ticket timer held here => (timers ticket timer held here).1
  owned := fun ticket timer held here => ⟨item, found, (timers ticket timer held here).2⟩
  entry := by
    intro other there
    cases found.symm.trans there
    exact number
  once := fun ticket call _ _ held here _ _ => absurd here (uncalled ticket call held)
  alone := fun ticket call held here _ _ _ => absurd here (uncalled ticket call held)
  slices := fun ticket _ held => absurd rfl (uncalled ticket _ held)
  taken := Or.inl taken

/-- One call works on the index and no timer does. -/
theorem Lane.called (ticket : Nat) (call : SenderCall) (bounded : said ≤ retries + 1)
    (held : ∀ other another, self.calls.get? other = some another →
      another.lane = some (fileId, index) → other = ticket ∧ another = call)
    (admits : call.Admits said)
    (unarmed : ∀ other timer, self.timers.get? other = some timer → timer.lane ≠ (fileId, index))
    (number : ∀ item, self.entry? fileId index = some item → said ≤ item.attempts)
    (slices : ∀ attempts, call = .slicing fileId index attempts → attempts ≤ retries + 1 ∧
      ∀ item, self.entry? fileId index = some item → attempts ≤ item.attempts)
    (taken : Taken self fileId index) : Lane retries said self fileId index where
  bounded := bounded
  calls := by
    intro other another there here
    rw [(held other another there here).2]
    exact admits
  timers := fun other timer armed here => absurd here (unarmed other timer armed)
  owned := fun other timer armed here => absurd here (unarmed other timer armed)
  entry := number
  once := fun first call second another one here two there =>
    (held first call one here).1.trans (held second another two there).1.symm
  alone := fun _ _ _ _ => unarmed
  slices := fun other attempts there => slices attempts (held other _ there rfl).2.symm
  taken := Or.inl taken

theorem Writes.here {reason : Option String}
    (writes : Writes self after transfer (transfer.write index item reason)) :
    after.entry? transfer.fileId index = some item :=
  ((writes.entry? _ _).trans (if_pos rfl)).trans (InsertionMap.get?_set_self _ _ _)

theorem Writes.took {reason : Option String}
    (writes : Writes self after transfer (transfer.write index item reason))
    (small : index < transfer.nextIndex) : Taken after transfer.fileId index :=
  ⟨transfer.write index item reason, (writes.objects _).trans (if_pos rfl), small⟩

theorem launch_notes (self : Sender) (transfer : Transfer) (index attempts : Nat) (fileId : String)
    (other : Nat) : chunksSaid (self.launch transfer index attempts).notes fileId other =
      chunksSaid self.notes fileId other := by
  unfold Sender.launch emit withTransfer
  split
  · rfl
  · exact chunksSaid_silent _ rfl _ _

theorem Lanes.launch (lanes : Lanes retries past self)
    (found : self.objects.get? transfer.fileId = some transfer) (spare : Spare self transfer index)
    (small : index < transfer.nextIndex) {attempts : Nat}
    (number : past transfer.fileId index + chunksSaid self.notes transfer.fileId index < attempts)
    (within : attempts ≤ retries + 1) : Lanes retries past (self.launch transfer index attempts) := by
  have writes := launch_writes self transfer found index attempts
  refine lanes.visit writes rfl (launch_notes self transfer index attempts) ?_ ?_ ?_
  · intro ticket call held
    rw [launch_calls] at held
    split at held
    · cases held
      exact Or.inr rfl
    · exact Or.inl held
  · intro ticket timer held
    rw [launch_timers] at held
    exact Or.inl (Callbacks.get?_of_cancel held)
  · refine Lane.called self.calls.next (.slicing transfer.fileId index attempts) (lanes _ _).bounded
      ?_ number ?_ ?_ ?_ (writes.took small)
    · intro other another held here
      rw [launch_calls] at held
      split at held
      · cases held
        exact ⟨‹_›, rfl⟩
      · exact absurd here (spare.uncalled other another held)
    · intro other timer held
      rw [launch_timers] at held
      exact spare.cleared other timer held
    · intro item there
      cases writes.here.symm.trans there
      exact number.le
    · rintro _ ⟨⟩
      refine ⟨within, fun item there => ?_⟩
      cases writes.here.symm.trans there
      exact Nat.le_refl _

theorem Lanes.await (lanes : Lanes retries past self)
    (found : self.objects.get? transfer.fileId = some transfer)
    (unworked : Unworked self transfer.fileId index) (small : index < transfer.nextIndex)
    {attempts : Nat}
    (number : past transfer.fileId index + chunksSaid self.notes transfer.fileId index ≤ attempts) :
    Lanes retries past (self.await transfer index attempts) := by
  have writes : Writes self (self.await transfer index attempts) transfer
      (transfer.write index ⟨attempts, .waitingAck, some self.timers.next⟩ none) :=
    ⟨found, fun _ => InsertionMap.get?_set _ _ _ _, rfl, rfl, rfl, Nat.le_refl _⟩
  have timers : ∀ ticket timer, (self.await transfer index attempts).timers.get? ticket = some timer →
      ticket = self.timers.next ∧ timer = .ackTimeout transfer.fileId index attempts ∨
        self.timers.get? ticket = some timer := by
    intro ticket timer held
    simp only [Sender.await, Sender.put, Sender.note, Callbacks.get?_add] at held
    split at held
    · exact Or.inl ⟨‹_›, (Option.some.inj held).symm⟩
    · exact Or.inr held
  refine lanes.visit writes rfl (chunksSaid_silent _ rfl) (fun _ _ held => Or.inl held) ?_ ?_
  · intro ticket timer held
    rcases timers ticket timer held with ⟨_, rfl⟩ | early
    · exact Or.inr rfl
    · exact Or.inl early
  · refine Lane.rested (lanes _ _).bounded unworked.1 writes.here number ?_ (writes.took small)
    intro ticket timer held here
    rcases timers ticket timer held with ⟨rfl, rfl⟩ | early
    · exact ⟨number, rfl⟩
    · exact absurd here (unworked.2 ticket timer early)

theorem Lanes.rearm (lanes : Lanes retries past self)
    (found : self.objects.get? transfer.fileId = some transfer) (spare : Spare self transfer index)
    (small : index < transfer.nextIndex) {next : Nat} (reason : String)
    (number : past transfer.fileId index + chunksSaid self.notes transfer.fileId index < next) :
    Lanes retries past (self.rearm transfer index next reason) := by
  let cleared := self.timers.cancel ((transfer.inflight.get? index).bind InflightChunk.timer)
  have writes : Writes self (self.rearm transfer index next reason) transfer
      (transfer.write index ⟨next - 1, .retryWait, some cleared.next⟩ (some reason)) :=
    ⟨found, fun _ => InsertionMap.get?_set _ _ _ _, rfl, rfl, rfl, Nat.le_refl _⟩
  have timers : ∀ ticket timer,
      (self.rearm transfer index next reason).timers.get? ticket = some timer →
      ticket = cleared.next ∧ timer = .retry transfer.fileId index next ∨
        cleared.get? ticket = some timer := by
    intro ticket timer held
    simp only [Sender.rearm, Sender.put, Sender.note, Sender.clearInflightTimer,
      Callbacks.get?_add] at held
    split at held
    · exact Or.inl ⟨‹_›, (Option.some.inj held).symm⟩
    · exact Or.inr held
  refine lanes.visit writes rfl (chunksSaid_silent _ rfl) (fun _ _ held => Or.inl held) ?_ ?_
  · intro ticket timer held
    rcases timers ticket timer held with ⟨_, rfl⟩ | early
    · exact Or.inr rfl
    · exact Or.inl (Callbacks.get?_of_cancel early)
  · refine Lane.rested (lanes _ _).bounded spare.uncalled writes.here (Nat.le_sub_one_of_lt number) ?_
      (writes.took small)
    intro ticket timer held here
    rcases timers ticket timer held with ⟨rfl, rfl⟩ | early
    · exact ⟨number, rfl⟩
    · exact absurd here (spare.cleared ticket timer early)

/-- An entry that nothing works on is written without a timer. -/
theorem Lanes.park (lanes : Lanes retries past self)
    (found : self.objects.get? transfer.fileId = some transfer)
    (unworked : Unworked self transfer.fileId index) (small : index < transfer.nextIndex)
    (reason : Option String) (state : ChunkState) {attempts : Nat}
    (number : past transfer.fileId index + chunksSaid self.notes transfer.fileId index ≤ attempts) :
    Lanes retries past (self.put (transfer.write index ⟨attempts, state, none⟩ reason)) := by
  have writes : Writes self (self.put (transfer.write index ⟨attempts, state, none⟩ reason)) transfer
      (transfer.write index ⟨attempts, state, none⟩ reason) :=
    (put_rewrites self (transfer.write index _ reason) found (Nat.le_refl _)).toWrites
  refine lanes.visit writes rfl (fun _ _ => rfl) (fun _ _ held => Or.inl held)
    (fun _ _ held => Or.inl held) ?_
  exact Lane.rested (lanes _ _).bounded unworked.1 writes.here number
    (fun ticket timer held here => absurd here (unworked.2 ticket timer held)) (writes.took small)

end Visits

section Chains

variable {retries : Nat} {past : String → Nat → Nat} {powers : List Power}
  {start self after : Sender} {old new transfer : Transfer}

/-- No call works on a chunk that was held back and may be sent again. -/
def Resumable (sender : Sender) (fileId : String) (transfer : Transfer) : Prop :=
  ∀ index item, transfer.Live index → transfer.inflight.get? index = some item → item.Idle →
    item.attempts ≤ sender.files.maxRetries → Uncalled sender fileId index

/-- So it is for all that the chain may resume. -/
def HeldFree (powers : List Power) (sender : Sender) : Prop :=
  sender.globalPaused = false → ∀ fileId transfer, sender.objects.get? fileId = some transfer →
    Resumes powers sender fileId → Resumable sender fileId transfer

theorem HeldFree.frame (free : HeldFree powers self) (objects : after.objects = self.objects)
    (transfers : ∀ fileId, after.transfers.has fileId = true → self.transfers.has fileId = true)
    (files : after.files = self.files) (globalPaused : after.globalPaused = self.globalPaused)
    (calls : ∀ ticket call, after.calls.get? ticket = some call → call.lane ≠ none →
      self.calls.get? ticket = some call) : HeldFree powers after := by
  intro unpaused fileId transfer found power index item live held idle within ticket call there here
  have powered : Resumes powers self fileId := power.imp id (And.imp id (transfers fileId))
  exact free (globalPaused ▸ unpaused) fileId transfer (objects ▸ found) powered index item live held
    idle (files ▸ within) ticket call
    (calls ticket call there (by rw [here]; exact Option.some_ne_none _)) here

/-- A transfer is written: an entry that waits was there before, and a new call is at another one. -/
theorem HeldFree.write (free : HeldFree powers self) (writes : Writes self after old new)
    (live : ∀ index, new.Live index → old.Live index)
    (entries : ∀ index item, new.inflight.get? index = some item → item.Idle →
      old.inflight.get? index = some item)
    (calls : ∀ ticket call, after.calls.get? ticket = some call →
      self.calls.get? ticket = some call ∨ ∃ index, call.lane = some (new.fileId, index) ∧
        ∀ item, new.inflight.get? index = some item → ¬ item.Idle) : HeldFree powers after := by
  intro unpaused fileId transfer found power index item lives held idle within ticket call there here
  rw [writes.globalPaused] at unpaused
  rw [writes.files] at within
  unfold Resumes at power
  rw [writes.transfers] at power
  rw [writes.objects] at found
  split at found
  · rename_i own
    cases found
    subst own
    rcases calls ticket call there with early | ⟨other, same, busy⟩
    · exact free unpaused _ old writes.found power index item (live index lives)
        (entries index item held idle) idle within ticket call early here
    · cases same.symm.trans here
      exact busy item held idle
  · rename_i other
    rcases calls ticket call there with early | ⟨index, same, _⟩
    · exact free unpaused fileId transfer found power index item lives held idle within ticket call
        early here
    · cases same.symm.trans here
      exact other rfl

theorem HeldFree.launch (free : HeldFree powers self)
    (found : self.objects.get? transfer.fileId = some transfer) (index attempts : Nat) :
    HeldFree powers (self.launch transfer index attempts) := by
  refine free.write (launch_writes self transfer found index attempts) (fun _ live => live) ?_ ?_
  · intro other item held idle
    simp only [Transfer.launched, Transfer.write, InsertionMap.get?_set] at held
    split at held
    · cases held
      cases idle.1
    · exact held
  · intro ticket call held
    rw [launch_calls] at held
    split at held
    · cases held
      refine Or.inr ⟨index, rfl, fun item there idle => ?_⟩
      simp only [Transfer.launched, Transfer.write, InsertionMap.get?_set_self] at there
      cases there
      cases idle.1
    · exact Or.inl held

/-- The index a round of `pump` takes has had no send. -/
theorem Lanes.draw (lanes : Lanes retries past self)
    (found : self.objects.get? transfer.fileId = some transfer) :
    Lanes retries past ((self.put transfer.advance).launch transfer.advance transfer.nextIndex 1) := by
  have writes : Writes self (self.put transfer.advance) transfer transfer.advance :=
    (put_rewrites self transfer.advance found (Nat.le_succ _)).toWrites
  have advanced : Lanes retries past (self.put transfer.advance) := by
    refine lanes.rewrite writes rfl rfl (fun _ _ held => held) ?_ ?_
    · exact fun _ item held => ⟨item, held, rfl⟩
    · exact fun _ _ _ item _ held armed => ⟨item, held, armed⟩
  rcases (lanes transfer.fileId transfer.nextIndex).taken with ⟨current, there, small⟩ | ⟨none, unworked, _⟩
  · cases found.symm.trans there
    exact absurd small (Nat.lt_irrefl _)
  · have spare : Spare (self.put transfer.advance) transfer.advance transfer.nextIndex :=
      Unworked.spare ⟨unworked.1, unworked.2⟩
    exact advanced.launch (InsertionMap.get?_set_self _ _ _) spare (Nat.lt_succ_self _)
      (none.le.trans_lt Nat.one_pos) (by omega)

/-- The timers of the entries are cancelled. -/
theorem cancelAll_disowns {timers : Callbacks SenderTimer} {ticket index : Nat}
    {timer : SenderTimer} {item : InflightChunk}
    (held : (cancelAll timers transfer.inflight.values).get? ticket = some timer)
    (found : transfer.inflight.get? index = some item) : item.timer ≠ some ticket :=
  ((get?_cancelAll _ _ _ _).mp held).2 item (InsertionMap.mem_values_of_get? found)

theorem Lanes.clear (lanes : Lanes retries past self)
    (found : self.objects.get? transfer.fileId = some transfer) :
    Lanes retries past (self.clearTimers transfer.fileId) := by
  have writes := (clearTimers_rewrites self found).toWrites
  simp only [clearTimers, withTransfer, found] at writes ⊢
  refine lanes.rewrite writes rfl rfl (fun _ _ => get?_of_cancelAll _) (by rintro _ _ ⟨⟩) ?_
  exact fun ticket timer index item held there armed => absurd armed (cancelAll_disowns held there)

theorem Lanes.hold (lanes : Lanes retries past self)
    (found : self.objects.get? transfer.fileId = some transfer) :
    Lanes retries past (self.holdOutstanding transfer.fileId) := by
  have writes := (holdOutstanding_rewrites found).toWrites
  simp only [holdOutstanding, withTransfer, found] at writes ⊢
  refine lanes.rewrite writes rfl rfl (fun _ _ => get?_of_cancelAll _) ?_ ?_
  · intro index item held
    obtain ⟨was, there, rfl⟩ := InsertionMap.of_get?_mapValues held
    exact ⟨was, there, rfl⟩
  · exact fun ticket timer index item held there armed => absurd armed (cancelAll_disowns held there)

theorem Lanes.put (lanes : Lanes retries past self)
    (found : self.objects.get? new.fileId = some old) (later : old.nextIndex ≤ new.nextIndex)
    (same : new.inflight = old.inflight) : Lanes retries past (self.put new) := by
  refine lanes.rewrite (put_rewrites self new found later).toWrites rfl rfl (fun _ _ held => held)
    ?_ ?_
  · exact fun _ item held => ⟨item, same ▸ held, rfl⟩
  · exact fun _ _ _ item _ held armed => ⟨item, same.symm ▸ held, armed⟩

theorem HeldFree.put (free : HeldFree powers self)
    (found : self.objects.get? new.fileId = some old) (later : old.nextIndex ≤ new.nextIndex)
    (same : new.inflight = old.inflight) (live : ∀ index, new.Live index → old.Live index) :
    HeldFree powers (self.put new) :=
  free.write (put_rewrites self new found later).toWrites live
    (fun _ _ held _ => same ▸ held) (fun _ _ held => Or.inl held)

theorem HeldFree.clear (free : HeldFree powers self)
    (found : self.objects.get? transfer.fileId = some transfer) :
    HeldFree powers (self.clearTimers transfer.fileId) := by
  have writes := (clearTimers_rewrites self found).toWrites
  simp only [clearTimers, withTransfer, found] at writes ⊢
  exact free.write writes (fun _ live => live) (by rintro _ _ ⟨⟩) (fun _ _ held => Or.inl held)

theorem lane_of_index {call : SenderCall} (unchunked : call.index? = none) : call.lane = none := by
  cases call with
  | slicing _ _ _ => cases unchunked
  | sending _ _ _ => cases unchunked
  | _ => rfl

/-- A chain that resumes finds no call at an entry that waits, and none gets there. -/
theorem Moves.lanes (moves : Moves powers start self)
    (apart : .hold ∈ powers → ∀ sender fileId, ¬ Resumes powers sender fileId)
    (named : Named start) (small : start.files.maxRetries ≤ retries) (free : HeldFree powers start)
    (lanes : Lanes retries past start) : Lanes retries past self ∧ HeldFree powers self := by
  induction moves with
  | refl => exact ⟨lanes, free⟩
  | say _ silent ih =>
      exact ⟨ih.1.frame rfl (chunksSaid_silent _ silent) (fun _ _ held _ => held) fun _ _ held => held,
        ih.2.frame rfl (fun _ => id) rfl rfl fun _ _ held _ => held⟩
  | @wait self call _ unchunked read ih =>
      have others : ∀ ticket other, (self.suspend call).calls.get? ticket = some other →
          other.lane ≠ none → self.calls.get? ticket = some other := by
        intro ticket other held works
        simp only [Sender.suspend, Callbacks.get?_add] at held
        split at held
        · cases held
          exact absurd (lane_of_index unchunked) works
        · exact held
      exact ⟨ih.1.frame rfl (fun _ _ => rfl) others fun _ _ held => held,
        ih.2.frame rfl (fun _ => id) rfl rfl others⟩
  | disarm _ handle ih =>
      exact ⟨ih.1.frame rfl (fun _ _ => rfl) (fun _ _ held _ => held)
          fun _ _ held => Callbacks.get?_of_cancel held,
        ih.2.frame rfl (fun _ => id) rfl rfl fun _ _ held _ => held⟩
  | mark _ found marks _ ih =>
      refine ⟨ih.1.put found marks.nextIndex.ge marks.inflight,
        ih.2.put found marks.nextIndex.ge marks.inflight ?_⟩
      intro index live
      exact ⟨marks.cancelled ▸ live.1, marks.evolves.acked ▸ live.2⟩
  | @stop self transfer status _ found reason ended ih =>
      let stopped : Transfer := { transfer with cancelled := true, status, reason }
      have there : (self.put stopped).objects.get? stopped.fileId = some stopped :=
        InsertionMap.get?_set_self _ _ _
      have put : Lanes retries past (self.put stopped) := ih.1.put found (Nat.le_refl _) rfl
      have free : HeldFree powers (self.put stopped) :=
        ih.2.put found (Nat.le_refl _) rfl fun _ live => by cases live.1
      have cleared := put.clear there
      have freed := free.clear there
      exact ⟨cleared, freed⟩
  | @clear self moves fileId power ih =>
      cases found : self.objects.get? fileId with
      | none => simpa only [clearTimers, withTransfer, found] using ih
      | some transfer =>
          have same := moves.named named fileId transfer found
          subst same
          exact ⟨ih.1.clear found, ih.2.clear found⟩
  | @drop self transfer _ found listed power ih =>
      refine ⟨(ih.1.clear found).frame rfl (fun _ _ => rfl) (fun _ _ held _ => held)
          fun _ _ held => held,
        (ih.2.clear found).frame rfl ?_ rfl rfl fun _ _ held _ => held⟩
      intro fileId listed
      rw [InsertionMap.has_iff, InsertionMap.mem_keys_delete] at listed
      exact (InsertionMap.has_iff _ _).mpr listed.2
  | hold _ found power ih =>
      refine ⟨ih.1.hold found, fun _ fileId _ _ resumed => ?_⟩
      -- A turn that holds transfers back resumes none.
      exact absurd resumed (apart power _ fileId)
  | @skip self transfer _ found over_ power ih =>
      exact ⟨ih.1.put found (Nat.le_succ transfer.nextIndex) rfl,
        ih.2.put found (Nat.le_succ transfer.nextIndex) rfl fun _ live => live⟩
  | @draw self transfer _ found live running room unsent power ih =>
      have advanced : HeldFree powers (self.put transfer.advance) :=
        ih.2.put found (Nat.le_succ _) rfl fun _ live => live
      have there : (self.put transfer.advance).objects.get? transfer.advance.fileId =
          some transfer.advance := InsertionMap.get?_set_self _ _ _
      exact ⟨ih.1.draw found, advanced.launch there _ _⟩
  -- No call works on the entry, so the lane is free for the next attempt.
  | @relaunch self transfer index item moves found live running held idle within power ih =>
      have lane := ih.1 transfer.fileId index
      have uncalled := ih.2 running.2 transfer.fileId transfer found power index item live held idle
        (by omega)
      have entry := (entry?_eq found index).trans held
      refine ⟨ih.1.launch found (lane.spare found uncalled) ?_ ?_ ?_, ih.2.launch found _ _⟩
      · refine lane.began found fun idle => ?_
        cases entry.symm.trans idle.2
      · exact Nat.lt_succ_of_le (lane.entry item entry)
      · rw [moves.files] at within
        omega

end Chains

section Turns

variable {retries said index next : Nat} {past : String → Nat → Nat} {fileId : String}
  {self free after : Sender} {transfer : Transfer} {event : Event}

/-- No event starts a second `sendChunk` for an index that a suspended one works on. -/
def Sequential (retries : Nat) (sender : Sender) : Event → Prop
  | .setProfile files => files.maxRetries ≤ retries
  | .nack fileId index _ => ∀ transfer item, sender.transfers.has fileId = true →
      sender.objects.get? fileId = some transfer → transfer.Live index → sender.Running transfer →
      transfer.inflight.get? index = some item → item.attempts ≤ sender.files.maxRetries →
      Uncalled sender fileId index
  | .resume fileId => ∀ transfer, sender.transfers.has fileId = true →
      sender.objects.get? fileId = some transfer → transfer.status = .paused →
      sender.globalPaused = false → Resumable sender fileId transfer
  | .setGlobalPaused false _ => ∀ fileId transfer, sender.transfers.has fileId = true →
      sender.objects.get? fileId = some transfer → Resumable sender fileId transfer
  | _ => True

theorem Lanes.free_call (lanes : Lanes retries past self) (ticket : Nat) :
    Lanes retries past { self with calls := self.calls.remove ticket } :=
  lanes.frame rfl (fun _ _ => rfl) (fun _ _ held _ => Callbacks.get?_of_remove held)
    fun _ _ held => held

theorem Lanes.free_timer (lanes : Lanes retries past self) (ticket : Nat) :
    Lanes retries past { self with timers := self.timers.remove ticket } :=
  lanes.frame rfl (fun _ _ => rfl) (fun _ _ held _ => held)
    fun _ _ held => Callbacks.get?_of_remove held

/-- The call that ended was the only one. -/
theorem Lane.unworked_call (lane : Lane retries said self fileId index) {ticket : Nat}
    {call : SenderCall} (held : self.calls.get? ticket = some call)
    (here : call.lane = some (fileId, index)) :
    Unworked { self with calls := self.calls.remove ticket } fileId index := by
  refine ⟨?_, lane.alone ticket call held here⟩
  intro other another there works
  have same := lane.once ticket call other another held here (Callbacks.get?_of_remove there) works
  subst same
  simp [Callbacks.get?_remove] at there

theorem Lane.unworked_timer (lane : Lane retries said self fileId index) {ticket : Nat}
    {timer : SenderTimer} (held : self.timers.get? ticket = some timer)
    (here : timer.lane = (fileId, index)) :
    Unworked { self with timers := self.timers.remove ticket } fileId index := by
  constructor
  · intro other call there works
    exact lane.alone other call there works ticket timer held here
  · intro other another there works
    obtain ⟨item, found, armed⟩ := lane.owned ticket timer held here
    obtain ⟨entry, also, rings⟩ := lane.owned other another (Callbacks.get?_of_remove there) works
    cases found.symm.trans also
    cases armed.symm.trans rings
    simp [Callbacks.get?_remove] at there

theorem Lane.small_call (lane : Lane retries said self transfer.fileId index) {ticket : Nat}
    {call : SenderCall} (held : self.calls.get? ticket = some call)
    (here : call.lane = some (transfer.fileId, index))
    (found : self.objects.get? transfer.fileId = some transfer) : index < transfer.nextIndex :=
  lane.began found fun idle => idle.1.1 ticket call held here

theorem Lane.small_timer (lane : Lane retries said self transfer.fileId index) {ticket : Nat}
    {timer : SenderTimer} (held : self.timers.get? ticket = some timer)
    (here : timer.lane = (transfer.fileId, index))
    (found : self.objects.get? transfer.fileId = some transfer) : index < transfer.nextIndex :=
  lane.began found fun idle => idle.1.2 ticket timer held here

/-- What a retry starts from: the sends so far are below its number. -/
theorem Retried.lanes (retried : Retried self transfer.fileId index event free next)
    (lanes : Lanes retries past self) (found : self.objects.get? transfer.fileId = some transfer) :
    Lanes retries past free ∧ index < transfer.nextIndex ∧
      past transfer.fileId index + chunksSaid free.notes transfer.fileId index < next := by
  have lane := lanes transfer.fileId index
  cases retried with
  | rejected reason listed there held =>
      cases found.symm.trans there
      have entry := (entry?_eq found index).trans held
      refine ⟨lanes, lane.began found fun idle => ?_, Nat.lt_succ_of_le (lane.entry _ entry)⟩
      cases entry.symm.trans idle.2
  | unread held =>
      have admits : _ < _ := lane.calls _ _ held rfl
      exact ⟨lanes.free_call _, lane.small_call held rfl found, Nat.lt_succ_of_lt admits⟩
  | unsent held =>
      have admits : _ ≤ _ := lane.calls _ _ held rfl
      exact ⟨lanes.free_call _, lane.small_call held rfl found, Nat.lt_succ_of_le admits⟩
  | late held =>
      have admits : _ ≤ _ := lane.timers _ _ held rfl
      exact ⟨lanes.free_timer _, lane.small_timer held rfl found, Nat.lt_succ_of_le admits⟩

/-- Nothing else works on the index, or the peer rejected the chunk of an entry in flight. -/
theorem Retried.unworked (retried : Retried self transfer.fileId index event free next)
    (lanes : Lanes retries past self) :
    Unworked free transfer.fileId index ∨
      free = self ∧ ∃ current item reason, event = .nack transfer.fileId index reason ∧
        self.transfers.has transfer.fileId = true ∧
        self.objects.get? transfer.fileId = some current ∧
        current.inflight.get? index = some item ∧ next = item.attempts + 1 := by
  have lane := lanes transfer.fileId index
  cases retried with
  | rejected reason listed there held => exact Or.inr ⟨rfl, _, _, reason, rfl, listed, there, held, rfl⟩
  | unread held => exact Or.inl (lane.unworked_call held rfl)
  | unsent held => exact Or.inl (lane.unworked_call held rfl)
  | late held => exact Or.inl (lane.unworked_timer held rfl)

theorem Retried.spare (retried : Retried self transfer.fileId index event free next)
    (lanes : Lanes retries past self) (found : self.objects.get? transfer.fileId = some transfer)
    (live : transfer.Live index) (running : self.Running transfer)
    (within : next ≤ self.files.maxRetries + 1) (sequential : Sequential retries self event) :
    Spare free transfer index := by
  rcases retried.unworked lanes with unworked | ⟨rfl, current, item, reason, rfl, listed, there, held, rfl⟩
  · exact unworked.spare
  · cases found.symm.trans there
    exact (lanes _ _).spare found
      (sequential _ item listed found live running held (Nat.le_of_succ_le_succ within))

/-- The entry of an index that nothing works on, or of a rejected chunk, is put back. -/
theorem Lanes.putBack (lanes : Lanes retries past self)
    (retried : Retried self transfer.fileId index event free next) (reason : String)
    (found : self.objects.get? transfer.fileId = some transfer) :
    Lanes retries past (free.putBack transfer index next reason) := by
  obtain ⟨kept, small, number⟩ := retried.lanes lanes found
  rcases retried.unworked lanes with unworked | ⟨rfl, current, item, _, _, _, there, held, rfl⟩
  · have cleared : Lanes retries past (free.clearInflightTimer (transfer.inflight.get? index)) :=
      kept.frame rfl (fun _ _ => rfl) (fun _ _ held _ => held)
        fun _ _ held => Callbacks.get?_of_cancel held
    refine cleared.park (retried.objects ▸ found) ⟨unworked.1, ?_⟩ small _ _
      (Nat.le_sub_one_of_lt number)
    exact fun ticket timer held => unworked.2 ticket timer (Callbacks.get?_of_cancel held)
  · cases found.symm.trans there
    have writes := (Rewrites.cancelled (put_rewrites
      (free.clearInflightTimer (transfer.inflight.get? index))
      (transfer.write index ⟨item.attempts, .retryWait, none⟩ (some reason)) found (Nat.le_refl _))
      (fun _ _ => Callbacks.get?_of_cancel)).toWrites
    refine lanes.rewrite writes rfl rfl (fun _ _ => Callbacks.get?_of_cancel) ?_ ?_
    · intro other entry written
      simp only [Transfer.write, InsertionMap.get?_set] at written
      split at written
      · rename_i same
        cases written
        exact ⟨item, same ▸ held, rfl⟩
      · exact ⟨entry, written, rfl⟩
    · intro ticket timer other entry armed early rings
      by_cases same : other = index
      · subst same
        cases held.symm.trans early
        have cleared : (free.timers.cancel ((transfer.inflight.get? other).bind
          InflightChunk.timer)).get? ticket = some timer := armed
        rw [held, Option.bind_some, rings, Callbacks.cancel, Callbacks.get?_remove, if_pos rfl] at cleared
        cases cleared
      · exact ⟨entry, (InsertionMap.get?_set_ne _ _ same).trans early, rings⟩

/-- A slice that was read is sent, and its number covers that. -/
theorem Lanes.sent (lanes : Lanes retries past self) {ticket attempts : Nat} {message : FileMessage}
    (held : self.calls.get? ticket = some (.slicing fileId index attempts))
    (chunk : (SenderNote.sendApp message .file).chunk? = some (fileId, index)) :
    Lanes retries past
      (({ self with calls := self.calls.remove ticket }.note (.sendApp message .file)).suspend
        (.sending fileId index attempts)) := by
  intro owner other
  have calls : ∀ number call, (({ self with calls := self.calls.remove ticket }.note
      (.sendApp message .file)).suspend (.sending fileId index attempts)).calls.get? number =
        some call → number = self.calls.next ∧ call = .sending fileId index attempts ∨
        (self.calls.remove ticket).get? number = some call := by
    intro number call there
    simp only [Sender.suspend, Sender.note, Callbacks.get?_add] at there
    split at there
    · exact Or.inl ⟨‹_›, (Option.some.inj there).symm⟩
    · exact Or.inr there
  have said : chunksSaid (self.notes ++ [.sendApp message .file]) owner other =
      chunksSaid self.notes owner other + if (fileId, index) = (owner, other) then 1 else 0 := by
    rw [chunksSaid_append, chunksSaid, chunksSaid, List.countP_singleton, chunk]
    simp only [beq_iff_eq, Option.some.injEq]
  simp only [Sender.suspend, Sender.note]
  rw [said]
  have lane := lanes owner other
  by_cases same : (fileId, index) = (owner, other)
  · cases same
    rw [if_pos rfl]
    obtain ⟨small, below⟩ := lane.slices ticket attempts held
    have number : _ < _ := lane.calls ticket _ held rfl
    have idle := lane.unworked_call held rfl
    refine Lane.called self.calls.next (.sending fileId index attempts)
      (number.trans_le small) ?_ number idle.2 ?_ (by simp) ?_
    · intro another call there works
      rcases calls another call there with fresh | early
      · exact fresh
      · exact absurd works (idle.1 another call early)
    · exact fun item found => number.trans_le (below item found)
    · exact lane.taken.resolve_right fun rests => rests.2.1.1 ticket _ held rfl
  · rw [if_neg same, Nat.add_zero]
    refine lane.frame ?_ (fun _ _ held _ => held) (fun item found => ⟨item, found, rfl⟩)
      (fun _ _ item _ _ found armed => ⟨item, found, armed⟩) id
    intro number call there works
    rcases calls number call there with ⟨_, rfl⟩ | early
    · exact absurd (Option.some.inj works) same
    · exact Callbacks.get?_of_remove early

/-- A new transfer has no entry, and nothing works on it. -/
theorem Lanes.make (lanes : Lanes retries past self) {file : File} {files : FileLimits} {queued : Bool}
    (absent : self.objects.get? fileId = none)
    (objects : after.objects = self.objects.set fileId (newTransfer files fileId file queued))
    (notes : after.notes = self.notes) (timers : after.timers = self.timers)
    (calls : ∀ ticket call, after.calls.get? ticket = some call → call.lane ≠ none →
      self.calls.get? ticket = some call) : Lanes retries past after := by
  intro owner index
  rw [notes]
  have entry : after.entry? owner index = self.entry? owner index := by
    unfold Sender.entry?
    rw [objects, InsertionMap.get?_set]
    split
    · rename_i same
      rw [same, absent]
      rfl
    · rfl
  refine (lanes owner index).frame ?_ (fun _ _ held _ => timers ▸ held) ?_ ?_ ?_
  · exact fun ticket call held here => calls ticket call held (by rw [here]; exact Option.some_ne_none _)
  · exact fun item found => ⟨item, entry ▸ found, rfl⟩
  · exact fun _ _ item _ _ found armed => ⟨item, entry.symm ▸ found, armed⟩
  · rintro ⟨transfer, found, small⟩
    have different : owner ≠ fileId := by
      rintro rfl
      cases absent.symm.trans found
    exact ⟨transfer, by rw [objects, InsertionMap.get?_set_ne _ _ different]; exact found, small⟩

theorem Opening.lanes (opening : Opening self event after) (sequential : Sequential retries self event)
    (small : self.files.maxRetries ≤ retries) (lanes : Lanes retries past self) :
    Lanes retries past after := by
  cases opening with
  | still => exact lanes
  | profile files =>
      exact lanes.frame rfl (fun _ _ => rfl) (fun _ _ held _ => held) fun _ _ held => held
  | global paused reason =>
      exact lanes.frame rfl (fun _ _ => rfl) (fun _ _ held _ => held) fun _ _ held => held
  | settled outcome held => exact lanes.free_call _
  | fired held => exact lanes.free_timer _
  | made absent valid =>
      refine lanes.make absent rfl rfl rfl ?_
      intro ticket call held works
      simp only [Sender.suspend, Callbacks.get?_add] at held
      split at held
      · cases held
        exact absurd rfl works
      · exact held
  | opened absent valid => exact lanes.make absent rfl rfl rfl fun _ _ held _ => held
  | @hashed ticket outcome queued transfer held found sha256 =>
      have freed : Lanes retries past
          ({ self with calls := self.calls.remove ticket }.put { transfer with sha256 }) :=
        (lanes.free_call ticket).put found (Nat.le_refl _) rfl
      exact freed.frame rfl (fun _ _ => rfl) (fun _ _ held _ => held) fun _ _ held => held
  | @acknowledged transfer index item found inside held =>
      have writes := (Rewrites.cancelled (put_rewrites (self.clearInflightTimer (some item))
        (acknowledge transfer index) found (Nat.le_refl _))
        (fun _ _ => Callbacks.get?_of_cancel)).toWrites
      refine lanes.rewrite writes rfl rfl (fun _ _ => Callbacks.get?_of_cancel) ?_ ?_
      · intro other entry left
        simp only [acknowledge, InsertionMap.get?_delete] at left
        split at left
        · cases left
        · exact ⟨entry, left, rfl⟩
      · intro ticket timer other entry armed early rings
        by_cases same : other = index
        · subst same
          cases held.symm.trans early
          have cleared : (self.timers.cancel item.timer).get? ticket = some timer := armed
          rw [rings, Callbacks.cancel, Callbacks.get?_remove, if_pos rfl] at cleared
          cases cleared
        · refine ⟨entry, ?_, rings⟩
          simp only [acknowledge, InsertionMap.get?_delete, if_neg same]
          exact early
  | putBack reason retried found live => exact lanes.putBack retried reason found
  | rearmed reason retried found live running within =>
      obtain ⟨kept, inside, number⟩ := retried.lanes lanes found
      exact kept.rearm (retried.objects ▸ found)
        (retried.spare lanes found live running within sequential) inside reason number
  | @relaunched ticket index next transfer held found live within =>
      have lane := lanes transfer.fileId index
      exact (lanes.free_timer ticket).launch found (lane.unworked_timer held rfl).spare
        (lane.small_timer held rfl found) (lane.timers ticket _ held rfl) (by omega)
  | @parked ticket index next transfer held found live =>
      have lane := lanes transfer.fileId index
      have number : _ < _ := lane.timers ticket _ held rfl
      exact (lanes.free_timer ticket).park found (lane.unworked_timer held rfl)
        (lane.small_timer held rfl found) _ _ number.le
  | sent held chunk => exact lanes.sent held chunk
  | @confirmed ticket index attempts transfer outcome held found live =>
      have lane := lanes transfer.fileId index
      exact (lanes.free_call ticket).await found (lane.unworked_call held rfl)
        (lane.small_call held rfl found) (lane.calls ticket _ held rfl)

theorem Opening.resumes {opened : String} (opening : Opening self (.resume opened) after) :
    after = self := by
  cases opening with
  | still => rfl
  | putBack _ retried _ _ => cases retried
  | rearmed _ retried _ _ _ _ => cases retried

theorem Opening.heldFree (opening : Opening self event after)
    (sequential : Sequential retries self event)
    (paused : ∀ fileId, event = .resume fileId → ∃ transfer, self.transfers.has fileId = true ∧
      self.objects.get? fileId = some transfer ∧ transfer.status = .paused) :
    HeldFree event.powers after := by
  cases event with
  | resume id =>
      cases opening.resumes
      intro unpaused fileId transfer found power
      have same : fileId = id := by simpa [Resumes, Event.powers] using power
      subst same
      obtain ⟨current, listed, there, waits⟩ := paused fileId rfl
      cases found.symm.trans there
      exact sequential transfer listed found waits unpaused
  | setGlobalPaused value reason =>
      cases value with
      | true =>
          intro _ _ _ _ power
          simp [Resumes, Event.powers] at power
      | false =>
          intro unpaused fileId transfer found power
          have same : after.objects = self.objects ∧ after.transfers = self.transfers ∧
              after.calls = self.calls ∧ after.files = self.files := by
            cases opening with
            | still => exact ⟨rfl, rfl, rfl, rfl⟩
            | global => exact ⟨rfl, rfl, rfl, rfl⟩
            | putBack _ retried _ _ => cases retried
            | rearmed _ retried _ _ _ _ => cases retried
          obtain ⟨objects, transfers, calls, files⟩ := same
          have listed : self.transfers.has fileId = true := by
            simpa [Resumes, Event.powers, transfers] using power
          have ready := sequential fileId transfer listed (objects ▸ found)
          unfold Resumable Uncalled at ready ⊢
          rw [calls, files]
          exact ready
  | _ =>
      intro _ _ _ _ power
      simp [Resumes, Event.powers] at power

/-- `resume` acts on a paused transfer of the map only. -/
theorem resume_still (fileId : String)
    (idle : ¬ ∃ transfer, self.transfers.has fileId = true ∧
      self.objects.get? fileId = some transfer ∧ transfer.status = .paused) :
    self.resume fileId = self := by
  unfold Sender.resume withRegistered
  split
  · rename_i listed
    unfold withTransfer
    split
    · rfl
    · rename_i transfer found
      exact if_pos fun paused => idle ⟨transfer, listed, found, paused⟩
  · rfl

theorem turn_lanes (digest : Bytes → String) (named : Named self)
    (sequential : Sequential retries self event) (small : self.files.maxRetries ≤ retries)
    (lanes : Lanes retries past self) (stepped : self.turn digest event = some after) :
    Lanes retries past after ∧ after.files.maxRetries ≤ retries := by
  by_cases reset : event = .reset
  · subst reset
    cases stepped
    have free : HeldFree Event.reset.powers self := fun _ _ _ _ power => by
      simp [Resumes, Event.powers] at power
    have cleared := ((clearAll_moves self).lanes (fun holds sender fileId =>
      Event.reset.apart sender fileId holds) named small free lanes).1
    refine ⟨cleared.frame rfl (fun _ _ => rfl) (fun _ _ held _ => held) fun _ _ held => held, ?_⟩
    rw [show self.reset.files = self.files from (clearAll_moves self).files]
    exact small
  · by_cases acts : ∀ fileId, event = .resume fileId → ∃ transfer,
        self.transfers.has fileId = true ∧ self.objects.get? fileId = some transfer ∧
          transfer.status = .paused
    · obtain ⟨middle, opening, moves⟩ := turn_unfolds digest named reset stepped
      have bounded : middle.files.maxRetries ≤ retries := by
        by_cases profile : ∃ files, event = .setProfile files
        · obtain ⟨files, rfl⟩ := profile
          cases opening with
          | still => exact small
          | profile => exact sequential
          | putBack _ retried _ _ => cases retried
          | rearmed _ retried _ _ _ _ => cases retried
        · rw [opening.files fun files same => profile ⟨files, same⟩]
          exact small
      refine ⟨(moves.lanes (fun holds sender fileId => event.apart sender fileId holds)
        (opening.named named) bounded (opening.heldFree sequential acts)
        (opening.lanes sequential small lanes)).1, ?_⟩
      rw [moves.files]
      exact bounded
    · simp only [not_forall] at acts
      obtain ⟨fileId, rfl, idle⟩ := acts
      cases stepped
      rw [resume_still fileId idle]
      exact ⟨lanes, small⟩

end Turns

section Runs

variable {retries : Nat} {limits : FileLimits} {sender : Sender} {history : List SenderNote}

theorem create_lanes (retries : Nat) (limits : FileLimits) :
    Lanes retries (fun _ _ => 0) (create limits) := by
  intro fileId index
  refine ⟨Nat.zero_le _, ?_, ?_, ?_, ?_, ?_, ?_, ?_, Or.inr ⟨rfl, ⟨?_, ?_⟩, rfl⟩⟩ <;>
    simp [create, Uncalled, Sender.entry?]

theorem run_lanes (digest : Bytes → String) (small : limits.maxRetries ≤ retries)
    (run : Machine.Run (machine digest) (Sequential retries) (create limits) sender history) :
    Ledger sender ∧ sender.files.maxRetries ≤ retries ∧
      ∀ fileId index, Lane retries (chunksSaid history fileId index) sender fileId index := by
  refine run.invariant (fun sender history => Ledger sender ∧ sender.files.maxRetries ≤ retries ∧
    ∀ fileId index, Lane retries (chunksSaid history fileId index) sender fileId index)
    ⟨start_ledger limits, small, create_lanes retries limits⟩ ?_
  rintro before past event after outputs ⟨ledger, small, lanes⟩ sequential stepped
  obtain ⟨next, turned, same⟩ := Option.map_eq_some_iff.mp stepped
  cases same
  have quiet : Ledger { before with notes := [] } :=
    ⟨ledger.named, ledger.made, ledger.unlisted, ledger.object, ledger.once⟩
  have still : Lanes retries (chunksSaid past) { before with notes := [] } := by
    intro fileId index
    exact (lanes fileId index).frame (fun _ _ held _ => held) (fun _ _ held _ => held)
      (fun item found => ⟨item, found, rfl⟩) (fun _ _ item _ _ found armed => ⟨item, found, armed⟩) id
  have admitted : Sequential retries { before with notes := [] } event := by
    cases event <;> exact sequential
  obtain ⟨kept, bounded⟩ := turn_lanes digest quiet.named admitted small still turned
  refine ⟨(turn_ledger digest quiet rfl turned).1, bounded, fun fileId index => ?_⟩
  rw [chunksSaid_append]
  exact kept fileId index

/-- In every run in which no index has two `sendChunk` at once; `retries` is the largest limit of
its profiles. -/
theorem chunk_sends_bounded (digest : Bytes → String) (limits : FileLimits) (retries : Nat)
    (small : limits.maxRetries ≤ retries) (sender : Sender) (history : List SenderNote)
    (run : Machine.Run (machine digest) (Sequential retries) (create limits) sender history)
    (fileId : String) (index : Nat) : chunksSaid history fileId index ≤ retries + 1 :=
  ((run_lanes digest small run).2.2 fileId index).bounded

/-- A chunk whose first attempt failed goes out again after a pause. -/
theorem resumed_chunk_is_bounded :
    ∃ sender history,
      Machine.Run (machine fun _ => "") (Sequential 3) (create sampleLimits) sender history ∧
      chunksSaid history "f" 0 = 2 ∧ chunksSaid history "f" 0 ≤ 3 + 1 := by
  have ran : ((machine fun _ => "").execute (create sampleLimits) (sampleTransfer ++
      [.settle 2 (.ok true), .settle 5 (.ok false), .pause "f" "paused", .settle 3 (.ok true),
        .settle 6 (.ok true), .settle 4 (.ok true)])).bind (fun first =>
      ((machine fun _ => "").step first.1 (.resume "f")).bind fun second =>
        ((machine fun _ => "").step second.1 (.settle 7 (.ok true))).map fun third =>
          (first.1.calls.held.size, chunksSaid (first.2 ++ second.2 ++ third.2) "f" 0)) =
      some (0, 2) := by decide +kernel
  obtain ⟨⟨paused, past⟩, executed, ran⟩ := Option.bind_eq_some_iff.mp ran
  obtain ⟨⟨resumed, outputs⟩, resumes, ran⟩ := Option.bind_eq_some_iff.mp ran
  obtain ⟨⟨sender, later⟩, settles, seen⟩ := Option.map_eq_some_iff.mp ran
  simp only [Prod.mk.injEq] at seen
  have along : (machine fun _ => "").Along (Sequential 3) (create sampleLimits) (sampleTransfer ++
      [.settle 2 (.ok true), .settle 5 (.ok false), .pause "f" "paused", .settle 3 (.ok true),
        .settle 6 (.ok true), .settle 4 (.ok true)]) := by
    refine Machine.along_of_forall _ _ fun event member state => ?_
    simp only [sampleTransfer, List.cons_append, List.nil_append, List.mem_cons, List.not_mem_nil,
      or_false] at member
    rcases member with rfl | rfl | rfl | rfl | rfl | rfl | rfl | rfl | rfl | rfl <;> trivial
  have quiet : Sequential 3 paused (.resume "f") := by
    intro transfer _ _ _ _ index item _ _ _ _ ticket call held
    have none := List.length_eq_zero_iff.mp seen.1
    rw [Callbacks.get?, InsertionMap.get?, none] at held
    cases held
  have last : Sequential 3 resumed (.settle 7 (.ok true)) := trivial
  have run := ((Machine.execute_run _ along executed).next quiet resumes).next last settles
  exact ⟨sender, _, run, seen.2, chunk_sends_bounded _ sampleLimits 3 (Nat.le_refl _) sender _ run "f" 0⟩

/-- A pause and a resume while the slice of the only chunk is read: it is sent a third time with
one retry allowed, and is neither acknowledged nor given up. -/
theorem resumed_chunk_is_sent_thrice :
    ¬ ∀ (digest : Bytes → String) (limits : FileLimits) (sender : Sender)
      (history : List SenderNote),
      Machine.Run (machine digest) Machine.Unrestricted (create limits) sender history →
      ∀ fileId transfer index, sender.objects.get? fileId = some transfer → transfer.Live index →
        chunksSaid history fileId index ≤ sender.files.maxRetries + 1 := by
  intro bounded
  have ran : ((machine fun _ => "").execute (create ⟨10, 100, 100, 2, 2, 1, by decide⟩)
      [.offer "f" ⟨utf16 "a.bin", [], [1, 2]⟩ false, .settle 0 (.ok true), .settle 1 (.ok true),
        .accept "f", .settle 3 (.ok true), .pause "f" "paused", .resume "f", .settle 2 (.ok true),
        .settle 4 (.ok true), .settle 6 (.ok true), .settle 7 (.ok true), .fire 0, .fire 2,
        .settle 8 (.ok true)]).map (fun result =>
          (result.1.files.maxRetries, chunksSaid result.2 "f" 0,
            (result.1.objects.get? "f").map fun transfer =>
              (transfer.cancelled, transfer.acked.has 0))) =
      some (1, 3, some (false, false)) := by decide +kernel
  obtain ⟨⟨sender, history⟩, executed, seen⟩ := Option.map_eq_some_iff.mp ran
  simp only [Prod.mk.injEq, Option.map_eq_some_iff] at seen
  obtain ⟨retries, said, transfer, found, going, unacked⟩ := seen
  have few := bounded _ _ sender history
    (Machine.execute_run _ (Machine.along_unrestricted _ _) executed) "f" transfer 0 found
    ⟨going, unacked⟩
  omega

end Runs

end OnlyTwo.FileSender
