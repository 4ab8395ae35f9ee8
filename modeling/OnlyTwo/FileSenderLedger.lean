import OnlyTwo.FileSenderEffects

/-!
What the peer of a sender may rely on in every run. An object keeps the file
and the cutting it was made with, its acknowledged set grows by acknowledgement
events only, and `completed` is reached with every index acknowledged. Each
file id is offered at most once: an offer is due while the object is unmade,
hashed or queued, and sending it ends all three.
-/

namespace OnlyTwo.FileSender

open Bytes FileProtocol Sender

section Objects

/-- The chunks of a transfer are those of its file, and a completed transfer
has every one of them acknowledged. -/
structure Cut (transfer : Transfer) : Prop where
  size : transfer.size = transfer.file.bytes.length
  chunked : 0 < transfer.chunkSize
  count : transfer.totalChunks = chunkCount transfer.file.bytes.length transfer.chunkSize
  inside : ∀ index ∈ transfer.acked.keys, index < transfer.totalChunks
  done : transfer.status = .completed → transfer.totalChunks ≤ transfer.acked.size

/-- How one turn changes an object. -/
structure Grows (event : Event) (old new : Transfer) : Prop where
  fileId : new.fileId = old.fileId
  file : new.file = old.file
  size : new.size = old.size
  chunkSize : new.chunkSize = old.chunkSize
  totalChunks : new.totalChunks = old.totalChunks
  acked : ∀ index ∈ new.acked.keys, index ∈ old.acked.keys ∨ event = .ack old.fileId index

theorem Evolves.grows {old new : Transfer} (evolves : Evolves old new) (event : Event) :
    Grows event old new :=
  ⟨evolves.fileId, evolves.file, evolves.size, evolves.chunkSize, evolves.totalChunks,
    fun _ member => Or.inl (evolves.acked ▸ member)⟩

theorem Evolves.cut {old new : Transfer} (evolves : Evolves old new) (cut : Cut old) : Cut new where
  size := by
    rw [evolves.size, evolves.file]
    exact cut.size
  chunked := by
    rw [evolves.chunkSize]
    exact cut.chunked
  count := by
    rw [evolves.totalChunks, evolves.file, evolves.chunkSize]
    exact cut.count
  inside := by
    rw [evolves.acked, evolves.totalChunks]
    exact cut.inside
  done := by
    intro completed
    rw [evolves.totalChunks, evolves.acked]
    rcases evolves.done completed with before | full
    · exact cut.done before
    · exact full

theorem Grows.evolve {event : Event} {old middle new : Transfer} (grows : Grows event old middle)
    (evolves : Evolves middle new) : Grows event old new where
  fileId := evolves.fileId.trans grows.fileId
  file := evolves.file.trans grows.file
  size := evolves.size.trans grows.size
  chunkSize := evolves.chunkSize.trans grows.chunkSize
  totalChunks := evolves.totalChunks.trans grows.totalChunks
  acked := by
    rw [evolves.acked]
    exact grows.acked

theorem newTransfer_cut (files : FileLimits) (fileId : String) (file : File) (queued : Bool) :
    Cut (newTransfer files fileId file queued) where
  size := rfl
  chunked := files.chunked
  count := rfl
  inside := nofun
  done := by cases queued <;> nofun

theorem acknowledge_cut {transfer : Transfer} {index : Nat} (cut : Cut transfer)
    (inside : index < transfer.totalChunks) : Cut (acknowledge transfer index) where
  size := cut.size
  chunked := cut.chunked
  count := cut.count
  inside := by
    intro other member
    rcases (InsertionMap.mem_keys_set _ _ _ _).mp member with rfl | early
    · exact inside
    · exact cut.inside other early
  done := by
    intro completed
    have full := cut.done completed
    change transfer.totalChunks ≤ (transfer.acked.set index ()).size
    rw [InsertionMap.size_set]
    split <;> omega

theorem acknowledge_grows (transfer : Transfer) (index : Nat) :
    Grows (.ack transfer.fileId index) transfer (acknowledge transfer index) := by
  refine ⟨rfl, rfl, rfl, rfl, rfl, ?_⟩
  intro other member
  rcases (InsertionMap.mem_keys_set _ _ _ _).mp member with rfl | early
  · exact Or.inr rfl
  · exact Or.inl early

/-- Objects go on, and new ones start with nothing acknowledged. -/
structure Continues (event : Event) (before after : Sender) : Prop where
  goes : ∀ fileId old, before.objects.get? fileId = some old →
    ∃ new, after.objects.get? fileId = some new ∧ Grows event old new ∧ (Cut old → Cut new)
  starts : ∀ fileId new, before.objects.get? fileId = none →
    after.objects.get? fileId = some new → Cut new ∧ new.acked.keys = []

variable {self after : Sender} {event : Event}

theorem Continues.of_same (same : after.objects = self.objects) : Continues event self after where
  goes := by
    intro fileId old found
    exact ⟨old, same ▸ found, (Evolves.refl old).grows event, id⟩
  starts := by
    intro fileId new absent found
    rw [same, absent] at found
    cases found

theorem Continues.of_put {old : Transfer} (new : Transfer)
    (found : self.objects.get? new.fileId = some old) (grows : Grows event old new) (cut : Cut old → Cut new)
    (same : after.objects = self.objects.set new.fileId new) : Continues event self after where
  goes := by
    intro fileId before held
    rw [same, InsertionMap.get?_set]
    by_cases hit : fileId = new.fileId
    · subst hit
      cases found.symm.trans held
      exact ⟨new, by simp, grows, cut⟩
    · exact ⟨before, by simpa [hit] using held, (Evolves.refl before).grows event, id⟩
  starts := by
    intro fileId fresh absent held
    rw [same, InsertionMap.get?_set] at held
    split at held
    · rename_i hit
      subst hit
      rw [found] at absent
      cases absent
    · rw [absent] at held
      cases held

theorem Continues.of_new (new : Transfer) (absent : self.objects.get? new.fileId = none)
    (cut : Cut new) (fresh : new.acked.keys = [])
    (same : after.objects = self.objects.set new.fileId new) : Continues event self after where
  goes := by
    intro fileId before held
    have different : fileId ≠ new.fileId := by
      rintro rfl
      rw [absent] at held
      cases held
    rw [same, InsertionMap.get?_set_ne _ _ different]
    exact ⟨before, held, (Evolves.refl before).grows event, id⟩
  starts := by
    intro fileId stored missing held
    rw [same, InsertionMap.get?_set] at held
    split at held
    · cases held
      exact ⟨cut, fresh⟩
    · rw [missing] at held
      cases held

theorem Prepared.continues {due : Option String} {middle : Sender}
    (prepared : Prepared self event due middle) : Continues event self middle := by
  cases prepared with
  | plain objects _ _ _ _ => exact .of_same objects
  | @acknowledged index transfer item found inside =>
      exact .of_put (acknowledge transfer index) found (acknowledge_grows transfer index)
        (fun cut => acknowledge_cut cut inside) rfl
  | @made fileId file queued absent =>
      exact .of_new (newTransfer self.files fileId file queued) absent
        (newTransfer_cut self.files fileId file queued) rfl rfl
  | @opened fileId file queued absent =>
      exact .of_new (newTransfer self.files fileId file queued) absent
        (newTransfer_cut self.files fileId file queued) rfl rfl
  | @hashed ticket outcome queued transfer held found sha256 =>
      exact .of_put { transfer with sha256 } found
        ⟨rfl, rfl, rfl, rfl, rfl, fun _ member => Or.inl member⟩
        (fun cut => ⟨cut.size, cut.chunked, cut.count, cut.inside, cut.done⟩) rfl
  | @started transfer found listed waiting =>
      exact .of_put (dequeue transfer) found
        ⟨rfl, rfl, rfl, rfl, rfl, fun _ member => Or.inl member⟩
        (fun cut => ⟨cut.size, cut.chunked, cut.count, cut.inside, nofun⟩) rfl

theorem Continues.acts {mine : String → Prop} {middle : Sender}
    (continues : Continues event self middle) (acts : Acts mine middle after) :
    Continues event self after where
  goes := by
    intro fileId old found
    obtain ⟨current, there, grows, cut⟩ := continues.goes fileId old found
    obtain ⟨new, held, evolves⟩ := (acts.object fileId).1 current there
    exact ⟨new, held, grows.evolve evolves, fun before => evolves.cut (cut before)⟩
  starts := by
    intro fileId new absent held
    cases there : middle.objects.get? fileId with
    | none =>
        rw [(acts.object fileId).2 there] at held
        cases held
    | some current =>
        obtain ⟨cut, fresh⟩ := continues.starts fileId current absent there
        obtain ⟨last, found, evolves⟩ := (acts.object fileId).1 current there
        cases held.symm.trans found
        exact ⟨evolves.cut cut, by rw [evolves.acked, fresh]⟩

theorem turn_continues (digest : Bytes → String) (named : Named self)
    (stepped : self.turn digest event = some after) : Continues event self after := by
  by_cases reset : event = .reset
  · subst reset
    cases stepped
    have cleared : Continues .reset self (self.transfers.keys.foldl clearTimers self) :=
      (Continues.of_same rfl).acts (clearAll_acts named)
    exact ⟨cleared.goes, cleared.starts⟩
  · obtain ⟨due, middle, last, prepared, _, acts, rfl⟩ := turn_turned digest named reset stepped
    have chained := prepared.continues.acts acts
    constructor
    · rw [sendDue_objects]
      exact chained.goes
    · rw [sendDue_objects]
      exact chained.starts

end Objects

section Offers

/-- Digests under way are those of transfers not yet in the map, one each. -/
structure Ledger (sender : Sender) : Prop where
  named : Named sender
  made : ∀ fileId, sender.transfers.has fileId = true → sender.objects.get? fileId ≠ none
  unlisted : ∀ ticket fileId queued, sender.calls.get? ticket = some (.hashing fileId queued) →
    sender.transfers.has fileId = false
  object : ∀ ticket fileId queued, sender.calls.get? ticket = some (.hashing fileId queued) →
    ∃ transfer, sender.objects.get? fileId = some transfer ∧
      (queued = false → transfer.status ≠ .queued)
  once : ∀ first second fileId early late,
    sender.calls.get? first = some (.hashing fileId early) →
    sender.calls.get? second = some (.hashing fileId late) → first = second

/-- The offer of this id may still be ahead. -/
def Due (sender : Sender) (fileId : String) : Prop :=
  sender.objects.get? fileId = none ∨
    (∃ transfer, sender.objects.get? fileId = some transfer ∧ transfer.status = .queued) ∨
    ∃ ticket queued, sender.calls.get? ticket = some (.hashing fileId queued)

def SenderNote.isOffer (fileId : String) : SenderNote → Bool
  | .sendApp (.offer fields) _ => fields.fileId = fileId
  | _ => false

variable {self after : Sender} {mine : String → Prop}

theorem start_ledger (files : FileLimits) : Ledger (Sender.create files) := by
  constructor <;> simp [Sender.create, Named, InsertionMap.has]

theorem Acts.hashing (acts : Acts mine self after) {ticket : Nat} {fileId : String} {queued : Bool}
    (held : after.calls.get? ticket = some (.hashing fileId queued)) :
    self.calls.get? ticket = some (.hashing fileId queued) := by
  induction acts with
  | refl => exact held
  | put _ _ _ _ ih => exact ih held
  | note _ _ _ _ ih => exact ih held
  | suspend _ _ read ih =>
      simp only [Sender.suspend, Callbacks.get?_add] at held
      split at held
      · exact absurd (Option.some.inj held) (read fileId queued)
      · exact ih held
  | arm _ _ ih => exact ih held
  | cancel _ _ ih => exact ih held
  | unlist _ _ ih => exact ih held

theorem Acts.listed (acts : Acts mine self after) {fileId : String}
    (listed : after.transfers.has fileId = true) : self.transfers.has fileId = true := by
  induction acts with
  | refl => exact listed
  | put _ _ _ _ ih => exact ih listed
  | note _ _ _ _ ih => exact ih listed
  | suspend _ _ _ ih => exact ih listed
  | arm _ _ ih => exact ih listed
  | cancel _ _ ih => exact ih listed
  | unlist _ _ ih =>
      rw [InsertionMap.has_iff, InsertionMap.mem_keys_delete] at listed
      exact ih ((InsertionMap.has_iff _ _).mpr listed.2)

theorem Acts.ledger (acts : Acts mine self after) (ledger : Ledger self) : Ledger after where
  named := acts.named ledger.named
  made := by
    intro fileId listed
    obtain ⟨transfer, found⟩ := Option.ne_none_iff_exists'.mp (ledger.made fileId (acts.listed listed))
    obtain ⟨new, there, _⟩ := (acts.object fileId).1 transfer found
    rw [there]
    exact Option.some_ne_none new
  unlisted := by
    intro ticket fileId queued held
    have before := ledger.unlisted ticket fileId queued (acts.hashing held)
    cases listed : after.transfers.has fileId with
    | false => rfl
    | true => exact (acts.listed listed).symm.trans before
  object := by
    intro ticket fileId queued held
    obtain ⟨transfer, found, waiting⟩ := ledger.object ticket fileId queued (acts.hashing held)
    obtain ⟨new, there, evolves⟩ := (acts.object fileId).1 transfer found
    exact ⟨new, there, fun direct status => waiting direct (evolves.waits status)⟩
  once := by
    intro first second fileId early late one two
    exact ledger.once first second fileId early late (acts.hashing one) (acts.hashing two)

theorem Acts.due (acts : Acts mine self after) {fileId : String} (due : Due after fileId) :
    Due self fileId := by
  cases found : self.objects.get? fileId with
  | none => exact Or.inl found
  | some transfer =>
      obtain ⟨new, there, evolves⟩ := (acts.object fileId).1 transfer found
      rcases due with absent | ⟨current, held, waiting⟩ | ⟨ticket, queued, held⟩
      · rw [there] at absent
        cases absent
      · cases there.symm.trans held
        exact Or.inr (Or.inl ⟨transfer, found, evolves.waits waiting⟩)
      · exact Or.inr (Or.inr ⟨ticket, queued, acts.hashing held⟩)

theorem Authors.no_offer {transfer : Transfer} {note : SenderNote} (authored : Authors transfer note)
    (fileId : String) : note.isOffer fileId = false := by
  unfold SenderNote.isOffer
  split
  · exact authored.elim
  · rfl

/-- A chain that starts with an empty trace offers nothing. -/
theorem Acts.no_offer (acts : Acts mine self after) (quiet : self.notes = []) (fileId : String) :
    after.notes.countP (SenderNote.isOffer fileId) = 0 := by
  rw [List.countP_eq_zero]
  intro note member
  rcases acts.said member with early | ⟨transfer, _, _, authored⟩
  · rw [quiet] at early
    cases early
  · simp [authored.no_offer fileId]

/-! The steps that prepare a turn, one lemma for each kind. -/

theorem Ledger.free {calls : Callbacks SenderCall} (ledger : Ledger self)
    (fewer : ∀ ticket call, calls.get? ticket = some call → self.calls.get? ticket = some call) :
    Ledger { self with calls } where
  named := ledger.named
  made := ledger.made
  unlisted := fun ticket fileId queued held => ledger.unlisted ticket fileId queued (fewer _ _ held)
  object := fun ticket fileId queued held => ledger.object ticket fileId queued (fewer _ _ held)
  once := fun first second fileId early late one two =>
    ledger.once first second fileId early late (fewer _ _ one) (fewer _ _ two)

theorem Ledger.unhashed (ledger : Ledger self) {fileId : String}
    (absent : self.objects.get? fileId = none) (ticket : Nat) (queued : Bool) :
    self.calls.get? ticket ≠ some (.hashing fileId queued) := by
  intro held
  obtain ⟨transfer, found, _⟩ := ledger.object ticket fileId queued held
  rw [absent] at found
  cases found

/-- An object is made, or updated without going back into the queue. -/
theorem Ledger.put (ledger : Ledger self) (new : Transfer)
    (waits : ∀ old, self.objects.get? new.fileId = some old → new.status = .queued →
      old.status = .queued) : Ledger (self.put new) where
  named := put_named new ledger.named
  made := by
    intro fileId listed
    rw [Sender.put, InsertionMap.get?_set]
    split
    · exact Option.some_ne_none new
    · exact ledger.made fileId listed
  unlisted := ledger.unlisted
  object := by
    intro ticket fileId queued held
    obtain ⟨transfer, found, waiting⟩ := ledger.object ticket fileId queued held
    rw [Sender.put, InsertionMap.get?_set]
    split
    · rename_i same
      subst same
      exact ⟨new, rfl, fun direct status => waiting direct (waits transfer found status)⟩
    · exact ⟨transfer, found, waiting⟩
  once := ledger.once

theorem Ledger.list (ledger : Ledger self) {fileId : String}
    (stored : self.objects.get? fileId ≠ none)
    (unhashed : ∀ ticket queued, self.calls.get? ticket ≠ some (.hashing fileId queued)) :
    Ledger { self with transfers := self.transfers.set fileId () } where
  named := ledger.named
  made := by
    intro other listed
    rw [InsertionMap.has_iff, InsertionMap.mem_keys_set, ← InsertionMap.has_iff] at listed
    rcases listed with rfl | early
    · exact stored
    · exact ledger.made other early
  unlisted := by
    intro ticket other queued held
    have different : other ≠ fileId := by
      rintro rfl
      exact unhashed ticket queued held
    simp only [InsertionMap.has, InsertionMap.get?_set_ne _ _ different]
    exact ledger.unlisted ticket other queued held
  object := ledger.object
  once := ledger.once

theorem Ledger.hash (ledger : Ledger self) {transfer : Transfer} {queued : Bool}
    (found : self.objects.get? transfer.fileId = some transfer)
    (unlisted : self.transfers.has transfer.fileId = false)
    (unhashed : ∀ ticket queued, self.calls.get? ticket ≠ some (.hashing transfer.fileId queued))
    (direct : queued = false → transfer.status ≠ .queued) :
    Ledger (self.suspend (.hashing transfer.fileId queued)) := by
  have added : ∀ ticket fileId late,
      (self.suspend (.hashing transfer.fileId queued)).calls.get? ticket =
        some (.hashing fileId late) →
      (ticket = self.calls.next ∧ fileId = transfer.fileId ∧ late = queued) ∨
        self.calls.get? ticket = some (.hashing fileId late) := by
    intro ticket fileId late held
    simp only [Sender.suspend, Callbacks.get?_add] at held
    split at held
    · rename_i newest
      cases held
      exact Or.inl ⟨newest, rfl, rfl⟩
    · exact Or.inr held
  refine ⟨ledger.named, ledger.made, ?_, ?_, ?_⟩
  · intro ticket fileId late held
    rcases added ticket fileId late held with ⟨_, rfl, _⟩ | early
    · exact unlisted
    · exact ledger.unlisted ticket fileId late early
  · intro ticket fileId late held
    rcases added ticket fileId late held with ⟨_, rfl, rfl⟩ | early
    · exact ⟨transfer, found, direct⟩
    · exact ledger.object ticket fileId late early
  · intro first second fileId early late one two
    rcases added first fileId early one with ⟨newest, rfl, _⟩ | older
    · rcases added second _ late two with ⟨other, _, _⟩ | also
      · exact newest.trans other.symm
      · exact absurd also (unhashed second late)
    · rcases added second fileId late two with ⟨_, rfl, _⟩ | also
      · exact absurd older (unhashed first early)
      · exact ledger.once first second fileId early late older also

theorem Prepared.ledger {event : Event} {due : Option String} {middle : Sender}
    (prepared : Prepared self event due middle) (ledger : Ledger self) : Ledger middle := by
  cases prepared with
  | plain objects transfers _ calls _ =>
      have freed := ledger.free calls
      constructor
      · intro fileId transfer found
        exact freed.named fileId transfer (objects ▸ found)
      · rw [transfers, objects]
        exact freed.made
      · rw [transfers]
        exact freed.unlisted
      · rw [objects]
        exact freed.object
      · exact freed.once
  | @acknowledged index transfer item found _ =>
      have cleared : Ledger (self.clearInflightTimer (some item)) :=
        ⟨ledger.named, ledger.made, ledger.unlisted, ledger.object, ledger.once⟩
      refine cleared.put (acknowledge transfer index) ?_
      intro old held waiting
      cases found.symm.trans held
      exact waiting
  | @made fileId file queued absent =>
      have stored := ledger.put (newTransfer self.files fileId file queued)
        (fun old held => by cases absent.symm.trans held)
      refine stored.hash (InsertionMap.get?_set_self _ _ _) ?_ (ledger.unhashed absent) ?_
      · cases listed : self.transfers.has fileId with
        | false => exact listed
        | true => exact absurd absent (ledger.made fileId listed)
      · rintro rfl
        nofun
  | @opened fileId file queued absent =>
      have stored := ledger.put (newTransfer self.files fileId file queued)
        (fun old held => by cases absent.symm.trans held)
      refine stored.list ?_ (ledger.unhashed absent)
      simp [Sender.put, newTransfer]
  | @hashed ticket outcome queued transfer held found sha256 =>
      have freed : Ledger { self with calls := self.calls.remove ticket } :=
        ledger.free fun _ _ => Callbacks.get?_of_remove
      have stored := freed.put { transfer with sha256 } (by
        intro old there waiting
        cases found.symm.trans there
        exact waiting)
      refine stored.list (by simp [Sender.put]) ?_
      -- The digest that just ended was the only one of this id.
      intro other late again
      have earlier := Callbacks.get?_of_remove again
      cases ledger.once other ticket transfer.fileId late queued earlier held
      simp [Sender.put, Callbacks.get?_remove] at again
  | @started transfer found listed waiting =>
      exact ledger.put (dequeue transfer) (fun _ _ status => by cases status)

/-- An update of one object changes what is due for its own id only. -/
theorem due_of_put {middle : Sender} {fileId : String} (ahead : Due middle fileId) (new : Transfer)
    (same : middle.objects = self.objects.set new.fileId new)
    (calls : ∀ ticket queued, fileId ≠ new.fileId →
      middle.calls.get? ticket = some (.hashing fileId queued) →
      self.calls.get? ticket = some (.hashing fileId queued))
    (here : Due middle new.fileId → Due self new.fileId) : Due self fileId := by
  by_cases hit : fileId = new.fileId
  · subst hit
    exact here ahead
  · simp only [Due, same, InsertionMap.get?_set_ne _ _ hit] at ahead
    rcases ahead with absent | waiting | ⟨ticket, queued, held⟩
    · exact Or.inl absent
    · exact Or.inr (Or.inl waiting)
    · exact Or.inr (Or.inr ⟨ticket, queued, calls ticket queued hit held⟩)

theorem Prepared.due {event : Event} {due : Option String} {middle : Sender} {fileId : String}
    (prepared : Prepared self event due middle) (ahead : Due middle fileId) : Due self fileId := by
  cases prepared with
  | plain objects _ _ calls _ =>
      rcases ahead with absent | waiting | ⟨ticket, queued, held⟩
      · exact Or.inl (objects ▸ absent)
      · rw [objects] at waiting
        exact Or.inr (Or.inl waiting)
      · exact Or.inr (Or.inr ⟨ticket, queued, calls _ _ held⟩)
  | @acknowledged index transfer item found _ =>
      refine due_of_put ahead (acknowledge transfer index) rfl (fun _ _ _ held => held) ?_
      rintro (absent | ⟨current, held, waiting⟩ | hashing)
      · simp [Sender.put] at absent
      · simp only [Sender.put, InsertionMap.get?_set_self, Option.some.injEq] at held
        subst held
        exact Or.inr (Or.inl ⟨transfer, found, waiting⟩)
      · exact Or.inr (Or.inr hashing)
  | @made named file queued absent =>
      refine due_of_put ahead (newTransfer self.files named file queued) rfl ?_
        (fun _ => Or.inl absent)
      intro ticket late different held
      simp only [Sender.suspend, Callbacks.get?_add] at held
      split at held
      · cases held
        exact absurd rfl different
      · exact held
  | @opened named file queued absent =>
      exact due_of_put ahead (newTransfer self.files named file queued) rfl
        (fun _ _ _ held => held) (fun _ => Or.inl absent)
  | @hashed ticket outcome queued transfer held found sha256 =>
      exact due_of_put ahead { transfer with sha256 } rfl
        (fun _ _ _ still => Callbacks.get?_of_remove still)
        (fun _ => Or.inr (Or.inr ⟨ticket, queued, held⟩))
  | @started transfer found listed waiting =>
      exact due_of_put ahead (dequeue transfer) rfl (fun _ _ _ held => held)
        (fun _ => Or.inr (Or.inl ⟨transfer, found, waiting⟩))

/-- Nothing is due for a registered transfer that has left the queue. -/
theorem Ledger.settled (ledger : Ledger self) {transfer : Transfer} {fileId : String}
    (found : self.objects.get? fileId = some transfer) (listed : self.transfers.has fileId = true)
    (left : transfer.status ≠ .queued) : ¬ Due self fileId := by
  rintro (absent | ⟨current, held, waiting⟩ | ⟨ticket, queued, held⟩)
  · cases found.symm.trans absent
  · cases found.symm.trans held
    exact left waiting
  · cases listed.symm.trans (ledger.unlisted ticket fileId queued held)

/-- The offer that ends a turn was due before it and is due no more. -/
theorem Prepared.spent {event : Event} {due : Option String} {middle : Sender} {fileId : String}
    (prepared : Prepared self event due middle) (ledger : Ledger self)
    (duly : due = some fileId) : Due self fileId ∧ ¬ Due middle fileId := by
  have kept := prepared.ledger ledger
  cases prepared with
  | @opened named file queued absent =>
      cases queued with
      | true => cases duly
      | false =>
          cases duly
          exact ⟨Or.inl absent, kept.settled (InsertionMap.get?_set_self _ _ _)
            (by simp [InsertionMap.has]) (by simp [newTransfer])⟩
  | @hashed ticket outcome queued transfer held found sha256 =>
      cases queued with
      | true => cases duly
      | false =>
          cases duly
          obtain ⟨current, there, left⟩ := ledger.object ticket _ false held
          cases found.symm.trans there
          exact ⟨Or.inr (Or.inr ⟨ticket, false, held⟩), kept.settled
            (InsertionMap.get?_set_self _ _ _) (by simp [InsertionMap.has]) (left rfl)⟩
  | @started transfer found listed waiting =>
      cases duly
      exact ⟨Or.inr (Or.inl ⟨transfer, found, waiting⟩),
        kept.settled (InsertionMap.get?_set_self _ _ _) listed (by simp [dequeue])⟩
  | _ => cases duly

theorem Prepared.quiet {event : Event} {due : Option String} {middle : Sender}
    (prepared : Prepared self event due middle) : middle.notes = self.notes := by
  cases prepared with
  | plain _ _ notes _ _ => exact notes
  | _ => rfl

/-- What one turn adds to the ledger: at most one offer of an id, sent when it
was due and never due again. -/
def Spends (before after : Sender) (fileId : String) : Prop :=
  (after.notes.countP (SenderNote.isOffer fileId) = 0 ∧ (Due after fileId → Due before fileId)) ∨
    (after.notes.countP (SenderNote.isOffer fileId) ≤ 1 ∧ Due before fileId ∧ ¬ Due after fileId)

theorem sendDue_ledger (ledger : Ledger self) (due : Option String) : Ledger (sendDue self due) := by
  cases due with
  | none => exact ledger
  | some fileId =>
      simp only [sendDue, sendOffer, withTransfer]
      split
      · exact ledger
      · have waits : Acts (fun _ => True) self (self.suspend (.offering fileId)) :=
          .suspend .refl trivial (by simp)
        have kept := waits.ledger ledger
        exact ⟨kept.named, kept.made, kept.unlisted, kept.object, kept.once⟩

theorem sendOffer_due {fileId other : String} (ahead : Due (self.sendOffer fileId) other) :
    Due self other := by
  revert ahead
  simp only [sendOffer, withTransfer]
  split
  · exact id
  · have waits : Acts (fun _ => True) self (self.suspend (.offering fileId)) :=
      .suspend .refl trivial (by simp)
    exact waits.due

theorem sendOffer_count (named : Named self) (fileId other : String) :
    (self.sendOffer fileId).notes.countP (SenderNote.isOffer other) ≤
      self.notes.countP (SenderNote.isOffer other) + if other = fileId then 1 else 0 := by
  simp only [sendOffer, withTransfer]
  split
  · exact Nat.le_add_right _ _
  · rename_i transfer found
    have same := named fileId transfer found
    have about : SenderNote.isOffer other (.sendApp (.offer transfer.offer) .control) =
        decide (other = fileId) := by
      simp only [SenderNote.isOffer, Transfer.offer, same, eq_comm]
    simp only [Sender.suspend, Sender.note, List.countP_append, List.countP_singleton, about,
      decide_eq_true_eq]
    exact Nat.le_refl _

theorem turn_ledger (digest : Bytes → String) {event : Event} (ledger : Ledger self)
    (quiet : self.notes = []) (stepped : self.turn digest event = some after) :
    Ledger after ∧ ∀ fileId, Spends self after fileId := by
  by_cases reset : event = .reset
  · subst reset
    cases stepped
    have cleared := clearAll_acts ledger.named
    have kept := cleared.ledger ledger
    constructor
    · exact ⟨kept.named, nofun, fun _ _ _ _ => rfl, kept.object, kept.once⟩
    · intro fileId
      exact Or.inl ⟨cleared.no_offer quiet fileId, cleared.due⟩
  · obtain ⟨due, middle, last, prepared, _, acts, rfl⟩ :=
      turn_turned digest ledger.named reset stepped
    have kept := acts.ledger (prepared.ledger ledger)
    have silent := acts.no_offer (prepared.quiet.trans quiet)
    refine ⟨sendDue_ledger kept due, ?_⟩
    intro fileId
    cases ended : due with
    | none => exact Or.inl ⟨silent fileId, fun ahead => prepared.due (acts.due ahead)⟩
    | some offered =>
        have counted := sendOffer_count kept.named offered fileId
        rw [silent fileId, Nat.zero_add] at counted
        by_cases hit : fileId = offered
        · subst hit
          obtain ⟨before, spent⟩ := prepared.spent ledger ended
          rw [if_pos rfl] at counted
          exact Or.inr ⟨counted, before, fun ahead => spent (acts.due (sendOffer_due ahead))⟩
        · rw [if_neg hit] at counted
          exact Or.inl ⟨Nat.le_zero.mp counted,
            fun ahead => prepared.due (acts.due (sendOffer_due ahead))⟩

/-- Whatever a turn hands out was said by an object, as it is after the turn. -/
theorem turn_said (digest : Bytes → String) {event : Event} {note : SenderNote} (named : Named self)
    (quiet : self.notes = []) (stepped : self.turn digest event = some after)
    (member : note ∈ after.notes) :
    ∃ transfer, after.objects.get? transfer.fileId = some transfer ∧
      (Authors transfer note ∨ note = .sendApp (.offer transfer.offer) .control) := by
  by_cases reset : event = .reset
  · subst reset
    cases stepped
    rcases (clearAll_acts named).said member with early | ⟨transfer, found, _, authored⟩
    · rw [quiet] at early
      cases early
    · exact ⟨transfer, found, Or.inl authored⟩
  · obtain ⟨due, middle, last, prepared, kept, acts, rfl⟩ := turn_turned digest named reset stepped
    have chained : note ∈ last.notes → ∃ transfer,
        last.objects.get? transfer.fileId = some transfer ∧ Authors transfer note := by
      intro early
      rcases acts.said early with before | ⟨transfer, found, _, authored⟩
      · rw [prepared.quiet, quiet] at before
        cases before
      · exact ⟨transfer, found, authored⟩
    rw [sendDue_objects]
    cases due with
    | none =>
        obtain ⟨transfer, found, authored⟩ := chained member
        exact ⟨transfer, found, Or.inl authored⟩
    | some offered =>
        simp only [sendDue, sendOffer, withTransfer] at member
        split at member
        · obtain ⟨transfer, found, authored⟩ := chained member
          exact ⟨transfer, found, Or.inl authored⟩
        · rename_i transfer found
          rcases List.mem_append.mp member with early | late
          · obtain ⟨author, there, authored⟩ := chained early
            exact ⟨author, there, Or.inl authored⟩
          · have same := acts.named kept offered transfer found
            exact ⟨transfer, same ▸ found, Or.inr (List.mem_singleton.mp late)⟩

end Offers

end OnlyTwo.FileSender
