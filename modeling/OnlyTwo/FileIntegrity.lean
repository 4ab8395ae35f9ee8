import Mathlib.Data.List.NodupEquivFin
import OnlyTwo.FileTransfer
import OnlyTwo.FileSenderLedger
import OnlyTwo.FileAssembly

/-!
A file that reaches the user of the receiver is the file the sender was given,
and a sender that reports completion has had every chunk stored. The invariant
joins the ledger of the sender and the assembly of the receiver through the
wires: a wire carries nothing but what its end was handed, and one offer of a
file id makes one object at most.
-/

namespace OnlyTwo.FileTransfer

open Bytes FileProtocol FileSender FileReceiver

/-- The bytes behind a file id, and how they are cut. -/
def book (sender : Sender) : Book := fun fileId =>
  (sender.objects.get? fileId).map fun transfer => (transfer.file.bytes, transfer.chunkSize)

/-- The receiver's part of a history. -/
def heard (history : List Note) : List ReceiverNote := history.filterMap Sum.getRight?

theorem mem_heard {history : List Note} {note : ReceiverNote} :
    note ∈ heard history ↔ Sum.inr note ∈ history := by
  rw [heard, List.mem_filterMap]
  constructor
  · rintro ⟨other, member, same⟩
    cases other with
    | inl _ => cases same
    | inr _ =>
        cases same
        exact member
  · intro member
    exact ⟨_, member, rfl⟩

def isOffer (fileId : String) : FileMessage → Bool
  | .offer fields => fields.fileId = fileId
  | _ => false

/-- Offers of an id that are under way and objects that came of one. -/
def offered (world : World) (fileId : String) : Nat :=
  world.toReceiver.control.countP (isOffer fileId) + (ids world.receiver).count fileId

structure Invariant (world : World) (history : List Note) : Prop where
  ledger : Ledger world.sender
  cut : ∀ fileId transfer, world.sender.objects.get? fileId = some transfer → Cut transfer
  sound : Sound (book world.sender) (heard history) { world.receiver with notes := [] }
  offers : ∀ fields, .offer fields ∈ world.toReceiver.control →
    ∃ transfer, world.sender.objects.get? fields.fileId = some transfer ∧
      fields.size = transfer.size ∧ fields.chunkSize = transfer.chunkSize
  frames : ∀ fileId index totalChunks data,
    .chunk fileId index totalChunks data ∈ world.toReceiver.frames →
    ∃ transfer, world.sender.objects.get? fileId = some transfer ∧
      data = encodeChunk (chunkAt transfer.file.bytes transfer.chunkSize index)
  acks : ∀ fileId index, .ack fileId index ∈ world.toSender.frames →
    .sendApp (.ack fileId index) ∈ heard history
  acked : ∀ fileId transfer index, world.sender.objects.get? fileId = some transfer →
    index ∈ transfer.acked.keys →
    ∃ ref, Stored (book world.sender) (heard history) ref fileId index

/-- Each id is offered once: `arriving` counts an offer taken off the wire. -/
def Once (world : World) (arriving : String → Nat) : Prop :=
  ∀ fileId, offered world fileId + arriving fileId ≤ 1 ∧
    (Due world.sender fileId → offered world fileId + arriving fileId = 0)

section Sending

theorem countP_control (fileId : String) (messages : List FileMessage) :
    (messages.filter fun message => !Wire.lossy message).countP (isOffer fileId) =
      messages.countP (isOffer fileId) := by
  rw [List.countP_filter]
  congr 1
  funext message
  cases message <;> simp [isOffer, Wire.lossy]

theorem countP_sent (fileId : String) (notes : List SenderNote) :
    (notes.filterMap sentBySender).countP (isOffer fileId) =
      notes.countP (SenderNote.isOffer fileId) := by
  induction notes with
  | nil => rfl
  | cons note rest ih =>
      cases note with
      | sendApp message lane =>
          simp only [List.filterMap_cons, sentBySender, List.countP_cons, ih]
          cases message <;> rfl
      | onUpdate snapshot => simpa [List.filterMap_cons, sentBySender, SenderNote.isOffer] using ih
      | setTimeout timer => simpa [List.filterMap_cons, sentBySender, SenderNote.isOffer] using ih

theorem heard_left (history : List Note) (notes : List SenderNote) :
    heard (history ++ notes.map Sum.inl) = heard history := by
  simp [heard, List.filterMap_append, List.filterMap_map, Function.comp_def]

theorem heard_right (history : List Note) (notes : List ReceiverNote) :
    heard (history ++ notes.map Sum.inr) = heard history ++ notes := by
  simp [heard, List.filterMap_append, List.filterMap_map, Function.comp_def]

theorem book_grows {event : FileSender.Event} {before after : Sender}
    (continues : Continues event before after) (fileId : String) (entry : Bytes × Nat)
    (known : book before fileId = some entry) : book after fileId = some entry := by
  obtain ⟨old, found, rfl⟩ := Option.map_eq_some_iff.mp known
  obtain ⟨new, there, grows, _⟩ := continues.goes fileId old found
  simp [book, there, grows.file, grows.chunkSize]

theorem mem_post_control {wire : Wire} {messages : List FileMessage} {message : FileMessage}
    (member : message ∈ (wire.post messages).control) :
    message ∈ wire.control ∨ message ∈ messages := by
  rcases List.mem_append.mp member with early | late
  · exact Or.inl early
  · exact Or.inr (List.mem_filter.mp late).1

theorem mem_post_frames {wire : Wire} {messages : List FileMessage} {message : FileMessage}
    (member : message ∈ (wire.post messages).frames) :
    message ∈ wire.frames ∨ message ∈ messages := by
  rcases List.mem_append.mp member with early | late
  · exact Or.inl early
  · exact Or.inr (List.mem_filter.mp late).1

theorem mem_sentBySender {notes : List SenderNote} {message : FileMessage}
    (member : message ∈ notes.filterMap sentBySender) : ∃ lane, .sendApp message lane ∈ notes := by
  obtain ⟨note, there, same⟩ := List.mem_filterMap.mp member
  cases note with
  | sendApp sent lane =>
      cases same
      exact ⟨lane, there⟩
  | _ => cases same

theorem mem_sentByReceiver {notes : List ReceiverNote} {message : FileMessage}
    (member : message ∈ notes.filterMap sentByReceiver) : .sendApp message ∈ notes := by
  obtain ⟨note, there, same⟩ := List.mem_filterMap.mp member
  cases note with
  | sendApp sent =>
      cases same
      exact there
  | _ => cases same

variable {digest : Bytes → String} {world after : World} {history outputs : List Note}

theorem stepSender_eq {event : FileSender.Event}
    (stepped : stepSender digest world event = some (after, outputs)) :
    ∃ next, { world.sender with notes := [] }.turn digest event = some next ∧
      after = { world with
        sender := next
        toReceiver := world.toReceiver.post (next.notes.filterMap sentBySender) } ∧
      outputs = next.notes.map Sum.inl := by
  obtain ⟨⟨next, notes⟩, taken, same⟩ := Option.map_eq_some_iff.mp stepped
  obtain ⟨turned, ran, equal⟩ := Option.map_eq_some_iff.mp taken
  cases equal
  cases same
  exact ⟨_, ran, rfl, rfl⟩

theorem stepReceiver_eq {event : FileReceiver.Event}
    (stepped : stepReceiver digest world event = some (after, outputs)) :
    ∃ next, { world.receiver with notes := [] }.turn digest event = some next ∧
      after = { world with
        receiver := next
        toSender := world.toSender.post (next.notes.filterMap sentByReceiver) } ∧
      outputs = next.notes.map Sum.inr := by
  obtain ⟨⟨next, notes⟩, taken, same⟩ := Option.map_eq_some_iff.mp stepped
  obtain ⟨turned, ran, equal⟩ := Option.map_eq_some_iff.mp taken
  cases equal
  cases same
  exact ⟨_, ran, rfl, rfl⟩

end Sending

section Steps

variable {digest : Bytes → String} {world after : World} {history outputs : List Note}

theorem stepSender_invariant {event : FileSender.Event} (invariant : Invariant world history)
    (told : ∀ fileId index, event = .ack fileId index →
      .ack fileId index ∈ world.toSender.frames)
    (stepped : stepSender digest world event = some (after, outputs)) :
    Invariant after (history ++ outputs) := by
  obtain ⟨next, turned, rfl, rfl⟩ := stepSender_eq stepped
  have quiet : Ledger { world.sender with notes := [] } :=
    ⟨invariant.ledger.named, invariant.ledger.made, invariant.ledger.unlisted,
      invariant.ledger.object, invariant.ledger.once⟩
  have continues := turn_continues digest quiet.named turned
  -- A transfer is cut once, when it is made; no turn cuts it again.
  have cuts : ∀ fileId transfer, next.objects.get? fileId = some transfer → Cut transfer := by
    intro fileId transfer found
    cases before : world.sender.objects.get? fileId with
    | none => exact (continues.starts fileId transfer before found).1
    | some old =>
        obtain ⟨new, there, _, cut⟩ := continues.goes fileId old before
        cases found.symm.trans there
        exact cut (invariant.cut fileId old before)
  have grows := book_grows continues
  have kept := (turn_ledger digest quiet rfl turned).1
  refine ⟨kept, cuts, ?_, ?_, ?_, ?_, ?_⟩
  · rw [heard_left]
    exact invariant.sound.grow grows
  · intro fields member
    rcases mem_post_control member with early | late
    · obtain ⟨old, before, size, cut⟩ := invariant.offers fields early
      obtain ⟨new, there, step, _⟩ := continues.goes _ old before
      exact ⟨new, there, size.trans step.size.symm, cut.trans step.chunkSize.symm⟩
    · obtain ⟨lane, noted⟩ := mem_sentBySender late
      obtain ⟨transfer, found, authored | same⟩ :=
        turn_said digest quiet.named rfl turned noted
      · exact authored.elim
      · cases same
        exact ⟨transfer, found, rfl, rfl⟩
  · intro fileId index totalChunks data member
    rcases mem_post_frames member with early | late
    · obtain ⟨old, before, same⟩ := invariant.frames _ _ _ _ early
      obtain ⟨new, there, step, _⟩ := continues.goes _ old before
      exact ⟨new, there, by rw [step.file, step.chunkSize]; exact same⟩
    · obtain ⟨lane, noted⟩ := mem_sentBySender late
      obtain ⟨transfer, found, authored | same⟩ :=
        turn_said digest quiet.named rfl turned noted
      · obtain ⟨rfl, _, rfl⟩ := authored
        refine ⟨transfer, found, ?_⟩
        rw [chunkAt, File.slice, (cuts _ transfer found).size]
      · cases same
  · rw [heard_left]
    exact invariant.acks
  · intro fileId transfer index found member
    rw [heard_left]
    have stored : ∃ ref, Stored (book world.sender) (heard history) ref fileId index := by
      cases before : world.sender.objects.get? fileId with
      | none =>
          rw [(continues.starts fileId transfer before found).2] at member
          cases member
      | some old =>
          obtain ⟨new, there, step, _⟩ := continues.goes fileId old before
          cases found.symm.trans there
          rcases step.acked index member with early | now
          · exact invariant.acked fileId old index before early
          · rw [quiet.named fileId old before] at now
            -- The ACK that has just come was written by the receiver, after it had stored the
            -- chunk.
            have written := invariant.acks fileId index (told fileId index now)
            have stored := invariant.sound.acked fileId index (List.mem_append_left _ written)
            rwa [List.append_nil] at stored
    obtain ⟨ref, there⟩ := stored
    exact ⟨ref, there.grow grows⟩

theorem stepSender_once {event : FileSender.Event} (ledger : Ledger world.sender)
    (once : Once world fun _ => 0) (stepped : stepSender digest world event = some (after, outputs)) :
    Once after fun _ => 0 := by
  obtain ⟨next, turned, rfl, rfl⟩ := stepSender_eq stepped
  have quiet : Ledger { world.sender with notes := [] } :=
    ⟨ledger.named, ledger.made, ledger.unlisted, ledger.object, ledger.once⟩
  have spends := (turn_ledger digest quiet rfl turned).2
  intro fileId
  obtain ⟨few, none⟩ := once fileId
  simp only [offered, Wire.post, List.countP_append, countP_control, countP_sent, Nat.add_zero] at *
  rcases spends fileId with ⟨silent, earlier⟩ | ⟨single, before, spent⟩
  · refine ⟨by omega, fun due => ?_⟩
    have empty := none (earlier due)
    omega
  · have empty := none before
    exact ⟨by omega, fun due => absurd due spent⟩

/-- The offer an event of the receiver brings. -/
def arrivals : FileReceiver.Event → String → Nat
  | .offer fields => fun fileId => if fields.fileId = fileId then 1 else 0
  | _ => fun _ => 0

theorem stepReceiver_once {event : FileReceiver.Event} (once : Once world (arrivals event))
    (stepped : stepReceiver digest world event = some (after, outputs)) :
    Once after fun _ => 0 := by
  obtain ⟨next, turned, rfl, rfl⟩ := stepReceiver_eq stepped
  intro fileId
  obtain ⟨few, none⟩ := once fileId
  simp only [offered, Nat.add_zero] at *
  have grown : (ids next).count fileId ≤ (ids world.receiver).count fileId + arrivals event fileId := by
    rcases turn_ids digest turned with same | ⟨offer, rfl, same⟩
    · rw [same]
      exact Nat.le_add_right _ _
    · rw [same, List.count_append, List.count_singleton]
      simp only [arrivals, beq_iff_eq]
      exact Nat.le_refl _
  refine ⟨by omega, fun due => ?_⟩
  have empty := none due
  omega

theorem stepReceiver_invariant {event : FileReceiver.Event} (invariant : Invariant world history)
    (honest : Honest (book world.sender) event)
    (stepped : stepReceiver digest world event = some (after, outputs)) :
    Invariant after (history ++ outputs) := by
  obtain ⟨next, turned, rfl, rfl⟩ := stepReceiver_eq stepped
  have sound := turn_sound digest honest invariant.sound turned
  have longer : heard history ⊆ heard (history ++ next.notes.map Sum.inr) := by
    rw [heard_right]
    exact List.subset_append_left _ _
  refine ⟨invariant.ledger, invariant.cut, ?_, invariant.offers, invariant.frames, ?_, ?_⟩
  · rw [heard_right]
    exact sound.settle
  · intro fileId index member
    rcases mem_post_frames member with early | late
    · exact longer (invariant.acks fileId index early)
    · rw [heard_right]
      exact List.mem_append_right _ (mem_sentByReceiver late)
  · intro fileId transfer index found member
    obtain ⟨ref, stored⟩ := invariant.acked fileId transfer index found member
    exact ⟨ref, stored.mono longer⟩

theorem take_cases {wire rest : Wire} {message : FileMessage}
    (taken : wire.take message = some rest) :
    (Wire.lossy message = true ∧ message ∈ wire.frames ∧ rest = wire) ∨
      (Wire.lossy message = false ∧ message ∈ wire.control ∧
        rest = { wire with control := wire.control.erase message }) := by
  unfold Wire.take at taken
  split at taken
  · rename_i lossy
    split at taken
    · cases taken
      exact Or.inl ⟨lossy, ‹_›, rfl⟩
    · cases taken
  · rename_i control
    split at taken
    · cases taken
      exact Or.inr ⟨Bool.eq_false_iff.mpr control, ‹_›, rfl⟩
    · cases taken

theorem take_frames {wire rest : Wire} {message : FileMessage}
    (taken : wire.take message = some rest) : rest.frames = wire.frames := by
  rcases take_cases taken with ⟨_, _, rfl⟩ | ⟨_, _, rfl⟩ <;> rfl

theorem take_control {wire rest : Wire} {message : FileMessage}
    (taken : wire.take message = some rest) : rest.control ⊆ wire.control := by
  rcases take_cases taken with ⟨_, _, rfl⟩ | ⟨_, _, rfl⟩
  · exact List.Subset.refl _
  · exact List.erase_subset

/-- A message off the wire is one of the book. -/
theorem delivered_honest {rest : Wire} {message : FileMessage} {event : FileReceiver.Event}
    (invariant : Invariant world history) (taken : world.toReceiver.take message = some rest)
    (handled : receiverEvent message = some event) : Honest (book world.sender) event := by
  constructor
  · rintro offer rfl
    cases message with
    | offer fields =>
        cases handled
        rcases take_cases taken with ⟨lossy, _, _⟩ | ⟨_, member, _⟩
        · cases lossy
        · obtain ⟨transfer, found, size, cut⟩ := invariant.offers offer member
          refine ⟨transfer.file.bytes, ?_, ?_⟩
          · simp [book, found, cut]
          · rw [size, (invariant.cut _ transfer found).size]
    | _ => cases handled
  · rintro fileId index totalChunks data rfl
    cases message with
    | chunk =>
        cases handled
        rcases take_cases taken with ⟨_, member, _⟩ | ⟨control, _, _⟩
        · obtain ⟨transfer, found, same⟩ := invariant.frames _ _ _ _ member
          exact ⟨transfer.file.bytes, transfer.chunkSize, by simp [book, found], same⟩
        · cases control
    | _ => cases handled

/-- An offer leaves the wire when it arrives. -/
theorem delivered_once {rest : Wire} {message : FileMessage} {event : FileReceiver.Event}
    (once : Once world fun _ => 0) (taken : world.toReceiver.take message = some rest)
    (handled : receiverEvent message = some event) :
    Once { world with toReceiver := rest } (arrivals event) := by
  intro fileId
  have counted : rest.control.countP (isOffer fileId) + arrivals event fileId =
      world.toReceiver.control.countP (isOffer fileId) := by
    have arriving : arrivals event fileId = if isOffer fileId message = true then 1 else 0 := by
      cases message <;> cases handled <;> simp [arrivals, isOffer]
    rw [arriving]
    rcases take_cases taken with ⟨lossy, _, rfl⟩ | ⟨_, member, rfl⟩
    · have other : isOffer fileId message = false := by
        cases message <;> first | rfl | cases lossy
      rw [other]
      rfl
    · have split := (List.perm_cons_erase member).countP_eq (isOffer fileId)
      rw [List.countP_cons] at split
      exact split.symm
  obtain ⟨few, none⟩ := once fileId
  simp only [offered] at few none ⊢
  refine ⟨by omega, fun due => ?_⟩
  have empty := none due
  omega

/-- What a step of the world is: one turn of one side, of its own or for a
message off the wire. -/
theorem step_cases {event : Event}
    (stepped : (machine digest).step world event = some (after, outputs)) :
    (∃ inner, event = .sender inner ∧ remoteToSender inner = false ∧
      stepSender digest world inner = some (after, outputs)) ∨
    (∃ inner, event = .receiver inner ∧ inner.inbound = false ∧
      stepReceiver digest world inner = some (after, outputs)) ∨
    (∃ message rest inner, event = .toReceiver message ∧
      world.toReceiver.take message = some rest ∧ receiverEvent message = some inner ∧
      stepReceiver digest { world with toReceiver := rest } inner = some (after, outputs)) ∨
    ∃ message rest inner, event = .toSender message ∧
      world.toSender.take message = some rest ∧ senderEvent message = some inner ∧
      stepSender digest { world with toSender := rest } inner = some (after, outputs) := by
  cases event with
  | sender inner =>
      simp only [machine] at stepped
      split at stepped
      · cases stepped
      · rename_i here
        exact Or.inl ⟨inner, rfl, Bool.eq_false_iff.mpr here, stepped⟩
  | receiver inner =>
      simp only [machine] at stepped
      split at stepped
      · cases stepped
      · rename_i here
        exact Or.inr (Or.inl ⟨inner, rfl, Bool.eq_false_iff.mpr here, stepped⟩)
  | toReceiver message =>
      obtain ⟨rest, taken, handling⟩ := Option.bind_eq_some_iff.mp stepped
      obtain ⟨inner, handled, ran⟩ := Option.bind_eq_some_iff.mp handling
      exact Or.inr (Or.inr (Or.inl ⟨message, rest, inner, rfl, taken, handled, ran⟩))
  | toSender message =>
      obtain ⟨rest, taken, handling⟩ := Option.bind_eq_some_iff.mp stepped
      obtain ⟨inner, handled, ran⟩ := Option.bind_eq_some_iff.mp handling
      exact Or.inr (Or.inr (Or.inr ⟨message, rest, inner, rfl, taken, handled, ran⟩))

theorem local_honest {event : FileReceiver.Event} (here : event.inbound = false) (book : Book) :
    Honest book event ∧ arrivals event = fun _ => 0 := by
  cases event with
  | offer fields => cases here
  | chunk fileId index totalChunks data => cases here
  | _ => exact ⟨⟨nofun, nofun⟩, rfl⟩

theorem step_invariant {event : Event} (invariant : Invariant world history)
    (once : Once world fun _ => 0)
    (stepped : (machine digest).step world event = some (after, outputs)) :
    Invariant after (history ++ outputs) ∧ Once after fun _ => 0 := by
  rcases step_cases stepped with ⟨inner, _, here, ran⟩ | ⟨inner, _, here, ran⟩ |
    ⟨message, rest, inner, _, taken, handled, ran⟩ | ⟨message, rest, inner, _, taken, handled, ran⟩
  · refine ⟨stepSender_invariant invariant ?_ ran, stepSender_once invariant.ledger once ran⟩
    rintro fileId index rfl
    cases here
  · obtain ⟨honest, none⟩ := local_honest here (book world.sender)
    exact ⟨stepReceiver_invariant invariant honest ran, stepReceiver_once (none ▸ once) ran⟩
  · have shorter : Invariant { world with toReceiver := rest } history := by
      refine ⟨invariant.ledger, invariant.cut, invariant.sound, ?_, ?_, invariant.acks,
        invariant.acked⟩
      · intro fields member
        exact invariant.offers fields (take_control taken member)
      · rw [take_frames taken]
        exact invariant.frames
    have honest := delivered_honest invariant taken handled
    exact ⟨stepReceiver_invariant shorter honest ran,
      stepReceiver_once (delivered_once once taken handled) ran⟩
  · have shorter : Invariant { world with toSender := rest } history := by
      refine ⟨invariant.ledger, invariant.cut, invariant.sound, invariant.offers,
        invariant.frames, ?_, invariant.acked⟩
      rw [take_frames taken]
      exact invariant.acks
    have onceHere : Once { world with toSender := rest } fun _ => 0 := once
    refine ⟨stepSender_invariant shorter ?_ ran, stepSender_once shorter.ledger onceHere ran⟩
    rintro fileId index rfl
    cases message with
    | ack =>
        cases handled
        rcases take_cases taken with ⟨_, member, rfl⟩ | ⟨control, _, _⟩
        · exact member
        · cases control
    | _ => cases handled

end Steps

section Runs

variable {digest : Bytes → String} {world : World} {history : List Note}

theorem start_sound (book : Book) (files : FileLimits) :
    Sound book [] { Receiver.create files with notes := [] } := by
  constructor <;> simp [Receiver.create]

theorem start_invariant (ours theirs : FileLimits) :
    Invariant (start ours theirs) [] ∧ Once (start ours theirs) fun _ => 0 := by
  constructor
  · refine ⟨start_ledger ours, ?_, start_sound _ theirs, ?_, ?_, ?_, ?_⟩ <;>
      simp [start, Sender.create]
  · intro fileId
    exact ⟨Nat.zero_le 1, fun _ => rfl⟩

theorem run_invariant {allowed : World → Event → Prop} {ours theirs : FileLimits}
    (run : Machine.Run (machine digest) allowed (start ours theirs) world history) :
    Invariant world history ∧ Once world fun _ => 0 := by
  refine run.invariant (fun world history => Invariant world history ∧ Once world fun _ => 0)
    (start_invariant ours theirs) ?_
  rintro before past event after outputs ⟨invariant, once⟩ _ stepped
  exact step_invariant invariant once stepped

/-- One offer, one object. -/
theorem owner_unique (once : Once world fun _ => 0) {first second : Nat} {fileId : String}
    (one : Owns world.receiver first fileId) (two : Owns world.receiver second fileId) :
    first = second := by
  have few : (ids world.receiver).count fileId ≤ 1 := by
    have sum := (once fileId).1
    simp only [offered] at sum
    omega
  have apart : ∀ low high : Nat, low < high → (ids world.receiver)[low]? = some fileId →
      (ids world.receiver)[high]? = some fileId → False := by
    intro low high less early late
    obtain ⟨within, lower⟩ := List.getElem?_eq_some_iff.mp early
    obtain ⟨inside, upper⟩ := List.getElem?_eq_some_iff.mp late
    have twice : (ids world.receiver).Duplicate fileId :=
      List.duplicate_iff_exists_distinct_get.mpr
        ⟨⟨low, within⟩, ⟨high, inside⟩, less, lower.symm, upper.symm⟩
    have many := List.duplicate_iff_two_le_count.mp twice
    omega
  rw [owns_iff] at one two
  rcases Nat.lt_trichotomy first second with less | same | more
  · exact (apart first second less one two).elim
  · exact same
  · exact (apart second first more two one).elim

theorem step_left {event : Event} {after : World} {outputs : List Note} {ref : Nat}
    (stepped : (machine digest).step world event = some (after, outputs))
    (left : Left world.receiver ref) : Left after.receiver ref := by
  have received : ∀ (middle : World) inner, middle.receiver = world.receiver →
      stepReceiver digest middle inner = some (after, outputs) → Left after.receiver ref := by
    intro middle inner same ran
    obtain ⟨next, turned, rfl, _⟩ := stepReceiver_eq ran
    rw [same] at turned
    exact turn_left digest (show Left { world.receiver with notes := [] } ref from left) turned
  rcases step_cases stepped with ⟨inner, _, _, ran⟩ | ⟨inner, _, _, ran⟩ |
    ⟨message, rest, inner, _, _, _, ran⟩ | ⟨message, rest, inner, _, _, _, ran⟩
  · obtain ⟨next, _, rfl, _⟩ := stepSender_eq ran
    exact left
  · exact received world inner rfl ran
  · exact received { world with toReceiver := rest } inner rfl ran
  · obtain ⟨next, _, rfl, _⟩ := stepSender_eq ran
    exact left

/-- In every run: a blob handed to the user is the sender's file of that id; a
sender that reports completion has had all its chunks stored by one object of
the receiver while that was receiving; an object that has left `receiving`
never comes back to it. -/
theorem files_arrive_intact (digest : Bytes → String) (ours theirs : FileLimits) (world : World)
    (history : List Note)
    (run : Machine.Run (machine digest) Machine.Unrestricted (start ours theirs) world history) :
    (∀ file, Sum.inr (.onComplete file) ∈ history →
      ∃ transfer, world.sender.objects.get? file.fileId = some transfer ∧
        file.blob = transfer.file.bytes) ∧
    (∀ fileId transfer, world.sender.objects.get? fileId = some transfer →
      transfer.status = .completed →
      ∃ ref, ∀ index < transfer.totalChunks,
        Sum.inr (.stored ref fileId index
          (chunkAt transfer.file.bytes transfer.chunkSize index) .receiving) ∈ history) ∧
    (∀ event after outputs, (machine digest).step world event = some (after, outputs) →
      ∀ ref, Left world.receiver ref → Left after.receiver ref) := by
  obtain ⟨invariant, once⟩ := run_invariant run
  refine ⟨?_, ?_, fun _ _ _ stepped _ => step_left stepped⟩
  · intro file member
    have told := List.mem_append_left [] (mem_heard.mpr member)
    obtain ⟨chunkSize, known⟩ := invariant.sound.delivered file told
    obtain ⟨transfer, found, same⟩ := Option.map_eq_some_iff.mp known
    exact ⟨transfer, found, (congrArg Prod.fst same).symm⟩
  · intro fileId transfer found completed
    have cut := invariant.cut fileId transfer found
    have stored : ∀ index < transfer.totalChunks,
        ∃ ref, Stored (book world.sender) (heard history) ref fileId index := by
      intro index small
      exact invariant.acked fileId transfer index found
        (InsertionMap.mem_keys_of_full cut.inside (cut.done completed) small)
    -- The book has one file for each id, so every stored chunk is a piece of this one.
    have owned : ∀ index ref, Stored (book world.sender) (heard history) ref fileId index →
        Owns world.receiver ref fileId ∧
          Sum.inr (.stored ref fileId index
            (chunkAt transfer.file.bytes transfer.chunkSize index) .receiving) ∈ history := by
      rintro index ref ⟨bytes, chunkSize, known, told⟩
      simp only [book, found, Option.map_some, Option.some.injEq, Prod.mk.injEq] at known
      obtain ⟨rfl, rfl⟩ := known
      exact ⟨invariant.sound.owner ref fileId index _ _ (List.mem_append_left _ told),
        mem_heard.mp told⟩
    by_cases some : 0 < transfer.totalChunks
    · obtain ⟨ref, first⟩ := stored 0 some
      refine ⟨ref, fun index small => ?_⟩
      obtain ⟨other, later⟩ := stored index small
      -- No id was offered twice, so one object stored them all.
      have same := owner_unique once (owned 0 ref first).1 (owned index other later).1
      subst same
      exact (owned index ref later).2
    · exact ⟨0, fun index small => absurd (Nat.lt_of_le_of_lt (Nat.zero_le index) small) some⟩

/-- A file of three chunks that arrive out of order, and whose ACKs do too. -/
def sampleTransfer : List Event :=
  [.sender (.offer "f" ⟨utf16 "a.bin", [], [1, 2, 3, 4, 5]⟩ false),
    .sender (.settle 0 (.ok true)), .sender (.settle 1 (.ok true)),
    .toReceiver (.offer ⟨"f", utf16 "a.bin", defaultMime, 5, 2, 3, some "digest"⟩),
    .receiver (.accept "f"), .receiver (.settle 0 (.ok true)), .toSender (.accept "f"),
    .sender (.settle 2 (.ok true)), .sender (.settle 3 (.ok true)), .sender (.settle 4 (.ok true)),
    .sender (.settle 5 (.ok true)), .sender (.settle 6 (.ok true)),
    .toReceiver (.chunk "f" 1 3 (encodeChunk [3, 4])), .receiver (.settle 1 (.ok true)),
    .toReceiver (.chunk "f" 0 3 (encodeChunk [1, 2])), .receiver (.settle 2 (.ok true)),
    .toSender (.ack "f" 0), .sender (.settle 7 (.ok true)), .sender (.settle 8 (.ok true)),
    .sender (.settle 9 (.ok true)),
    .toReceiver (.chunk "f" 2 3 (encodeChunk [5])), .receiver (.settle 3 (.ok true)),
    .receiver (.settle 4 (.ok true)),
    .toSender (.ack "f" 2), .sender (.settle 10 (.ok true)), .toSender (.ack "f" 1)]

def sampleLimits : FileLimits := ⟨10, 100, 100, 2, 2, 3, Nat.two_pos⟩

/-- The sample run ends with both sides completed, and the file is the file. -/
theorem sample_file_arrives_intact :
    ∃ world history transfer,
      Machine.Run (machine fun _ => "digest") Machine.Unrestricted
        (start sampleLimits sampleLimits) world history ∧
      world.sender.objects.get? "f" = some transfer ∧ transfer.status = .completed ∧
      (∃ file, Sum.inr (.onComplete file) ∈ history ∧
        ∃ source, world.sender.objects.get? file.fileId = some source ∧
          file.blob = source.file.bytes) ∧
      ∃ ref, ∀ index < transfer.totalChunks,
        Sum.inr (.stored ref "f" index
          (chunkAt transfer.file.bytes transfer.chunkSize index) .receiving) ∈ history := by
  have ran : ((machine fun _ => "digest").execute (start sampleLimits sampleLimits)
      sampleTransfer).map (fun result =>
        ((result.1.sender.objects.get? "f").map (·.status),
          decide (ReceiverNote.onComplete ⟨"f", utf16 "a.bin", defaultMime, 5, [1, 2, 3, 4, 5]⟩ ∈
            heard result.2))) = some (some .completed, true) := by decide +kernel
  obtain ⟨⟨world, history⟩, executed, same⟩ := Option.map_eq_some_iff.mp ran
  obtain ⟨sent, shown⟩ := Prod.mk.inj same
  have run := Machine.execute_run _ (Machine.along_unrestricted _ _) executed
  obtain ⟨transfer, found, status⟩ := Option.map_eq_some_iff.mp sent
  have delivered := mem_heard.mp (of_decide_eq_true shown)
  obtain ⟨intact, stored, _⟩ := files_arrive_intact (fun _ => "digest") sampleLimits sampleLimits
    world history run
  refine ⟨world, history, transfer, run, found, status, ⟨_, delivered, ?_⟩, ?_⟩
  · exact intact _ delivered
  · exact stored "f" transfer found status

end Runs

end OnlyTwo.FileTransfer
