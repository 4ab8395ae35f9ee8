import OnlyTwo.FileIntegrity
import OnlyTwo.FileReceiverUrls

/-!
A received file is kept until the local user gives it up or the sender cancels
it. The sender does cancel: it does not know that the receiver is done as long
as the last ACKs are lost, and runs out of retries.
-/

namespace OnlyTwo.FileTransfer

open Bytes FileProtocol FileSender FileReceiver

/-- `inboundSerial` of the session is still working on a message. -/
def busy (receiver : Receiver) : Bool := receiver.calls.held.values.any ReceiverCall.inbound

/-- Messages are handled one after another, and the send of an acceptance
succeeds. -/
def dependable (world : World) : Event → Bool
  | .toReceiver _ => !busy world.receiver
  | .receiver (.settle _ (.ok true)) => true
  | .receiver (.settle ticket _) =>
      match world.receiver.calls.get? ticket with
      | some (.accepting _) => false
      | _ => true
  | _ => true

def Dependable (world : World) (event : Event) : Prop := dependable world event = true

instance (world : World) (event : Event) : Decidable (Dependable world event) :=
  inferInstanceAs (Decidable (_ = true))

/-- The local user removes, cancels or rejects the transfer, or the session is reset. -/
def EndsLocally (fileId : String) : Event → Prop
  | .receiver (.remove other) => other = fileId
  | .receiver (.cancel other _ _) => other = fileId
  | .receiver (.reject other _) => other = fileId
  | .receiver .reset => True
  | _ => False

/-- A `file.cancel` of the sender for the transfer arrives. -/
def CancelArrives (fileId : String) : Event → Prop
  | .toReceiver (.cancel other _) => other = fileId
  | _ => False

theorem Dependable.idle {world : World} {message : FileMessage}
    (serialised : Dependable world (.toReceiver message)) : Idle world.receiver := by
  intro ticket call found
  have member : (ticket, call) ∈ world.receiver.calls.held.entries :=
    (InsertionMap.get?_eq_some_iff _ _ _).mp found
  have free : busy world.receiver = false := by simpa [Dependable, dependable] using serialised
  rw [busy, List.any_eq_false] at free
  exact Bool.eq_false_iff.mpr (free call (List.mem_map.mpr ⟨_, member, rfl⟩))

theorem Dependable.accepts {world : World} {ticket ref : Nat} {outcome : Outcome}
    (reliable : Dependable world (.receiver (.settle ticket outcome)))
    (found : world.receiver.calls.get? ticket = some (.accepting ref)) : outcome = .ok true := by
  match outcome with
  | .ok true => rfl
  | .ok false => simp [Dependable, dependable, found] at reliable
  | .error message => simp [Dependable, dependable, found] at reliable

section Steps

variable {digest : Bytes → String} {world after : World} {history outputs : List Note}

/-- The invariant of the runs with serialised handlers. -/
structure Steady (world : World) (history : List Note) : Prop where
  invariant : Invariant world history
  once : Once world fun _ => 0
  shown : Shown world.receiver
  serial : Serial world.receiver

theorem stepReceiver_steady {event : FileReceiver.Event} (shown : Shown world.receiver)
    (serial : Serial world.receiver) (idle : event.inbound = true → Idle world.receiver)
    (stepped : stepReceiver digest world event = some (after, outputs)) :
    Shown after.receiver ∧ Serial after.receiver := by
  obtain ⟨next, turned, rfl, _⟩ := stepReceiver_eq stepped
  have shownHere : Shown { world.receiver with notes := [] } :=
    ⟨shown.named, shown.live, shown.distinct, shown.shown⟩
  have serialHere : Serial { world.receiver with notes := [] } := ⟨serial.one, serial.waiting⟩
  exact ⟨turn_shown digest shownHere turned, turn_serial digest serialHere idle turned⟩

theorem step_steady {event : Event} (steady : Steady world history)
    (dependable : Dependable world event)
    (stepped : (machine digest).step world event = some (after, outputs)) :
    Steady after (history ++ outputs) := by
  obtain ⟨invariant, once⟩ := step_invariant steady.invariant steady.once stepped
  have kept : Shown after.receiver ∧ Serial after.receiver := by
    rcases step_cases stepped with ⟨inner, _, _, ran⟩ | ⟨inner, _, here, ran⟩ |
      ⟨message, rest, inner, rfl, _, _, ran⟩ | ⟨message, rest, inner, _, _, _, ran⟩
    · obtain ⟨next, _, rfl, _⟩ := stepSender_eq ran
      exact ⟨steady.shown, steady.serial⟩
    · refine stepReceiver_steady steady.shown steady.serial ?_ ran
      intro inbound
      cases here.symm.trans inbound
    · have shown : Shown ({ world with toReceiver := rest } : World).receiver := steady.shown
      exact stepReceiver_steady shown steady.serial (fun _ => dependable.idle) ran
    · obtain ⟨next, _, rfl, _⟩ := stepSender_eq ran
      exact ⟨steady.shown, steady.serial⟩
  exact ⟨invariant, once, kept.1, kept.2⟩

theorem start_steady (ours theirs : FileLimits) : Steady (start ours theirs) [] := by
  obtain ⟨invariant, once⟩ := start_invariant ours theirs
  refine ⟨invariant, once, ?_, ?_⟩
  · constructor <;> simp [start, Receiver.create]
  · constructor <;> simp [start, Receiver.create]

theorem run_steady {ours theirs : FileLimits}
    (run : Machine.Run (machine digest) Dependable (start ours theirs) world history) :
    Steady world history := by
  refine run.invariant Steady (start_steady ours theirs) ?_
  intro before past event after outputs steady dependable stepped
  exact step_steady steady dependable stepped

variable {fileId : String} {url : Nat} {blob : Bytes}

theorem stepReceiver_complete {event : FileReceiver.Event} (shown : Shown world.receiver)
    (serial : Serial world.receiver) (complete : Complete world.receiver fileId url blob)
    (spares : Spares world.receiver fileId event)
    (stepped : stepReceiver digest world event = some (after, outputs)) :
    Complete after.receiver fileId url blob := by
  obtain ⟨next, turned, rfl, _⟩ := stepReceiver_eq stepped
  have shownHere : Shown { world.receiver with notes := [] } :=
    ⟨shown.named, shown.live, shown.distinct, shown.shown⟩
  have serialHere : Serial { world.receiver with notes := [] } := ⟨serial.one, serial.waiting⟩
  have completeHere : Complete { world.receiver with notes := [] } fileId url blob := complete
  have sparesHere : Spares { world.receiver with notes := [] } fileId event := by
    cases event <;> exact spares
  exact turn_complete digest shownHere serialHere completeHere sparesHere turned

/-- The offer of a completed transfer is not under way any more. -/
theorem not_offered_again (steady : Steady world history)
    (complete : Complete world.receiver fileId url blob) {fields : FileOffer}
    (member : .offer fields ∈ world.toReceiver.control) : fields.fileId ≠ fileId := by
  rintro rfl
  obtain ⟨ref, _, listed, _⟩ := complete
  have owns := steady.shown.named _ ref listed
  rw [owns_iff] at owns
  have made : 0 < (ids world.receiver).count fields.fileId :=
    List.count_pos_iff.mpr (List.mem_of_getElem? owns)
  have waiting : 0 < world.toReceiver.control.countP (isOffer fields.fileId) :=
    List.countP_pos_iff.mpr ⟨_, member, by simp [isOffer]⟩
  have few := (steady.once fields.fileId).1
  simp only [offered] at few
  omega

/-- One step keeps a completed transfer unless a `file.cancel` of it arrives. -/
theorem step_complete_iff {event : Event} (steady : Steady world history)
    (complete : Complete world.receiver fileId url blob) (dependable : Dependable world event)
    (kept : ¬ EndsLocally fileId event)
    (stepped : (machine digest).step world event = some (after, outputs)) :
    Complete after.receiver fileId url blob ↔ ¬ CancelArrives fileId event := by
  rcases step_cases stepped with ⟨inner, rfl, _, ran⟩ | ⟨inner, rfl, here, ran⟩ |
    ⟨message, rest, inner, rfl, taken, handled, ran⟩ | ⟨message, rest, inner, rfl, _, _, ran⟩
  · obtain ⟨next, _, rfl, _⟩ := stepSender_eq ran
    exact ⟨fun _ => id, fun _ => complete⟩
  · refine ⟨fun _ => id, fun _ => stepReceiver_complete steady.shown steady.serial complete ?_ ran⟩
    cases inner with
    | offer fields => cases here
    | peerCancel other reason => cases here
    | settle ticket outcome => exact fun ref found => dependable.accepts found
    | reset => exact absurd trivial kept
    | reject other reason => exact kept
    | cancel other reason notify => exact kept
    | remove other => exact kept
    | _ => trivial
  · have spared : Spares world.receiver fileId inner → Complete after.receiver fileId url blob := by
      intro spares
      have shown : Shown ({ world with toReceiver := rest } : World).receiver := steady.shown
      exact stepReceiver_complete shown steady.serial complete spares ran
    cases message with
    | offer fields =>
        cases handled
        refine ⟨fun _ => id, fun _ => spared ?_⟩
        -- An offer travels on the control lane, which repeats nothing.
        rcases take_cases taken with ⟨lossy, _, _⟩ | ⟨_, member, _⟩
        · cases lossy
        · exact not_offered_again steady complete member
    | chunk other index totalChunks data =>
        cases handled
        exact ⟨fun _ => id, fun _ => spared trivial⟩
    | complete other sha256 =>
        cases handled
        exact ⟨fun _ => id, fun _ => spared trivial⟩
    | cancel other reason =>
        cases handled
        constructor
        · -- The peer's cancel drops the blob, whatever the status.
          rintro still rfl
          obtain ⟨next, turned, rfl, _⟩ := stepReceiver_eq ran
          cases turned
          have completeHere : Complete { world.receiver with notes := [] } other url blob := complete
          exact peerCancel_ends completeHere reason still
        · exact spared
    | _ => cases handled
  · obtain ⟨next, _, rfl, _⟩ := stepSender_eq ran
    exact ⟨fun _ => id, fun _ => complete⟩

end Steps

section Runs

variable {digest : Bytes → String} {world : World} {history : List Note} {fileId : String} {url : Nat}
  {blob : Bytes}

/-- Every state that a continuation reaches still has the completed transfer. -/
def StaysComplete (digest : Bytes → String) (fileId : String) (url : Nat) (blob : Bytes)
    (world : World) (events : List Event) : Prop :=
  (machine digest).Along (fun state event => ∀ after outputs,
    (machine digest).step state event = some (after, outputs) →
    Complete after.receiver fileId url blob) world events

theorem stays_complete_iff (events : List Event) {final : World} {later : List Note}
    (steady : Steady world history) (complete : Complete world.receiver fileId url blob)
    (ran : (machine digest).execute world events = some (final, later))
    (dependable : (machine digest).Along Dependable world events)
    (kept : ∀ event ∈ events, ¬ EndsLocally fileId event) :
    StaysComplete digest fileId url blob world events ↔
      ∀ event ∈ events, ¬ CancelArrives fileId event := by
  induction events generalizing world history later with
  | nil => simp [StaysComplete, Machine.Along]
  | cons event rest ih =>
      obtain ⟨next, first, remaining, stepped, continued, rfl⟩ := Machine.execute_cons.mp ran
      -- The first event decides the next state, the rest is the induction's.
      have once := step_complete_iff steady complete dependable.1
        (kept event List.mem_cons_self) stepped
      have steadyNext := step_steady steady dependable.1 stepped
      have tail := fun still => ih steadyNext still continued (dependable.2 next first stepped)
        (fun other member => kept other (List.mem_cons_of_mem event member))
      rw [List.forall_mem_cons]
      constructor
      · rintro ⟨now, afterwards⟩
        have still := now next first stepped
        exact ⟨once.mp still, (tail still).mp (afterwards next first stepped)⟩
      · rintro ⟨spared, others⟩
        have still := once.mpr spared
        refine ⟨?_, ?_⟩
        · intro other outputs taken
          cases stepped.symm.trans taken
          exact still
        · intro other outputs taken
          cases stepped.symm.trans taken
          exact (tail still).mpr others

/-- A registered transfer that is completed has its blob. -/
theorem Steady.complete (steady : Steady world history) {ref : Nat} {transfer : ReceiveTransfer}
    (listed : world.receiver.transfers.get? fileId = some ref)
    (found : world.receiver.objects[ref]? = some transfer) (status : transfer.status = .completed) :
    ∃ url blob, transfer.blobUrl = some url ∧ Complete world.receiver fileId url blob := by
  obtain ⟨url, handle⟩ := Option.ne_none_iff_exists'.mp
    (steady.shown.shown fileId ref transfer listed found status)
  obtain ⟨blob, live⟩ := steady.shown.live ref transfer url found handle
  exact ⟨url, blob, handle, ref, transfer, listed, found, status, handle, live⟩

/-- Once a transfer of the receiver is completed it has a blob, and in every
continuation that the local user does not end it stays completed with that blob
exactly as long as no `file.cancel` of it arrives. -/
theorem completed_file_kept_iff (digest : Bytes → String) (ours theirs : FileLimits) (world : World)
    (history : List Note)
    (run : Machine.Run (machine digest) Dependable (start ours theirs) world history)
    (fileId : String) (ref : Nat) (transfer : ReceiveTransfer)
    (listed : world.receiver.transfers.get? fileId = some ref)
    (found : world.receiver.objects[ref]? = some transfer) (status : transfer.status = .completed) :
    ∃ url blob, transfer.blobUrl = some url ∧ Complete world.receiver fileId url blob ∧
      ∀ events final later, (machine digest).execute world events = some (final, later) →
        (machine digest).Along Dependable world events →
        (∀ event ∈ events, ¬ EndsLocally fileId event) →
        (StaysComplete digest fileId url blob world events ↔
          ∀ event ∈ events, ¬ CancelArrives fileId event) := by
  have steady := run_steady run
  obtain ⟨url, blob, handle, complete⟩ := steady.complete listed found status
  refine ⟨url, blob, handle, complete, ?_⟩
  intro events final later ran dependable kept
  exact stays_complete_iff events steady complete ran dependable kept

/-- The `files` of the balanced profile. -/
def balanced : FileLimits :=
  ⟨10 * 1024 * 1024, 50 * 1024 * 1024, 50 * 1024 * 1024, 32 * 1024, 4, 8, by decide⟩

/-- A file of one chunk is received; its ACK is on the way. -/
def received : List Event :=
  [.sender (.offer "f" ⟨utf16 "a.bin", [], [1, 2, 3]⟩ false),
    .sender (.settle 0 (.ok true)), .sender (.settle 1 (.ok true)),
    .toReceiver (.offer ⟨"f", utf16 "a.bin", defaultMime, 3, 32 * 1024, 1, some "digest"⟩),
    .receiver (.accept "f"), .receiver (.settle 0 (.ok true)), .toSender (.accept "f"),
    .sender (.settle 2 (.ok true)), .sender (.settle 3 (.ok true)), .sender (.settle 4 (.ok true)),
    .toReceiver (.chunk "f" 0 1 (encodeChunk [1, 2, 3])), .receiver (.settle 1 (.ok true)),
    .receiver (.settle 2 (.ok true))]

/-- The ACK timer and the retry timer run out and the chunk is sent again. -/
def retransmission (round : Nat) : List Event :=
  [.sender (.fire (2 * round)), .sender (.fire (2 * round + 1)),
    .sender (.settle (2 * round + 5) (.ok true)), .sender (.settle (2 * round + 6) (.ok true)),
    .toReceiver (.chunk "f" 0 1 (encodeChunk [1, 2, 3]))]

/-- Every ACK is lost until the retries are used up. -/
def exhausted : List Event :=
  (List.range 8).flatMap retransmission ++
    [.sender (.fire 16), .toReceiver (.cancel "f" "transfer failed")]

/-- After `received` the transfer is completed, and the continuation can run. -/
theorem received_then (events : List Event)
    (ran : ((machine fun _ => "digest").execute (start balanced balanced) received).map (fun result =>
      (result.1.receiver.transfers.get? "f", (result.1.receiver.objects[0]?).map (·.status),
        ((machine fun _ => "digest").execute result.1 events).isSome,
        decide ((machine fun _ => "digest").Along Dependable result.1 events))) =
      some (some 0, some .completed, true, true)) :
    ∃ world history transfer final later,
      Machine.Run (machine fun _ => "digest") Dependable (start balanced balanced) world history ∧
      world.receiver.transfers.get? "f" = some 0 ∧ world.receiver.objects[0]? = some transfer ∧
      transfer.status = .completed ∧
      (machine fun _ => "digest").execute world events = some (final, later) ∧
      (machine fun _ => "digest").Along Dependable world events := by
  obtain ⟨⟨world, history⟩, executed, same⟩ := Option.map_eq_some_iff.mp ran
  simp only [Prod.mk.injEq, decide_eq_true_eq] at same
  obtain ⟨listed, completed, continues, along⟩ := same
  obtain ⟨transfer, found, status⟩ := Option.map_eq_some_iff.mp completed
  obtain ⟨⟨final, later⟩, continued⟩ := Option.isSome_iff_exists.mp continues
  have admitted : (machine fun _ => "digest").Along Dependable (start balanced balanced) received := by
    decide +kernel
  exact ⟨world, history, transfer, final, later, Machine.execute_run _ admitted executed, listed,
    found, status, continued, along⟩

/-- A retransmission leaves the completed transfer alone. -/
theorem retransmission_keeps_file :
    ∃ world history transfer url blob,
      Machine.Run (machine fun _ => "digest") Dependable (start balanced balanced) world history ∧
      world.receiver.objects[0]? = some transfer ∧ transfer.status = .completed ∧
      StaysComplete (fun _ => "digest") "f" url blob world (retransmission 0) := by
  obtain ⟨world, history, transfer, final, later, run, listed, found, status, ran, along⟩ :=
    received_then (retransmission 0) (by decide +kernel)
  obtain ⟨url, blob, _, _, stays⟩ := completed_file_kept_iff (fun _ => "digest") balanced balanced
    world history run "f" 0 transfer listed found status
  refine ⟨world, history, transfer, url, blob, run, found, status,
    (stays (retransmission 0) final later ran along ?_).mpr ?_⟩
  · simp [retransmission, EndsLocally]
  · simp [retransmission, CancelArrives]

/-- When every ACK is lost the sender gives up, and its `file.cancel` takes the
completed file away from the receiver. -/
theorem completed_file_cancelled_by_sender :
    ¬ ∀ (digest : Bytes → String) (ours theirs : FileLimits) (world : World) (history : List Note),
      Machine.Run (machine digest) Dependable (start ours theirs) world history →
      ∀ (fileId : String) (ref : Nat) (transfer : ReceiveTransfer),
        world.receiver.transfers.get? fileId = some ref →
        world.receiver.objects[ref]? = some transfer → transfer.status = .completed →
        ∃ url blob, Complete world.receiver fileId url blob ∧
          ∀ events final later, (machine digest).execute world events = some (final, later) →
            (machine digest).Along Dependable world events →
            (∀ event ∈ events, ¬ EndsLocally fileId event) →
            StaysComplete digest fileId url blob world events := by
  intro claim
  obtain ⟨world, history, transfer, final, later, run, listed, found, status, ran, along⟩ :=
    received_then exhausted (by decide +kernel)
  obtain ⟨url, blob, complete, stays⟩ := claim _ _ _ world history run "f" 0 transfer listed found
    status
  have spared : ∀ event ∈ exhausted, ¬ EndsLocally "f" event := by
    intro event member
    rcases List.mem_append.mp member with early | last
    · obtain ⟨round, _, within⟩ := List.mem_flatMap.mp early
      simp only [retransmission, List.mem_cons, List.not_mem_nil, or_false] at within
      rcases within with rfl | rfl | rfl | rfl | rfl <;> exact id
    · simp only [List.mem_cons, List.not_mem_nil, or_false] at last
      rcases last with rfl | rfl <;> exact id
  have uncancelled := (stays_complete_iff exhausted (run_steady run) complete ran along spared).mp
    (stays exhausted final later ran along spared)
  refine uncancelled (.toReceiver (.cancel "f" "transfer failed")) ?_ rfl
  simp [exhausted]

end Runs

end OnlyTwo.FileTransfer
