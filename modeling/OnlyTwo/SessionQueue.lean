import OnlyTwo.FileSenderQueue
import OnlyTwo.SessionOutgoing

/-!
Offers one after another. `offerFile` looks for an active file before its own is hashed, and the
transfer is offered at the end of the digest whatever has happened in between. In a run that
offers no file during a digest, and in which no transfer is woken during one either, what
`offerFile` has found holds until then: the queue decision is enough to keep the files in line.
-/

namespace OnlyTwo.Session

open Bytes FileProtocol FileSender FileReceiver Reliable AppMessages

section Definitions

def ShownQueued (session : SessionController) (fileId : String) : Prop :=
  fileId ∈ session.transferOrder ∧ ∃ view ∈ session.view.transfers, view.fileId = fileId ∧
    view.direction = .send ∧ view.state = .queued

/-- The queue of the sender is shown, but for the transfers that are left out. -/
structure Mirrored (left : List String) (session : SessionController) : Prop extends
    Rows session where
  named : Named session.sender
  queued : ∀ fileId ∉ left, Enqueued session.sender fileId → ShownQueued session fileId

/-- No transfer is in line, and none waits to be. -/
structure Vacant (session : SessionController) : Prop where
  line : ∀ view ∈ session.view.transfers, view.inLine = false
  queue : ∀ fileId, ¬Enqueued session.sender fileId

/-- One digest at most is under way, and while a transfer is to be offered after it, the line
stays empty. -/
structure Hushed (session : SessionController) : Prop where
  once : ∀ one two, Digesting session.sender one → Digesting session.sender two → one = two
  vacant : ∀ ticket fileId, session.sender.calls.get? ticket = some (.hashing fileId false) →
    Vacant session

structure Composed (session : SessionController) : Prop where
  mirrored : Mirrored [] session
  hushed : Hushed session

/-- What a run has kept in which the offers do not overlap. -/
structure InTurn (session : SessionController) : Prop extends Line session, Composed session

end Definitions

section Resting

variable {self after : SessionController} {fileId : String} {left : List String}

theorem Mirrored.aside (mirrored : Mirrored left self) (aside : Aside self after) :
    Mirrored left after where
  order := aside.order ▸ mirrored.order
  views := aside.transfers ▸ mirrored.views
  named := aside.sender ▸ mirrored.named
  queued fileId within enqueued := by
    rw [ShownQueued, aside.order, aside.transfers]
    exact mirrored.queued fileId within (aside.sender ▸ enqueued)

theorem Mirrored.mono (mirrored : Mirrored [] self) (left : List String) : Mirrored left self :=
  ⟨mirrored.toRows, mirrored.named, fun fileId _ => mirrored.queued fileId List.not_mem_nil⟩

theorem Mirrored.whole (mirrored : Mirrored [fileId] self)
    (shown : Enqueued self.sender fileId → ShownQueued self fileId) : Mirrored [] self := by
  refine ⟨mirrored.toRows, mirrored.named, fun other _ enqueued => ?_⟩
  by_cases own : other = fileId
  · subst own
    exact shown enqueued
  · exact mirrored.queued other (by simpa using own) enqueued

theorem Vacant.of (vacant : Vacant self) (abates : Abates self.sender after.sender)
    (views : ∀ view ∈ after.view.transfers, view ∈ self.view.transfers) : Vacant after :=
  ⟨fun view member => vacant.line view (views view member),
    fun fileId enqueued => vacant.queue fileId (abates.queue fileId enqueued)⟩

theorem Vacant.clear (vacant : Vacant self) (fileId : String) : Clear self fileId :=
  fun view member stands => by cases (vacant.line view member).symm.trans stands

theorem Vacant.idle (vacant : Vacant self) (line : Line self) (fileId : String) :
    self.sender.busy fileId = false := by
  rw [Bool.eq_false_iff]
  intro busy
  obtain ⟨_, view, member, _, stands⟩ := line.synced fileId busy
  cases (vacant.line view member).symm.trans stands

/-- A digest that ends finds the line as empty as its offer did. -/
theorem Hushed.clear {event : FileSender.Event} (hushed : Hushed self)
    (digested : self.sender.digested event = true) (fileId : String) : Clear self fileId := by
  obtain ⟨ticket, outcome, own, rfl, held⟩ := digested_settles digested
  exact (hushed.vacant ticket own held).clear fileId

theorem Hushed.of (hushed : Hushed self) (abates : Abates self.sender after.sender)
    (vacant : Vacant self → Vacant after) : Hushed after where
  once one two first second :=
    hushed.once one two (abates.digesting first) (abates.digesting second)
  vacant ticket fileId held := vacant (hushed.vacant ticket fileId (abates.digests _ _ _ held))

theorem Undigested.hushed (undigested : Undigested after.sender) : Hushed after where
  once one _ first _ := absurd first (undigested one)
  vacant ticket fileId held := absurd ⟨fileId, false, held⟩ (undigested ticket)

end Resting

namespace SessionController

variable {self after : SessionController} {view : TransferView} {fileId : String}
  {left : List String}

section Abating

theorem startQueued_abates (named : Named self.sender) (fileId : String) :
    Abates self.sender (self.startQueued fileId).sender := by
  have cut : Named { self.sender with notes := [] } := named
  have started := (startQueued_turned cut fileId).abates (fun _ _ _ same => by cases same)
    (fun _ _ same => by cases same)
  have held : Named { self with
      sender := Sender.startQueued { self.sender with notes := [] } fileId }.sender :=
    started.named cut
  have first : Abates self.sender { self.sender with notes := [] } := .of_same rfl rfl rfl
  exact (first.trans started).trans (absorbShown_fades _ held).abates

theorem startNextQueuedFileIfAllowed_abates (named : Named self.sender) :
    Abates self.sender self.startNextQueuedFileIfAllowed.sender := by
  unfold startNextQueuedFileIfAllowed
  split
  · exact .refl _
  · split
    · exact .refl _
    · split
      · exact .refl _
      · split
        · exact .refl _
        · exact startQueued_abates named _

theorem updateSender_abates (named : Named self.sender) (snapshot : SenderSnapshot) :
    Abates self.sender (self.updateSender snapshot).sender := by
  have shown := showSender_fades named snapshot
  simp only [updateSender]
  split
  · exact shown.abates.trans (startNextQueuedFileIfAllowed_abates shown.named)
  · exact shown.abates

theorem absorbSender_abates (notes : List SenderNote) (named : Named self.sender) :
    Abates self.sender (absorbSender updateSender notes self).sender := by
  induction notes generalizing self with
  | nil => exact .refl _
  | cons note rest ih =>
      cases note with
      | onUpdate snapshot =>
          have updated := updateSender_abates named snapshot
          exact updated.trans (ih (updated.named named))
      | sendApp message lane =>
          have same := (sendApp_aside self (.file message) (fileLane lane) none).sender
          have sent := ih (same ▸ named : Named (self.sendApp (.file message) (fileLane lane) none).sender)
          rw [same] at sent
          exact sent
      | setTimeout timer => exact ih named

theorem withSender_abates (self : SessionController) {turned : Sender} (named : Named turned) :
    Abates turned (self.withSender turned).sender := by
  have held : Named { self with sender := turned }.sender := named
  exact absorbSender_abates turned.notes held

theorem absorbReceiver_fades (notes : List ReceiverNote) (named : Named self.sender) :
    Fades self.sender (absorbReceiver notes self).sender := by
  induction notes generalizing self with
  | nil => exact .refl named
  | cons note rest ih =>
      cases note with
      | onUpdate snapshot =>
          have shown : Fades self.sender (self.updateReceiver snapshot).sender :=
            upsertTransfer_fades named _
          exact shown.trans (ih shown.named)
      | sendApp message =>
          have same := (sendApp_aside self (.file message) .control none).sender
          have sent := ih (same ▸ named : Named (self.sendApp (.file message) .control none).sender)
          rw [same] at sent
          exact sent
      | onComplete file => exact ih named
      | stored ref fileId index bytes status => exact ih named

end Abating

section Mirroring

theorem upsertTransfer_queued (rows : Rows self) (shown : ShownQueued self fileId)
    (other : fileId ≠ view.fileId) : ShownQueued (self.upsertTransfer view) fileId := by
  obtain ⟨ordered, item, listed, rfl, sends, waits⟩ := shown
  have live : item.state.terminal = false := by rw [waits]; rfl
  obtain ⟨there, entered⟩ := upsertTransfer_stays rows listed live ordered other
  exact ⟨entered, item, there, rfl, sends, waits⟩

theorem upsertTransfer_mirrored (mirrored : Mirrored left self)
    (strange : view.fileId ∈ left ∨ ¬Enqueued self.sender view.fileId) :
    Mirrored left (self.upsertTransfer view) := by
  have fades := upsertTransfer_fades mirrored.named view
  refine ⟨upsertTransfer_rows mirrored.toRows view, fades.named, fun fileId within enqueued => ?_⟩
  have before := fades.abates.queue fileId enqueued
  refine upsertTransfer_queued mirrored.toRows (mirrored.queued fileId within before) ?_
  rintro rfl
  exact strange.elim within fun missing => missing before

/-- A transfer that was left out is shown as it is. -/
theorem showSender_mirrored {snapshot : SenderSnapshot}
    (mirrored : Mirrored [snapshot.fileId] self)
    (waits : Enqueued self.sender snapshot.fileId → snapshot.status = .queued) :
    Mirrored [] (self.showSender snapshot) := by
  have shown : Mirrored [snapshot.fileId] (self.showSender snapshot) :=
    upsertTransfer_mirrored mirrored (Or.inl List.mem_cons_self)
  refine ⟨shown.toRows, shown.named, fun fileId _ enqueued => ?_⟩
  by_cases own : fileId = snapshot.fileId
  · subst own
    have status := waits ((showSender_fades mirrored.named snapshot).abates.queue _ enqueued)
    have state : (senderView snapshot).state = .queued := congrArg mapSenderStatus status
    have live : (senderView snapshot).state.terminal = false := by rw [state]; rfl
    obtain ⟨there, entered⟩ := upsertTransfer_shown mirrored.toRows live
    exact ⟨entered, senderView snapshot, there, rfl, rfl, state⟩
  · exact shown.queued fileId (by simpa using own) enqueued

theorem startQueued_mirrored (mirrored : Mirrored [] self) (fileId : String) :
    Mirrored [] (self.startQueued fileId) := by
  have cut : Named { self.sender with notes := [] } := mirrored.named
  have turned := startQueued_turned cut fileId
  have abates := turned.abates (fun _ _ _ same => by cases same) (fun _ _ same => by cases same)
  obtain ⟨told, whole⟩ := startQueued_told cut rfl fileId
  have kept : Mirrored [] { self with
      sender := Sender.startQueued { self.sender with notes := [] } fileId } :=
    ⟨⟨mirrored.order, mirrored.views⟩, whole.named, fun other within enqueued =>
      mirrored.queued other within (abates.queue other enqueued)⟩
  rcases startQueued_shows cut fileId with quiet | ⟨transfer, status, shown⟩
  · rw [SessionController.startQueued, quiet]
    exact kept
  · have updated := whole.updates
    rw [shown] at updated
    obtain ⟨rfl, rest, rfl, others⟩ := updates_cons updated
    cases List.map_eq_nil_iff.mp others.symm
    -- The transfer has left the queue by the time its view is shown.
    have offered := whole.last _ rfl
    have listed : Mirrored [] (showSender _ transfer.snapshot) :=
      upsertTransfer_mirrored kept (Or.inr fun enqueued => by
        cases status.symm.trans (Option.some.inj (offered.symm.trans enqueued.2)))
    rw [SessionController.startQueued, shown]
    exact listed.aside (sendApp_aside _ (.file (.offer transfer.offer)) (fileLane .control) none)

theorem startNextQueuedFileIfAllowed_mirrored (mirrored : Mirrored [] self) :
    Mirrored [] self.startNextQueuedFileIfAllowed := by
  unfold startNextQueuedFileIfAllowed
  split
  · exact mirrored
  · split
    · exact mirrored
    · split
      · exact mirrored
      · split
        · exact mirrored
        · exact startQueued_mirrored mirrored _

theorem not_enqueued_of_over {sender : Sender} (finished : sender.finished fileId = true) :
    ¬Enqueued sender fileId := by
  rintro ⟨_, status⟩
  rw [Sender.finished, status] at finished
  cases finished

/-- The callbacks of a turn show its transfer as the turn leaves it. -/
theorem absorbSender_mirrored {notes : List SenderNote} {told : List SenderStatus}
    (mirrored : Mirrored [fileId] self)
    (shown : updates notes = told.map fun status => (fileId, status))
    (finished : ∀ status ∈ told, status.terminal = true → self.sender.finished fileId = true)
    (last : ∀ status, told.getLast? = some status → Enqueued self.sender fileId →
      status = .queued)
    (silent : told = [] → Enqueued self.sender fileId → ShownQueued self fileId) :
    Mirrored [] (absorbSender updateSender notes self) := by
  induction notes generalizing self told with
  | nil => exact mirrored.whole (silent (List.map_eq_nil_iff.mp shown.symm))
  | cons note rest ih =>
      cases note with
      | onUpdate snapshot =>
          obtain ⟨rfl, others, rfl, later⟩ := updates_cons shown
          have fades := showSender_fades mirrored.named snapshot
          have listed : Mirrored [snapshot.fileId] (self.showSender snapshot) :=
            upsertTransfer_mirrored mirrored (Or.inl List.mem_cons_self)
          have ends : ∀ status ∈ others, status.terminal = true →
              (self.showSender snapshot).sender.finished snapshot.fileId = true :=
            fun status member terminal =>
              Fades.finished fades (finished status (List.mem_cons_of_mem _ member) terminal)
          change Mirrored [] (absorbSender updateSender rest (self.updateSender snapshot))
          simp only [updateSender]
          split
          · rename_i terminal
            have ended := Fades.finished fades (finished _ List.mem_cons_self terminal)
            have still := startNextQueuedFileIfAllowed_over fades.named ended
            -- A transfer that has ended is not in the queue, so the next file starts from a
            -- queue that is shown.
            have free := listed.whole fun enqueued => absurd enqueued (not_enqueued_of_over ended)
            have next := startNextQueuedFileIfAllowed_mirrored free
            exact ih (next.mono _) later (fun _ _ _ => still)
              (fun _ _ enqueued => absurd enqueued (not_enqueued_of_over still))
              (fun _ enqueued => absurd enqueued (not_enqueued_of_over still))
          · refine ih listed later ends (fun status reached enqueued => ?_) fun none => ?_
            · refine last status ?_ (fades.abates.queue _ enqueued)
              cases others with
              | nil => cases reached
              | cons second more => exact reached
            · subst none
              have whole := showSender_mirrored mirrored (last snapshot.status rfl)
              exact whole.queued _ List.not_mem_nil
      | sendApp message lane =>
          have aside := sendApp_aside self (.file message) (fileLane lane) none
          refine ih (mirrored.aside aside) shown ?_ ?_ ?_
          · rw [aside.sender]
            exact finished
          · rw [aside.sender]
            exact last
          · rw [aside.sender, ShownQueued, aside.order, aside.transfers]
            exact silent
      | setTimeout timer => exact ih mirrored shown finished last silent

theorem withSender_mirrored {turned : Sender} {told : List SenderStatus}
    (mirrored : Mirrored [] self)
    (whole : Told { self.sender with notes := [] } turned fileId told) :
    Mirrored [] (self.withSender turned) := by
  have kept : Mirrored [fileId] { self with sender := turned } := by
    refine ⟨⟨mirrored.order, mirrored.views⟩, whole.named, fun other within enqueued => ?_⟩
    obtain ⟨status, listed⟩ := whole.others other (by simpa using within)
    refine mirrored.queued other List.not_mem_nil ?_
    exact ⟨listed ▸ enqueued.1, status ▸ enqueued.2⟩
  refine absorbSender_mirrored kept whole.updates
    (fun _ member terminal => whole.finished member terminal) (fun status reached enqueued => ?_)
    fun none enqueued => ?_
  · exact Option.some.inj ((whole.last status reached).symm.trans enqueued.2)
  · obtain ⟨listed, status⟩ := whole.silent none enqueued.1
    exact mirrored.queued fileId List.not_mem_nil ⟨listed, status ▸ enqueued.2⟩

theorem absorbReceiver_mirrored (notes : List ReceiverNote) (mirrored : Mirrored [] self)
    (strange : ∀ snapshot, .onUpdate snapshot ∈ notes →
      self.sender.statusOf snapshot.fileId = none) : Mirrored [] (absorbReceiver notes self) := by
  induction notes generalizing self with
  | nil => exact mirrored
  | cons note rest ih =>
      have later : ∀ snapshot, .onUpdate snapshot ∈ rest →
          self.sender.statusOf snapshot.fileId = none :=
        fun snapshot member => strange snapshot (List.mem_cons_of_mem _ member)
      cases note with
      | onUpdate snapshot =>
          have mine := strange snapshot List.mem_cons_self
          have shown : Mirrored [] (self.updateReceiver snapshot) := by
            refine upsertTransfer_mirrored mirrored (Or.inr fun enqueued => ?_)
            cases mine.symm.trans enqueued.2
          have fades : Fades self.sender (self.updateReceiver snapshot).sender :=
            upsertTransfer_fades mirrored.named _
          refine ih shown fun other member => ?_
          rw [fades.status]
          exact later other member
      | sendApp message =>
          have aside := sendApp_aside self (.file message) .control none
          refine ih (mirrored.aside aside) ?_
          rw [aside.sender]
          exact later
      | onComplete file => exact ih mirrored later
      | stored ref fileId index bytes status => exact ih mirrored later

end Mirroring

section Vacancy

theorem upsertTransfer_vacant (vacant : Vacant self) (named : Named self.sender)
    (outside : view.inLine = false) : Vacant (self.upsertTransfer view) := by
  have fades := upsertTransfer_fades named view
  refine ⟨fun item member => ?_, fun fileId enqueued => ?_⟩
  · rcases upsertTransfer_among member with rfl | ⟨old, _⟩
    · exact outside
    · exact vacant.line item old
  · exact vacant.queue fileId (fades.abates.queue fileId enqueued)

/-- Nothing waits in the queue of the sender, whatever is shown. -/
theorem startNextQueuedFileIfAllowed_vacant (vacant : Vacant self) :
    Vacant self.startNextQueuedFileIfAllowed := by
  unfold startNextQueuedFileIfAllowed
  split
  · exact vacant
  · split
    · exact vacant
    · split
      · exact vacant
      · rename_i queued _
        split
        · exact vacant
        · have missing : ¬Enqueued { self.sender with notes := [] } queued.fileId :=
            vacant.queue queued.fileId
          rw [SessionController.startQueued, startQueued_still missing]
          exact ⟨vacant.line, vacant.queue⟩

theorem absorbSender_vacant (notes : List SenderNote) (vacant : Vacant self)
    (named : Named self.sender) (passive : ∀ entry ∈ updates notes, entry.2.active = false) :
    Vacant (absorbSender updateSender notes self) := by
  induction notes generalizing self with
  | nil => exact vacant
  | cons note rest ih =>
      cases note with
      | onUpdate snapshot =>
          have view : (senderView snapshot).inLine = false :=
            (senderView_inLine snapshot).trans (passive (snapshot.fileId, snapshot.status)
              List.mem_cons_self)
          have later : ∀ entry ∈ updates rest, entry.2.active = false :=
            fun entry member => passive entry (List.mem_cons_of_mem _ member)
          have shown : Vacant (self.showSender snapshot) := upsertTransfer_vacant vacant named view
          have updated : Vacant (self.updateSender snapshot) := by
            simp only [updateSender]
            split
            · exact startNextQueuedFileIfAllowed_vacant shown
            · exact shown
          exact ih updated ((updateSender_abates named snapshot).named named) later
      | sendApp message lane =>
          have aside := sendApp_aside self (.file message) (fileLane lane) none
          have kept : Vacant (self.sendApp (.file message) (fileLane lane) none) :=
            vacant.of (.of_eq aside.sender) fun view member => aside.transfers ▸ member
          exact ih kept (aside.sender ▸ named) passive
      | setTimeout timer => exact ih vacant named passive

theorem absorbReceiver_vacant (notes : List ReceiverNote) (vacant : Vacant self)
    (named : Named self.sender) : Vacant (absorbReceiver notes self) := by
  induction notes generalizing self with
  | nil => exact vacant
  | cons note rest ih =>
      cases note with
      | onUpdate snapshot =>
          have shown : Vacant (self.updateReceiver snapshot) :=
            upsertTransfer_vacant vacant named (by simp [TransferView.inLine])
          have fades : Fades self.sender (self.updateReceiver snapshot).sender :=
            upsertTransfer_fades named _
          exact ih shown fades.named
      | sendApp message =>
          have aside := sendApp_aside self (.file message) .control none
          have kept : Vacant (self.sendApp (.file message) .control none) :=
            vacant.of (.of_eq aside.sender) fun view member => aside.transfers ▸ member
          exact ih kept (aside.sender ▸ named)
      | onComplete file => exact ih vacant named
      | stored ref fileId index bytes status => exact ih vacant named

end Vacancy

end SessionController

section Deeds

open SessionController

variable {digest : Bytes → String} {before after : SessionController}

/-- No file is offered and no transfer is woken while a digest is under way; the end of the
digest itself is free. -/
def apart : Rules where
  turn session event := event.sent = true ∧ (session.sender.digested event = false →
    ∀ fileId, session.sender.wakes event = some fileId →
      Clear session fileId ∧ Undigested session.sender)
  receive := singleFile.receive
  draw session := singleFile.draw session ∧ Undigested session.sender
  order _ _ := True
  tear _ := True

theorem apart_fair : apart.Fair where
  turn := by
    rintro before after event aside ⟨sent, wakes⟩
    refine ⟨sent, fun undigested fileId woken => ?_⟩
    rw [aside.sender] at undigested woken ⊢
    obtain ⟨clear, hushed⟩ := wakes undigested fileId woken
    exact ⟨fun view member => clear view (aside.transfers ▸ member), hushed⟩
  receive := singleFile_fair.receive
  plain := by
    intro session event plain
    have permitted : singleFile.turn session event := singleFile_fair.plain plain
    refine ⟨permitted.1, fun _ fileId woken => ?_⟩
    rw [wakes_of_plain plain] at woken
    cases woken
  taken := singleFile_fair.taken

theorem Deed.single_file (deed : Deed digest apart before after) (hushed : Hushed before) :
    Deed digest singleFile before after := by
  cases deed with
  | aside aside => exact .aside aside
  | adopted id => exact .adopted id
  | sent event permitted stepped =>
      refine .sent event ⟨permitted.1, fun fileId woken => ?_⟩ stepped
      cases digested : before.sender.digested event with
      | false => exact (permitted.2 digested fileId woken).1
      | true => exact hushed.clear digested fileId
  | offered file fresh fits => exact .offered file fresh.1 fits
  | next => exact .next
  | received event permitted stepped => exact .received event permitted stepped
  | forgot transfer listed finished => exact .forgot transfer listed finished
  | ordered fileId permitted => exact .ordered fileId permitted
  | torn cleared kept permitted => exact .torn cleared kept permitted
  | emptied cleared none => exact .emptied cleared none

section Sent

variable {event : FileSender.Event} {turned : Sender} {fileId : String}

theorem calm_of_sent (sent : event.sent = true) (fileId : String) (file : File) (queued : Bool) :
    event ≠ .offer fileId file queued := by
  rintro rfl
  cases sent

theorem Hushed.sent (hushed : Hushed before) (line : Line before)
    (permitted : apart.turn before event)
    (stepped : { before.sender with notes := [] }.turn digest event = some turned)
    (tells : Tells { before.sender with notes := [] } event turned fileId) :
    Hushed (before.withSender turned) := by
  have cut : Named { before.sender with notes := [] } := line.named
  obtain ⟨sent, wakes⟩ := permitted
  obtain ⟨told, whole, shown⟩ := tells
  have calm := calm_of_sent sent
  have kept : event ≠ .reset := by
    rintro rfl
    cases sent
  have moved := turn_turned digest cut kept stepped
  have absorbed := withSender_abates before whole.named
  by_cases ended : ∃ ticket outcome, event = .settle ticket outcome ∧ Digesting before.sender ticket
  · obtain ⟨ticket, outcome, rfl, digesting⟩ := ended
    refine Undigested.hushed fun other left => ?_
    -- It was the only digest, and it is over.
    have late := absorbed.digesting left
    have early : Digesting before.sender other := moved.digesting calm late
    obtain rfl := hushed.once other ticket early digesting
    obtain ⟨id, queued, held⟩ := late
    rw [settled_gone digest cut stepped] at held
    cases held
  · have moves := moved.abates calm fun ticket outcome same digesting =>
      ended ⟨ticket, outcome, same, digesting⟩
    have first : Abates before.sender { before.sender with notes := [] } := .of_same rfl rfl rfl
    have fewer := (first.trans moves).trans absorbed
    cases woken : before.sender.wakes event with
    | some id =>
        have undigested : before.sender.digested event = false := by
          rw [Bool.eq_false_iff]
          intro digested
          obtain ⟨ticket, outcome, own, same, held⟩ := digested_settles digested
          exact ended ⟨ticket, outcome, same, own, false, held⟩
        have none := (wakes undigested id woken).2
        exact Undigested.hushed fun ticket left => none ticket (fewer.digesting left)
    | none =>
        refine hushed.of fewer fun vacant => ?_
        have still : Vacant { before with sender := turned } :=
          ⟨vacant.line, fun id enqueued => vacant.queue id (moves.queue id enqueued)⟩
        refine absorbSender_vacant turned.notes still whole.named ?_
        rw [whole.updates]
        intro entry member
        obtain ⟨status, among, rfl⟩ := List.mem_map.mp member
        rw [Bool.eq_false_iff]
        intro active
        rcases shown status among active with busy | woke
        · cases (vacant.idle line fileId).symm.trans busy
        · cases woken.symm.trans woke

theorem InTurn.sent (inTurn : InTurn before) (permitted : apart.turn before event)
    (stepped : { before.sender with notes := [] }.turn digest event = some turned) :
    Composed (before.withSender turned) := by
  have cut : Named { before.sender with notes := [] } := inTurn.named
  obtain ⟨fileId, told, whole, shown⟩ :=
    turn_tells digest permitted.1 cut rfl inTurn.toLine.unique stepped
  exact ⟨withSender_mirrored inTurn.mirrored whole,
    inTurn.hushed.sent inTurn.toLine permitted stepped ⟨told, whole, shown⟩⟩

end Sent

theorem Mirrored.vacant (mirrored : Mirrored [] before) (free : before.hasActiveFile = false) :
    Vacant before where
  line view member := inactive_line free member
  queue fileId enqueued := by
    obtain ⟨_, view, member, _, sends, waits⟩ := mirrored.queued fileId List.not_mem_nil enqueued
    refine inactive_state free member sends ?_
    rw [waits]
    decide

/-- The first file of the line is offered to an empty one, and the next ones are queued. -/
theorem InTurn.offered (inTurn : InTurn before) (file : File) (fresh : apart.draw before) :
    Composed ({ before with made := before.made + 1 }.withSender
      ({ before.sender with notes := [] }.offer (before.makeId "file") file
        (before.isVoiceActive || before.hasActiveFile))) := by
  have cut : Named { before.sender with notes := [] } := inTurn.named
  have drawn : Mirrored [] { before with made := before.made + 1 } :=
    inTurn.mirrored.aside ⟨rfl, rfl, rfl, rfl, id⟩
  obtain ⟨⟨unmade, _⟩, undigested⟩ := fresh
  obtain ⟨told, whole, _⟩ := offer_told cut rfl file
    (before.isVoiceActive || before.hasActiveFile) (inTurn.toLine.unlisted unmade)
  have absorbed := withSender_abates { before with made := before.made + 1 } whole.named
  have none : Undigested { before.sender with notes := [] } := undigested
  have only := fun ticket fileId queued held =>
    offer_digests none (absorbed.digests ticket fileId queued held)
  refine ⟨withSender_mirrored drawn whole, ⟨?_, ?_⟩⟩
  · rintro one two ⟨first, early, held⟩ ⟨second, late, also⟩
    exact (only one first early held).2.1.trans (only two second late also).2.1.symm
  · intro ticket fileId held
    obtain ⟨same, _, direct⟩ := only ticket fileId false held
    obtain ⟨_, free⟩ := Bool.or_eq_false_iff.mp direct.symm
    have vacant := inTurn.mirrored.vacant free
    rw [same, ← direct]
    refine ⟨vacant.line, fun other enqueued => vacant.queue other ⟨enqueued.1, ?_⟩⟩
    have status : (Sender.put { before.sender with notes := [] } (Sender.newTransfer
        before.sender.files (before.makeId "file") file false)).statusOf other = some .queued :=
      enqueued.2
    rw [statusOf_put] at status
    split at status
    · cases status
    · exact status

theorem InTurn.received {event : FileReceiver.Event} {turned : Receiver} (inTurn : InTurn before)
    (permitted : apart.receive before event)
    (stepped : { before.receiver with notes := [] }.turn digest event = some turned) :
    Composed (before.withReceiver turned) := by
  have within := inTurn.toLine.within permitted stepped
  have kept : Mirrored [] { before with receiver := turned } :=
    ⟨⟨inTurn.order, inTurn.views⟩, inTurn.named, inTurn.mirrored.queued⟩
  have fades : Fades before.sender (before.withReceiver turned).sender :=
    absorbReceiver_fades turned.notes kept.named
  refine ⟨absorbReceiver_mirrored turned.notes kept within.shown,
    inTurn.hushed.of fades.abates fun vacant => ?_⟩
  have still : Vacant { before with receiver := turned } := ⟨vacant.line, vacant.queue⟩
  exact absorbReceiver_vacant turned.notes still kept.named

theorem InTurn.forgot (inTurn : InTurn before) {transfer : TransferView}
    (listed : transfer ∈ before.view.transfers) (finished : transfer.state.terminal = true) :
    Composed (before.forgetTransfer transfer.fileId) := by
  have fades : Fades before.sender (before.forgetTransfer transfer.fileId).sender :=
    remove_fades inTurn.named transfer.fileId
  have rows : Rows (before.forgetTransfer transfer.fileId) :=
    forgetTransfers_rows inTurn.toRows [transfer.fileId]
  refine ⟨⟨rows, fades.named, fun fileId _ enqueued => ?_⟩, ?_⟩
  · obtain ⟨ordered, view, shown, rfl, sends, waits⟩ :=
      inTurn.mirrored.queued fileId List.not_mem_nil (fades.abates.queue fileId enqueued)
    have other : view.fileId ≠ transfer.fileId := by
      intro same
      rw [← inTurn.toRows.same shown listed same, waits] at finished
      cases finished
    exact ⟨List.mem_filter.mpr ⟨ordered, by simpa using other⟩, view,
      List.mem_filter.mpr ⟨shown, by simpa using other⟩, rfl, sends, waits⟩
  · exact inTurn.hushed.of fades.abates fun vacant =>
      vacant.of fades.abates fun view member => (List.mem_filter.mp member).1

theorem InTurn.ordered (inTurn : InTurn before) (fileId : String) :
    Composed (before.ensureTransferOrder fileId) := by
  have sender := ensureTransferOrder_sender before fileId
  have transfers := ensureTransferOrder_transfers before fileId
  refine ⟨⟨⟨ensureTransferOrder_nodup inTurn.order fileId, transfers ▸ inTurn.views⟩,
    sender ▸ inTurn.named, fun other within enqueued => ?_⟩, ?_⟩
  · rw [sender] at enqueued
    obtain ⟨ordered, shown⟩ := inTurn.mirrored.queued other within enqueued
    rw [← transfers] at shown
    exact ⟨(ensureTransferOrder_mem _ _ _).mpr (Or.inr ordered), shown⟩
  · have same : Abates before.sender (before.ensureTransferOrder fileId).sender := .of_eq sender
    exact inTurn.hushed.of same fun vacant => vacant.of same fun view member => transfers ▸ member

theorem InTurn.cleared (inTurn : InTurn before) (cleared : Cleared before after)
    (views : after.view.transfers.Sublist before.view.transfers) : Composed after := by
  obtain ⟨files, sender⟩ := cleared.sender
  have fades := reset_fades inTurn.named
  have abates : Abates before.sender after.sender := by
    rw [sender]
    exact fades.abates.trans (.of_same rfl rfl rfl)
  refine ⟨⟨⟨?_, inTurn.views.sublist (views.map _)⟩, abates.named inTurn.named, ?_⟩, ?_⟩
  · rw [cleared.order]
    exact List.nodup_nil
  · rintro fileId _ ⟨listed, _⟩
    rw [sender] at listed
    cases listed
  · exact inTurn.hushed.of abates fun vacant => vacant.of abates fun view member =>
      views.subset member

theorem InTurn.deed (inTurn : InTurn before) (deed : Deed digest apart before after) :
    InTurn after := by
  have line := (deed.single_file inTurn.hushed).line inTurn.toLine
  suffices composed : Composed after from ⟨line, composed⟩
  have hushed := inTurn.hushed
  cases deed with
  | aside aside =>
      have same : Abates before.sender after.sender := .of_eq aside.sender
      exact ⟨inTurn.mirrored.aside aside, hushed.of same fun vacant =>
        vacant.of same fun view member => aside.transfers ▸ member⟩
  | adopted id =>
      have same : Abates before.sender (before.adoptProfile id).sender := .of_same rfl rfl rfl
      exact ⟨⟨⟨inTurn.order, inTurn.views⟩, inTurn.named, inTurn.mirrored.queued⟩,
        hushed.of same fun vacant => vacant.of same fun view member => member⟩
  | sent event permitted stepped => exact inTurn.sent permitted stepped
  | offered file fresh fits => exact inTurn.offered file fresh
  | next =>
      exact ⟨startNextQueuedFileIfAllowed_mirrored inTurn.mirrored,
        hushed.of (startNextQueuedFileIfAllowed_abates inTurn.named)
          startNextQueuedFileIfAllowed_vacant⟩
  | received event permitted stepped => exact inTurn.received permitted stepped
  | forgot transfer listed finished => exact inTurn.forgot listed finished
  | ordered fileId permitted => exact inTurn.ordered fileId
  | torn cleared kept permitted => exact inTurn.cleared cleared (kept ▸ List.Sublist.refl _)
  | emptied cleared none => exact inTurn.cleared cleared (none ▸ List.nil_sublist _)

theorem InTurn.deeds (inTurn : InTurn before) (deeds : Deeds digest apart before after) :
    InTurn after := by
  induction deeds with
  | refl => exact inTurn
  | tail _ deed ih => exact ih.deed deed

end Deeds

section Runs

open SessionController

variable {digest : Bytes → String} {loop : Loop} {event : Event} {history : List Moment}

/-- No file is offered while the digest of another one is under way, and nothing else wakes a
transfer then. The end of the digest is under no condition. -/
structure OneByOne (loop : Loop) (event : Event) : Prop where
  turn : ∀ turn ∈ loop.turns event, loop.session.sender.digested turn = false →
    ∀ fileId ∈ loop.session.sender.wakes turn,
      Clear loop.session fileId ∧ Undigested loop.session.sender
  offer : ∀ fields ∈ loop.offers event, loop.session.receiver.Takes fields →
    loop.session.sender.objects.has fields.fileId = false
  draw : event.draws = true →
    loop.session.sender.objects.has (loop.session.makeId "file") = false ∧
      loop.session.makeId "file" ∉ ids loop.session.receiver ∧ Undigested loop.session.sender

instance (loop : Loop) (event : Event) : Decidable (OneByOne loop event) :=
  decidable_of_iff (_ ∧ _ ∧ _)
    ⟨fun ⟨turn, offer, draw⟩ => ⟨turn, offer, draw⟩, fun ⟨turn, offer, draw⟩ => ⟨turn, offer, draw⟩⟩

theorem OneByOne.permits (orderly : OneByOne loop event) : Permits digest apart loop event := by
  refine Loop.permits ?_ ?_ ?_ (fun _ _ => trivial) fun _ => trivial
  · exact fun turn among => ⟨Loop.turns_sent among, orderly.turn turn among⟩
  · intro fields among other same takes
    cases same
    exact statusOf_none_of_has (orderly.offer fields among takes)
  · intro draws
    obtain ⟨unmade, foreign, undigested⟩ := orderly.draw draws
    exact ⟨⟨statusOf_none_of_has unmade, foreign⟩, undigested⟩

theorem OneByOne.single_file (orderly : OneByOne loop event) (inTurn : InTurn loop.session) :
    SingleFile loop event where
  turn turn among fileId woken := by
    cases digested : loop.session.sender.digested turn with
    | false => exact (orderly.turn turn among digested fileId woken).1
    | true => exact inTurn.hushed.clear digested fileId
  offer := orderly.offer
  draw draws := ⟨(orderly.draw draws).1, (orderly.draw draws).2.1⟩

theorem inTurn_create : InTurn Loop.create.session where
  toLine := line_create
  mirrored := ⟨line_create.toRows, line_create.named, fun _ _ enqueued => by cases enqueued.1⟩
  hushed := by
    refine Undigested.hushed ?_
    rintro ticket ⟨fileId, queued, held⟩
    cases held

/-- What `offerFile` finds out about the other files is enough, if the offers do not overlap. -/
theorem one_by_one_in_single_file
    (run : (machine digest).Run OneByOne Loop.create loop history) :
    (machine digest).Run SingleFile Loop.create loop history := by
  refine run.strengthen (fun loop => InTurn loop.session) inTurn_create ?_ ?_
  · intro before event after outputs inTurn orderly stepped
    exact inTurn.deeds (Loop.step_deeds apart_fair orderly.permits stepped)
  · exact fun state event inTurn orderly => orderly.single_file inTurn

/-- A second file is offered once the digest of the first one has ended. -/
example : (machine fun _ => "digest").Along OneByOne Loop.create
    (handshakeTaken ++ [.resume (.text "river lunar"),
      .request (.offerFile ⟨utf16 "a.txt", utf16 "text/plain", [1, 2]⟩), .settle 5 .done,
      .request (.offerFile ⟨utf16 "b.txt", utf16 "text/plain", [3]⟩)]) := by
  decide +kernel

end Runs

end OnlyTwo.Session
