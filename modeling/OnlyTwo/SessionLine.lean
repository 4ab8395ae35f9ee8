import OnlyTwo.FileSenderStages
import OnlyTwo.SessionOffers

/-!
The line of outgoing transfers. A transfer stands in it while it is shown as waiting for the
peer, on its way or held up. What is shown of one transfer may put another one out of the
list only if that one has ended, so that a transfer in line stays in line until it is shown
otherwise.
-/

namespace OnlyTwo.Session

open Bytes FileProtocol FileSender FileReceiver Reliable AppMessages

section Definitions

def TransferView.inLine (view : TransferView) : Bool :=
  view.direction = .send ∧ view.state ∈ [TransferState.waiting, .sending, .paused]

/-- No transfer but this one is shown in line. -/
def Clear (session : SessionController) (fileId : String) : Prop :=
  ∀ view ∈ session.view.transfers, view.inLine = true → view.fileId = fileId

instance (session : SessionController) (fileId : String) : Decidable (Clear session fileId) :=
  inferInstanceAs (Decidable (∀ view ∈ session.view.transfers, _))

/-- The view of an outgoing transfer shows a status of the sender. -/
def Outgoing (view : TransferView) : Prop :=
  view.direction = .send → ∃ status, view.state = SessionController.mapSenderStatus status

/-- The transfer is shown in line. -/
def InLine (session : SessionController) (fileId : String) : Prop :=
  fileId ∈ session.transferOrder ∧
    ∃ view ∈ session.view.transfers, view.fileId = fileId ∧ view.inLine = true

/-- The sides know their own transfers, and share none. -/
structure Footing (session : SessionController) : Prop extends Rows session where
  named : Named session.sender
  listed : Listed session.sender
  apart : ∀ fileId ∈ ids session.receiver, session.sender.statusOf fileId = none
  kinds : ∀ view ∈ session.view.transfers, Outgoing view

/-- One transfer stands in line at most, and a registered one that is active does. -/
structure Line (session : SessionController) : Prop extends Footing session where
  single : ∀ one ∈ session.view.transfers, ∀ two ∈ session.view.transfers,
    one.inLine = true → two.inLine = true → one.fileId = two.fileId
  synced : ∀ fileId, session.sender.busy fileId = true → InLine session fileId

/-- Nothing but this transfer is in line, or is registered as active. -/
structure Pending (session : SessionController) (fileId : String) : Prop extends
    Footing session where
  clear : Clear session fileId
  alone : ∀ other, session.sender.busy other = true → other = fileId

theorem Line.clear {session : SessionController} {fileId : String} (line : Line session)
    (shown : InLine session fileId) : Clear session fileId := by
  obtain ⟨_, item, listed, rfl, stands⟩ := shown
  intro view member also
  exact line.single view member item listed also stands

theorem Line.unique {session : SessionController} (line : Line session) (one two : String)
    (first : session.sender.busy one = true) (second : session.sender.busy two = true) :
    one = two := by
  obtain ⟨_, item, listed, rfl, stands⟩ := line.synced one first
  exact line.clear (line.synced two second) item listed stands

theorem Pending.line {session : SessionController} {fileId : String}
    (pending : Pending session fileId)
    (synced : session.sender.busy fileId = true → InLine session fileId) : Line session where
  toFooting := pending.toFooting
  single one first two second stands also :=
    (pending.clear one first stands).trans (pending.clear two second also).symm
  synced other busy := by
    obtain rfl := pending.alone other busy
    exact synced busy

theorem inLine_live {view : TransferView} (stands : view.inLine = true) :
    view.state.terminal = false := by
  have state : view.state ∈ [TransferState.waiting, .sending, .paused] := by
    simp only [TransferView.inLine, decide_eq_true_eq] at stands
    exact stands.2
  revert state
  cases view.state <;> decide

end Definitions

section Resting

variable {self after : SessionController} {fileId : String}

theorem Footing.same (footing : Footing self) (sender : after.sender = self.sender)
    (receiver : ids after.receiver = ids self.receiver) (order : after.transferOrder.Nodup)
    (transfers : after.view.transfers = self.view.transfers) : Footing after where
  order := order
  views := transfers ▸ footing.views
  named := sender ▸ footing.named
  listed := sender ▸ footing.listed
  apart fileId member := sender ▸ footing.apart fileId (receiver ▸ member)
  kinds view member := footing.kinds view (transfers ▸ member)

theorem Footing.aside (footing : Footing self) (aside : Aside self after) : Footing after :=
  footing.same aside.sender (congrArg ids aside.receiver) (aside.order ▸ footing.order) aside.transfers

theorem Line.aside (line : Line self) (aside : Aside self after) : Line after where
  toFooting := line.toFooting.aside aside
  single one first two second :=
    line.single one (aside.transfers ▸ first) two (aside.transfers ▸ second)
  synced fileId busy := by
    rw [aside.sender] at busy
    rw [InLine, aside.order, aside.transfers]
    exact line.synced fileId busy

theorem Pending.aside (pending : Pending self fileId) (aside : Aside self after) :
    Pending after fileId where
  toFooting := pending.toFooting.aside aside
  clear view member := pending.clear view (aside.transfers ▸ member)
  alone other busy := pending.alone other (aside.sender ▸ busy)

/-- A turn of the sender makes no object that the receiver has. -/
theorem Footing.turned {event : FileSender.Event} {turned : Sender} (footing : Footing self)
    (stepped : FileSender.Turned { self.sender with notes := [] } event turned)
    (named : Named turned)
    (fresh : ∀ fileId ∈ ids self.receiver, ∀ file queued, event ≠ .offer fileId file queued) :
    Footing { self with sender := turned } where
  order := footing.order
  views := footing.views
  named := named
  listed := stepped.listed footing.listed
  apart fileId member := stepped.absent (fresh fileId member) (footing.apart fileId member)
  kinds := footing.kinds

end Resting

namespace SessionController

variable {self : SessionController} {view item : TransferView} {fileId : String}

section Showing

theorem upsertTransfer_transfers (self : SessionController) (view : TransferView) :
    (self.upsertTransfer view).view.transfers =
      (self.showTransfer view).view.transfers.filter fun item =>
        item.fileId ∉ (self.showTransfer view).retained.drop maxRetainedTransfers := by
  have aside := listFile_aside (self.showTransfer view) view
  have same : ((self.showTransfer view).listFile view).retained = (self.showTransfer view).retained := by
    rw [retained, aside.order, aside.transfers]
    rfl
  rw [upsertTransfer, trimRetainedTransfers, forgetTransfers_transfers, same, aside.transfers]

theorem upsertTransfer_rows (rows : Rows self) (view : TransferView) :
    Rows (self.upsertTransfer view) where
  order := by
    rw [upsertTransfer_order]
    exact (showTransfer_rows rows view).order.filter _
  views := by
    rw [upsertTransfer_transfers]
    exact (showTransfer_rows rows view).views.sublist (List.filter_sublist.map _)

theorem upsertTransfer_among (member : item ∈ (self.upsertTransfer view).view.transfers) :
    item = view ∨ item ∈ self.view.transfers ∧ item.fileId ≠ view.fileId := by
  rw [upsertTransfer_transfers] at member
  exact showTransfer_among (List.mem_filter.mp member).1

/-- Only transfers that have ended are dropped. -/
theorem upsertTransfer_spares (rows : Rows self)
    (shown : item ∈ (self.showTransfer view).view.transfers) (live : item.state.terminal = false)
    (ordered : item.fileId ∈ (self.showTransfer view).transferOrder) :
    item ∈ (self.upsertTransfer view).view.transfers ∧
      item.fileId ∈ (self.upsertTransfer view).transferOrder := by
  have kept : item.fileId ∉ (self.showTransfer view).retained.drop maxRetainedTransfers := by
    intro dropped
    obtain ⟨_, finished⟩ := List.mem_filter.mp (List.mem_of_mem_drop dropped)
    obtain ⟨other, also, same, terminal⟩ := ended_iff.mp finished
    rw [(showTransfer_rows rows view).same also shown same, live] at terminal
    cases terminal
  rw [upsertTransfer_transfers, upsertTransfer_order]
  exact ⟨List.mem_filter.mpr ⟨shown, by simpa using kept⟩,
    List.mem_filter.mpr ⟨ordered, by simpa using kept⟩⟩

theorem upsertTransfer_shown (rows : Rows self) (live : view.state.terminal = false) :
    view ∈ (self.upsertTransfer view).view.transfers ∧
      view.fileId ∈ (self.upsertTransfer view).transferOrder := by
  refine upsertTransfer_spares rows (showTransfer_shown self view) live ?_
  rw [showTransfer_order, ensureTransferOrder_mem]
  exact Or.inl rfl

theorem upsertTransfer_stays (rows : Rows self) (member : item ∈ self.view.transfers)
    (live : item.state.terminal = false) (ordered : item.fileId ∈ self.transferOrder)
    (other : item.fileId ≠ view.fileId) :
    item ∈ (self.upsertTransfer view).view.transfers ∧
      item.fileId ∈ (self.upsertTransfer view).transferOrder := by
  refine upsertTransfer_spares rows (showTransfer_stays rows member ordered other) live ?_
  rw [showTransfer_order, ensureTransferOrder_mem]
  exact Or.inr ordered

theorem forgetTransfers_fades (named : Named self.sender) (fileIds : List String) :
    Fades self.sender (fileIds.foldl forgetTransfer self).sender := by
  induction fileIds generalizing self with
  | nil => exact .refl named
  | cons fileId rest ih =>
      have removed : Fades self.sender (self.forgetTransfer fileId).sender :=
        remove_fades named fileId
      exact removed.trans (ih removed.named)

theorem forgetTransfers_ids (fileIds : List String) (self : SessionController) :
    ids (fileIds.foldl forgetTransfer self).receiver = ids self.receiver := by
  induction fileIds generalizing self with
  | nil => rfl
  | cons fileId rest ih => exact (ih (self.forgetTransfer fileId)).trans (remove_ids _ fileId)

theorem ensureTransferOrder_receiver (self : SessionController) (fileId : String) :
    (self.ensureTransferOrder fileId).receiver = self.receiver := by
  unfold ensureTransferOrder
  split <;> rfl

theorem upsertTransfer_fades (named : Named self.sender) (view : TransferView) :
    Fades self.sender (self.upsertTransfer view).sender := by
  have same : ((self.showTransfer view).listFile view).sender = self.sender :=
    (listFile_aside _ view).sender.trans (ensureTransferOrder_sender self view.fileId)
  have kept : Named ((self.showTransfer view).listFile view).sender := same ▸ named
  have trimmed := forgetTransfers_fades kept
    (((self.showTransfer view).listFile view).retained.drop maxRetainedTransfers)
  rw [same] at trimmed
  exact trimmed

theorem upsertTransfer_ids (self : SessionController) (view : TransferView) :
    ids (self.upsertTransfer view).receiver = ids self.receiver := by
  have same : ((self.showTransfer view).listFile view).receiver = self.receiver :=
    (listFile_aside _ view).receiver.trans (ensureTransferOrder_receiver self view.fileId)
  have trimmed := forgetTransfers_ids
    (((self.showTransfer view).listFile view).retained.drop maxRetainedTransfers)
    ((self.showTransfer view).listFile view)
  rw [same] at trimmed
  exact trimmed

end Showing

section Upserting

theorem upsertTransfer_footing (footing : Footing self) (outgoing : Outgoing view) :
    Footing (self.upsertTransfer view) := by
  have fades := upsertTransfer_fades footing.named view
  refine ⟨upsertTransfer_rows footing.toRows view, fades.named, footing.listed.fades fades, ?_, ?_⟩
  · intro fileId member
    rw [upsertTransfer_ids] at member
    rw [fades.status]
    exact footing.apart fileId member
  · intro item member
    rcases upsertTransfer_among member with rfl | ⟨old, _⟩
    · exact outgoing
    · exact footing.kinds item old

/-- A transfer in line stays in line, unless this is a view of it. -/
theorem upsertTransfer_inLine (footing : Footing self) (shown : InLine self fileId)
    (stands : fileId = view.fileId → view.inLine = true) :
    InLine (self.upsertTransfer view) fileId := by
  obtain ⟨ordered, item, listed, rfl, also⟩ := shown
  by_cases own : item.fileId = view.fileId
  · have live := inLine_live (stands own)
    obtain ⟨there, entered⟩ := upsertTransfer_shown footing.toRows live
    exact ⟨own ▸ entered, view, there, own.symm, stands own⟩
  · obtain ⟨there, entered⟩ := upsertTransfer_stays footing.toRows listed (inLine_live also)
      ordered own
    exact ⟨entered, item, there, rfl, also⟩

theorem upsertTransfer_line (line : Line self) (outgoing : Outgoing view)
    (free : view.inLine = true → Clear self view.fileId)
    (busy : self.sender.busy view.fileId = true → view.inLine = true) :
    Line (self.upsertTransfer view) where
  toFooting := upsertTransfer_footing line.toFooting outgoing
  single one first two second stands also := by
    rcases upsertTransfer_among first with rfl | ⟨firstOld, _⟩
    · rcases upsertTransfer_among second with rfl | ⟨secondOld, _⟩
      · rfl
      · exact (free stands two secondOld also).symm
    · rcases upsertTransfer_among second with rfl | ⟨secondOld, _⟩
      · exact free also one firstOld stands
      · exact line.single one firstOld two secondOld stands also
  synced fileId going := by
    have before := (upsertTransfer_fades line.named view).busy going
    refine upsertTransfer_inLine line.toFooting (line.synced fileId before) ?_
    rintro rfl
    exact busy before

theorem upsertTransfer_pending (pending : Pending self view.fileId) (outgoing : Outgoing view) :
    Pending (self.upsertTransfer view) view.fileId where
  toFooting := upsertTransfer_footing pending.toFooting outgoing
  clear item member stands := by
    rcases upsertTransfer_among member with rfl | ⟨old, _⟩
    · rfl
    · exact pending.clear item old stands
  alone other going := pending.alone other ((upsertTransfer_fades pending.named view).busy going)

end Upserting

section Starting

theorem mapSenderStatus_inLine (status : SenderStatus) :
    mapSenderStatus status ∈ [TransferState.waiting, .sending, .paused] ↔ status.active = true := by
  cases status <;> decide

/-- The view that `showSender` shows. -/
def senderView (snapshot : SenderSnapshot) : TransferView :=
  ⟨snapshot.fileId, .send, snapshot.name, snapshot.size, snapshot.sentBytes,
    mapSenderStatus snapshot.status, snapshot.reason, none⟩

theorem senderView_inLine (snapshot : SenderSnapshot) :
    (senderView snapshot).inLine = snapshot.status.active := by
  rw [Bool.eq_iff_iff, ← mapSenderStatus_inLine]
  simp [TransferView.inLine, senderView]

theorem senderView_outgoing (snapshot : SenderSnapshot) : Outgoing (senderView snapshot) :=
  fun _ => ⟨snapshot.status, rfl⟩

theorem showSender_fades (named : Named self.sender) (snapshot : SenderSnapshot) :
    Fades self.sender (self.showSender snapshot).sender :=
  upsertTransfer_fades named (senderView snapshot)

theorem showSender_line {snapshot : SenderSnapshot} (line : Line self)
    (passive : snapshot.status.active = false)
    (rests : self.sender.busy snapshot.fileId = false) : Line (self.showSender snapshot) := by
  have view : (senderView snapshot).inLine = false := (senderView_inLine snapshot).trans passive
  refine upsertTransfer_line line (senderView_outgoing snapshot) (fun stands => ?_) (fun busy => ?_)
  · cases view.symm.trans stands
  · cases rests.symm.trans busy

theorem showSender_pending {snapshot : SenderSnapshot} (pending : Pending self snapshot.fileId) :
    Pending (self.showSender snapshot) snapshot.fileId :=
  upsertTransfer_pending pending (senderView_outgoing snapshot)

/-- An active transfer that is shown is in line. -/
theorem showSender_inLine (rows : Rows self) {snapshot : SenderSnapshot}
    (active : snapshot.status.active = true) :
    InLine (self.showSender snapshot) snapshot.fileId := by
  have stands := (senderView_inLine snapshot).trans active
  obtain ⟨shown, entered⟩ := upsertTransfer_shown rows (inLine_live stands)
  exact ⟨entered, senderView snapshot, shown, rfl, stands⟩

theorem startQueued_line (line : Line self)
    (free : ∀ item ∈ self.view.transfers, item.inLine = false) (fileId : String) :
    Line (self.startQueued fileId) := by
  have cut : Named { self.sender with notes := [] } := line.named
  have idle : ∀ other, self.sender.busy other = true → False := by
    intro other busy
    obtain ⟨_, item, listed, _, stands⟩ := line.synced other busy
    rw [free item listed] at stands
    cases stands
  obtain ⟨told, whole⟩ := startQueued_told cut rfl fileId
  have pending : Pending { self with
      sender := Sender.startQueued { self.sender with notes := [] } fileId } fileId := by
    refine ⟨line.toFooting.turned (startQueued_turned cut fileId) whole.named ?_, ?_, ?_⟩
    · exact fun _ _ _ _ same => by cases same
    · intro item member stands
      rw [free item member] at stands
      cases stands
    · intro other busy
      by_contra different
      rw [whole.busy different] at busy
      exact idle other busy
  -- Nothing was waiting under this id, or its offer goes out now.
  rcases startQueued_shows cut fileId with quiet | ⟨transfer, status, shown⟩
  · rw [SessionController.startQueued, quiet]
    refine pending.line fun busy => ?_
    have silent : told = [] := by
      have updates := whole.updates
      rw [quiet] at updates
      exact List.map_eq_nil_iff.mp updates.symm
    rw [Sender.busy, Bool.and_eq_true] at busy
    obtain ⟨listed, same⟩ := whole.silent silent busy.1
    refine absurd ?_ (idle fileId)
    rw [Sender.busy, Bool.and_eq_true]
    refine ⟨listed, ?_⟩
    rw [Sender.active, same] at busy
    exact busy.2
  · have own : transfer.fileId = fileId := by
      have updates := whole.updates
      rw [shown] at updates
      cases told with
      | nil => cases updates
      | cons first rest =>
          simp only [List.map_cons, FileSender.updates] at updates
          exact congrArg Prod.fst (List.cons.inj updates).1
    subst own
    -- The one transfer that is shown as active is the only one in line.
    have active : transfer.snapshot.status.active = true :=
      (congrArg SenderStatus.active status).trans rfl
    have stands := showSender_inLine pending.toRows active
    have shownAlone : Pending _ transfer.snapshot.fileId := showSender_pending pending
    have entered := shownAlone.line fun _ => stands
    rw [SessionController.startQueued, shown]
    have offered := entered.aside
      (sendApp_aside _ (.file (.offer transfer.offer)) (fileLane .control) none)
    exact offered

/-- No file is started while another one is in line. -/
theorem startNextQueuedFileIfAllowed_line (line : Line self) :
    Line self.startNextQueuedFileIfAllowed := by
  unfold startNextQueuedFileIfAllowed
  split
  · exact line
  · split
    · exact line
    · split
      · exact line
      · rename_i queued found
        split
        · exact line
        · rename_i free
          have listed : queued ∈ self.view.transfers :=
            List.mem_reverse.mp (List.mem_of_find?_eq_some found)
          have waits : queued.state = .queued := by
            have chosen := List.find?_some found
            simp only [decide_eq_true_eq] at chosen
            exact chosen.2
          refine startQueued_line line (fun item member => ?_) queued.fileId
          by_cases same : item.fileId = queued.fileId
          · rw [line.toRows.same member listed same, TransferView.inLine, waits]
            simp
          · rw [Bool.eq_false_iff]
            intro stands
            refine free (List.any_eq_true.mpr ⟨item, member, ?_⟩)
            simp only [TransferView.inLine, decide_eq_true_eq] at stands ⊢
            exact ⟨same, stands.1, List.mem_cons_of_mem _ stands.2⟩

theorem absorbShown_fades (notes : List SenderNote) (named : Named self.sender) :
    Fades self.sender (absorbSender showSender notes self).sender := by
  induction notes generalizing self with
  | nil => exact .refl named
  | cons note rest ih =>
      cases note with
      | onUpdate snapshot =>
          have shown := showSender_fades named snapshot
          exact shown.trans (ih shown.named)
      | sendApp message lane =>
          have same := (sendApp_aside self (.file message) (fileLane lane) none).sender
          have sent := ih (same ▸ named : Named (self.sendApp (.file message) (fileLane lane) none).sender)
          rw [same] at sent
          exact sent
      | setTimeout timer => exact ih named

theorem Fades.finished {before after : Sender} (fades : Fades before after)
    (finished : before.finished fileId = true) : after.finished fileId = true := by
  rw [Sender.finished, fades.status]
  exact finished

/-- What has ended stays ended. -/
theorem startNextQueuedFileIfAllowed_over (named : Named self.sender)
    (finished : self.sender.finished fileId = true) :
    self.startNextQueuedFileIfAllowed.sender.finished fileId = true := by
  unfold startNextQueuedFileIfAllowed
  split
  · exact finished
  · split
    · exact finished
    · split
      · exact finished
      · rename_i queued _
        split
        · exact finished
        · have cut : Named { self.sender with notes := [] } := named
          have started := FileSender.startQueued_over cut rfl finished queued.fileId
          have kept : Named (Sender.startQueued { self.sender with notes := [] } queued.fileId) :=
            (FileSender.startQueued_later _ _).named cut
          have held : Named { self with
              sender := Sender.startQueued { self.sender with notes := [] } queued.fileId }.sender := kept
          exact Fades.finished (absorbShown_fades _ held) started

end Starting

section Callbacks

variable {notes : List SenderNote} {told : List SenderStatus}

/-- A callback of the sender is the first of those that are left. -/
theorem updates_cons {snapshot : SenderSnapshot}
    (shown : updates (.onUpdate snapshot :: notes) = told.map fun status => (fileId, status)) :
    snapshot.fileId = fileId ∧ ∃ rest, told = snapshot.status :: rest ∧
      updates notes = rest.map fun status => (fileId, status) := by
  cases told with
  | nil => cases shown
  | cons status rest =>
      obtain ⟨first, others⟩ := List.cons.inj shown
      cases first
      exact ⟨rfl, rest, rfl, others⟩

/-- A transfer that is not shown as active, and is not, leaves the line as it is. -/
theorem absorbSender_line (line : Line self)
    (shown : updates notes = told.map fun status => (fileId, status))
    (idle : ∀ status ∈ told, status.active = false)
    (rests : told ≠ [] → self.sender.busy fileId = false)
    (finished : ∀ status ∈ told, status.terminal = true → self.sender.finished fileId = true) :
    Line (absorbSender updateSender notes self) := by
  induction notes generalizing self told with
  | nil => exact line
  | cons note rest ih =>
      cases note with
      | onUpdate snapshot =>
          obtain ⟨rfl, others, rfl, later⟩ := updates_cons shown
          have passive := idle snapshot.status List.mem_cons_self
          have laterIdle := fun status member => idle status (List.mem_cons_of_mem _ member)
          have fades := showSender_fades line.named snapshot
          have resting := rests (List.cons_ne_nil _ _)
          have listed := showSender_line line passive resting
          have quiet : (self.showSender snapshot).sender.busy snapshot.fileId = false := by
            rw [Bool.eq_false_iff]
            intro busy
            cases resting.symm.trans (fades.busy busy)
          change Line (absorbSender updateSender rest (self.updateSender snapshot))
          simp only [updateSender]
          split
          · rename_i terminal
            have ended := Fades.finished fades (finished _ List.mem_cons_self terminal)
            have still := startNextQueuedFileIfAllowed_over fades.named ended
            exact ih (startNextQueuedFileIfAllowed_line listed) later laterIdle
              (fun _ => Sender.busy_of_over still) (fun _ _ _ => still)
          · exact ih listed later laterIdle (fun _ => quiet) fun status member terminal =>
              Fades.finished fades (finished status (List.mem_cons_of_mem _ member) terminal)
      | sendApp message lane =>
          have aside := sendApp_aside self (.file message) (fileLane lane) none
          refine ih (line.aside aside) shown idle ?_ ?_
          · rw [aside.sender]
            exact rests
          · rw [aside.sender]
            exact finished
      | setTimeout timer => exact ih line shown idle rests finished

/-- A transfer that is alone may be shown in any way, if it is left as it was shown last. -/
theorem absorbSender_pending (pending : Pending self fileId)
    (shown : updates notes = told.map fun status => (fileId, status))
    (ended : told.Pairwise fun one two => one.terminal = true → two.terminal = true)
    (finished : ∀ status ∈ told, status.terminal = true → self.sender.finished fileId = true)
    (last : ∀ status, told.getLast? = some status → self.sender.statusOf fileId = some status)
    (silent : told = [] → self.sender.busy fileId = true → InLine self fileId) :
    Line (absorbSender updateSender notes self) := by
  induction notes generalizing self told with
  | nil => exact pending.line (silent (List.map_eq_nil_iff.mp shown.symm))
  | cons note rest ih =>
      cases note with
      | onUpdate snapshot =>
          obtain ⟨rfl, others, rfl, later⟩ := updates_cons shown
          obtain ⟨follows, laterEnded⟩ := List.pairwise_cons.mp ended
          have fades := showSender_fades pending.named snapshot
          have listed := showSender_pending pending
          change Line (absorbSender updateSender rest (self.updateSender snapshot))
          simp only [updateSender]
          split
          · rename_i terminal
            have finished := Fades.finished fades (finished _ List.mem_cons_self terminal)
            have still := startNextQueuedFileIfAllowed_over fades.named finished
            -- A terminal update starts the next file before the later notes are read.
            have free : Line (self.showSender snapshot) := by
              refine listed.line fun busy => ?_
              rw [Sender.busy_of_over finished] at busy
              cases busy
            refine absorbSender_line (startNextQueuedFileIfAllowed_line free) later ?_
              (fun _ => Sender.busy_of_over still) (fun _ _ _ => still)
            intro status member
            rw [Bool.eq_false_iff]
            intro active
            have finished := follows status member terminal
            rw [active_not_terminal active] at finished
            cases finished
          · refine ih listed later laterEnded (fun status member terminal => ?_)
              (fun status reached => ?_) fun none busy => ?_
            · exact Fades.finished fades (finished status (List.mem_cons_of_mem _ member) terminal)
            · rw [fades.status]
              refine last status ?_
              cases others with
              | nil => cases reached
              | cons second more => exact reached
            · subst none
              have stored := last snapshot.status rfl
              -- The last update is what the transfer looks like now.
              have active := fades.busy busy
              rw [Sender.busy, Sender.active, stored, Option.any_some, Bool.and_eq_true] at active
              exact showSender_inLine pending.toRows active.2
      | sendApp message lane =>
          have aside := sendApp_aside self (.file message) (fileLane lane) none
          refine ih (pending.aside aside) shown ended ?_ ?_ ?_
          · rw [aside.sender]
            exact finished
          · rw [aside.sender]
            exact last
          · rw [aside.sender, InLine, aside.order, aside.transfers]
            exact silent
      | setTimeout timer => exact ih pending shown ended finished last silent

/-- A turn of the sender brings a transfer into line only if no other one is. -/
theorem withSender_line {turned : Sender} (line : Line self)
    (footing : Footing { self with sender := turned })
    (whole : Told { self.sender with notes := [] } turned fileId told)
    (free : (∃ status ∈ told, status.active = true) → Clear self fileId) :
    Line (self.withSender turned) := by
  have before : ∀ other, other ≠ fileId → turned.busy other = true → InLine self other := by
    intro other different busy
    rw [whole.busy different] at busy
    exact line.synced other busy
  by_cases hot : ∃ status ∈ told, status.active = true
  · have clear := free hot
    have pending : Pending { self with sender := turned } fileId := by
      refine ⟨footing, clear, fun other busy => ?_⟩
      by_contra different
      obtain ⟨_, item, listed, same, stands⟩ := before other different busy
      exact different (same.symm.trans (clear item listed stands))
    refine absorbSender_pending pending whole.updates whole.ended
      (fun _ member terminal => whole.finished member terminal) whole.last ?_
    rintro rfl
    obtain ⟨_, none, _⟩ := hot
    cases none
  · have idle : ∀ status ∈ told, status.active = false :=
      fun status member => Bool.eq_false_iff.mpr fun active => hot ⟨status, member, active⟩
    have rests : told ≠ [] → turned.busy fileId = false := by
      intro some
      have reached := List.getLast?_eq_some_getLast some
      rw [Sender.busy, Sender.active, whole.last _ reached, Option.any_some,
        idle _ (List.mem_of_getLast? reached), Bool.and_false]
    have kept : Line { self with sender := turned } := by
      refine ⟨footing, line.single, fun other busy => ?_⟩
      by_cases same : other = fileId
      · subst same
        have silent : told = [] := by
          by_contra some
          cases (rests some).symm.trans busy
        rw [Sender.busy, Bool.and_eq_true] at busy
        obtain ⟨listed, status⟩ := whole.silent silent busy.1
        refine line.synced other ?_
        rw [Sender.busy, Bool.and_eq_true]
        refine ⟨listed, ?_⟩
        rw [Sender.active, status] at busy
        exact busy.2
      · exact before other same busy
    exact absorbSender_line kept whole.updates idle rests
      fun _ member terminal => whole.finished member terminal

theorem absorbReceiver_line (notes : List ReceiverNote) (line : Line self)
    (strange : ∀ snapshot, .onUpdate snapshot ∈ notes →
      self.sender.statusOf snapshot.fileId = none) : Line (absorbReceiver notes self) := by
  induction notes generalizing self with
  | nil => exact line
  | cons note rest ih =>
      have later : ∀ snapshot, .onUpdate snapshot ∈ rest →
          self.sender.statusOf snapshot.fileId = none :=
        fun snapshot member => strange snapshot (List.mem_cons_of_mem _ member)
      cases note with
      | onUpdate snapshot =>
          have mine := strange snapshot List.mem_cons_self
          have shown : Line (self.updateReceiver snapshot) := by
            refine upsertTransfer_line line (fun send => by cases send) (fun stands => ?_) fun busy => ?_
            · simp [TransferView.inLine] at stands
            · rw [Sender.busy, Sender.active, mine] at busy
              simp at busy
          have fades : Fades self.sender (self.updateReceiver snapshot).sender :=
            upsertTransfer_fades line.named _
          refine ih shown fun other member => ?_
          rw [fades.status]
          exact later other member
      | sendApp message =>
          have aside := sendApp_aside self (.file message) .control none
          refine ih (line.aside aside) ?_
          rw [aside.sender]
          exact later
      | onComplete file => exact ih line later
      | stored ref fileId index bytes status => exact ih line later

/-- What the receiver shows is never one of the sender's transfers. -/
theorem withReceiver_line {turned : Receiver} (line : Line self)
    (within : Within (fun fileId => self.sender.statusOf fileId = none) turned) :
    Line (self.withReceiver turned) := by
  have footing : Footing { self with receiver := turned } :=
    ⟨⟨line.order, line.views⟩, line.named, line.listed, within.objects, line.kinds⟩
  have kept : Line { self with receiver := turned } := ⟨footing, line.single, line.synced⟩
  exact absorbReceiver_line turned.notes kept within.shown

end Callbacks

end SessionController

end OnlyTwo.Session
