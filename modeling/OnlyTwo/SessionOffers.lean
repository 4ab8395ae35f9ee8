import OnlyTwo.FileReceiverOffers
import OnlyTwo.SessionBooks

/-!
Two places write an id into `transferOrder` by themselves: the handler of `file.offer`, after
the receiver has taken or refused the offer, and `offerFile`, after its awaits. The receiver
shows a transfer it takes, so that its id is listed by then. A call of `offerFile` waits for the
hash or for the offer of its own file, which is shown then or has been shown before; what
happens during the await may have taken it away again.
-/

namespace OnlyTwo.Session

open Bytes FileProtocol FileSender FileReceiver Reliable AppMessages

namespace SessionController

variable {self : SessionController} {fileId : String}

section Later

theorem ensureTransferOrder_sender (self : SessionController) (fileId : String) :
    (self.ensureTransferOrder fileId).sender = self.sender := by
  unfold ensureTransferOrder
  split <;> rfl

theorem forgetTransfers_later (named : Named self.sender) (fileIds : List String) :
    Later self.sender (fileIds.foldl forgetTransfer self).sender := by
  induction fileIds generalizing self with
  | nil => exact .refl _
  | cons fileId rest ih =>
      have removed : Later self.sender (self.forgetTransfer fileId).sender :=
        remove_later named fileId
      exact removed.trans (ih (removed.named named))

theorem upsertTransfer_later (named : Named self.sender) (view : TransferView) :
    Later self.sender (self.upsertTransfer view).sender := by
  have same : ((self.showTransfer view).listFile view).sender = self.sender :=
    (listFile_aside _ view).sender.trans (ensureTransferOrder_sender self view.fileId)
  have kept : Named ((self.showTransfer view).listFile view).sender := same ▸ named
  have trimmed := forgetTransfers_later kept
    (((self.showTransfer view).listFile view).retained.drop maxRetainedTransfers)
  rw [same] at trimmed
  exact trimmed

theorem absorbSender_later {onUpdate : SessionController → SenderSnapshot → SessionController}
    (keeps : ∀ session snapshot, Named session.sender →
      Later session.sender (onUpdate session snapshot).sender)
    (notes : List SenderNote) (named : Named self.sender) :
    Later self.sender (absorbSender onUpdate notes self).sender := by
  induction notes generalizing self with
  | nil => exact .refl _
  | cons note rest ih =>
      cases note with
      | onUpdate snapshot =>
          have shown := keeps self snapshot named
          exact shown.trans (ih (shown.named named))
      | sendApp message lane =>
          have same := (sendApp_aside self (.file message) (fileLane lane) none).sender
          have sent := ih (same ▸ named : Named (self.sendApp (.file message) (fileLane lane) none).sender)
          rw [same] at sent
          exact sent
      | setTimeout timer => exact ih named

/-- A turn of the sender and its callbacks. -/
theorem absorbed_later {onUpdate : SessionController → SenderSnapshot → SessionController}
    (keeps : ∀ session snapshot, Named session.sender →
      Later session.sender (onUpdate session snapshot).sender)
    {turned : Sender} (named : Named turned) :
    Later turned (absorbSender onUpdate turned.notes { self with sender := turned }).sender := by
  have held : Named { self with sender := turned }.sender := named
  exact absorbSender_later keeps turned.notes held

theorem startQueued_later (named : Named self.sender) (fileId : String) :
    Later self.sender (self.startQueued fileId).sender := by
  have cut : Later self.sender { self.sender with notes := [] } := .of_same rfl rfl
  have started := cut.trans (FileSender.startQueued_later _ fileId)
  exact started.trans (absorbed_later (fun _ _ kept => upsertTransfer_later kept _)
    (started.named named))

theorem startNextQueuedFileIfAllowed_later (named : Named self.sender) :
    Later self.sender self.startNextQueuedFileIfAllowed.sender := by
  unfold startNextQueuedFileIfAllowed
  split
  · exact .refl _
  · split
    · exact .refl _
    · split
      · exact .refl _
      · split
        · exact .refl _
        · exact startQueued_later named _

theorem updateSender_later (named : Named self.sender) (snapshot : SenderSnapshot) :
    Later self.sender (self.updateSender snapshot).sender := by
  have shown : Later self.sender (self.showSender snapshot).sender := upsertTransfer_later named _
  simp only [updateSender]
  split
  · exact shown.trans (startNextQueuedFileIfAllowed_later (shown.named named))
  · exact shown

theorem withSender_later {turned : Sender} (named : Named turned) :
    Later turned (self.withSender turned).sender :=
  absorbed_later (fun _ snapshot kept => updateSender_later kept snapshot) named

theorem absorbReceiver_later (notes : List ReceiverNote) (named : Named self.sender) :
    Later self.sender (absorbReceiver notes self).sender := by
  induction notes generalizing self with
  | nil => exact .refl _
  | cons note rest ih =>
      cases note with
      | onUpdate snapshot =>
          have shown : Later self.sender (self.updateReceiver snapshot).sender :=
            upsertTransfer_later named _
          exact shown.trans (ih (shown.named named))
      | sendApp message =>
          have same := (sendApp_aside self (.file message) .control none).sender
          have sent := ih (same ▸ named : Named (self.sendApp (.file message) .control none).sender)
          rw [same] at sent
          exact sent
      | onComplete file => exact ih named
      | stored ref fileId index bytes status => exact ih named

theorem withReceiver_later {turned : Receiver} (named : Named self.sender) :
    Later self.sender (self.withReceiver turned).sender := by
  have held : Named { self with receiver := turned }.sender := named
  exact absorbReceiver_later turned.notes held

end Later

end SessionController

section Deeds

open SessionController

variable {digest : Bytes → String} {rules : Rules} {before after : SessionController}

theorem Deed.later (deed : Deed digest rules before after) (named : Named before.sender) :
    Later before.sender after.sender := by
  have cut : Later before.sender { before.sender with notes := [] } := .of_same rfl rfl
  cases deed with
  | aside aside => exact .of_same (aside.sender ▸ rfl) (aside.sender ▸ rfl)
  | adopted id => exact .of_same rfl rfl
  | sent event _ stepped =>
      have turned := cut.trans (turn_later digest (cut.named named) stepped)
      exact turned.trans (withSender_later (turned.named named))
  | offered file _ _ =>
      have turned := cut.trans (offer_later _ (before.makeId "file") file
        (before.isVoiceActive || before.hasActiveFile))
      exact turned.trans (withSender_later (turned.named named))
  | next => exact startNextQueuedFileIfAllowed_later named
  | received event _ _ => exact withReceiver_later named
  | forgot transfer _ _ => exact remove_later named _
  | ordered fileId _ =>
      rw [ensureTransferOrder_sender]
      exact .refl _
  | torn cleared _ _ =>
      obtain ⟨files, same⟩ := cleared.sender
      rw [same]
      exact (reset_later named).trans (.of_same rfl rfl)
  | emptied cleared _ =>
      obtain ⟨files, same⟩ := cleared.sender
      rw [same]
      exact (reset_later named).trans (.of_same rfl rfl)

theorem Deeds.later (deeds : Deeds digest rules before after) (named : Named before.sender) :
    Later before.sender after.sender := by
  induction deeds with
  | refl => exact .refl _
  | tail _ deed ih => exact ih.trans (deed.later (ih.named named))

/-- Nothing is forbidden. -/
def anything : Rules := ⟨fun _ _ => True, fun _ _ => True, fun _ => True, fun _ _ => True, fun _ => True⟩

theorem anything_fair : anything.Fair :=
  ⟨fun _ _ => trivial, fun _ _ => trivial, fun _ => trivial, fun _ => trivial⟩

theorem anything_permits (loop : Loop) (event : Event) : Permits digest anything loop event where
  grants message _ := by
    cases message with
    | file message => cases message <;> simp [Rules.grants, anything]
    | _ => trivial
  draw _ _ := trivial
  settles _ _ _ _ _ _ _ _ := ⟨fun _ => trivial, fun _ _ => trivial, fun _ _ _ _ _ => trivial⟩
  call _ _ _ := trivial
  timer _ _ := trivial
  tear _ := trivial

theorem Loop.step_later {before after : Loop} {event : Event} {outputs : List Moment}
    (named : Named before.session.sender)
    (stepped : before.step digest event = some (after, outputs)) :
    Later before.session.sender after.session.sender :=
  (Loop.step_deeds anything_fair (anything_permits before event) stepped).later named

end Deeds

section Calls

open SessionController

/-- The sender's call under this ticket, if it is still suspended, is part of this offer. -/
structure Awaits (sender : Sender) (ticket : Nat) (fileId : String) : Prop where
  older : ticket < sender.calls.next
  object : sender.objects.has fileId = true
  offers : ∀ call, sender.calls.get? ticket = some call → call.offers fileId

structure Matched (loop : Loop) : Prop where
  named : Named loop.session.sender
  waits : ∀ ticket awaited fileId queued voiceActive,
    loop.calls.get? ticket = some (.offering (some awaited) fileId queued voiceActive) →
    Awaits loop.session.sender awaited fileId

theorem Awaits.later {before after : Sender} {ticket : Nat} {fileId : String}
    (awaits : Awaits before ticket fileId) (later : Later before after) :
    Awaits after ticket fileId where
  older := awaits.older.trans_le later.next
  object := later.objects fileId awaits.object
  offers call found := awaits.offers call (later.held ticket call awaits.older found)

theorem Awaits.new {before after : Sender} {ticket : Nat} {fileId : String}
    (suspends : Suspends before after fileId)
    (fresh : newTicket before.calls after.calls = some ticket) : Awaits after ticket fileId := by
  unfold newTicket at fresh
  split at fresh
  · rename_i older
    cases fresh
    exact ⟨older, suspends.1, suspends.2⟩
  · cases fresh

variable {digest : Bytes → String} {session : SessionController}

theorem offerFile_awaits {file : File} {awaited : Nat} {fileId : String}
    {queued voiceActive : Bool} (named : Named session.sender)
    (called : (session.offerFile file).2 = some (.offering (some awaited) fileId queued voiceActive)) :
    Awaits (session.offerFile file).1.sender awaited fileId := by
  simp only [offerFile] at called ⊢
  split at called
  · cases called
  · rename_i secure
    split at called
    · cases called
    · rename_i fits
      rw [if_neg secure]
      simp only [Option.some.injEq, LocalCall.offering.injEq] at called
      obtain ⟨fresh, rfl, _, _⟩ := called
      have cut : Named { session.sender with notes := [] } := named
      have turned := offer_later { session.sender with notes := [] } (session.makeId "file") file
        (session.isVoiceActive || session.hasActiveFile)
      have suspends : Suspends { session.sender with notes := [] } _ (session.makeId "file") :=
        offer_suspends file (session.isVoiceActive || session.hasActiveFile) fits
      exact (Awaits.new suspends fresh).later (withSender_later (turned.named cut))

theorem perform_awaits {request : Request} {awaited : Nat} {fileId : String}
    {queued voiceActive : Bool} (named : Named session.sender)
    (called : (session.perform request).2 = some (.offering (some awaited) fileId queued voiceActive)) :
    Awaits (session.perform request).1.sender awaited fileId := by
  cases request with
  | offerFile file => exact offerFile_awaits named called
  | setProfile id =>
      simp only [perform] at called
      split at called <;> cases called
  | createRoom =>
      simp only [perform, beginStartup] at called
      split at called <;> cases called
  | joinRoom code =>
      simp only [perform, beginStartup] at called
      split at called
      · cases called
      · split at called <;> cases called
  | sendText body =>
      simp only [perform, sendText] at called
      split at called
      · cases called
      · split at called
        · cases called
        · split at called <;> cases called
  | cancelFile id =>
      simp only [perform, cancelFile] at called
      split at called
      · cases called
      · split at called <;> cases called
  | startVoice =>
      simp only [perform, startVoice] at called
      split at called
      · cases called
      · split at called <;> cases called
  | stopVoice =>
      simp only [perform, stopVoice] at called
      split at called <;> cases called
  | _ => cases called

theorem settleLocal_awaits {call : LocalCall} {reply : Reply}
    {turned : SessionController × Option LocalCall} {awaited : Nat} {fileId : String}
    {queued voiceActive : Bool} (named : Named session.sender)
    (waits : ∀ awaited fileId queued voiceActive,
      call = .offering (some awaited) fileId queued voiceActive →
      Awaits session.sender awaited fileId)
    (settled : session.settleLocal digest call reply = some turned)
    (called : turned.2 = some (.offering (some awaited) fileId queued voiceActive)) :
    Awaits turned.1.sender awaited fileId := by
  unfold settleLocal at settled
  split at settled
  · cases settled; cases called
  · cases settled; cases called
  · cases settled; cases called
  · cases settled; cases called
  · cases settled; cases called
  · split at settled <;> cases settled <;> cases called
  · cases settled; cases called
  · split at settled
    · cases settled; cases called
    · dsimp only at settled
      split at settled <;> cases settled <;> cases called
  · obtain ⟨result, answered, rfl⟩ := Option.map_eq_some_iff.mp settled
    cases result <;> cases called
  · cases settled; cases called
  · cases settled; cases called
  · rename_i ticket id late active
    obtain ⟨sender, stepped, rfl⟩ := Option.map_eq_some_iff.mp settled
    have waiting := waits ticket id late active rfl
    have cut : Named { session.sender with notes := [] } := named
    dsimp only at called ⊢
    split at called
    · cases called
    · rename_i next fresh
      cases called
      have turned := turn_later digest cut stepped
      obtain ⟨⟨call, rest⟩, taken, rfl⟩ := Option.map_eq_some_iff.mp stepped
      obtain ⟨held, rfl⟩ := Callbacks.take_eq_some.mp taken
      have free : Named { session.sender with
          notes := []
          calls := session.sender.calls.remove ticket } := named
      have suspends := settle_suspends digest reply.outcome free (waiting.offers call held)
        waiting.object
      exact (Awaits.new suspends fresh).later (withSender_later (turned.named cut))
  · cases settled; cases called
  · cases settled; cases called
  · cases settled; cases called
  · cases settled; cases called
  · cases settled; cases called
  · cases settled

/-- The events after which a call of the user goes on. -/
def Event.asks : Event → Bool
  | .request _ => true
  | .settle _ _ => true
  | _ => false

variable {before after : Loop} {event : Event} {outputs : List Moment}

theorem Loop.step_calls (other : event.asks = false)
    (stepped : before.step digest event = some (after, outputs)) : after.calls = before.calls := by
  cases event with
  | request request => cases other
  | settle ticket reply => cases other
  | begin =>
      simp only [step] at stepped
      split at stepped <;> cases stepped
      rfl
  | resume reply =>
      obtain ⟨call, _, resumed⟩ := Option.bind_eq_some_iff.mp stepped
      obtain ⟨turned, _, same⟩ := Option.map_eq_some_iff.mp resumed
      cases same
      rfl
  | transportStatus status =>
      cases stepped
      rfl
  | relayEvent relayed =>
      cases stepped
      rfl
  | envelope packet =>
      cases stepped
      rfl
  | endSessionTimer =>
      simp only [step] at stepped
      split at stepped <;> cases stepped
      rfl
  | voiceIdleTimer =>
      simp only [step] at stepped
      split at stepped <;> cases stepped
      rfl
  | senderCall ticket outcome =>
      simp only [step] at stepped
      split at stepped
      · cases stepped
      · obtain ⟨turned, _, same⟩ := Option.map_eq_some_iff.mp stepped
        cases same
        rfl
  | receiverCall ticket outcome =>
      simp only [step] at stepped
      split at stepped
      · cases stepped
      · obtain ⟨turned, _, same⟩ := Option.map_eq_some_iff.mp stepped
        cases same
        rfl
  | tick elapsed =>
      simp only [step] at stepped
      obtain ⟨turned, _, same⟩ := Option.map_eq_some_iff.mp stepped
      cases same
      rfl
  | _ =>
      obtain ⟨turned, _, same⟩ := Option.map_eq_some_iff.mp stepped
      cases same
      rfl

theorem Loop.suspend_awaits {loop : Loop} {turned : SessionController × Option LocalCall}
    (waits : ∀ ticket awaited fileId queued voiceActive,
      loop.calls.get? ticket = some (.offering (some awaited) fileId queued voiceActive) →
      Awaits turned.1.sender awaited fileId)
    (called : ∀ awaited fileId queued voiceActive,
      turned.2 = some (.offering (some awaited) fileId queued voiceActive) →
      Awaits turned.1.sender awaited fileId)
    {ticket awaited : Nat} {fileId : String} {queued voiceActive : Bool}
    (found : (loop.suspend turned).calls.get? ticket =
      some (.offering (some awaited) fileId queued voiceActive)) :
    Awaits turned.1.sender awaited fileId := by
  simp only [Loop.suspend] at found
  split at found
  · exact waits _ _ _ _ _ found
  · rename_i call suspended
    rw [Callbacks.get?_add] at found
    split at found
    · cases found
      exact called _ _ _ _ suspended
    · exact waits _ _ _ _ _ found

/-- Every call of `offerFile` waits for its own file, in every reachable state. -/
theorem Loop.step_matched (matched : Matched before)
    (stepped : before.step digest event = some (after, outputs)) : Matched after := by
  have later := Loop.step_later matched.named stepped
  refine ⟨later.named matched.named, fun ticket awaited fileId queued voiceActive found => ?_⟩
  cases asks : event.asks with
  | false =>
      rw [Loop.step_calls asks stepped] at found
      exact (matched.waits _ _ _ _ _ found).later later
  | true =>
      cases event with
      | request request =>
          cases stepped
          refine Loop.suspend_awaits (fun _ _ _ _ _ old => (matched.waits _ _ _ _ _ old).later later)
            (fun _ _ _ _ called => perform_awaits matched.named called) found
      | settle ticket reply =>
          obtain ⟨⟨call, rest⟩, taken, settled⟩ := Option.bind_eq_some_iff.mp stepped
          obtain ⟨turned, answered, same⟩ := Option.map_eq_some_iff.mp settled
          cases same
          obtain ⟨held, rfl⟩ := Callbacks.take_eq_some.mp taken
          refine Loop.suspend_awaits (fun _ _ _ _ _ old =>
            (matched.waits _ _ _ _ _ (Callbacks.get?_of_remove old)).later later)
            (fun _ _ _ _ called => settleLocal_awaits matched.named ?_ answered called) found
          rintro _ _ _ _ rfl
          exact matched.waits _ _ _ _ _ held
      | _ => cases asks

theorem matched_create : Matched Loop.create where
  named fileId transfer found := by cases found
  waits ticket awaited fileId queued voiceActive found := by cases found

end Calls

end OnlyTwo.Session
