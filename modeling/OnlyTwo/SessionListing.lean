import OnlyTwo.SessionOffers

/-!
Whether the transfers stay in order over a whole run. They do unless an id is written into
`transferOrder` that is shown nowhere, or a silent disconnect drops the order under the views.
The first happens to an offer that the receiver refuses, and to a call of `offerFile` that ends
when its transfer is no longer listed.
-/

namespace OnlyTwo.Session

open Bytes FileProtocol FileSender FileReceiver Reliable AppMessages

namespace SessionController

variable {self : SessionController} {fileId : String}

section Listing

theorem mapSenderStatus_terminal (status : SenderStatus) :
    (mapSenderStatus status).terminal = status.terminal := by
  cases status <;> rfl

theorem absorbSender_keeps {notes : List SenderNote}
    (live : ∀ snapshot, .onUpdate snapshot ∈ notes → snapshot.status.terminal = false)
    (tidy : Tidy self) (listed : fileId ∈ self.transferOrder) :
    fileId ∈ (absorbSender showSender notes self).transferOrder := by
  induction notes generalizing self with
  | nil => exact listed
  | cons note rest ih =>
      have later : ∀ snapshot, .onUpdate snapshot ∈ rest → snapshot.status.terminal = false :=
        fun snapshot member => live snapshot (List.mem_cons_of_mem _ member)
      cases note with
      | onUpdate snapshot =>
          have going := (mapSenderStatus_terminal _).trans (live snapshot List.mem_cons_self)
          exact ih later (upsertTransfer_tidy tidy _)
            (upsertTransfer_keeps tidy going (Or.inr listed))
      | sendApp message lane =>
          have aside := sendApp_aside self (.file message) (fileLane lane) none
          exact ih later (tidy_of_aside tidy aside) (aside.order ▸ listed)
      | setTimeout timer => exact ih later tidy listed

theorem startQueued_keeps (named : Named self.sender) (tidy : Tidy self)
    (listed : fileId ∈ self.transferOrder) (other : String) :
    fileId ∈ (self.startQueued other).transferOrder := by
  have cut : Named { self.sender with notes := [] } := named
  refine absorbSender_keeps ?_ (tidy_of_same tidy rfl rfl) listed
  intro snapshot member
  rcases startQueued_shows cut other with quiet | ⟨transfer, status, shown⟩
  · rw [quiet] at member
    cases member
  · rw [shown] at member
    obtain rfl : snapshot = transfer.snapshot := by simpa using member
    exact (congrArg SenderStatus.terminal status).trans rfl

theorem startNextQueuedFileIfAllowed_keeps (named : Named self.sender) (tidy : Tidy self)
    (listed : fileId ∈ self.transferOrder) :
    fileId ∈ self.startNextQueuedFileIfAllowed.transferOrder := by
  unfold startNextQueuedFileIfAllowed
  split
  · exact listed
  · split
    · exact listed
    · split
      · exact listed
      · split
        · exact listed
        · exact startQueued_keeps named tidy listed _

/-- A turn that shows one transfer lists it, if there is room for it in case it is over. -/
theorem withSender_lists {turned : Sender} {transfer : Transfer} (named : Named turned)
    (tidy : Tidy self) (shown : turned.notes = [.onUpdate transfer.snapshot])
    (room : transfer.status.terminal = true →
      self.endedAhead transfer.fileId < maxRetainedTransfers) :
    transfer.fileId ∈ (self.withSender turned).transferOrder := by
  have held : Tidy { self with sender := turned } := tidy_of_same tidy rfl rfl
  have listed : transfer.fileId ∈
      ({ self with sender := turned }.showSender transfer.snapshot).transferOrder :=
    upsertTransfer_lists held fun finished => room ((mapSenderStatus_terminal _).symm.trans finished)
  have kept : Named ({ self with sender := turned }.showSender transfer.snapshot).sender :=
    (upsertTransfer_later named _).named named
  rw [withSender, shown]
  change _ ∈ ({ self with sender := turned }.updateSender transfer.snapshot).transferOrder
  simp only [updateSender]
  split
  · exact startNextQueuedFileIfAllowed_keeps kept (upsertTransfer_tidy held _) listed
  · exact listed

theorem onReceiver_offer_lists {fields : FileOffer} (tidy : Tidy self)
    (may : self.receiver.Takes fields ∨ fields.fileId ∈ self.transferOrder) :
    fields.fileId ∈ (self.onReceiver fun receiver => receiver.offer fields).transferOrder := by
  have turned : Tidy { self with
      receiver := Receiver.offer { self.receiver with notes := [] } fields } :=
    tidy_of_same tidy rfl rfl
  have shown : ∀ session : SessionController, Tidy session → fields.fileId ∈
      (absorbReceiver [.onUpdate (Receiver.newTransfer fields).snapshot] session).transferOrder :=
    fun _ kept => upsertTransfer_keeps kept rfl (Or.inl rfl)
  simp only [onReceiver, withReceiver]
  rcases may with takes | listed
  · have taken : Receiver.Takes { self.receiver with notes := [] } fields :=
      ⟨takes.size, takes.chunks, takes.previous, takes.free⟩
    rw [Receiver.offer_notes taken]
    exact shown _ turned
  · rcases Receiver.offer_shows { self.receiver with notes := [] } fields with taken | ⟨_, refused⟩
    · rw [taken]
      exact shown _ turned
    · rw [refused]
      change _ ∈ (sendApp _ _ _ _).transferOrder
      rw [(sendApp_aside _ _ _ _).order]
      exact listed

/-- Whether the id of an `offerFile` call will be listed at the end of a turn, if this is its
last one. It waits for the hash of its file or for the send of its offer, or for nothing. -/
def lists (self : SessionController) (awaited : Option Nat) (fileId : String) (outcome : Outcome) :
    Bool :=
  match awaited.bind self.sender.calls.get? with
  | some (.hashing _ queued) => !queued ||
      (self.sender.objects.get? fileId).all fun transfer =>
        !transfer.status.terminal || self.endedAhead fileId < maxRetainedTransfers
  | some (.offering _) =>
      if outcome = .ok false then self.endedAhead fileId < maxRetainedTransfers
      else fileId ∈ self.transferOrder
  | _ => fileId ∈ self.transferOrder

theorem settle_lists {digest : Bytes → String} {ticket : Nat} {outcome : Outcome} {turned : Sender}
    (tidy : Tidy self) (named : Named self.sender) (awaits : Awaits self.sender ticket fileId)
    (lists : self.lists (some ticket) fileId outcome = true)
    (stepped : { self.sender with notes := [] }.turn digest (.settle ticket outcome) = some turned)
    (finished : newTicket self.sender.calls turned.calls = none) :
    fileId ∈ (self.withSender turned).transferOrder := by
  have cut : Named { self.sender with notes := [] } := named
  have kept := (turn_later digest cut stepped).named cut
  obtain ⟨⟨call, rest⟩, taken, rfl⟩ := Option.map_eq_some_iff.mp stepped
  obtain ⟨held, rfl⟩ := Callbacks.take_eq_some.mp taken
  have held : self.sender.calls.get? ticket = some call := held
  obtain ⟨transfer, found⟩ : ∃ transfer, self.sender.objects.get? fileId = some transfer := by
    cases found : self.sender.objects.get? fileId with
    | some transfer => exact ⟨transfer, rfl⟩
    | none =>
        have missing := (InsertionMap.get?_eq_none_iff _ _).mp found
        exact absurd ((InsertionMap.has_iff _ _).mp awaits.object) missing
  have free : Named { self.sender with
      notes := []
      calls := self.sender.calls.remove ticket } := named
  -- The call is the digest of the file, or the `sendApp` of its offer.
  rcases awaits.offers call held with ⟨queued, rfl⟩ | rfl
  · obtain ⟨hashed, own, status, settled⟩ := hashed_eq digest outcome queued free found
    simp only [SessionController.lists, Option.bind_some, held, found] at lists
    cases queued with
    | true =>
        have shown : (Sender.settle digest { self.sender with
            notes := []
            calls := self.sender.calls.remove ticket } outcome (.hashing fileId true)).notes =
            [.onUpdate hashed.snapshot] := by
          rw [settled]
          rfl
        have room : transfer.status.terminal = true →
            self.endedAhead fileId < maxRetainedTransfers := by
          intro ended
          simpa [ended] using lists
        have listed := withSender_lists kept tidy shown fun ended => own ▸ room (status ▸ ended)
        rw [own] at listed
        exact listed
    | false =>
        -- An offer that goes out suspends a new call, so the turn has not finished it.
        have later : self.sender.calls.next < (Sender.settle digest { self.sender with
            notes := []
            calls := self.sender.calls.remove ticket } outcome (.hashing fileId false)).calls.next := by
          rw [settled]
          exact Nat.lt_succ_self _
        rw [newTicket, if_pos later] at finished
        cases finished
  · simp only [SessionController.lists, Option.bind_some, held] at lists
    by_cases refused : outcome = .ok false
    · rw [if_pos refused, decide_eq_true_eq] at lists
      subst refused
      obtain ⟨failed, own, status, shown⟩ := fail_shows free found "Could not send file offer"
      have listed := withSender_lists kept tidy shown fun _ => own ▸ lists
      rw [own] at listed
      exact listed
    · rw [if_neg refused, decide_eq_true_eq] at lists
      rw [offering_still digest refused]
      exact lists

end Listing

end SessionController

section Runs

open SessionController

/-- The offer of the peer that an event hands to the receiver. -/
def Loop.offers (self : Loop) (event : Event) : Option FileOffer :=
  (self.delivers event).bind fun
    | .file (.offer fields) => some fields
    | _ => none

/-- The turn of an `offerFile` call: what it waited for, its file and how the wait ended. -/
def Loop.resumes (self : Loop) : Event → Option (Option Nat × String × Outcome)
  | .settle ticket reply => (self.calls.get? ticket).bind fun
      | .offering awaited fileId _ _ => some (awaited, fileId, reply.outcome)
      | _ => none
  | _ => none

structure Neat (loop : Loop) (event : Event) : Prop where
  offer : ∀ fields ∈ loop.offers event,
    loop.session.receiver.Takes fields ∨ fields.fileId ∈ loop.session.transferOrder
  ends : ∀ call ∈ loop.resumes event, loop.session.lists call.1 call.2.1 call.2.2 = true
  tear : loop.tears event = true → loop.session.view.transfers = []

instance (loop : Loop) (event : Event) : Decidable (Neat loop event) :=
  decidable_of_iff (_ ∧ _ ∧ _)
    ⟨fun ⟨offer, ends, tear⟩ => ⟨offer, ends, tear⟩, fun ⟨offer, ends, tear⟩ => ⟨offer, ends, tear⟩⟩

variable {digest : Bytes → String} {loop : Loop} {event : Event}

theorem Neat.permits (neat : Neat loop event) (tidy : Tidy loop.session) (matched : Matched loop) :
    Permits digest ledger loop event where
  grants message delivers := by
    cases message with
    | file message =>
        cases message with
        | offer fields =>
            refine ⟨trivial, fun after aside => ?_⟩
            refine onReceiver_offer_lists (tidy_of_aside tidy aside) ?_
            rw [aside.receiver, aside.order]
            refine neat.offer fields ?_
            rw [Loop.offers, delivers]
            rfl
        | _ => trivial
    | _ => trivial
  draw _ _ := trivial
  settles ticket reply awaited fileId queued voiceActive same found := by
    subst same
    have lists : loop.session.lists awaited fileId reply.outcome = true := by
      refine neat.ends (awaited, fileId, reply.outcome) ?_
      simp only [Loop.resumes, found]
      rfl
    refine ⟨?_, fun _ _ => trivial, ?_⟩
    · rintro rfl
      have listed : fileId ∈ loop.session.transferOrder := of_decide_eq_true lists
      exact listed
    · rintro k turned rfl stepped finished
      exact settle_lists tidy matched.named (matched.waits _ _ _ _ _ found) lists stepped finished
  call _ _ _ := trivial
  timer _ _ := trivial
  tear := neat.tear

theorem tidy_create : Tidy Loop.create.session where
  distinct := List.nodup_nil
  follows := rfl
  retained := Nat.zero_le _
  transcript := Nat.zero_le _

theorem Tidy.length_order {session : SessionController} (tidy : Tidy session) :
    session.transferOrder.length ≤
      (session.view.transfers.filter fun item => !item.state.terminal).length +
        maxRetainedTransfers := by
  have parts := List.length_eq_length_filter_add (l := session.view.transfers)
    fun item => item.state.terminal
  have bound := tidy.retained
  rw [← tidy.follows, List.length_map, parts]
  omega

/-- In a run that lists nothing that is not shown, the transfers stay in order. -/
theorem transfers_stay_listed {history : List Moment}
    (run : (machine digest).Run Neat Loop.create loop history) :
    Tidy loop.session ∧ loop.session.transferOrder.length ≤
      (loop.session.view.transfers.filter fun item => !item.state.terminal).length +
        maxRetainedTransfers := by
  have kept : Tidy loop.session ∧ Matched loop := by
    apply run.state_invariant (fun loop => Tidy loop.session ∧ Matched loop)
    · exact ⟨tidy_create, matched_create⟩
    · rintro before event after outputs ⟨tidy, matched⟩ neat stepped
      have deeds := Loop.step_deeds ledger_fair (neat.permits tidy matched) stepped
      exact ⟨deeds.tidy tidy, Loop.step_matched matched stepped⟩
  exact ⟨kept.1, kept.1.length_order⟩

/-- A peer offers a file, and the user offers another one. -/
def offersListed : List Event :=
  handshakeTaken ++ [.resume (.text "river lunar"), .envelope (.data 1), .begin,
    .resume (.message (.reliable (.msg "1" .control ⟨.file (.offer
      ⟨"theirs", utf16 "a.txt", utf16 "text/plain", 3, 3, 1, none⟩), rfl⟩ 7 1))),
    .resume (.flag true), .request (.offerFile ⟨utf16 "b.txt", utf16 "text/plain", [1, 2]⟩),
    .settle 5 .done, .settle 6 (.flag true)]

/-- A peer offers a file that is too large; the receiver refuses it. -/
def offerRefused : List Event :=
  handshakeTaken ++ [.resume (.text "river lunar"), .envelope (.data 1), .begin,
    .resume (.message (.reliable (.msg "1" .control ⟨.file (.offer
      ⟨"refused", utf16 "a.mkv", utf16 "video/x-matroska", 8000000000, 16384, 488282, none⟩), rfl⟩
      7 1))), .resume (.flag true)]

theorem offers_stay_listed :
    ∃ loop history, (machine fun _ => "digest").Run Neat Loop.create loop history ∧
      Tidy loop.session ∧ loop.session.transferOrder.length ≤
        (loop.session.view.transfers.filter fun item => !item.state.terminal).length +
          maxRetainedTransfers := by
  have ran : ((machine fun _ => "digest").execute Loop.create offersListed).map (fun result =>
      result.1.session.transferOrder) = some ["file_4", "theirs"] := by
    decide +kernel
  have along : (machine fun _ => "digest").Along Neat Loop.create offersListed := by
    decide +kernel
  obtain ⟨⟨loop, history⟩, executed, _⟩ := Option.map_eq_some_iff.mp ran
  have run := Machine.execute_run _ along executed
  exact ⟨loop, history, run, transfers_stay_listed run⟩

/-- The id of an offer that was refused is in the order, and there is no view for it. -/
theorem refused_offer_unlisted :
    ∃ loop history, (machine fun _ => "digest").Run Machine.Unrestricted Loop.create loop history ∧
      loop.session.transferOrder = ["refused"] ∧ loop.session.view.transfers = [] ∧
        ¬Tidy loop.session := by
  have ran : ((machine fun _ => "digest").execute Loop.create offerRefused).map (fun result =>
      (result.1.session.transferOrder, result.1.session.view.transfers)) = some (["refused"], []) := by
    decide +kernel
  obtain ⟨⟨loop, history⟩, executed, same⟩ := Option.map_eq_some_iff.mp ran
  simp only [Prod.mk.injEq] at same
  obtain ⟨order, shown⟩ := same
  refine ⟨loop, history, Machine.execute_run _ (Machine.along_unrestricted _ _) executed, order, shown,
    fun tidy => ?_⟩
  have follows := tidy.follows
  rw [order, shown] at follows
  cases follows

end Runs

end OnlyTwo.Session
