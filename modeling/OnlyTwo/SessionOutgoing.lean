import OnlyTwo.SessionLine
import OnlyTwo.SessionListing

/-!
At most one outgoing file is in line, in runs that go in single file. `offerFile` looks for an
active transfer before the file is hashed and registered, and the handlers of `file.accept` and
`file.pause` do not look at all. So the runs in question are those in which a turn of the sender
wakes a transfer only while no other one is in line.
-/

namespace OnlyTwo.Session

open Bytes FileProtocol FileSender FileReceiver Reliable AppMessages

section Deeds

open SessionController

/-- A turn of the sender wakes no second transfer, and no two transfers share an id. -/
def singleFile : Rules where
  turn session event := event.sent = true ∧
    ∀ fileId, session.sender.wakes event = some fileId → Clear session fileId
  receive session event := ∀ fields, event = .offer fields → session.receiver.Takes fields →
    session.sender.statusOf fields.fileId = none
  draw session := session.sender.statusOf (session.makeId "file") = none ∧
    session.makeId "file" ∉ ids session.receiver
  order _ _ := True
  tear _ := True

theorem singleFile_fair : singleFile.Fair where
  turn := by
    rintro before after event aside ⟨sent, wakes⟩
    refine ⟨sent, fun fileId woken view member => ?_⟩
    rw [aside.sender] at woken
    exact wakes fileId woken view (aside.transfers ▸ member)
  receive := by
    intro before after event aside allowed
    simp only [singleFile, aside.sender, aside.receiver]
    exact allowed
  plain := by
    intro session event plain
    cases event with
    | ack fileId index => exact ⟨rfl, nofun⟩
    | nack fileId index reason => exact ⟨rfl, nofun⟩
    | resume fileId => exact ⟨rfl, nofun⟩
    | cancel fileId reason notify => exact ⟨rfl, nofun⟩
    | setGlobalPaused paused reason => exact ⟨rfl, nofun⟩
    | _ => cases plain
  taken := fun other fields same => absurd same (other fields)

variable {digest : Bytes → String} {before after : SessionController}

theorem Line.sent {event : FileSender.Event} {turned : Sender} (line : Line before)
    (permitted : singleFile.turn before event)
    (stepped : { before.sender with notes := [] }.turn digest event = some turned) :
    Line (before.withSender turned) := by
  have cut : Named { before.sender with notes := [] } := line.named
  obtain ⟨sent, wakes⟩ := permitted
  obtain ⟨fileId, told, whole, shown⟩ := turn_tells digest sent cut rfl line.unique stepped
  have kept : event ≠ .reset := by
    rintro rfl
    cases sent
  have footing := line.toFooting.turned (turn_turned digest cut kept stepped) whole.named (by
    rintro id _ file queued rfl
    cases sent)
  refine withSender_line line footing whole ?_
  rintro ⟨status, member, active⟩
  rcases shown status member active with busy | woken
  · exact line.clear (line.synced fileId busy)
  · exact wakes fileId woken

theorem Line.unlisted (line : Line before) {fileId : String}
    (unmade : before.sender.statusOf fileId = none) :
    before.sender.transfers.has fileId = false := by
  rw [Bool.eq_false_iff]
  exact fun listed => line.listed fileId listed unmade

/-- What `hasActiveFile` looks for. -/
theorem inactive_state {view : TransferView} (free : before.hasActiveFile = false)
    (member : view ∈ before.view.transfers) (sends : view.direction = .send) :
    view.state ∉ [TransferState.waiting, .sending, .paused, .queued] := by
  intro state
  refine absurd (List.any_eq_true.mpr ⟨view, member, ?_⟩) (Bool.eq_false_iff.mp free)
  simp only [decide_eq_true_eq]
  exact ⟨sends, List.mem_cons_of_mem _ state⟩

theorem inactive_line {view : TransferView} (free : before.hasActiveFile = false)
    (member : view ∈ before.view.transfers) : view.inLine = false := by
  rw [Bool.eq_false_iff]
  intro stands
  simp only [TransferView.inLine, decide_eq_true_eq] at stands
  refine inactive_state free member stands.1 ?_
  have state := stands.2
  revert state
  cases view.state <;> decide

/-- A file that is offered is queued if another one is in line. -/
theorem Line.offered (line : Line before) (file : File) (fresh : singleFile.draw before) :
    Line ({ before with made := before.made + 1 }.withSender
      ({ before.sender with notes := [] }.offer (before.makeId "file") file
        (before.isVoiceActive || before.hasActiveFile))) := by
  have cut : Named { before.sender with notes := [] } := line.named
  have drawn : Line { before with made := before.made + 1 } := line.aside ⟨rfl, rfl, rfl, rfl, id⟩
  obtain ⟨unmade, foreign⟩ := fresh
  obtain ⟨told, whole, waits⟩ := offer_told cut rfl file
    (before.isVoiceActive || before.hasActiveFile) (line.unlisted unmade)
  have turned := offer_turned cut file (before.isVoiceActive || before.hasActiveFile)
    (statusOf_eq_none.mp unmade)
  have footing := drawn.toFooting.turned turned whole.named (by
    rintro id member other queued same
    cases same
    exact foreign member)
  refine withSender_line drawn footing whole ?_
  rintro ⟨status, member, active⟩
  -- Shown as active, so it was not queued: no transfer was in line then.
  have free := (Bool.or_eq_false_iff.mp (waits status member active)).2
  intro view listed stands
  cases (inactive_line free listed).symm.trans stands

/-- What the receiver has and shows is none of the sender's. -/
theorem Line.within {event : FileReceiver.Event} {turned : Receiver} (line : Line before)
    (permitted : singleFile.receive before event)
    (stepped : { before.receiver with notes := [] }.turn digest event = some turned) :
    Within (fun fileId => before.sender.statusOf fileId = none) turned := by
  have within : Within (fun fileId => before.sender.statusOf fileId = none)
      { before.receiver with notes := [] } := ⟨line.apart, fun _ none => by cases none⟩
  refine turn_within within ?_ stepped
  rintro fields rfl takes
  exact permitted fields rfl ⟨takes.size, takes.chunks, takes.previous, takes.free⟩

theorem Line.forgot (line : Line before) {transfer : TransferView}
    (listed : transfer ∈ before.view.transfers) (finished : transfer.state.terminal = true) :
    Line (before.forgetTransfer transfer.fileId) := by
  have fades : Fades before.sender (before.forgetTransfer transfer.fileId).sender :=
    remove_fades line.named transfer.fileId
  have rows : Rows (before.forgetTransfer transfer.fileId) :=
    forgetTransfers_rows line.toRows [transfer.fileId]
  refine ⟨⟨rows, fades.named, line.listed.fades fades, ?_, ?_⟩, ?_, ?_⟩
  · intro fileId member
    rw [fades.status]
    exact line.apart fileId (remove_ids before.receiver transfer.fileId ▸ member)
  · exact fun view member => line.kinds view (List.mem_filter.mp member).1
  · exact fun one first two second =>
      line.single one (List.mem_filter.mp first).1 two (List.mem_filter.mp second).1
  · intro fileId busy
    obtain ⟨ordered, view, shown, rfl, stands⟩ := line.synced fileId (fades.busy busy)
    have other : view.fileId ≠ transfer.fileId := by
      intro same
      rw [line.toRows.same shown listed same] at stands
      exact Bool.false_ne_true ((inLine_live stands).symm.trans finished)
    exact ⟨List.mem_filter.mpr ⟨ordered, by simpa using other⟩, view,
      List.mem_filter.mpr ⟨shown, by simpa using other⟩, rfl, stands⟩

theorem Line.ordered (line : Line before) (fileId : String) :
    Line (before.ensureTransferOrder fileId) := by
  have sender := ensureTransferOrder_sender before fileId
  have transfers := ensureTransferOrder_transfers before fileId
  refine ⟨line.toFooting.same sender (congrArg ids (ensureTransferOrder_receiver before fileId))
    (ensureTransferOrder_nodup line.order fileId) transfers, ?_, ?_⟩
  · rw [transfers]
    exact line.single
  · intro other busy
    rw [sender] at busy
    obtain ⟨ordered, shown⟩ := line.synced other busy
    rw [← transfers] at shown
    exact ⟨(ensureTransferOrder_mem _ _ _).mpr (Or.inr ordered), shown⟩

/-- Both sides have let go of their transfers. -/
theorem Line.cleared (line : Line before) (cleared : Cleared before after)
    (views : after.view.transfers.Sublist before.view.transfers) : Line after := by
  obtain ⟨files, sender⟩ := cleared.sender
  obtain ⟨limits, receiver⟩ := cleared.receiver
  have fades := reset_fades line.named
  refine ⟨⟨⟨?_, ?_⟩, ?_, ?_, ?_, ?_⟩, ?_, ?_⟩
  · rw [cleared.order]
    exact List.nodup_nil
  · exact line.views.sublist (views.map _)
  · rw [sender]
    exact fades.named
  · intro fileId has
    rw [sender] at has
    cases has
  · intro fileId member
    rw [receiver] at member
    rw [sender]
    have same : ids before.receiver.reset = ids before.receiver := foldl_release_ids _ before.receiver
    exact (fades.status fileId).trans (line.apart fileId (same ▸ member))
  · exact fun view member => line.kinds view (views.subset member)
  · exact fun one first two second =>
      line.single one (views.subset first) two (views.subset second)
  · intro fileId busy
    rw [sender, Sender.busy, Bool.and_eq_true] at busy
    cases busy.1

theorem Deed.line (deed : Deed digest singleFile before after) (line : Line before) :
    Line after := by
  cases deed with
  | aside aside => exact line.aside aside
  | adopted id =>
      exact ⟨⟨⟨line.order, line.views⟩, line.named, line.listed, line.apart, line.kinds⟩,
        line.single, line.synced⟩
  | sent event permitted stepped => exact line.sent permitted stepped
  | offered file fresh _ => exact line.offered file fresh
  | next => exact startNextQueuedFileIfAllowed_line line
  | received event permitted stepped => exact withReceiver_line line (line.within permitted stepped)
  | forgot transfer listed finished => exact line.forgot listed finished
  | ordered fileId _ => exact line.ordered fileId
  | torn cleared kept _ => exact line.cleared cleared (kept ▸ List.Sublist.refl _)
  | emptied cleared none => exact line.cleared cleared (none ▸ List.nil_sublist _)

theorem Deeds.line (deeds : Deeds digest singleFile before after) (line : Line before) :
    Line after := by
  induction deeds with
  | refl => exact line
  | tail _ deed ih => exact deed.line ih

end Deeds

section Runs

open SessionController

/-- The call of the sender that a message of the peer asks for, if it may wake a transfer. -/
def asked : CoreAppMessage → Option FileSender.Event
  | .file (.accept fileId) => some (.accept fileId)
  | .file (.pause fileId reason) => some (.pause fileId reason)
  | _ => none

/-- The call of the sender that an event makes or takes up, if it may wake a transfer. -/
def Loop.turns (self : Loop) : Event → Option FileSender.Event
  | .senderCall ticket outcome => some (.settle ticket outcome)
  | .senderTimer ticket => some (.fire ticket)
  | .settle ticket reply => (self.calls.get? ticket).bind fun
      | .offering awaited _ _ _ => awaited.map fun call => .settle call reply.outcome
      | _ => none
  | event => (self.delivers event).bind asked

def Event.draws : Event → Bool
  | .request (.offerFile _) => true
  | _ => false

structure SingleFile (loop : Loop) (event : Event) : Prop where
  turn : ∀ turn ∈ loop.turns event, ∀ fileId ∈ loop.session.sender.wakes turn,
    Clear loop.session fileId
  offer : ∀ fields ∈ loop.offers event, loop.session.receiver.Takes fields →
    loop.session.sender.objects.has fields.fileId = false
  draw : event.draws = true →
    loop.session.sender.objects.has (loop.session.makeId "file") = false ∧
      loop.session.makeId "file" ∉ ids loop.session.receiver

instance (loop : Loop) (event : Event) : Decidable (SingleFile loop event) :=
  decidable_of_iff (_ ∧ _ ∧ _)
    ⟨fun ⟨turn, offer, draw⟩ => ⟨turn, offer, draw⟩, fun ⟨turn, offer, draw⟩ => ⟨turn, offer, draw⟩⟩

variable {digest : Bytes → String} {loop : Loop} {event : Event}

theorem statusOf_none_of_has {sender : Sender} {fileId : String}
    (lacks : sender.objects.has fileId = false) : sender.statusOf fileId = none := by
  rw [statusOf_eq_none, ← Option.not_isSome_iff_eq_none]
  exact Bool.eq_false_iff.mp lacks

theorem Loop.turns_of_delivers {message : CoreAppMessage}
    (delivers : loop.delivers event = some message) : loop.turns event = asked message := by
  cases event with
  | resume reply =>
      change (loop.delivers (.resume reply)).bind asked = asked message
      rw [delivers, Option.bind_some]
  | _ => cases delivers

theorem asked_sent {message : CoreAppMessage} {turn : FileSender.Event}
    (asks : asked message = some turn) : turn.sent = true := by
  unfold asked at asks
  split at asks <;> cases asks <;> rfl

theorem Loop.turns_sent {turn : FileSender.Event} (among : turn ∈ loop.turns event) :
    turn.sent = true := by
  cases event with
  | senderCall ticket outcome =>
      cases among
      rfl
  | senderTimer ticket =>
      cases among
      rfl
  | settle ticket reply =>
      obtain ⟨call, _, waits⟩ := Option.bind_eq_some_iff.mp among
      split at waits
      · obtain ⟨awaited, _, rfl⟩ := Option.map_eq_some_iff.mp waits
        rfl
      · cases waits
  | resume reply =>
      obtain ⟨message, _, asks⟩ := Option.bind_eq_some_iff.mp among
      exact asked_sent asks
  | _ => cases among

/-- The rules that no `order` and no `tear` can break are asked for three things. -/
theorem Loop.permits {rules : Rules} (turn : ∀ turn ∈ loop.turns event, rules.turn loop.session turn)
    (offer : ∀ fields ∈ loop.offers event, rules.receive loop.session (.offer fields))
    (draw : event.draws = true → rules.draw loop.session)
    (order : ∀ session fileId, rules.order session fileId) (tear : ∀ session, rules.tear session) :
    Permits digest rules loop event where
  grants message delivers := by
    have turns := Loop.turns_of_delivers delivers
    cases message with
    | file message =>
        cases message with
        | offer fields =>
            refine ⟨offer fields ?_, fun _ _ => order _ _⟩
            rw [Loop.offers, delivers]
            rfl
        | accept fileId => exact turn (.accept fileId) turns
        | pause fileId reason => exact turn (.pause fileId reason) turns
        | _ => trivial
    | _ => trivial
  draw file same := by
    subst same
    exact draw rfl
  settles ticket reply awaited fileId queued voiceActive same found := by
    subst same
    refine ⟨fun _ => order _ _, fun call waits => turn _ ?_, fun _ _ _ _ _ => order _ _⟩
    simp only [Loop.turns, found, waits]
    rfl
  call ticket outcome same := by
    subst same
    exact turn _ rfl
  timer ticket same := by
    subst same
    exact turn _ rfl
  tear _ := tear _

theorem SingleFile.permits (orderly : SingleFile loop event) :
    Permits digest singleFile loop event := by
  refine Loop.permits ?_ ?_ ?_ (fun _ _ => trivial) fun _ => trivial
  · exact fun turn among => ⟨Loop.turns_sent among, orderly.turn turn among⟩
  · intro fields among other same takes
    cases same
    exact statusOf_none_of_has (orderly.offer fields among takes)
  · exact fun draws => ⟨statusOf_none_of_has (orderly.draw draws).1, (orderly.draw draws).2⟩

theorem line_create : Line Loop.create.session := by
  refine ⟨⟨⟨List.nodup_nil, List.nodup_nil⟩, ?_, ?_, ?_, ?_⟩, ?_, ?_⟩
  · exact matched_create.named
  · exact fun _ has => by cases has
  · exact fun _ member => by cases member
  · exact fun _ member => by cases member
  · exact fun _ member => by cases member
  · exact fun _ busy => by cases busy

/-- The transfers in line of a session that has one line. -/
theorem Line.length_le_one {session : SessionController} (line : Line session) :
    (session.view.transfers.filter TransferView.inLine).length ≤ 1 := by
  have distinct : (session.view.transfers.filter TransferView.inLine).Nodup :=
    line.views.of_map.filter _
  match found : session.view.transfers.filter TransferView.inLine with
  | [] => exact Nat.zero_le 1
  | [_] => exact le_refl 1
  | one :: two :: rest =>
      have first : one ∈ session.view.transfers.filter TransferView.inLine :=
        found ▸ List.mem_cons_self
      have second : two ∈ session.view.transfers.filter TransferView.inLine :=
        found ▸ List.mem_cons_of_mem _ List.mem_cons_self
      rw [List.mem_filter] at first second
      have same := line.single one first.1 two second.1 first.2 second.2
      have equal := line.toRows.same first.1 second.1 same
      rw [found, List.nodup_cons] at distinct
      exact absurd (equal ▸ List.mem_cons_self) distinct.1

/-- What is left of the outgoing transfers that have not ended is queued. -/
theorem Line.queued {session : SessionController} (line : Line session) {view : TransferView}
    (member : view ∈ session.view.transfers) (outgoing : view.direction = .send)
    (outside : view.inLine = false) (live : view.state.terminal = false) : view.state = .queued := by
  obtain ⟨status, state⟩ := line.kinds view member outgoing
  have passive : status.active = false := by
    rw [Bool.eq_false_iff]
    intro active
    rw [TransferView.inLine, decide_eq_false_iff_not, state] at outside
    exact outside ⟨outgoing, (mapSenderStatus_inLine status).mpr active⟩
  rw [state, mapSenderStatus_terminal] at live
  rw [state]
  revert passive live
  cases status <;> decide

/-- In a run that goes in single file, at most one outgoing transfer is in line, and what else has
not ended is queued. -/
theorem outgoing_in_single_file {history : List Moment}
    (run : (machine digest).Run SingleFile Loop.create loop history) :
    (loop.session.view.transfers.filter TransferView.inLine).length ≤ 1 ∧
      ∀ view ∈ loop.session.view.transfers, view.direction = .send → view.inLine = false →
        view.state.terminal = false → view.state = .queued := by
  have line : Line loop.session := by
    apply run.state_invariant (fun loop => Line loop.session)
    · exact line_create
    · intro before event after outputs line orderly stepped
      exact (Loop.step_deeds singleFile_fair orderly.permits stepped).line line
  exact ⟨line.length_le_one, fun view member => line.queued member⟩

/-- The second file is offered once the first one is in line. -/
def filesInTurn : List Event :=
  handshakeTaken ++ [.resume (.text "river lunar"),
    .request (.offerFile ⟨utf16 "a.txt", utf16 "text/plain", [1, 2]⟩), .settle 5 .done,
    .settle 6 (.flag true), .request (.offerFile ⟨utf16 "b.txt", utf16 "text/plain", [3]⟩),
    .settle 7 .done]

/-- The second file is offered while the first one is hashed. -/
def filesTogether : List Event :=
  handshakeTaken ++ [.resume (.text "river lunar"),
    .request (.offerFile ⟨utf16 "a.txt", utf16 "text/plain", [1, 2]⟩),
    .request (.offerFile ⟨utf16 "b.txt", utf16 "text/plain", [3]⟩), .settle 5 .done,
    .settle 6 .done]

theorem second_file_queued :
    ∃ loop history, (machine fun _ => "digest").Run SingleFile Loop.create loop history ∧
      loop.session.view.transfers.map TransferView.state = [.queued, .waiting] ∧
      (loop.session.view.transfers.filter TransferView.inLine).length ≤ 1 ∧
      ∀ view ∈ loop.session.view.transfers, view.direction = .send → view.inLine = false →
        view.state.terminal = false → view.state = .queued := by
  have ran : ((machine fun _ => "digest").execute Loop.create filesInTurn).map (fun result =>
      result.1.session.view.transfers.map TransferView.state) = some [.queued, .waiting] := by
    decide +kernel
  have along : (machine fun _ => "digest").Along SingleFile Loop.create filesInTurn := by
    decide +kernel
  obtain ⟨⟨loop, history⟩, executed, shown⟩ := Option.map_eq_some_iff.mp ran
  have run := Machine.execute_run _ along executed
  exact ⟨loop, history, run, shown, outgoing_in_single_file run⟩

/-- Both offers find no active file, and both transfers wait for the peer. -/
theorem two_files_waiting :
    ∃ loop history, (machine fun _ => "digest").Run Machine.Unrestricted Loop.create loop history ∧
      loop.session.view.transfers.map (fun view => (view.direction, view.state)) =
        [(.send, .waiting), (.send, .waiting)] ∧
      ¬(loop.session.view.transfers.filter TransferView.inLine).length ≤ 1 := by
  have ran : ((machine fun _ => "digest").execute Loop.create filesTogether).map (fun result =>
      (result.1.session.view.transfers.map (fun view => (view.direction, view.state)),
        (result.1.session.view.transfers.filter TransferView.inLine).length)) =
      some ([(.send, .waiting), (.send, .waiting)], 2) := by
    decide +kernel
  obtain ⟨⟨loop, history⟩, executed, same⟩ := Option.map_eq_some_iff.mp ran
  simp only [Prod.mk.injEq] at same
  obtain ⟨shown, count⟩ := same
  refine ⟨loop, history, Machine.execute_run _ (Machine.along_unrestricted _ _) executed, shown, ?_⟩
  rw [count]
  decide

end Runs

end OnlyTwo.Session
