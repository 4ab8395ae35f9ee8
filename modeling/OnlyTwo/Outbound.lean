import OnlyTwo.FileReceiverBounds
import OnlyTwo.FileSenderBounds
import OnlyTwo.FileTransfer
import OnlyTwo.ReliableBounds
import OnlyTwo.VoiceCapture

/-!
Everything a client sends, and that a client accepts it. A `Party` is the part of
`SessionController` that sends: the file sender, the file receiver and the reliable
channel, joined by `sendApp`. Its events are the calls of the user, decoded messages,
settled promises and timers, in any order; whether the session would make a call in its
present state is left open. What it transmits is what reaches `sendRawApp`.
-/

namespace OnlyTwo.Outbound

open Bytes FileProtocol FileSender FileReceiver
open AppCodec (Clock Text Whole Timestamp decodeAppMessage maxTimestamp)
open AppMessages (CoreAppMessage ReliableBodyMessage LaneName TransportProfile TransportProfileId
  getProfile maxTextMessageChars reliableBody)
open Reliable (ReliableChannel Note)
open Session.SessionController (fileLane)

section Machine

abbrev Transmission := AppMessages.AppMessage × LaneName

/-- A call of `sendApp`. -/
structure Handed where
  message : CoreAppMessage
  lane : LaneName
  trackingId : Option String

structure Party where
  profile : TransportProfile
  sender : Sender
  receiver : Receiver
  reliable : ReliableChannel ReliableBodyMessage

def Party.create : Party where
  profile := getProfile .balanced
  sender := .create (getProfile .balanced).files
  receiver := .create (getProfile .balanced).files
  reliable := .create Reliable.defaultPolicy

/-- The calls of `callbacks.send` among the notes of the reliable channel. -/
def transmissions (notes : List (Note ReliableBodyMessage)) : List Transmission :=
  notes.filterMap fun
    | .transmit message lane => some (.reliable message, channelLane lane)
    | _ => none

/-- `sendApp`, with what `crypto.randomUUID()` will return. -/
def sendApp (ids : List Uuid) (party : Party) (call : Handed) :
    Option (List Uuid × Party × List Transmission) :=
  match reliableBody call.message call.lane, ids with
  | none, _ => some (ids, party, [(.core call.message, call.lane)])
  | some _, [] => none
  | some body, id :: rest =>
      (party.reliable.step (.send id.text call.trackingId
        (if call.lane = .text then .text else .control) body)).map fun sent =>
          (rest, { party with reliable := sent.1 }, transmissions sent.2)

def sendEach (ids : List Uuid) (party : Party) : List Handed →
    Option (List Uuid × Party × List Transmission)
  | [] => some (ids, party, [])
  | call :: rest =>
      (sendApp ids party call).bind fun first =>
        (sendEach first.1 first.2.1 rest).map fun others =>
          (others.1, others.2.1, first.2.2 ++ others.2.2)

def saidBySender : SenderNote → Option Handed
  | .sendApp message lane => some ⟨.file message, fileLane lane, none⟩
  | _ => none

def saidByReceiver : ReceiverNote → Option Handed
  | .sendApp message => some ⟨.file message, .control, none⟩
  | _ => none

/-- What the session asks of one of its parts. A time value has an end. -/
inductive Part where
  | sender (event : FileSender.Event)
  | receiver (event : FileReceiver.Event)
  | reliable (event : Reliable.Event ReliableBodyMessage)
  | app (call : Handed)
  | profile (profile : TransportProfile)
  | tick (elapsed : Nat)

/-- What a part does by itself, and what it hands to `sendApp`. -/
def work (sha256 : Sha256) (party : Party) : Part → Option (Party × List Handed × List Transmission)
  | .sender event =>
      ((FileSender.machine (digestBytes sha256)).step party.sender event).map fun taken =>
        ({ party with sender := taken.1 }, taken.2.filterMap saidBySender, [])
  | .receiver event =>
      ((FileReceiver.machine (digestBytes sha256)).step party.receiver event).map fun taken =>
        ({ party with receiver := taken.1 }, taken.2.filterMap saidByReceiver, [])
  | .reliable event =>
      (party.reliable.step event).map fun taken =>
        ({ party with reliable := taken.1 }, [], transmissions taken.2)
  | .app call => some (party, [call], [])
  | .profile profile => some ({ party with profile }, [], [])
  | .tick elapsed =>
      if maxTimestamp < (party.reliable.now + elapsed : Nat) then none
      else
        some ({ party with reliable := { party.reliable with
          now := party.reliable.now + elapsed } }, [], [])

def perform (sha256 : Sha256) (ids : List Uuid) (party : Party) : List Part →
    Option (Party × List Transmission)
  | [] => some (party, [])
  | part :: rest =>
      (work sha256 party part).bind fun worked =>
        (sendEach ids worked.1 worked.2.1).bind fun sent =>
          (perform sha256 sent.1 sent.2.1 rest).map fun last =>
            (last.1, worked.2.2 ++ sent.2.2 ++ last.2)

end Machine

section Events

def createTextMessage (uuid : Uuid) (body : Utf16) (now : Nat) : Except String CoreAppMessage :=
  if body = [] ∨ maxTextMessageChars < body.length then
    .error "Messages must be between 1 and 8000 characters"
  else .ok (.text (makeId "msg" uuid) body now)

/-- `sendText` is given the trimmed text, `voiceStarted` what `actualSampleRate` returns. The
rest of a `file.cancel` after its await is `peerCancel`. -/
inductive Event where
  | setProfile (id : TransportProfileId)
  | sendText (uuid : Uuid) (text : Utf16)
  | offerFile (uuid : Uuid) (file : File) (queued : Bool)
  | startQueued (fileId : String)
  | acceptFile (fileId : String)
  | rejectFile (fileId : String)
  | cancelSending (fileId : String)
  | cancelReceiving (fileId : String)
  | removeFile (fileId : String)
  | pauseForVoice (paused : Bool)
  | voiceStarted (sampleRate : Nat)
  | stopVoice
  | markVerified
  | receive (message : AppMessages.AppMessage)
  | acknowledged (index : Nat)
  | peerCancel (fileId reason : String)
  | senderCall (ticket : Nat) (outcome : Outcome)
  | senderTimer (ticket : Nat)
  | receiverCall (ticket : Nat) (outcome : Outcome)
  | reliableSent (id : String) (ok : Bool)
  | reliableTimer (handle : Nat)
  | prepareFreshCryptoEpoch
  | disconnect
  | tick (elapsed : Nat)

/-- `handleAppMessage` for a message that is no reliable envelope. -/
def handleCore : CoreAppMessage → List Part
  | .file message =>
      match FileTransfer.senderEvent message with
      | some event => [.sender event]
      | none => (FileTransfer.receiverEvent message).toList.map .receiver
  | _ => []

def say (message : CoreAppMessage) : Part := .app ⟨message, .control, none⟩

def parts (party : Party) : Event → List Part
  | .setProfile id =>
      [.profile (getProfile id), .sender (.setProfile (getProfile id).files),
        .receiver (.setProfile (getProfile id).files)]
  | .sendText uuid text =>
      match createTextMessage uuid text party.reliable.now with
      | .error _ => []
      | .ok message => [.app ⟨message, .text, some (makeId "msg" uuid)⟩]
  | .offerFile uuid file queued => [.sender (.offer (makeId "file" uuid) file queued)]
  | .startQueued fileId => [.sender (.startQueued fileId)]
  | .acceptFile fileId => [.receiver (.accept fileId)]
  | .rejectFile fileId => [.receiver (.reject fileId "declined")]
  | .cancelSending fileId => [.sender (.cancel fileId "cancelled" true)]
  | .cancelReceiving fileId => [.receiver (.cancel fileId "cancelled" true)]
  | .removeFile fileId => [.sender (.remove fileId), .receiver (.remove fileId)]
  | .pauseForVoice paused => [.sender (.setGlobalPaused paused "Paused during voice")]
  | .voiceStarted sampleRate =>
      [say (.voiceStart ⟨"voice", sampleRate, party.profile.voice.frameMs,
        some party.profile.voice.mode⟩)]
  | .stopVoice => [say (.voiceStop "voice")]
  | .markVerified => [say (.sessionVerified party.reliable.now)]
  | .receive (.core message) => handleCore message
  | .receive (.reliable message) => [.reliable (.receive message)]
  | .acknowledged index =>
      -- The ACK has been handed over; a message not seen before goes to its handler.
      match party.reliable.receiving[index]? with
      | none => []
      | some call =>
          .reliable (.ackSent index) ::
            if party.reliable.seen.has call.id then [] else handleCore call.body.1
  | .peerCancel fileId reason => [.receiver (.peerCancel fileId reason)]
  | .senderCall ticket outcome => [.sender (.settle ticket outcome)]
  | .senderTimer ticket => [.sender (.fire ticket)]
  | .receiverCall ticket outcome => [.receiver (.settle ticket outcome)]
  | .reliableSent id ok => [.reliable (.sendResolved id ok)]
  | .reliableTimer handle => [.reliable (.fire handle)]
  | .prepareFreshCryptoEpoch =>
      [.sender .reset, .receiver .reset,
        .reliable (.failAll "Session changed. Unsent messages were not delivered."),
        .reliable .reset]
  | .disconnect => [.sender .reset, .receiver .reset, .reliable .reset]
  | .tick elapsed => [.tick elapsed]

def machine (sha256 : Sha256) : Machine Party (List Uuid × Event) Transmission where
  step party input := perform sha256 input.1 party (parts party input.2)

/-- What comes in was decoded, and the browser captures at a rate within the claimed range. -/
def Possible : Event → Prop
  | .receive message => ∃ clock bytes, decodeAppMessage clock bytes = .ok (wire message)
  | .voiceStarted sampleRate => 8000 ≤ sampleRate ∧ sampleRate ≤ 192000
  | _ => True

/-- The media type of an offered file fits. -/
def TypeFits : Event → Prop
  | .offerFile _ file _ => file.type.length ≤ 160
  | _ => True

end Events

section Invariant

/-- What the reliable channel of a party is used for. -/
def terms : Reliable.Terms ReliableBodyMessage where
  sent id channel body createdAt := Text 160 (utf16 id) ∧ Wrappable channel body ∧ Timestamp createdAt
  acked id := Text 160 (utf16 id)
  arrived body := (wireCore body.1).Fits

structure Sound (party : Party) : Prop where
  profile : ∃ id, party.profile = getProfile id
  sender : FileSender.Bounded party.sender
  receiver : FileReceiver.Bounded party.receiver
  reliable : Reliable.Paced terms party.reliable
  policy : party.reliable.policy = Reliable.defaultPolicy
  clock : (party.reliable.now : Int) ≤ maxTimestamp

theorem create_sound : Sound Party.create where
  profile := ⟨.balanced, rfl⟩
  sender := FileSender.create_bounded .balanced
  receiver := FileReceiver.create_bounded _
  reliable := Reliable.create_paced _
  policy := rfl
  clock := by decide

def Admitted (output : List Transmission) : Prop := ∀ sent ∈ output, Accepted sent.1 sent.2

theorem Admitted.nil : Admitted [] := List.forall_mem_nil _

theorem Admitted.append {first second : List Transmission} (one : Admitted first)
    (other : Admitted second) : Admitted (first ++ second) := by
  intro sent member
  rcases List.mem_append.mp member with early | late
  · exact one sent early
  · exact other sent late

theorem transmissions_admitted {notes : List (Note ReliableBodyMessage)}
    (emitted : ∀ note ∈ notes, Reliable.Emitted terms Reliable.defaultPolicy.maxAttempts note) :
    Admitted (transmissions notes) := by
  intro sent member
  obtain ⟨note, listed, known⟩ := List.mem_filterMap.mp member
  have told := emitted note listed
  split at known
  · rename_i message lane
    cases known
    cases message with
    | msg id channel body createdAt attempt =>
        obtain ⟨rfl, ⟨named, wrappable, timely⟩, least, most⟩ := told
        refine wrappable.accepted named timely ⟨by omega, ?_⟩
        change attempt ≤ 5 at most
        have safe : 5 ≤ Js.maxSafeInteger := by decide
        omega
    | ack id =>
        obtain ⟨rfl, named⟩ := told
        exact ack_accepted named
    | nack id reason => exact told.elim
  · cases known

/-- What the session asks of its parts is within these bounds. -/
def Asked : Part → Prop
  | .sender event => FileSender.Called event
  | .receiver event => FileReceiver.Called event
  | .reliable (.send _ _ _ _) => False
  | .reliable (.tick _) => False
  | .reliable (.receive (.msg id _ body _ _)) => Text 160 (utf16 id) ∧ (wireCore body.1).Fits
  | .reliable _ => True
  | .app call => Sendable call.message call.lane
  | .profile profile => ∃ id, profile = getProfile id
  | .tick _ => True

variable {party after : Party}

/-- The reliable channel of a sound party takes a step. -/
theorem Sound.reliable_step (sound : Sound party) {event : Reliable.Event ReliableBodyMessage}
    {next : ReliableChannel ReliableBodyMessage} {notes : List (Note ReliableBodyMessage)}
    (admits : Reliable.Admits terms party.reliable event) (still : ∀ elapsed, event ≠ .tick elapsed)
    (stepped : party.reliable.step event = some (next, notes)) :
    Sound { party with reliable := next } ∧ Admitted (transmissions notes) := by
  have positive : 0 < party.reliable.policy.maxAttempts := by
    rw [sound.policy]
    decide
  have paces := Reliable.step_paces sound.reliable positive admits still stepped
  refine ⟨⟨sound.profile, sound.sender, sound.receiver, paces.paced,
    paces.policy.trans sound.policy, ?_⟩, ?_⟩
  · rw [paces.now]
    exact sound.clock
  · have emitted := paces.emitted
    rw [sound.policy] at emitted
    exact transmissions_admitted emitted

theorem sendApp_sound (sound : Sound party) {ids rest : List Uuid} {call : Handed}
    {output : List Transmission} (sendable : Sendable call.message call.lane)
    (sent : sendApp ids party call = some (rest, after, output)) :
    Sound after ∧ Admitted output := by
  unfold sendApp at sent
  split at sent
  · rename_i raw
    cases sent
    refine ⟨sound, ?_⟩
    intro one member
    rw [List.mem_singleton.mp member]
    exact sendable.accepted_raw raw
  · cases sent
  · rename_i body id rest wraps
    obtain ⟨⟨next, notes⟩, stepped, same⟩ := Option.map_eq_some_iff.mp sent
    cases same
    have admits : Reliable.Admits terms party.reliable (.send id.text call.trackingId
        (if call.lane = .text then .text else .control) body) :=
      ⟨id.fits, sendable.wrappable wraps, Int.natCast_nonneg _, sound.clock⟩
    exact sound.reliable_step admits (by simp) stepped

theorem sendEach_sound (calls : List Handed) (sound : Sound party) {ids rest : List Uuid}
    {output : List Transmission} (sendable : ∀ call ∈ calls, Sendable call.message call.lane)
    (sent : sendEach ids party calls = some (rest, after, output)) :
    Sound after ∧ Admitted output := by
  induction calls generalizing party ids output with
  | nil =>
      cases sent
      exact ⟨sound, .nil⟩
  | cons call calls ih =>
      obtain ⟨⟨left, next, first⟩, one, remaining⟩ := Option.bind_eq_some_iff.mp sent
      obtain ⟨⟨_, last, others⟩, many, same⟩ := Option.map_eq_some_iff.mp remaining
      cases same
      obtain ⟨middle, early⟩ := sendApp_sound sound (sendable call List.mem_cons_self) one
      obtain ⟨final, late⟩ := ih middle
        (fun other member => sendable other (List.mem_cons_of_mem call member)) many
      exact ⟨final, early.append late⟩

theorem work_sound (sha256 : Sha256) (sound : Sound party) {part : Part} {calls : List Handed}
    {output : List Transmission} (asked : Asked part)
    (worked : work sha256 party part = some (after, calls, output)) :
    Sound after ∧ (∀ call ∈ calls, Sendable call.message call.lane) ∧ Admitted output := by
  cases part with
  | sender event =>
      obtain ⟨⟨next, notes⟩, stepped, same⟩ := Option.map_eq_some_iff.mp worked
      cases same
      obtain ⟨kept, said⟩ := FileSender.step_bounded sha256 sound.sender asked stepped
      refine ⟨⟨sound.profile, kept, sound.receiver, sound.reliable, sound.policy, sound.clock⟩, ?_,
        .nil⟩
      intro call member
      obtain ⟨note, listed, known⟩ := List.mem_filterMap.mp member
      cases note with
      | sendApp message lane =>
          cases known
          exact said message lane listed
      | onUpdate snapshot => cases known
      | setTimeout timer => cases known
  | receiver event =>
      obtain ⟨⟨next, notes⟩, stepped, same⟩ := Option.map_eq_some_iff.mp worked
      cases same
      obtain ⟨kept, said⟩ := FileReceiver.step_bounded _ sound.receiver asked stepped
      refine ⟨⟨sound.profile, sound.sender, kept, sound.reliable, sound.policy, sound.clock⟩, ?_,
        .nil⟩
      intro call member
      obtain ⟨note, listed, known⟩ := List.mem_filterMap.mp member
      cases note with
      | sendApp message =>
          cases known
          exact said message listed
      | onUpdate snapshot => cases known
      | onComplete file => cases known
      | stored ref fileId index bytes status => cases known
  | reliable event =>
      obtain ⟨⟨next, notes⟩, stepped, same⟩ := Option.map_eq_some_iff.mp worked
      cases same
      have admits : Reliable.Admits terms party.reliable event := by
        cases event with
        | send => exact asked.elim
        | receive message => cases message <;> exact asked
        | _ => trivial
      have still : ∀ elapsed, event ≠ .tick elapsed := by
        rintro elapsed rfl
        exact asked
      obtain ⟨kept, admitted⟩ := sound.reliable_step admits still stepped
      exact ⟨kept, List.forall_mem_nil _, admitted⟩
  | app call =>
      cases worked
      refine ⟨sound, ?_, .nil⟩
      intro other member
      rw [List.mem_singleton.mp member]
      exact asked
  | profile profile =>
      cases worked
      exact ⟨⟨asked, sound.sender, sound.receiver, sound.reliable, sound.policy, sound.clock⟩,
        List.forall_mem_nil _, .nil⟩
  | tick elapsed =>
      simp only [work] at worked
      split at worked
      · cases worked
      · rename_i early
        cases worked
        refine ⟨⟨sound.profile, sound.sender, sound.receiver, ?_, sound.policy, not_lt.mp early⟩,
          List.forall_mem_nil _, .nil⟩
        exact sound.reliable.frame rfl rfl rfl (fun _ _ held => held) sound.reliable.receipts

theorem perform_sound (sha256 : Sha256) (tasks : List Part) (sound : Sound party) {ids : List Uuid}
    {output : List Transmission} (asked : ∀ part ∈ tasks, Asked part)
    (performed : perform sha256 ids party tasks = some (after, output)) :
    Sound after ∧ Admitted output := by
  induction tasks generalizing party ids output with
  | nil =>
      cases performed
      exact ⟨sound, .nil⟩
  | cons part tasks ih =>
      obtain ⟨⟨worked, calls, own⟩, does, further⟩ := Option.bind_eq_some_iff.mp performed
      obtain ⟨⟨left, sent, handed⟩, sends, remaining⟩ := Option.bind_eq_some_iff.mp further
      obtain ⟨⟨last, others⟩, many, same⟩ := Option.map_eq_some_iff.mp remaining
      cases same
      obtain ⟨first, sendable, mine⟩ := work_sound sha256 sound (asked part List.mem_cons_self) does
      obtain ⟨second, theirs⟩ := sendEach_sound calls first sendable sends
      obtain ⟨final, late⟩ := ih second
        (fun other member => asked other (List.mem_cons_of_mem part member)) many
      exact ⟨final, (mine.append theirs).append late⟩

end Invariant

section Calls

variable {party : Party}

theorem createTextMessage_sendable {uuid : Uuid} {body : Utf16} {now : Nat} {message : CoreAppMessage}
    (timely : Timestamp now) (made : createTextMessage uuid body now = .ok message) :
    Sendable message .text := by
  unfold createTextMessage at made
  split at made
  · cases made
  · rename_i inside
    cases made
    rw [not_or, not_lt] at inside
    exact ⟨⟨makeId_fits "msg" uuid (by decide), inside, timely⟩, rfl⟩

/-- A decoded message asks for nothing beyond the bounds. -/
theorem handleCore_asked {message : CoreAppMessage} (fits : (wireCore message).Fits) :
    ∀ part ∈ handleCore message, Asked part := by
  intro part member
  cases message with
  | file message =>
      cases message with
      | offer fields =>
          rw [List.mem_singleton.mp member]
          exact fits
      | chunk fileId index totalChunks data =>
          rw [List.mem_singleton.mp member]
          exact fits
      | reject fileId reason =>
          rw [List.mem_singleton.mp member]
          exact nofun
      | cancel fileId reason =>
          rw [List.mem_singleton.mp member]
          exact nofun
      | _ =>
          rw [List.mem_singleton.mp member]
          trivial
  | _ => cases member

theorem voice_fits : Text 80 (utf16 "voice") := ⟨by decide, by decide⟩

theorem parts_asked (sound : Sound party) {event : Event} (possible : Possible event)
    (typeFits : TypeFits event) : ∀ part ∈ parts party event, Asked part := by
  -- `Date.now()` of a sound party is a safe integer.
  have timely : Timestamp party.reliable.now := ⟨Int.natCast_nonneg _, sound.clock⟩
  have single : ∀ {task : Part}, Asked task → ∀ part ∈ [task], Asked part := by
    intro task asked part member
    rw [List.mem_singleton.mp member]
    exact asked
  cases event with
  | setProfile id =>
      intro part member
      simp only [parts, List.mem_cons, List.not_mem_nil, or_false] at member
      rcases member with rfl | rfl | rfl
      · exact ⟨id, rfl⟩
      · exact ⟨id, rfl⟩
      · trivial
  | sendText uuid text =>
      simp only [parts]
      split
      · exact List.forall_mem_nil _
      · rename_i message made
        exact single (createTextMessage_sendable timely made)
  | offerFile uuid file queued => exact single ⟨makeId_fits "file" uuid (by decide), typeFits⟩
  | rejectFile fileId => exact single rfl
  | cancelSending fileId => exact single (fun _ => rfl)
  | cancelReceiving fileId => exact single (fun _ => rfl)
  | removeFile fileId =>
      intro part member
      simp only [parts, List.mem_cons, List.not_mem_nil, or_false] at member
      rcases member with rfl | rfl <;> trivial
  | voiceStarted sampleRate =>
      obtain ⟨id, known⟩ := sound.profile
      have safe : 192000 ≤ Js.maxSafeInteger := by decide
      -- Each profile's frame length lies between the bounds that the peer checks.
      have frame : 1 ≤ party.profile.voice.frameMs ∧ party.profile.voice.frameMs ≤ 60 := by
        rw [known]
        cases id <;> decide
      obtain ⟨least, most⟩ := possible
      refine single ⟨⟨voice_fits, ⟨?_, ?_⟩, ?_, ?_⟩, rfl⟩
      all_goals dsimp only; omega
  | stopVoice => exact single ⟨voice_fits, rfl⟩
  | markVerified => exact single ⟨timely, rfl⟩
  | receive message =>
      obtain ⟨clock, bytes, decoded⟩ := possible
      have fits := AppCodec.accepted_fits decoded
      cases message with
      | core message => exact handleCore_asked fits
      | reliable message =>
          refine single ?_
          cases message with
          | msg id channel body createdAt attempt => exact ⟨fits.1, fits.2.1⟩
          | ack id => trivial
          | nack id reason => trivial
  | acknowledged index =>
      simp only [parts]
      split
      · exact List.forall_mem_nil _
      · rename_i call found
        have fits := sound.reliable.receipts call (List.mem_of_getElem? found)
        intro part member
        rcases List.mem_cons.mp member with rfl | later
        · trivial
        · split at later
          · cases later
          · -- What is accepted off the wire fits, so the replies to it do.
            exact handleCore_asked fits part later
  | prepareFreshCryptoEpoch =>
      intro part member
      simp only [parts, List.mem_cons, List.not_mem_nil, or_false] at member
      rcases member with rfl | rfl | rfl | rfl <;> trivial
  | disconnect =>
      intro part member
      simp only [parts, List.mem_cons, List.not_mem_nil, or_false] at member
      rcases member with rfl | rfl | rfl <;> trivial
  | _ => exact single trivial

/-- The conditions under which a run is considered: nothing impossible happens, and each
offered file has a type that fits. -/
def Fitting (_ : Party) (input : List Uuid × Event) : Prop :=
  Possible input.2 ∧ TypeFits input.2

/-- All that a party transmits in such a run is accepted. -/
theorem run_admitted (sha256 : Sha256) {final : Party} {history : List Transmission}
    (run : Machine.Run (machine sha256) Fitting Party.create final history) : Admitted history := by
  have whole : Sound final ∧ Admitted history := by
    refine run.invariant (fun party history => Sound party ∧ Admitted history)
      ⟨create_sound, .nil⟩ ?_
    rintro before past event after outputs ⟨sound, admitted⟩ fitting stepped
    obtain ⟨kept, fresh⟩ := perform_sound sha256 _ sound
      (parts_asked sound fitting.1 fitting.2) stepped
    exact ⟨kept, admitted.append fresh⟩
  exact whole.2

end Calls

section Voice

open VoiceCapture (VoiceFrame Source Built samplesPerFrame framesDelivered decodeInboundVoiceFrame)

variable {Sample : Type} {source : Source Sample} {frame : VoiceFrame}

/-- `{ kind: "voice.frame", ...next.value }` -/
def voiceMessage (frame : VoiceFrame) : CoreAppMessage :=
  .voiceFrame frame.streamId frame.seq frame.sentAt frame.sampleRate frame.frameMs frame.pcm16

/-- What becomes of a frame under the same profile: it is accepted, it arrives as it was, and
it is played. -/
structure Heard (frame : VoiceFrame) (voice : Profiles.Voice) : Prop where
  accepted : Accepted (.core (voiceMessage frame)) .voice
  same : ∀ clock, decodeAppMessage clock (AppCodec.encodeAppMessage (wire (.core (voiceMessage frame)))) =
    .ok (wire (.core (voiceMessage frame)))
  played : ∃ pcm16, decodeInboundVoiceFrame frame voice = .ok pcm16

theorem voice_sendable {earlier later : Nat} (built : Built source earlier later frame)
    (few : later ≤ Js.maxSafeInteger) (least : 8000 ≤ source.sampleRate)
    (most : source.sampleRate ≤ 192000) (positive : 0 < source.voice.frameMs)
    (short : source.voice.frameMs ≤ 60) : Sendable (voiceMessage frame) .voice := by
  obtain ⟨samples, sized, shape⟩ := built.made
  have numbered := built.before.trans few
  have timely := source.timely frame.seq
  have safe : 8640000000000000 + 192000 ≤ Js.maxSafeInteger := by decide
  have ended : maxTimestamp = 8640000000000000 := rfl
  have cut : source.sampleRate * source.voice.frameMs ≤ 192000 * 60 := Nat.mul_le_mul most short
  have length : (VoiceCapture.floatToPcm16 source samples).length =
      samplesPerFrame source.sampleRate source.voice.frameMs * 2 := by
    rw [VoiceCapture.floatToPcm16_length, sized]
  have whole : 0 < (VoiceCapture.floatToPcm16 source samples).length ∧
      (VoiceCapture.floatToPcm16 source samples).length ≤ 100000 := by
    rw [length, samplesPerFrame]
    omega
  rw [shape]
  refine ⟨⟨voice_fits, ⟨?_, ?_⟩, ⟨?_, ?_⟩, ⟨?_, ?_⟩, ⟨?_, ?_⟩, base64Url_fits whole.1 whole.2⟩, rfl⟩
  all_goals
    simp only [VoiceCapture.outboundFrame]
    omega

/-- Every frame of a capture is heard. -/
theorem capture_heard (id : TransportProfileId) (own : source.voice = (Profiles.getProfile id).voice)
    (least : 8000 ≤ source.sampleRate) (most : source.sampleRate ≤ 192000)
    {events : List (VoiceCapture.Event Sample)} {final : VoiceCapture.Capture Sample}
    {frames : List VoiceFrame}
    (ran : (VoiceCapture.machine source).execute (VoiceCapture.start source) events =
      some (final, frames))
    (few : framesDelivered source events ≤ Js.maxSafeInteger) :
    ∀ frame ∈ frames, Heard frame source.voice := by
  have cut : 0 < source.voice.frameMs ∧ source.voice.frameMs ≤ 60 := by
    rw [own]
    cases id <;> decide
  intro frame member
  have built := VoiceCapture.execute_built events ran frame member
  have sendable := voice_sendable built few least most cut.1 cut.2
  exact ⟨sendable.accepted_raw rfl, fun clock => AppCodec.decode_encode clock _ sendable.fits,
    built.decoded few least most⟩

end Voice

section Offers

open FileSender.Sender (newTransfer)

/-- The offer of a new transfer, which may have a digest by now. -/
def offerMessage (files : FileLimits) (fileId : String) (file : File) (queued : Bool)
    (sha256 : Option String) : FileMessage :=
  .offer { newTransfer files fileId file queued with sha256 }.offer

theorem type_of_accepted {files : FileLimits} {fileId envelope : String} {file : File} {queued : Bool}
    {digest : Option String} {now attempt : Nat}
    (accepted : Accepted (.reliable (.msg envelope .control
      ⟨.file (offerMessage files fileId file queued digest), rfl⟩ now attempt)) .control) :
    file.type.length ≤ 160 := by
  obtain ⟨decoded, read, _⟩ := accepted ⟨fun _ => 0, fun _ => by decide⟩
  exact (newTransfer_mime files fileId file queued).mp (mime_of_decoded read)

/-- An offer of a file that passes the check is accepted exactly if the type of the file fits. -/
theorem offer_accepted_iff (id : TransportProfileId) {fileId envelope : String}
    (named : Text 160 (utf16 fileId)) {file : File}
    (valid : validateOutboundFile file (getProfile id).files = .ok ()) (queued : Bool)
    {digest : Option String} (digested : AppCodec.Digest (digest.map utf16))
    (wrapped : Text 160 (utf16 envelope)) {now attempt : Nat} (timely : Timestamp now)
    (counted : Whole 1 attempt) :
    Accepted (.reliable (.msg envelope .control
      ⟨.file (offerMessage (getProfile id).files fileId file queued digest), rfl⟩ now attempt))
        .control ↔ file.type.length ≤ 160 := by
  constructor
  · exact type_of_accepted
  · intro short
    obtain ⟨_, name, mime, size, chunk, total, _⟩ :=
      (newTransfer_fits (getProfile id).files (getProfile_ranged id) named valid queued).mpr short
    have fits : (wireCore (.file (offerMessage (getProfile id).files fileId file queued digest))).Fits :=
      ⟨named, name, mime, size, chunk, total, digested⟩
    exact Wrappable.accepted ⟨fits, rfl⟩ wrapped timely counted

end Offers

section Agreement

open VoiceCapture (VoiceFrame Source framesDelivered)

/-- What a client sends, a client accepts, as long as no offered file has a type of more than
160 code units and no capture fills more frames than a safe integer counts: in every run all
that is transmitted, from every capture each frame. A longer type makes an offer that is
never accepted. -/
theorem sent_messages_accepted (sha256 : Sha256) :
    (∀ final history, Machine.Run (machine sha256) Fitting Party.create final history →
      ∀ sent ∈ history, Accepted sent.1 sent.2) ∧
    (∀ (Sample : Type) (id : TransportProfileId) (source : Source Sample)
      (events : List (VoiceCapture.Event Sample)) (final : VoiceCapture.Capture Sample)
      (frames : List VoiceFrame),
      source.voice = (Profiles.getProfile id).voice → 8000 ≤ source.sampleRate →
      source.sampleRate ≤ 192000 →
      (VoiceCapture.machine source).execute (VoiceCapture.start source) events =
        some (final, frames) →
      framesDelivered source events ≤ Js.maxSafeInteger →
      ∀ frame ∈ frames, Heard frame source.voice) ∧
    ∀ (id : TransportProfileId) (uuid envelope : Uuid) (file : File) (queued : Bool)
      (hashed : Option Bytes) (now attempt : Nat),
      validateOutboundFile file (getProfile id).files = .ok () → (now : Int) ≤ maxTimestamp →
      1 ≤ attempt → attempt ≤ Reliable.defaultPolicy.maxAttempts →
      (Accepted (.reliable (.msg envelope.text .control
        ⟨.file (offerMessage (getProfile id).files (makeId "file" uuid) file queued
          (hashed.map (digestBytes sha256))), rfl⟩ now attempt)) .control ↔
        file.type.length ≤ 160) := by
  refine ⟨fun final history run => run_admitted sha256 run, ?_, ?_⟩
  · intro Sample id source events final frames own least most ran few
    exact capture_heard id own least most ran few
  · intro id uuid envelope file queued hashed now attempt valid timely least most
    have digested : AppCodec.Digest ((hashed.map (digestBytes sha256)).map utf16) := by
      intro value held
      obtain ⟨text, known, rfl⟩ := Option.map_eq_some_iff.mp held
      obtain ⟨bytes, _, rfl⟩ := Option.map_eq_some_iff.mp known
      exact digestBytes_fits sha256 bytes
    have counted : Whole 1 attempt := by
      change attempt ≤ 5 at most
      have safe : 5 ≤ Js.maxSafeInteger := by decide
      constructor <;> omega
    exact offer_accepted_iff id (makeId_fits "file" uuid (by decide)) valid queued digested
      envelope.fits ⟨Int.natCast_nonneg _, timely⟩ counted

def sampleUuid : Uuid := ⟨"123e4567-e89b-42d3-a456-426614174000", by decide⟩

/-- The digest of "abc" as it is; any other would do for the rest. -/
def sampleSha256 : Sha256 where
  hash bytes :=
    if bytes = [97, 98, 99] then
      [0xba, 0x78, 0x16, 0xbf, 0x8f, 0x01, 0xcf, 0xea, 0x41, 0x41, 0x40, 0xde, 0x5d, 0xae, 0x22, 0x23,
        0xb0, 0x03, 0x61, 0xa3, 0x96, 0x17, 0x7a, 0x9c, 0xb4, 0x10, 0xff, 0x61, 0xf2, 0x00, 0x15, 0xad]
    else List.replicate 32 0
  length bytes := by
    split <;> rfl

def sampleFile (type : Utf16) : File := ⟨utf16 "abc.txt", type, [97, 98, 99]⟩

/-- A file is offered and its digest arrives. -/
def sampleOffer (type : Utf16) : List (List Uuid × Event) :=
  [([], .offerFile sampleUuid (sampleFile type) false), ([sampleUuid], .senderCall 0 (.ok true))]

def sampleSent (type : Utf16) : Transmission :=
  (.reliable (.msg sampleUuid.text .control
    ⟨.file (offerMessage (getProfile .balanced).files (makeId "file" sampleUuid) (sampleFile type) false
      (some (digestBytes sampleSha256 [97, 98, 99]))), rfl⟩ 0 1), .control)

def sampleSource : Source Unit where
  voice := (Profiles.getProfile .maximumPrivacy).voice
  sampleRate := 8000
  loud _ _ := false
  pcm _ := (0, 0)
  clock _ := 0
  timely _ := by decide

theorem sampleOffer_sent (type : Utf16) :
    ((machine sampleSha256).execute Party.create (sampleOffer type)).map Prod.snd =
      some [sampleSent type] := by
  rfl

theorem sampleOffer_run (type : Utf16) {allowed : Party → List Uuid × Event → Prop}
    (offers : ∀ party, allowed party ([], .offerFile sampleUuid (sampleFile type) false))
    (hashes : ∀ party, allowed party ([sampleUuid], .senderCall 0 (.ok true))) :
    ∃ final, Machine.Run (machine sampleSha256) allowed Party.create final [sampleSent type] := by
  obtain ⟨⟨final, history⟩, ran, same⟩ := Option.map_eq_some_iff.mp (sampleOffer_sent type)
  cases same
  refine ⟨final, Machine.execute_run _ (Machine.along_of_forall _ _ ?_) ran⟩
  intro input member party
  simp only [sampleOffer, List.mem_cons, List.not_mem_nil, or_false] at member
  rcases member with rfl | rfl
  · exact offers party
  · exact hashes party

theorem sampleSource_frame :
    ((VoiceCapture.machine sampleSource).execute (VoiceCapture.start sampleSource)
      [.message (List.replicate 480 ())]).map (fun ended => ended.2.map VoiceFrame.seq) = some [1] := by
  decide +kernel

theorem sent_messages_accepted_sample :
    (∃ final, Machine.Run (machine sampleSha256) Fitting Party.create final
      [sampleSent (utf16 "text/plain")] ∧
        Accepted (sampleSent (utf16 "text/plain")).1 (sampleSent (utf16 "text/plain")).2) ∧
    (∃ final frame, (VoiceCapture.machine sampleSource).execute (VoiceCapture.start sampleSource)
      [.message (List.replicate 480 ())] = some (final, [frame]) ∧ frame.seq = 1 ∧
        Heard frame sampleSource.voice) ∧
    (Accepted (sampleSent (utf16 "text/plain")).1 .control ↔ (utf16 "text/plain").length ≤ 160) := by
  obtain ⟨runs, captures, offers⟩ := sent_messages_accepted sampleSha256
  refine ⟨?_, ?_, ?_⟩
  · have fitting : (utf16 "text/plain").length ≤ 160 := by decide
    obtain ⟨final, run⟩ : ∃ final, Machine.Run (machine sampleSha256) Fitting Party.create final
        [sampleSent (utf16 "text/plain")] :=
      sampleOffer_run _ (fun _ => ⟨trivial, fitting⟩) (fun _ => ⟨trivial, trivial⟩)
    exact ⟨final, run, runs final _ run _ List.mem_cons_self⟩
  · obtain ⟨⟨final, frames⟩, ran, numbers⟩ := Option.map_eq_some_iff.mp sampleSource_frame
    obtain ⟨frame, rfl, first⟩ := List.map_eq_singleton_iff.mp numbers
    refine ⟨final, frame, ran, first, ?_⟩
    exact captures Unit .maximumPrivacy sampleSource _ final [frame] rfl (by decide) (by decide) ran
      (by decide +kernel) frame List.mem_cons_self
  · exact offers .balanced sampleUuid sampleUuid (sampleFile (utf16 "text/plain")) false
      (some [97, 98, 99]) 0 1 rfl (by decide) (by decide) (by decide)

/-- A file with a type of 161 code units passes `validateOutboundFile` and is offered, and the
offer is refused. -/
theorem long_type_refused :
    validateOutboundFile (sampleFile (List.replicate 161 97)) (getProfile .balanced).files = .ok () ∧
    ∃ final, Machine.Run (machine sampleSha256) (fun _ input => Possible input.2) Party.create final
      [sampleSent (List.replicate 161 97)] ∧
        ¬ Accepted (sampleSent (List.replicate 161 97)).1 (sampleSent (List.replicate 161 97)).2 := by
  refine ⟨rfl, ?_⟩
  obtain ⟨final, run⟩ : ∃ final, Machine.Run (machine sampleSha256)
      (fun _ input => Possible input.2) Party.create final [sampleSent (List.replicate 161 97)] :=
    sampleOffer_run _ (fun _ => trivial) (fun _ => trivial)
  refine ⟨final, run, ?_⟩
  intro accepted
  have short : (List.replicate 161 (97 : UInt16)).length ≤ 160 := type_of_accepted accepted
  rw [List.length_replicate] at short
  omega

end Agreement

end OnlyTwo.Outbound
