import OnlyTwo.AppCodec
import OnlyTwo.Client
import OnlyTwo.Negotiation

/-!
Messages as the session hands them to `sendRawApp`, and what becomes of them on the
other side: `decodeAppMessage` of the encoded message, then `validateInboundStream` of
client/src/protocol/streams.ts for the stream of the lane. Next to it the texts that the
sending side makes itself (client/src/utils/ids.ts, `digestBytes`, `formatBytes`,
`validateFilename`) with their lengths in code units.
-/

namespace OnlyTwo.Outbound

open Bytes Js FileProtocol AppCodec
open AppMessages (LaneName VoicePrivacyMode reliableBody)
open Client (streamForLane)
open Negotiation (bytesToHex)

section Wire

/-- What `JSON.stringify` finds in a `file.*` message. -/
def wireFile : FileMessage → CoreAppMessage
  | .offer fields =>
      .fileOffer (utf16 fields.fileId) fields.name fields.mime fields.size fields.chunkSize
        fields.totalChunks (fields.sha256.map utf16)
  | .accept fileId => .fileAccept (utf16 fileId)
  | .reject fileId reason => .fileReject (utf16 fileId) (utf16 reason)
  | .chunk fileId index totalChunks data =>
      .fileChunk (utf16 fileId) index totalChunks (utf16 data)
  | .ack fileId index => .fileAck (utf16 fileId) index
  | .nack fileId index reason => .fileNack (utf16 fileId) index (utf16 reason)
  | .pause fileId reason => .filePause (utf16 fileId) (utf16 reason)
  | .resume fileId => .fileResume (utf16 fileId)
  | .cancel fileId reason => .fileCancel (utf16 fileId) (utf16 reason)
  | .complete fileId sha256 => .fileComplete (utf16 fileId) (sha256.map utf16)

def wireCore : AppMessages.CoreAppMessage → CoreAppMessage
  | .sessionVerified time => .sessionVerified time
  | .text messageId body createdAt => .textMessage (utf16 messageId) body createdAt
  | .file message => wireFile message
  | .voiceStart fields =>
      .voiceStart (utf16 fields.streamId) fields.sampleRate fields.frameMs fields.mode
  | .voiceFrame streamId seq sentAt sampleRate frameMs pcm16 =>
      .voiceFrame (utf16 streamId) seq sentAt sampleRate frameMs (utf16 pcm16)
  | .voiceStop streamId => .voiceStop (utf16 streamId)

def wire : AppMessages.AppMessage → AppMessage
  | .core message => .core (wireCore message)
  | .reliable (.msg id channel body createdAt attempt) =>
      .reliableMsg (utf16 id) channel (wireCore body.1) createdAt attempt
  | .reliable (.ack id) => .reliableAck (utf16 id)
  | .reliable (.nack id reason) => .reliableNack (utf16 id) (utf16 reason)

def validateInboundStream (message : AppMessage) (streamId : Nat) : Except String Unit :=
  match streamId, message with
  | 1, .reliableAck _ => .ok ()
  | 1, .reliableNack _ _ => .ok ()
  | 1, .core (.fileAck _ _) => .ok ()
  | 1, .core (.fileNack _ _ _) => .ok ()
  | 1, .reliableMsg _ .control body _ _ =>
      if body.kind = .textMessage then .error "Message kind does not match control stream" else .ok ()
  | 1, _ => .error "Message kind does not match control stream"
  | 2, .reliableMsg _ .text body _ _ =>
      if body.kind = .textMessage then .ok () else .error "Message kind does not match text stream"
  | 2, _ => .error "Message kind does not match text stream"
  | 3, .core (.fileChunk _ _ _ _) => .ok ()
  | 3, _ => .error "Message kind does not match file stream"
  | 4, .core (.voiceFrame _ _ _ _ _ _) => .ok ()
  | 4, _ => .error "Message kind does not match voice stream"
  | _, _ => .error "Unknown encrypted stream"

/-- The other side decodes the message and finds it on a stream it belongs to. -/
def Accepted (message : AppMessages.AppMessage) (lane : LaneName) : Prop :=
  ∀ clock : Clock, ∃ decoded, decodeAppMessage clock (encodeAppMessage (wire message)) = .ok decoded ∧
    validateInboundStream decoded (streamForLane lane) = .ok ()

theorem kind_wireCore (message : AppMessages.CoreAppMessage) :
    (wireCore message).kind = .textMessage ↔ AppMessages.isText message = true := by
  cases message with
  | file message => cases message <;> simp [wireCore, wireFile, CoreAppMessage.kind, AppMessages.isText]
  | _ => simp [wireCore, CoreAppMessage.kind, AppMessages.isText]

theorem isReliableBody_wireCore (message : AppMessages.CoreAppMessage) :
    isReliableBody (wireCore message) = AppMessages.isReliableBody message := by
  cases message with
  | file message => cases message <;> rfl
  | _ => rfl

/-- The check on the wire is the check of the session. -/
theorem validate_wire (message : AppMessages.AppMessage) (streamId : Nat) :
    validateInboundStream (wire message) streamId =
      AppMessages.validateInboundStream message streamId := by
  rcases streamId with _ | _ | _ | _ | _ | streamId
  case zero => rfl
  case succ.succ.succ.succ.succ => rfl
  all_goals
    rcases message with message | message
    · rcases message with _ | _ | message | _ | _ | _
      case file => cases message <;> rfl
      all_goals rfl
    · rcases message with ⟨id, channel, body, createdAt, attempt⟩ | _ | _
      case msg =>
        cases channel <;>
          simp only [wire, validateInboundStream, AppMessages.validateInboundStream, kind_wireCore]
      all_goals rfl

theorem Accepted.of_fits {message : AppMessages.AppMessage} {lane : LaneName}
    (fits : (wire message).Fits)
    (suits : AppMessages.validateInboundStream message (streamForLane lane) = .ok ()) :
    Accepted message lane := by
  intro clock
  refine ⟨wire message, decode_encode clock (wire message) fits, ?_⟩
  rw [validate_wire]
  exact suits

end Wire

section Sendable

/-- `sendApp` puts a message that it wraps on a stream for such messages, and another one on
a stream of its own. -/
def Suits (message : AppMessages.CoreAppMessage) (lane : LaneName) : Prop :=
  match reliableBody message lane with
  | some body => AppMessages.isText body.1 = decide (lane = .text)
  | none => AppMessages.validateInboundStream (.core message) (streamForLane lane) = .ok ()

/-- What `sendApp` may be called with. -/
structure Sendable (message : AppMessages.CoreAppMessage) (lane : LaneName) : Prop where
  fits : (wireCore message).Fits
  suits : Suits message lane

theorem Sendable.accepted_raw {message : AppMessages.CoreAppMessage} {lane : LaneName}
    (sendable : Sendable message lane) (raw : reliableBody message lane = none) :
    Accepted (.core message) lane := by
  refine Accepted.of_fits sendable.fits ?_
  have suits := sendable.suits
  simp only [Suits, raw] at suits
  exact suits

def channelLane : Reliable.ReliableChannelName → LaneName
  | .control => .control
  | .text => .text

/-- What a `reliable.msg` on its lane may carry. -/
structure Wrappable (channel : Reliable.ReliableChannelName) (body : AppMessages.ReliableBodyMessage) :
    Prop where
  fits : (wireCore body.1).Fits
  suits : AppMessages.isText body.1 = decide (channel = .text)

theorem Sendable.wrappable {message : AppMessages.CoreAppMessage} {lane : LaneName}
    {body : AppMessages.ReliableBodyMessage} (sendable : Sendable message lane)
    (wraps : reliableBody message lane = some body) :
    Wrappable (if lane = .text then .text else .control) body := by
  have suits := sendable.suits
  simp only [Suits, wraps] at suits
  have same : body.1 = message := by
    simp only [AppMessages.reliableBody] at wraps
    split at wraps
    · split at wraps
      · cases wraps
        rfl
      · cases wraps
    · cases wraps
  refine ⟨same ▸ sendable.fits, suits.trans ?_⟩
  by_cases text : lane = .text <;> simp [text]

theorem Wrappable.accepted {channel : Reliable.ReliableChannelName}
    {body : AppMessages.ReliableBodyMessage} (wrappable : Wrappable channel body) {id : String}
    {createdAt attempt : Nat} (named : Text 160 (utf16 id)) (timely : Timestamp createdAt)
    (counted : Whole 1 attempt) :
    Accepted (.reliable (.msg id channel body createdAt attempt)) (channelLane channel) := by
  refine Accepted.of_fits ⟨named, wrappable.fits, ?_, timely, counted⟩ ?_
  · rw [isReliableBody_wireCore]
    exact body.2
  · have suits := wrappable.suits
    cases channel with
    | control =>
        simp only [channelLane, streamForLane, AppMessages.validateInboundStream, suits]
        rfl
    | text =>
        simp only [channelLane, streamForLane, AppMessages.validateInboundStream, suits]
        rfl

theorem ack_accepted {id : String} (named : Text 160 (utf16 id)) :
    Accepted (.reliable (.ack id)) .control :=
  Accepted.of_fits named rfl

/-- An offer is read only if its media type fits. -/
theorem mime_of_decoded {clock : Clock} {id fileId name mime : JsString} {size chunkSize totalChunks
    createdAt attempt : Int} {sha256 : Option JsString} {channel : Reliable.ReliableChannelName}
    {decoded : AppMessage}
    (read : decodeAppMessage clock (encodeAppMessage (.reliableMsg id channel
      (.fileOffer fileId name mime size chunkSize totalChunks sha256) createdAt attempt)) =
        .ok decoded) : mime.length ≤ 160 := by
  let body : CoreAppMessage := .fileOffer fileId name mime size chunkSize totalChunks sha256
  -- No name is written twice, so each property reads back what was written.
  have outer := distinct_fields (.reliableMsg id channel body createdAt attempt)
  have inner := distinct_core body
  have found : property (written (AppMessage.reliableMsg id channel body createdAt attempt).fields)
      "body" = some (.obj (written body.fields)) := by
    have held : (utf16 "body", Json.obj body.fields) ∈
        (AppMessage.reliableMsg id channel body createdAt attempt).fields := by
      simp [AppMessage.fields]
    rw [property_written outer held, Json.map, mapFields_eq]
    rfl
  have listed : textField "mime" mime ∈ body.fields := by
    simp [body, CoreAppMessage.fields, CoreAppMessage.details]
  have given : optionalString (written body.fields) "mime" (utf16 "application/octet-stream") =
      mime := by
    rw [optionalString, property_written inner listed, Json.map]
  rw [decode_written, decodeAppMessageObject, kindOf_written outer List.mem_cons_self] at read
  -- The decoder checks the fields in the order of the record; `mime` comes after the name.
  obtain ⟨_, _, afterChannel⟩ := bind_ok read
  obtain ⟨_, wrapped, _⟩ := bind_ok afterChannel
  rw [AppCodec.reliableBody, found] at wrapped
  obtain ⟨_, core, _⟩ := bind_ok wrapped
  rw [decodeCoreAppMessageObject, kindOf_written inner List.mem_cons_self] at core
  obtain ⟨_, _, afterSha⟩ := bind_ok core
  obtain ⟨_, _, afterId⟩ := bind_ok afterSha
  obtain ⟨_, _, afterName⟩ := bind_ok afterId
  obtain ⟨value, bounded, _⟩ := bind_ok afterName
  have short := boundedOptionalString_fits bounded
  rw [boundedOptionalString, given] at bounded
  split at bounded
  · cases bounded
  · cases bounded
    exact short

end Sendable

section Texts

theorem length_units_le (char : Char) : (units char).length ≤ 2 := by
  simp only [units]
  split
  · exact Nat.le_succ 1
  · exact le_rfl

theorem length_utf16_le (text : String) : (utf16 text).length ≤ 2 * text.length := by
  rw [← String.length_toList]
  change (text.toList.flatMap units).length ≤ _
  induction text.toList with
  | nil => exact le_rfl
  | cons char rest ih =>
      have one := length_units_le char
      rw [List.flatMap_cons, List.length_append, List.length_cons]
      omega

theorem utf16_ne_nil {text : String} (some_ : text ≠ "") : utf16 text ≠ [] := by
  intro none_
  exact some_ (utf16_inj.mp none_)

/-- A text of half as many characters fits into a number of code units. -/
theorem text_of_length {text : String} {max : Nat} (some_ : 0 < text.length)
    (short : 2 * text.length ≤ max) : Text max (utf16 text) := by
  refine ⟨utf16_ne_nil ?_, (length_utf16_le text).trans short⟩
  rintro rfl
  exact absurd some_ (by decide)

/-- What `crypto.randomUUID()` returns. -/
structure Uuid where
  text : String
  length : text.length = 36

theorem Uuid.fits (uuid : Uuid) : Text 160 (utf16 uuid.text) :=
  text_of_length (by rw [uuid.length]; decide) (by rw [uuid.length]; decide)

def makeId (label : String) (uuid : Uuid) : String :=
  label ++ "_" ++ String.ofList ((uuid.text.toList.filter (· ≠ '-')).take 18)

theorem makeId_fits (label : String) (uuid : Uuid) (short : label.length ≤ 60) :
    Text 160 (utf16 (makeId label uuid)) := by
  have digits : ((uuid.text.toList.filter (· ≠ '-')).take 18).length ≤ 18 := List.length_take_le _ _
  have length : (makeId label uuid).length =
      label.length + 1 + ((uuid.text.toList.filter (· ≠ '-')).take 18).length := by
    simp only [makeId, String.length_append, String.length_ofList]
    rfl
  exact text_of_length (by omega) (by omega)

/-- `crypto.subtle.digest("SHA-256", bytes)` -/
structure Sha256 where
  hash : Bytes → Bytes
  length : ∀ bytes, (hash bytes).length = 32

def hexText (bytes : Bytes) : String :=
  String.ofList (bytes.flatMap fun byte => [hexDigit (byte.toNat / 16), hexDigit (byte.toNat % 16)])

def digestBytes (sha256 : Sha256) (bytes : Bytes) : String := hexText (sha256.hash bytes)

theorem utf16_hexText (bytes : Bytes) : utf16 (hexText bytes) = bytesToHex bytes := by
  change (hexText bytes).toList.flatMap units = _
  rw [hexText, String.toList_ofList, bytesToHex, List.flatMap_assoc]
  simp only [List.flatMap_cons, List.flatMap_nil, List.append_nil]

theorem units_hexDigit : ∀ value, value < 16 →
    (units (hexDigit value)).length = 1 ∧ (units (hexDigit value)).all isHexUnit = true := by
  decide

theorem isHexUnit_bytesToHex (bytes : Bytes) :
    (bytesToHex bytes).length = 2 * bytes.length ∧ (bytesToHex bytes).all isHexUnit = true := by
  induction bytes with
  | nil => exact ⟨rfl, rfl⟩
  | cons byte rest ih =>
      have small := byte.toNat_lt
      obtain ⟨highLength, high⟩ := units_hexDigit (byte.toNat / 16) (by omega)
      obtain ⟨lowLength, low⟩ := units_hexDigit (byte.toNat % 16) (by omega)
      rw [Negotiation.bytesToHex_cons]
      simp only [List.length_append, List.length_cons, List.all_append, highLength, lowLength, high,
        low, ih.1, ih.2, Bool.and_self, and_true]
      omega

theorem digestBytes_fits (sha256 : Sha256) (bytes : Bytes) :
    isSha256 (utf16 (digestBytes sha256 bytes)) = true := by
  obtain ⟨length, digits⟩ := isHexUnit_bytesToHex (sha256.hash bytes)
  rw [digestBytes, utf16_hexText, isSha256, digits, length, sha256.length]
  rfl

end Texts

section Files

theorem length_trim_le (text : Utf16) : (trim text).length ≤ text.length := by
  rw [trim, List.length_reverse]
  refine (List.dropWhile_suffix _).length_le.trans ?_
  rw [List.length_reverse]
  exact (List.dropWhile_suffix _).length_le

theorem validateFilename_fits (name : Utf16) : Text 180 (validateFilename name) := by
  unfold validateFilename
  dsimp only
  split
  · exact ⟨by decide, by decide⟩
  · rename_i kept
    exact ⟨kept, (length_trim_le _).trans (List.length_take_le _ _)⟩

/-- The limit of 400000 code units leaves much room for a chunk or a frame. -/
theorem base64Url_fits {bytes : Bytes} (some_ : 0 < bytes.length) (short : bytes.length ≤ 100000) :
    Text 400000 (utf16 (bytesToBase64Url bytes)) := by
  have length : (bytesToBase64Url bytes).length = (sextets bytes).length := by
    rw [← String.length_toList, base64Url_toList, List.length_map, List.length_map]
  have sized := sextets_length bytes
  have padded : padding bytes ≤ 2 := by
    rw [padding]
    omega
  exact text_of_length (by omega) (by omega)

theorem length_toString_le {value : Nat} (small : value < 10 ^ 18) : (toString value).length ≤ 18 :=
  (Nat.length_repr_le_iff (by decide)).mpr small

theorem length_toFixed_le {numerator denominator digits : Nat} (small : numerator ≤ maxSafeInteger)
    (positive : 0 < denominator) (few : digits ≤ 2) :
    (toFixed numerator denominator digits).length ≤ 40 := by
  have scaled : (2 * numerator * 10 ^ digits + denominator) / (2 * denominator) < 10 ^ 18 := by
    have power : 10 ^ digits ≤ 10 ^ 2 := Nat.pow_le_pow_right (by decide) few
    have safe : maxSafeInteger < 10 ^ 16 := by decide
    have product : numerator * 10 ^ digits ≤ numerator * 10 ^ 2 := Nat.mul_le_mul_left _ power
    rw [Nat.div_lt_iff_lt_mul (by omega)]
    nlinarith
  have length := fun value (le : value ≤ _) => length_toString_le (lt_of_le_of_lt le scaled)
  unfold toFixed
  dsimp only
  split
  · exact (length _ le_rfl).trans (by decide)
  · have whole := length _ (Nat.div_le_self _ (10 ^ digits))
    have fraction := length _ (Nat.mod_le _ (10 ^ digits))
    simp only [String.length_append, String.length_ofList, List.length_replicate]
    have point : ".".length = 1 := rfl
    omega

theorem length_formatBytes_le {bytes : Nat} (small : bytes ≤ maxSafeInteger) :
    (formatBytes bytes).length ≤ 43 := by
  have safe : maxSafeInteger < 10 ^ 18 := by decide
  have fixed := fun denominator (positive : 0 < denominator) =>
    fun digits (few : digits ≤ 2) => length_toFixed_le small positive few
  have named : " B".length ≤ 3 ∧ " KB".length ≤ 3 ∧ " MB".length ≤ 3 ∧ " GB".length ≤ 3 := by decide
  have chosen : ∀ condition : Prop, ∀ [Decidable condition], (if condition then 1 else 2) ≤ 2 := by
    intro condition _
    split <;> decide
  unfold formatBytes
  split
  · have whole := length_toString_le (lt_of_le_of_lt small safe)
    rw [String.length_append]
    omega
  · split
    · have length := fixed 1024 (by decide) _ (chosen (10 * 1024 ≤ bytes))
      rw [String.length_append]
      omega
    · split
      · have length := fixed (1024 ^ 2) (by decide) _ (chosen (10 * 1024 ^ 2 ≤ bytes))
        rw [String.length_append]
        omega
      · have length := fixed (1024 ^ 3) (by decide) _ (chosen (10 * 1024 ^ 3 ≤ bytes))
        rw [String.length_append]
        omega

end Files

end OnlyTwo.Outbound
