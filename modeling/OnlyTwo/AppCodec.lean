import OnlyTwo.AppMessages
import OnlyTwo.JsonRoundTrip

/-!
The application message codec of client/src/protocol/appMessages.ts with the readers
of client/src/utils/safeJson.ts. On the wire every string is UTF-16 and every number
is what a JSON text says, so messages are given here with all their strings as code
units and their numbers as integers, the two zeros being one. An object literal
evaluates its fields in order, and so does a `do` block. What `Date.now()` returns is
a parameter.
-/

namespace OnlyTwo.AppCodec

open Bytes Js FileProtocol
open AppMessages (VoicePrivacyMode maxTextMessageChars)
open Reliable (ReliableChannelName)

/-- What a decoder throws: an error of the platform, or an `Error` with its text. -/
inductive Thrown where
  | typeError
  | syntaxError
  | error (message : String)
  deriving DecidableEq, Repr

section SafeJson

abbrev JsonObject := List (JsString × Json Decimal)

/-- `obj[key]`: of several members of one name the last one counts. -/
def property (obj : JsonObject) (key : String) : Option (Json Decimal) :=
  (obj.reverse.find? fun field => field.1 = utf16 key).map Prod.snd

def parseJsonObject (text : List Char) : Except Thrown JsonObject :=
  match parse text with
  | none => .error .syntaxError
  | some (.obj fields) => .ok fields
  | some _ => .error (.error "Expected JSON object")

def requireString (obj : JsonObject) (key : String) : Except Thrown JsString :=
  match property obj key with
  | some (.str value) => .ok value
  | _ => .error (.error ("Missing string: " ++ key))

def optionalString (obj : JsonObject) (key : String) (fallback : JsString) : JsString :=
  match property obj key with
  | some (.str value) => value
  | _ => fallback

def requireNumber (obj : JsonObject) (key : String) : Except Thrown Double :=
  match property obj key with
  | some (.num value) =>
      if value.toDouble.isFinite then .ok value.toDouble
      else .error (.error ("Missing number: " ++ key))
  | _ => .error (.error ("Missing number: " ++ key))

def optionalNumber (obj : JsonObject) (key : String) (fallback : Double) : Double :=
  match property obj key with
  | some (.num value) => if value.toDouble.isFinite then value.toDouble else fallback
  | _ => fallback

def requireInteger (obj : JsonObject) (key : String) (min : Int) : Except Thrown Int := do
  let value ← requireNumber obj key
  match value.safeInteger with
  | some value =>
      if value < min then throw (.error ("Invalid integer: " ++ key)) else return value
  | none => throw (.error ("Invalid integer: " ++ key))

end SafeJson

section Messages

inductive CoreAppMessage where
  | sessionVerified (time : Int)
  | textMessage (messageId body : JsString) (createdAt : Int)
  | fileOffer (fileId name mime : JsString) (size chunkSize totalChunks : Int)
      (sha256 : Option JsString)
  | fileAccept (fileId : JsString)
  | fileReject (fileId reason : JsString)
  | fileChunk (fileId : JsString) (index totalChunks : Int) (data : JsString)
  | fileAck (fileId : JsString) (index : Int)
  | fileNack (fileId : JsString) (index : Int) (reason : JsString)
  | filePause (fileId reason : JsString)
  | fileResume (fileId : JsString)
  | fileCancel (fileId reason : JsString)
  | fileComplete (fileId : JsString) (sha256 : Option JsString)
  | voiceStart (streamId : JsString) (sampleRate frameMs : Int) (mode : Option VoicePrivacyMode)
  | voiceFrame (streamId : JsString) (seq sentAt sampleRate frameMs : Int) (pcm16 : JsString)
  | voiceStop (streamId : JsString)
  deriving DecidableEq, Repr

inductive AppMessage where
  | core (message : CoreAppMessage)
  | reliableMsg (id : JsString) (channel : ReliableChannelName) (body : CoreAppMessage)
      (createdAt attempt : Int)
  | reliableAck (id : JsString)
  | reliableNack (id reason : JsString)
  deriving DecidableEq, Repr

inductive Kind where
  | reliableMsg
  | reliableAck
  | reliableNack
  | sessionVerified
  | textMessage
  | fileOffer
  | fileAccept
  | fileReject
  | fileChunk
  | fileAck
  | fileNack
  | filePause
  | fileResume
  | fileCancel
  | fileComplete
  | voiceStart
  | voiceFrame
  | voiceStop
  deriving DecidableEq, Repr

def Kind.text : Kind → String
  | .reliableMsg => "reliable.msg"
  | .reliableAck => "reliable.ack"
  | .reliableNack => "reliable.nack"
  | .sessionVerified => "session.verified"
  | .textMessage => "text.message"
  | .fileOffer => "file.offer"
  | .fileAccept => "file.accept"
  | .fileReject => "file.reject"
  | .fileChunk => "file.chunk"
  | .fileAck => "file.ack"
  | .fileNack => "file.nack"
  | .filePause => "file.pause"
  | .fileResume => "file.resume"
  | .fileCancel => "file.cancel"
  | .fileComplete => "file.complete"
  | .voiceStart => "voice.start"
  | .voiceFrame => "voice.frame"
  | .voiceStop => "voice.stop"

def Kind.all : List Kind :=
  [.reliableMsg, .reliableAck, .reliableNack, .sessionVerified, .textMessage, .fileOffer, .fileAccept,
    .fileReject, .fileChunk, .fileAck, .fileNack, .filePause, .fileResume, .fileCancel, .fileComplete,
    .voiceStart, .voiceFrame, .voiceStop]

def CoreAppMessage.kind : CoreAppMessage → Kind
  | .sessionVerified .. => .sessionVerified
  | .textMessage .. => .textMessage
  | .fileOffer .. => .fileOffer
  | .fileAccept .. => .fileAccept
  | .fileReject .. => .fileReject
  | .fileChunk .. => .fileChunk
  | .fileAck .. => .fileAck
  | .fileNack .. => .fileNack
  | .filePause .. => .filePause
  | .fileResume .. => .fileResume
  | .fileCancel .. => .fileCancel
  | .fileComplete .. => .fileComplete
  | .voiceStart .. => .voiceStart
  | .voiceFrame .. => .voiceFrame
  | .voiceStop .. => .voiceStop

def isReliableBody (message : CoreAppMessage) : Bool :=
  match message.kind with
  | .fileChunk => false
  | .fileAck => false
  | .fileNack => false
  | .voiceFrame => false
  | _ => true

end Messages

section Encoder

abbrev Field := JsString × Json Int

def textField (key : String) (value : JsString) : Field := (utf16 key, .str value)

def numberField (key : String) (value : Int) : Field := (utf16 key, .num value)

def kindField (kind : Kind) : Field := textField "kind" (utf16 kind.text)

/-- A property that is absent is not written. -/
def optionalField (key : String) : Option JsString → List Field
  | some value => [textField key value]
  | none => []

def modeText : VoicePrivacyMode → JsString
  | .efficient => utf16 "efficient"
  | .maximumPrivacy => utf16 "maximum_privacy"

def channelText : ReliableChannelName → JsString
  | .control => utf16 "control"
  | .text => utf16 "text"

/-- The fields of a message but its kind. -/
def CoreAppMessage.details : CoreAppMessage → List Field
  | .sessionVerified time => [numberField "at" time]
  | .textMessage messageId body createdAt =>
      [textField "messageId" messageId, textField "body" body, numberField "createdAt" createdAt]
  | .fileOffer fileId name mime size chunkSize totalChunks sha256 =>
      [textField "fileId" fileId, textField "name" name, textField "mime" mime,
        numberField "size" size, numberField "chunkSize" chunkSize,
        numberField "totalChunks" totalChunks] ++ optionalField "sha256" sha256
  | .fileAccept fileId => [textField "fileId" fileId]
  | .fileReject fileId reason => [textField "fileId" fileId, textField "reason" reason]
  | .fileChunk fileId index totalChunks data =>
      [textField "fileId" fileId, numberField "index" index, numberField "totalChunks" totalChunks,
        textField "data" data]
  | .fileAck fileId index => [textField "fileId" fileId, numberField "index" index]
  | .fileNack fileId index reason =>
      [textField "fileId" fileId, numberField "index" index, textField "reason" reason]
  | .filePause fileId reason => [textField "fileId" fileId, textField "reason" reason]
  | .fileResume fileId => [textField "fileId" fileId]
  | .fileCancel fileId reason => [textField "fileId" fileId, textField "reason" reason]
  | .fileComplete fileId sha256 => textField "fileId" fileId :: optionalField "sha256" sha256
  | .voiceStart streamId sampleRate frameMs mode =>
      [textField "streamId" streamId, numberField "sampleRate" sampleRate,
        numberField "frameMs" frameMs] ++ optionalField "mode" (mode.map modeText)
  | .voiceFrame streamId seq sentAt sampleRate frameMs pcm16 =>
      [textField "streamId" streamId, numberField "seq" seq, numberField "sentAt" sentAt,
        numberField "sampleRate" sampleRate, numberField "frameMs" frameMs, textField "pcm16" pcm16]
  | .voiceStop streamId => [textField "streamId" streamId]

def CoreAppMessage.fields (message : CoreAppMessage) : List Field :=
  kindField message.kind :: message.details

def AppMessage.fields : AppMessage → List Field
  | .core message => message.fields
  | .reliableMsg id channel body createdAt attempt =>
      [kindField .reliableMsg, textField "id" id, textField "channel" (channelText channel),
        (utf16 "body", .obj body.fields), numberField "createdAt" createdAt,
        numberField "attempt" attempt]
  | .reliableAck id => [kindField .reliableAck, textField "id" id]
  | .reliableNack id reason => [kindField .reliableNack, textField "id" id, textField "reason" reason]

def encodeAppMessage (message : AppMessage) : Bytes :=
  utf8EncodeText (stringify (.obj message.fields))

end Encoder

section Decoder

def maxTimestamp : Int := 8640000000000000

/-- What the calls of `Date.now()` return: time values, none of them before the epoch. A
decoder reads the clock twice for each timestamp. -/
structure Clock where
  now : Nat → Int
  valid : ∀ call, 0 ≤ now call ∧ now call ≤ maxTimestamp

def boundedString (obj : JsonObject) (key : String) (max : Nat) : Except Thrown JsString := do
  let value ← requireString obj key
  if value.length = 0 ∨ max < value.length then throw (.error ("Invalid string: " ++ key))
  else return value

def boundedOptionalString (obj : JsonObject) (key : String) (fallback : JsString) (max : Nat) :
    Except Thrown JsString :=
  let value := optionalString obj key fallback
  if max < value.length then throw (.error ("Invalid string: " ++ key)) else return value

/-- `[a-f0-9]` -/
def isHexUnit (unit : UInt16) : Bool :=
  ('a'.toNat ≤ unit.toNat && unit.toNat ≤ 'f'.toNat) ||
    ('0'.toNat ≤ unit.toNat && unit.toNat ≤ '9'.toNat)

def isSha256 (value : JsString) : Bool := value.length = 64 && value.all isHexUnit

/-- The empty string stands for no digest. -/
def optionalSha256 (obj : JsonObject) : Except Thrown (Option JsString) :=
  let value := optionalString obj "sha256" []
  if value = [] then return none
  else if isSha256 value then return some value
  else throw (.error "Invalid sha256")

def optionalTimestamp (obj : JsonObject) (key : String) (fallback later : Int) : Int :=
  match (optionalNumber obj key (.finite fallback)).safeInteger with
  | some value => if value < 0 ∨ maxTimestamp < value then later else value
  | none => later

/-- The kind that `obj.kind` names, of those a `switch` lists. -/
def kindOf (obj : JsonObject) : Option Kind :=
  match property obj "kind" with
  | some (.str text) => Kind.all.find? fun kind => utf16 kind.text = text
  | _ => none

def voiceMode (obj : JsonObject) : Except Thrown (Option VoicePrivacyMode) :=
  let rawMode := optionalString obj "mode" []
  if rawMode = [] then return none
  else if rawMode = modeText .efficient then return some .efficient
  else if rawMode = modeText .maximumPrivacy then return some .maximumPrivacy
  else throw (.error "Invalid voice mode")

def decodeCoreAppMessageObject (clock : Clock) (obj : JsonObject) :
    Except Thrown CoreAppMessage :=
  match kindOf obj with
  | some .sessionVerified =>
      return .sessionVerified (optionalTimestamp obj "at" (clock.now 0) (clock.now 1))
  | some .textMessage => do
      let messageId ← boundedString obj "messageId" 160
      let body ← boundedString obj "body" maxTextMessageChars
      return .textMessage messageId body
        (optionalTimestamp obj "createdAt" (clock.now 0) (clock.now 1))
  | some .fileOffer => do
      let sha256 ← optionalSha256 obj
      let fileId ← boundedString obj "fileId" 160
      let name ← boundedString obj "name" 180
      let mime ← boundedOptionalString obj "mime" (utf16 "application/octet-stream") 160
      let size ← requireInteger obj "size" 1
      let chunkSize ← requireInteger obj "chunkSize" 1
      let totalChunks ← requireInteger obj "totalChunks" 1
      return .fileOffer fileId name mime size chunkSize totalChunks sha256
  | some .fileAccept => do
      let fileId ← boundedString obj "fileId" 160
      return .fileAccept fileId
  | some .fileReject => do
      let fileId ← boundedString obj "fileId" 160
      let reason ← boundedString obj "reason" 240
      return .fileReject fileId reason
  | some .fileChunk => do
      let fileId ← boundedString obj "fileId" 160
      let index ← requireInteger obj "index" 0
      let totalChunks ← requireInteger obj "totalChunks" 1
      let data ← boundedString obj "data" 400000
      return .fileChunk fileId index totalChunks data
  | some .fileAck => do
      let fileId ← boundedString obj "fileId" 160
      let index ← requireInteger obj "index" 0
      return .fileAck fileId index
  | some .fileNack => do
      let fileId ← boundedString obj "fileId" 160
      let index ← requireInteger obj "index" 0
      let reason ← boundedString obj "reason" 240
      return .fileNack fileId index reason
  | some .filePause => do
      let fileId ← boundedString obj "fileId" 160
      let reason ← boundedString obj "reason" 240
      return .filePause fileId reason
  | some .fileResume => do
      let fileId ← boundedString obj "fileId" 160
      return .fileResume fileId
  | some .fileCancel => do
      let fileId ← boundedString obj "fileId" 160
      let reason ← boundedString obj "reason" 240
      return .fileCancel fileId reason
  | some .fileComplete => do
      let sha256 ← optionalSha256 obj
      let fileId ← boundedString obj "fileId" 160
      return .fileComplete fileId sha256
  | some .voiceStart => do
      let mode ← voiceMode obj
      let streamId ← boundedString obj "streamId" 80
      let sampleRate ← requireInteger obj "sampleRate" 1
      let frameMs ← requireInteger obj "frameMs" 1
      return .voiceStart streamId sampleRate frameMs mode
  | some .voiceFrame => do
      let streamId ← boundedString obj "streamId" 80
      let seq ← requireInteger obj "seq" 0
      let sentAt ← requireInteger obj "sentAt" 0
      let sampleRate ← requireInteger obj "sampleRate" 1
      let frameMs ← requireInteger obj "frameMs" 1
      let pcm16 ← boundedString obj "pcm16" 400000
      return .voiceFrame streamId seq sentAt sampleRate frameMs pcm16
  | some .voiceStop => do
      let streamId ← boundedString obj "streamId" 80
      return .voiceStop streamId
  | _ => throw (.error "Unknown app message")

def reliableChannel (obj : JsonObject) : Except Thrown ReliableChannelName := do
  let channel ← requireString obj "channel"
  if channel = channelText .control then return .control
  else if channel = channelText .text then return .text
  else throw (.error "Invalid reliable channel")

def reliableBody (clock : Clock) (obj : JsonObject) : Except Thrown CoreAppMessage :=
  match property obj "body" with
  | some (.obj body) => do
      let decodedBody ← decodeCoreAppMessageObject clock body
      if isReliableBody decodedBody then return decodedBody
      else throw (.error "Message kind is not reliable-wrappable")
  | _ => throw (.error "Invalid reliable body")

def decodeAppMessageObject (clock : Clock) (obj : JsonObject) : Except Thrown AppMessage :=
  match kindOf obj with
  | some .reliableMsg => do
      let channel ← reliableChannel obj
      let body ← reliableBody clock obj
      let id ← boundedString obj "id" 160
      -- The calls of the body's timestamp come first.
      let createdAt := optionalTimestamp obj "createdAt" (clock.now 2) (clock.now 3)
      let attempt ← requireInteger obj "attempt" 1
      return .reliableMsg id channel body createdAt attempt
  | some .reliableAck => do
      let id ← boundedString obj "id" 160
      return .reliableAck id
  | some .reliableNack => do
      let id ← boundedString obj "id" 160
      let reason ← boundedString obj "reason" 240
      return .reliableNack id reason
  | _ => do
      let message ← decodeCoreAppMessageObject clock obj
      return .core message

def decodeAppMessage (clock : Clock) (bytes : Bytes) : Except Thrown AppMessage :=
  match utf8Decode bytes with
  | none => throw .typeError
  | some text => do
      let obj ← parseJsonObject text
      decodeAppMessageObject clock obj

end Decoder

section Bounds

def Text (max : Nat) (value : JsString) : Prop := value ≠ [] ∧ value.length ≤ max

def Whole (min value : Int) : Prop := min ≤ value ∧ value ≤ maxSafeInteger

def Timestamp (value : Int) : Prop := 0 ≤ value ∧ value ≤ maxTimestamp

def Digest (sha256 : Option JsString) : Prop := ∀ value ∈ sha256, isSha256 value = true

/-- The decoder's bounds. -/
def CoreAppMessage.Fits : CoreAppMessage → Prop
  | .sessionVerified time => Timestamp time
  | .textMessage messageId body createdAt =>
      Text 160 messageId ∧ Text maxTextMessageChars body ∧ Timestamp createdAt
  | .fileOffer fileId name mime size chunkSize totalChunks sha256 =>
      Text 160 fileId ∧ Text 180 name ∧ mime.length ≤ 160 ∧ Whole 1 size ∧ Whole 1 chunkSize ∧
        Whole 1 totalChunks ∧ Digest sha256
  | .fileAccept fileId => Text 160 fileId
  | .fileReject fileId reason => Text 160 fileId ∧ Text 240 reason
  | .fileChunk fileId index totalChunks data =>
      Text 160 fileId ∧ Whole 0 index ∧ Whole 1 totalChunks ∧ Text 400000 data
  | .fileAck fileId index => Text 160 fileId ∧ Whole 0 index
  | .fileNack fileId index reason => Text 160 fileId ∧ Whole 0 index ∧ Text 240 reason
  | .filePause fileId reason => Text 160 fileId ∧ Text 240 reason
  | .fileResume fileId => Text 160 fileId
  | .fileCancel fileId reason => Text 160 fileId ∧ Text 240 reason
  | .fileComplete fileId sha256 => Text 160 fileId ∧ Digest sha256
  | .voiceStart streamId sampleRate frameMs _ =>
      Text 80 streamId ∧ Whole 1 sampleRate ∧ Whole 1 frameMs
  | .voiceFrame streamId seq sentAt sampleRate frameMs pcm16 =>
      Text 80 streamId ∧ Whole 0 seq ∧ Whole 0 sentAt ∧ Whole 1 sampleRate ∧ Whole 1 frameMs ∧
        Text 400000 pcm16
  | .voiceStop streamId => Text 80 streamId

def AppMessage.Fits : AppMessage → Prop
  | .core message => message.Fits
  | .reliableMsg id _ body createdAt attempt =>
      Text 160 id ∧ body.Fits ∧ isReliableBody body = true ∧ Timestamp createdAt ∧ Whole 1 attempt
  | .reliableAck id => Text 160 id
  | .reliableNack id reason => Text 160 id ∧ Text 240 reason

end Bounds

section Objects

theorem utf16_inj {first second : String} : utf16 first = utf16 second ↔ first = second := by
  constructor
  · intro same
    exact String.toList_inj.mp (flatMap_units_inj same)
  · rintro rfl
    rfl

theorem property_cons (name : JsString) (value : Json Decimal) (rest : JsonObject) (key : String) :
    property ((name, value) :: rest) key =
      (property rest key).or (if name = utf16 key then some value else none) := by
  simp only [property, List.reverse_cons, List.find?_append, Option.map_or]
  congr 1
  by_cases same : name = utf16 key
  · simp [same]
  · simp [same]

/-- The object that parsing finds where fields were written. -/
def written (fields : List Field) : JsonObject :=
  fields.map fun field => (field.1, field.2.map .ofInt)

def Distinct (fields : List Field) : Prop := (fields.map Prod.fst).Nodup

theorem property_absent {fields : List Field} {key : String}
    (absent : utf16 key ∉ fields.map Prod.fst) : property (written fields) key = none := by
  induction fields with
  | nil => rfl
  | cons field fields ih =>
      simp only [List.map_cons, List.mem_cons, not_or] at absent
      rw [written, List.map_cons, property_cons, if_neg (Ne.symm absent.1), Option.or_none]
      exact ih absent.2

theorem property_written {fields : List Field} (distinct : Distinct fields) {key : String}
    {value : Json Int} (listed : (utf16 key, value) ∈ fields) :
    property (written fields) key = some (value.map .ofInt) := by
  induction fields with
  | nil => cases listed
  | cons field fields ih =>
      simp only [Distinct, List.map_cons, List.nodup_cons] at distinct
      rw [written, List.map_cons, property_cons]
      rcases List.mem_cons.mp listed with rfl | later
      · rw [if_pos rfl]
        have absent := property_absent distinct.1
        rw [written] at absent
        rw [absent, Option.none_or]
      · have found := ih distinct.2 later
        rw [written] at found
        rw [found, Option.some_or]

theorem kindOf_written {kind : Kind} {fields : List Field} (distinct : Distinct fields)
    (listed : kindField kind ∈ fields) : kindOf (written fields) = some kind := by
  unfold kindOf
  rw [property_written distinct listed]
  simp only [Json.map, utf16_inj]
  cases kind <;> decide

end Objects

section Reading

variable {fields : List Field}

theorem boundedString_written (distinct : Distinct fields) (key : String) {value : JsString}
    {max : Nat} (listed : textField key value ∈ fields) (fits : Text max value) :
    boundedString (written fields) key max = .ok value := by
  have read : requireString (written fields) key = .ok value := by
    rw [requireString, property_written distinct listed, Json.map]
  obtain ⟨nonempty, short⟩ := fits
  rw [boundedString, read]
  simp [bind, Except.bind, nonempty, short, pure, Except.pure]

theorem boundedOptionalString_written (distinct : Distinct fields) (key : String)
    {value : JsString} {max : Nat} (fallback : JsString) (listed : textField key value ∈ fields)
    (short : value.length ≤ max) :
    boundedOptionalString (written fields) key fallback max = .ok value := by
  have read : optionalString (written fields) key fallback = value := by
    rw [optionalString, property_written distinct listed, Json.map]
  rw [boundedOptionalString, read]
  exact if_neg (not_lt.mpr short)

theorem safeInteger_whole {value : Int} {min : Int} (start : 0 ≤ min) (fits : Whole min value) :
    (Decimal.ofInt value).toDouble.safeInteger = some value ∧
      (Decimal.ofInt value).toDouble.isFinite = true := by
  obtain ⟨least, most⟩ := fits
  have small : value.natAbs ≤ maxSafeInteger := by omega
  have safe := Decimal.safeInteger_ofInt small
  refine ⟨safe, ?_⟩
  cases double : (Decimal.ofInt value).toDouble with
  | finite => rfl
  | infinite =>
      rw [double] at safe
      cases safe

theorem requireInteger_written (distinct : Distinct fields) (key : String) {value min : Int}
    (start : 0 ≤ min) (listed : numberField key value ∈ fields) (fits : Whole min value) :
    requireInteger (written fields) key min = .ok value := by
  obtain ⟨safe, finite⟩ := safeInteger_whole start fits
  have read : requireNumber (written fields) key = .ok (Decimal.ofInt value).toDouble := by
    rw [requireNumber, property_written distinct listed, Json.map]
    simp only [finite, if_true]
  rw [requireInteger, read]
  simp [bind, Except.bind, safe, not_lt.mpr fits.1, pure, Except.pure]

theorem optionalTimestamp_written (distinct : Distinct fields) (key : String) {value : Int}
    (fallback later : Int) (listed : numberField key value ∈ fields) (fits : Timestamp value) :
    optionalTimestamp (written fields) key fallback later = value := by
  have whole : Whole 0 value := by
    refine ⟨fits.1, fits.2.trans ?_⟩
    decide
  obtain ⟨safe, finite⟩ := safeInteger_whole (le_refl 0) whole
  have read : optionalNumber (written fields) key (.finite fallback) =
      (Decimal.ofInt value).toDouble := by
    rw [optionalNumber, property_written distinct listed, Json.map]
    simp only [finite, if_true]
  have inside : ¬ (value < 0 ∨ maxTimestamp < value) := by
    rw [not_or, not_lt, not_lt]
    exact fits
  rw [optionalTimestamp, read, safe]
  simp only [inside, if_false]

theorem optionalString_written (distinct : Distinct fields) (key : String)
    (value : Option JsString) (listed : ∀ text ∈ value, textField key text ∈ fields)
    (absent : value = none → utf16 key ∉ fields.map Prod.fst) :
    optionalString (written fields) key [] = value.getD [] := by
  cases value with
  | none => rw [optionalString, property_absent (absent rfl), Option.getD_none]
  | some text =>
      rw [optionalString, property_written distinct (listed text rfl), Json.map, Option.getD_some]

theorem optionalSha256_written {sha256 : Option JsString}
    (read : optionalString (written fields) "sha256" [] = sha256.getD []) (fits : Digest sha256) :
    optionalSha256 (written fields) = .ok sha256 := by
  rw [optionalSha256, read]
  cases sha256 with
  | none => rfl
  | some value =>
      have digest := fits value rfl
      have nonempty : value ≠ [] := by
        rintro rfl
        cases digest
      rw [Option.getD_some, if_neg nonempty, if_pos digest]
      rfl

theorem voiceMode_written {mode : Option VoicePrivacyMode}
    (read : optionalString (written fields) "mode" [] = (mode.map modeText).getD []) :
    voiceMode (written fields) = .ok mode := by
  rw [voiceMode, read]
  cases mode with
  | none => rfl
  | some mode =>
      cases mode with
      | efficient => decide
      | maximumPrivacy => decide

end Reading

section RoundTrip

theorem distinct_core (message : CoreAppMessage) : Distinct message.fields := by
  unfold Distinct CoreAppMessage.fields kindField
  cases message with
  | fileOffer _ _ _ _ _ _ sha256 =>
      cases sha256 <;>
        simp [CoreAppMessage.details, textField, numberField, optionalField, utf16_inj]
  | fileComplete _ sha256 =>
      cases sha256 <;> simp [CoreAppMessage.details, textField, optionalField, utf16_inj]
  | voiceStart _ _ _ mode =>
      cases mode <;>
        simp [CoreAppMessage.details, textField, numberField, optionalField, utf16_inj]
  | _ => simp [CoreAppMessage.details, textField, numberField, utf16_inj]

attribute [local simp] CoreAppMessage.fields CoreAppMessage.details

theorem decode_core (clock : Clock) (message : CoreAppMessage) (fits : message.Fits) :
    decodeCoreAppMessageObject clock (written message.fields) = .ok message := by
  have distinct := distinct_core message
  rw [decodeCoreAppMessageObject, kindOf_written distinct List.mem_cons_self]
  cases message with
  | sessionVerified time =>
      simp only [CoreAppMessage.kind]
      rw [optionalTimestamp_written distinct "at" _ _ (by simp) fits]
      rfl
  | textMessage messageId body createdAt =>
      obtain ⟨idFits, bodyFits, timeFits⟩ := fits
      simp only [CoreAppMessage.kind]
      rw [boundedString_written distinct "messageId" (by simp) idFits,
        boundedString_written distinct "body" (by simp) bodyFits,
        optionalTimestamp_written distinct "createdAt" _ _ (by simp) timeFits]
      rfl
  | fileOffer fileId name mime size chunkSize totalChunks sha256 =>
      obtain ⟨idFits, nameFits, mimeFits, sizeFits, chunkFits, totalFits, digestFits⟩ := fits
      -- An absent digest is not written at all.
      have digest := optionalString_written distinct "sha256" sha256
        (fun text held => by simp [Option.mem_def.mp held, optionalField])
        (fun none => by simp [none, optionalField, textField, numberField, kindField, utf16_inj])
      simp only [CoreAppMessage.kind]
      rw [optionalSha256_written digest digestFits,
        boundedString_written distinct "fileId" (by simp) idFits,
        boundedString_written distinct "name" (by simp) nameFits,
        boundedOptionalString_written distinct "mime" _ (by simp) mimeFits,
        requireInteger_written distinct "size" (by decide) (by simp) sizeFits,
        requireInteger_written distinct "chunkSize" (by decide) (by simp) chunkFits,
        requireInteger_written distinct "totalChunks" (by decide) (by simp) totalFits]
      rfl
  | fileAccept fileId =>
      simp only [CoreAppMessage.kind]
      rw [boundedString_written distinct "fileId" (by simp) fits]
      rfl
  | fileReject fileId reason =>
      simp only [CoreAppMessage.kind]
      rw [boundedString_written distinct "fileId" (by simp) fits.1,
        boundedString_written distinct "reason" (by simp) fits.2]
      rfl
  | fileChunk fileId index totalChunks data =>
      obtain ⟨idFits, indexFits, totalFits, dataFits⟩ := fits
      simp only [CoreAppMessage.kind]
      rw [boundedString_written distinct "fileId" (by simp) idFits,
        requireInteger_written distinct "index" (by decide) (by simp) indexFits,
        requireInteger_written distinct "totalChunks" (by decide) (by simp) totalFits,
        boundedString_written distinct "data" (by simp) dataFits]
      rfl
  | fileAck fileId index =>
      simp only [CoreAppMessage.kind]
      rw [boundedString_written distinct "fileId" (by simp) fits.1,
        requireInteger_written distinct "index" (by decide) (by simp) fits.2]
      rfl
  | fileNack fileId index reason =>
      obtain ⟨idFits, indexFits, reasonFits⟩ := fits
      simp only [CoreAppMessage.kind]
      rw [boundedString_written distinct "fileId" (by simp) idFits,
        requireInteger_written distinct "index" (by decide) (by simp) indexFits,
        boundedString_written distinct "reason" (by simp) reasonFits]
      rfl
  | filePause fileId reason =>
      simp only [CoreAppMessage.kind]
      rw [boundedString_written distinct "fileId" (by simp) fits.1,
        boundedString_written distinct "reason" (by simp) fits.2]
      rfl
  | fileResume fileId =>
      simp only [CoreAppMessage.kind]
      rw [boundedString_written distinct "fileId" (by simp) fits]
      rfl
  | fileCancel fileId reason =>
      simp only [CoreAppMessage.kind]
      rw [boundedString_written distinct "fileId" (by simp) fits.1,
        boundedString_written distinct "reason" (by simp) fits.2]
      rfl
  | fileComplete fileId sha256 =>
      obtain ⟨idFits, digestFits⟩ := fits
      have digest := optionalString_written distinct "sha256" sha256
        (fun text held => by simp [Option.mem_def.mp held, optionalField])
        (fun none => by simp [none, optionalField, textField, kindField, utf16_inj])
      simp only [CoreAppMessage.kind]
      rw [optionalSha256_written digest digestFits,
        boundedString_written distinct "fileId" (by simp) idFits]
      rfl
  | voiceStart streamId sampleRate frameMs mode =>
      obtain ⟨idFits, rateFits, frameFits⟩ := fits
      have read := optionalString_written distinct "mode" (mode.map modeText)
        (fun text held => by simp [Option.mem_def.mp held, optionalField])
        (fun none => by simp [none, optionalField, textField, numberField, kindField, utf16_inj])
      simp only [CoreAppMessage.kind]
      rw [voiceMode_written read, boundedString_written distinct "streamId" (by simp) idFits,
        requireInteger_written distinct "sampleRate" (by decide) (by simp) rateFits,
        requireInteger_written distinct "frameMs" (by decide) (by simp) frameFits]
      rfl
  | voiceFrame streamId seq sentAt sampleRate frameMs pcm16 =>
      obtain ⟨idFits, seqFits, sentFits, rateFits, frameFits, dataFits⟩ := fits
      simp only [CoreAppMessage.kind]
      rw [boundedString_written distinct "streamId" (by simp) idFits,
        requireInteger_written distinct "seq" (by decide) (by simp) seqFits,
        requireInteger_written distinct "sentAt" (by decide) (by simp) sentFits,
        requireInteger_written distinct "sampleRate" (by decide) (by simp) rateFits,
        requireInteger_written distinct "frameMs" (by decide) (by simp) frameFits,
        boundedString_written distinct "pcm16" (by simp) dataFits]
      rfl
  | voiceStop streamId =>
      simp only [CoreAppMessage.kind]
      rw [boundedString_written distinct "streamId" (by simp) fits]
      rfl

theorem distinct_fields (message : AppMessage) : Distinct message.fields := by
  cases message with
  | core message => exact distinct_core message
  | _ =>
      simp [Distinct, AppMessage.fields, kindField, textField, numberField, utf16_inj]

theorem reliableChannel_written {fields : List Field} (distinct : Distinct fields)
    (channel : ReliableChannelName) (listed : textField "channel" (channelText channel) ∈ fields) :
    reliableChannel (written fields) = .ok channel := by
  have read : requireString (written fields) "channel" = .ok (channelText channel) := by
    rw [requireString, property_written distinct listed, Json.map]
  rw [reliableChannel, read]
  cases channel <;> decide

theorem reliableBody_written (clock : Clock) {fields : List Field} (distinct : Distinct fields)
    {body : CoreAppMessage} (listed : (utf16 "body", .obj body.fields) ∈ fields) (fits : body.Fits)
    (wrappable : isReliableBody body = true) :
    reliableBody clock (written fields) = .ok body := by
  have found : property (written fields) "body" = some (.obj (written body.fields)) := by
    rw [property_written distinct listed, Json.map, mapFields_eq]
    rfl
  rw [reliableBody, found]
  simp only [decode_core clock body fits]
  exact if_pos wrappable

/-- Decoding inverts encoding, as far as objects go. -/
theorem decode_fields (clock : Clock) (message : AppMessage) (fits : message.Fits) :
    decodeAppMessageObject clock (written message.fields) = .ok message := by
  have distinct := distinct_fields message
  cases message with
  | core message =>
      have kind := kindOf_written distinct (List.mem_cons_self (a := kindField message.kind))
      have decoded := decode_core clock message fits
      have envelope : message.kind ≠ .reliableMsg ∧ message.kind ≠ .reliableAck ∧
          message.kind ≠ .reliableNack := by
        cases message <;> simp [CoreAppMessage.kind]
      rw [decodeAppMessageObject, kind]
      simp only [AppMessage.fields, decoded]
      split
      · exact absurd (Option.some.inj ‹_›) envelope.1
      · exact absurd (Option.some.inj ‹_›) envelope.2.1
      · exact absurd (Option.some.inj ‹_›) envelope.2.2
      · rfl
  | reliableMsg id channel body createdAt attempt =>
      obtain ⟨idFits, bodyFits, wrappable, timeFits, attemptFits⟩ := fits
      rw [decodeAppMessageObject, kindOf_written distinct List.mem_cons_self]
      simp only
      rw [reliableChannel_written distinct channel (by simp [AppMessage.fields]),
        reliableBody_written clock distinct (by simp [AppMessage.fields]) bodyFits wrappable,
        boundedString_written distinct "id" (by simp [AppMessage.fields]) idFits,
        optionalTimestamp_written distinct "createdAt" _ _ (by simp [AppMessage.fields]) timeFits,
        requireInteger_written distinct "attempt" (by decide) (by simp [AppMessage.fields])
          attemptFits]
      rfl
  | reliableAck id =>
      rw [decodeAppMessageObject, kindOf_written distinct List.mem_cons_self]
      simp only
      rw [boundedString_written distinct "id" (by simp [AppMessage.fields]) fits]
      rfl
  | reliableNack id reason =>
      rw [decodeAppMessageObject, kindOf_written distinct List.mem_cons_self]
      simp only
      rw [boundedString_written distinct "id" (by simp [AppMessage.fields]) fits.1,
        boundedString_written distinct "reason" (by simp [AppMessage.fields]) fits.2]
      rfl

/-- The decoder finds the fields that were encoded. -/
theorem decode_written (clock : Clock) (message : AppMessage) :
    decodeAppMessage clock (encodeAppMessage message) =
      decodeAppMessageObject clock (written message.fields) := by
  have decoded : utf8Decode (encodeAppMessage message) = some (stringify (.obj message.fields)) :=
    utf8Decode_encode (by simp [stringify])
  have parsed : parseJsonObject (stringify (.obj message.fields)) = .ok (written message.fields) := by
    rw [parseJsonObject, parse_stringify, Json.map, mapFields_eq]
    rfl
  rw [decodeAppMessage, decoded]
  simp only [parsed]
  rfl

theorem decode_encode (clock : Clock) (message : AppMessage) (fits : message.Fits) :
    decodeAppMessage clock (encodeAppMessage message) = .ok message := by
  rw [decode_written]
  exact decode_fields clock message fits

end RoundTrip

section Acceptance

variable {obj : JsonObject} {key : String}

theorem bind_ok {Error First Second : Type} {first : Except Error First}
    {next : First → Except Error Second} {result : Second} (accepted : first >>= next = .ok result) :
    ∃ value, first = .ok value ∧ next value = .ok result := by
  cases first with
  | error => cases accepted
  | ok value => exact ⟨value, rfl, accepted⟩

theorem boundedString_fits {max : Nat} {value : JsString}
    (accepted : boundedString obj key max = .ok value) : Text max value := by
  obtain ⟨text, _, checked⟩ := bind_ok accepted
  split at checked
  · cases checked
  · rename_i inside
    cases checked
    rw [List.length_eq_zero_iff, not_or, not_lt] at inside
    exact inside

theorem boundedOptionalString_fits {fallback : JsString} {max : Nat} {value : JsString}
    (accepted : boundedOptionalString obj key fallback max = .ok value) : value.length ≤ max := by
  rw [boundedOptionalString] at accepted
  split at accepted
  · cases accepted
  · rename_i inside
    cases accepted
    exact not_lt.mp inside

theorem requireInteger_fits {min value : Int} (accepted : requireInteger obj key min = .ok value) :
    Whole min value := by
  obtain ⟨double, _, checked⟩ := bind_ok accepted
  split at checked
  · rename_i safe
    split at checked
    · cases checked
    · rename_i least
      cases checked
      have bound := Double.safeInteger_bound safe
      exact ⟨not_lt.mp least, by omega⟩
  · cases checked

theorem optionalTimestamp_fits (clock : Clock) (first second : Nat) :
    Timestamp (optionalTimestamp obj key (clock.now first) (clock.now second)) := by
  unfold optionalTimestamp
  split
  · split
    · exact clock.valid second
    · rename_i inside
      rw [not_or, not_lt, not_lt] at inside
      exact inside
  · exact clock.valid second

theorem optionalSha256_fits {sha256 : Option JsString} (accepted : optionalSha256 obj = .ok sha256) :
    Digest sha256 := by
  rw [optionalSha256] at accepted
  split at accepted
  · cases accepted
    intro value held
    cases held
  · split at accepted
    · rename_i digest
      cases accepted
      intro value held
      cases held
      exact digest
    · cases accepted

theorem core_fits {clock : Clock} {message : CoreAppMessage}
    (accepted : decodeCoreAppMessageObject clock obj = .ok message) : message.Fits := by
  unfold decodeCoreAppMessageObject at accepted
  split at accepted
  · cases accepted
    exact optionalTimestamp_fits clock 0 1
  · obtain ⟨messageId, idRead, accepted⟩ := bind_ok accepted
    obtain ⟨body, bodyRead, accepted⟩ := bind_ok accepted
    cases accepted
    exact ⟨boundedString_fits idRead, boundedString_fits bodyRead, optionalTimestamp_fits clock 0 1⟩
  · obtain ⟨sha256, digestRead, accepted⟩ := bind_ok accepted
    obtain ⟨fileId, idRead, accepted⟩ := bind_ok accepted
    obtain ⟨name, nameRead, accepted⟩ := bind_ok accepted
    obtain ⟨mime, mimeRead, accepted⟩ := bind_ok accepted
    obtain ⟨size, sizeRead, accepted⟩ := bind_ok accepted
    obtain ⟨chunkSize, chunkRead, accepted⟩ := bind_ok accepted
    obtain ⟨totalChunks, totalRead, accepted⟩ := bind_ok accepted
    cases accepted
    exact ⟨boundedString_fits idRead, boundedString_fits nameRead,
      boundedOptionalString_fits mimeRead, requireInteger_fits sizeRead,
      requireInteger_fits chunkRead, requireInteger_fits totalRead, optionalSha256_fits digestRead⟩
  · obtain ⟨fileId, idRead, accepted⟩ := bind_ok accepted
    cases accepted
    exact boundedString_fits idRead
  · obtain ⟨fileId, idRead, accepted⟩ := bind_ok accepted
    obtain ⟨reason, reasonRead, accepted⟩ := bind_ok accepted
    cases accepted
    exact ⟨boundedString_fits idRead, boundedString_fits reasonRead⟩
  · obtain ⟨fileId, idRead, accepted⟩ := bind_ok accepted
    obtain ⟨index, indexRead, accepted⟩ := bind_ok accepted
    obtain ⟨totalChunks, totalRead, accepted⟩ := bind_ok accepted
    obtain ⟨data, dataRead, accepted⟩ := bind_ok accepted
    cases accepted
    exact ⟨boundedString_fits idRead, requireInteger_fits indexRead, requireInteger_fits totalRead,
      boundedString_fits dataRead⟩
  · obtain ⟨fileId, idRead, accepted⟩ := bind_ok accepted
    obtain ⟨index, indexRead, accepted⟩ := bind_ok accepted
    cases accepted
    exact ⟨boundedString_fits idRead, requireInteger_fits indexRead⟩
  · obtain ⟨fileId, idRead, accepted⟩ := bind_ok accepted
    obtain ⟨index, indexRead, accepted⟩ := bind_ok accepted
    obtain ⟨reason, reasonRead, accepted⟩ := bind_ok accepted
    cases accepted
    exact ⟨boundedString_fits idRead, requireInteger_fits indexRead, boundedString_fits reasonRead⟩
  · obtain ⟨fileId, idRead, accepted⟩ := bind_ok accepted
    obtain ⟨reason, reasonRead, accepted⟩ := bind_ok accepted
    cases accepted
    exact ⟨boundedString_fits idRead, boundedString_fits reasonRead⟩
  · obtain ⟨fileId, idRead, accepted⟩ := bind_ok accepted
    cases accepted
    exact boundedString_fits idRead
  · obtain ⟨fileId, idRead, accepted⟩ := bind_ok accepted
    obtain ⟨reason, reasonRead, accepted⟩ := bind_ok accepted
    cases accepted
    exact ⟨boundedString_fits idRead, boundedString_fits reasonRead⟩
  · obtain ⟨sha256, digestRead, accepted⟩ := bind_ok accepted
    obtain ⟨fileId, idRead, accepted⟩ := bind_ok accepted
    cases accepted
    exact ⟨boundedString_fits idRead, optionalSha256_fits digestRead⟩
  · obtain ⟨mode, _, accepted⟩ := bind_ok accepted
    obtain ⟨streamId, idRead, accepted⟩ := bind_ok accepted
    obtain ⟨sampleRate, rateRead, accepted⟩ := bind_ok accepted
    obtain ⟨frameMs, frameRead, accepted⟩ := bind_ok accepted
    cases accepted
    exact ⟨boundedString_fits idRead, requireInteger_fits rateRead, requireInteger_fits frameRead⟩
  · obtain ⟨streamId, idRead, accepted⟩ := bind_ok accepted
    obtain ⟨seq, seqRead, accepted⟩ := bind_ok accepted
    obtain ⟨sentAt, sentRead, accepted⟩ := bind_ok accepted
    obtain ⟨sampleRate, rateRead, accepted⟩ := bind_ok accepted
    obtain ⟨frameMs, frameRead, accepted⟩ := bind_ok accepted
    obtain ⟨pcm16, dataRead, accepted⟩ := bind_ok accepted
    cases accepted
    exact ⟨boundedString_fits idRead, requireInteger_fits seqRead, requireInteger_fits sentRead,
      requireInteger_fits rateRead, requireInteger_fits frameRead, boundedString_fits dataRead⟩
  · obtain ⟨streamId, idRead, accepted⟩ := bind_ok accepted
    cases accepted
    exact boundedString_fits idRead
  · cases accepted

theorem reliableBody_fits {clock : Clock} {body : CoreAppMessage}
    (accepted : reliableBody clock obj = .ok body) : body.Fits ∧ isReliableBody body = true := by
  unfold reliableBody at accepted
  split at accepted
  · obtain ⟨decoded, bodyRead, checked⟩ := bind_ok accepted
    split at checked
    · rename_i wrappable
      cases checked
      exact ⟨core_fits bodyRead, wrappable⟩
    · cases checked
  · cases accepted

theorem object_fits {clock : Clock} {message : AppMessage}
    (accepted : decodeAppMessageObject clock obj = .ok message) : message.Fits := by
  unfold decodeAppMessageObject at accepted
  split at accepted
  · obtain ⟨channel, _, accepted⟩ := bind_ok accepted
    obtain ⟨body, bodyRead, accepted⟩ := bind_ok accepted
    obtain ⟨id, idRead, accepted⟩ := bind_ok accepted
    obtain ⟨attempt, attemptRead, accepted⟩ := bind_ok accepted
    cases accepted
    obtain ⟨bodyFits, wrappable⟩ := reliableBody_fits bodyRead
    exact ⟨boundedString_fits idRead, bodyFits, wrappable, optionalTimestamp_fits clock 2 3,
      requireInteger_fits attemptRead⟩
  · obtain ⟨id, idRead, accepted⟩ := bind_ok accepted
    cases accepted
    exact boundedString_fits idRead
  · obtain ⟨id, idRead, accepted⟩ := bind_ok accepted
    obtain ⟨reason, reasonRead, accepted⟩ := bind_ok accepted
    cases accepted
    exact ⟨boundedString_fits idRead, boundedString_fits reasonRead⟩
  · obtain ⟨core, coreRead, accepted⟩ := bind_ok accepted
    cases accepted
    exact core_fits coreRead

theorem accepted_fits {clock : Clock} {bytes : Bytes} {message : AppMessage}
    (accepted : decodeAppMessage clock bytes = .ok message) : message.Fits := by
  unfold decodeAppMessage at accepted
  split at accepted
  · cases accepted
  · obtain ⟨obj, _, read⟩ := bind_ok accepted
    exact object_fits read

end Acceptance

/-- Kinds that no envelope carries: envelopes, chunks with their answers, and voice frames. -/
def unwrappable : List Kind :=
  [.reliableMsg, .reliableAck, .reliableNack, .fileChunk, .fileAck, .fileNack, .voiceFrame]

theorem wrapped_kind {body : CoreAppMessage} (wrappable : isReliableBody body = true) :
    body.kind ∉ unwrappable := by
  cases body with
  | fileChunk => cases wrappable
  | fileAck => cases wrappable
  | fileNack => cases wrappable
  | voiceFrame => cases wrappable
  | _ => simp [unwrappable, CoreAppMessage.kind]

/-- Every message within the bounds survives the wire, whatever the clock says. What the
decoder accepts is within the bounds, carries a body that may be wrapped, and survives too. -/
theorem app_message_codec :
    (∀ (clock : Clock) (message : AppMessage), message.Fits →
      decodeAppMessage clock (encodeAppMessage message) = .ok message) ∧
    ∀ (clock : Clock) (bytes : Bytes) (message : AppMessage),
      decodeAppMessage clock bytes = .ok message →
        message.Fits ∧
        (∀ id channel body createdAt attempt,
          message = .reliableMsg id channel body createdAt attempt → body.kind ∉ unwrappable) ∧
        ∀ later : Clock, decodeAppMessage later (encodeAppMessage message) = .ok message := by
  refine ⟨decode_encode, ?_⟩
  intro clock bytes message accepted
  have fits := accepted_fits accepted
  refine ⟨fits, ?_, fun later => decode_encode later message fits⟩
  rintro id channel body createdAt attempt rfl
  obtain ⟨_, _, wrappable, _⟩ := fits
  exact wrapped_kind wrappable

/-- A clock that stands still. -/
def stoppedClock : Clock := ⟨fun _ => 1700000000000, fun _ => by decide⟩

def wrappedOffer : AppMessage :=
  .reliableMsg (utf16 "m-1") .control
    (.fileOffer (utf16 "f-1") (utf16 "notes.txt") (utf16 "text/plain") 5 32768 1 none) 1700000000000 1

theorem wrapped_offer_codec :
    wrappedOffer.Fits ∧
      decodeAppMessage stoppedClock (encodeAppMessage wrappedOffer) = .ok wrappedOffer := by
  have fits : wrappedOffer.Fits := by
    have digest : Digest none := fun value held => by cases held
    refine ⟨⟨?_, ?_⟩, ⟨⟨?_, ?_⟩, ⟨?_, ?_⟩, ?_, ⟨?_, ?_⟩, ⟨?_, ?_⟩, ⟨?_, ?_⟩, digest⟩, ?_, ⟨?_, ?_⟩,
      ⟨?_, ?_⟩⟩ <;> decide +kernel
  exact ⟨fits, app_message_codec.1 stoppedClock wrappedOffer fits⟩

end OnlyTwo.AppCodec
