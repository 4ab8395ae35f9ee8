import OnlyTwo.EnvelopeCodec
import OnlyTwo.JsonSize
import OnlyTwo.OutboundMessages
import OnlyTwo.Padding
import OnlyTwo.ReplayWindow
import OnlyTwo.VoiceCapture

/-!
From a message of the user to its frame: `encryptAppMessage` of
client/src/crypto/SecureChannel.ts, and how long its result may be. Every text, chunk and
voice frame stays below 64 KB when it is written, each profile lists that bucket, and it is
the largest one that `getRandomValues` fills. So the worker seals each of them, and the
sealed envelope is packed.
-/

namespace OnlyTwo.Client

open Bytes Js FileProtocol CryptoWorker
open OnlyTwo.Envelope (AadContext headerBytes nonceBytes)
open AppMessages (LaneName TransportProfileId maxTextMessageChars)
open AppCodec (AppMessage CoreAppMessage Kind Text Whole Timestamp textField numberField kindField
  encodeAppMessage)
open Transport (Envelope TransportLimits transportLimits packEnvelope createAadContext)
open VoiceCapture (samplesPerFrame)

section Channel

/-- The channel of a session; of its profile it reads the limits of the transport. -/
structure SecureChannel where
  sequence : Nat
  profile : TransportLimits

def SecureChannel.nextSequence (self : SecureChannel) : SecureChannel :=
  let sequence := (self.sequence + 1) % 2 ^ 32
  { self with sequence := if sequence = 0 then 1 else sequence }

def SecureChannel.draft (self : SecureChannel) (lane : LaneName) : AadContext where
  protocolVersion := self.profile.protocolVersion
  outerType := .data
  flags := 0
  streamId := streamForLane lane
  sequence := self.sequence

/-- The worker answers between the draft and the envelope. -/
def SecureChannel.encryptAppMessage (self : SecureChannel) (web : WebCrypto) (entropy : Entropy)
    (worker : Worker) (message : AppMessage) (lane : LaneName) :
    SecureChannel × Worker × Except String Envelope :=
  let next := self.nextSequence
  let answer := encryptBinary web entropy worker
    ⟨.view (encodeAppMessage message), createAadContext (next.draft lane) next.profile⟩
  (next, answer.1, answer.2.map fun encrypted =>
    { toAadContext := next.draft lane
      counter := encrypted.counter
      nonce := encrypted.nonce
      payload := encrypted.ciphertext
      lane := lane })

/-- `MaxMessageSize` of the relay unless it is configured. -/
def defaultMaxMessageSize : Nat := 256 * 1024

end Channel

section Payloads

/-- What the user sends under a profile: a text in its wrapper, a chunk of a file and a frame
of voice. -/
inductive UserPayload (id : TransportProfileId) : AppMessage → Prop where
  | text (reliableId messageId body : JsString) (createdAt sentAt attempt : Int)
      (named : Text 160 reliableId) (tracked : Text 160 messageId)
      (written : Text maxTextMessageChars body) (composed : Timestamp createdAt)
      (timely : Timestamp sentAt) (counted : Whole 1 attempt) :
      UserPayload id (.reliableMsg reliableId .text (.textMessage messageId body createdAt) sentAt attempt)
  | chunk (fileId : JsString) (index totalChunks : Int) (bytes : Bytes) (named : Text 160 fileId)
      (indexed : Whole 0 index) (divided : Whole 1 totalChunks)
      (short : bytes.length ≤ (AppMessages.getProfile id).files.chunkBytes) :
      UserPayload id (.core (.fileChunk fileId index totalChunks (utf16 (bytesToBase64Url bytes))))
  | frame (streamId : JsString) (seq sentAt : Int) (sampleRate : Nat) (bytes : Bytes)
      (named : Text 80 streamId) (numbered : Whole 0 seq) (timely : Whole 0 sentAt)
      (rate : sampleRate ≤ 192000)
      (sized : bytes.length =
        samplesPerFrame sampleRate (AppMessages.getProfile id).voice.frameMs * 2) :
      UserPayload id (.core (.voiceFrame streamId seq sentAt sampleRate
        (AppMessages.getProfile id).voice.frameMs (utf16 (bytesToBase64Url bytes))))

theorem quote_name_size (key : String) (short : (utf16 key).length ≤ 12) :
    textSize (quote (utf16 key)) ≤ 74 :=
  Nat.le_trans (quote_size (utf16 key)) (by omega)

theorem textField_size (key : String) (short : (utf16 key).length ≤ 12) (value : JsString) :
    memberSize (textField key value) ≤ 6 * value.length + 78 := by
  have name := quote_name_size key short
  have content := quote_size value
  simp only [memberSize, textField, stringify]
  omega

theorem base64Field_size (key : String) (short : (utf16 key).length ≤ 12) (bytes : Bytes) :
    memberSize (textField key (utf16 (bytesToBase64Url bytes))) ≤
      (bytes.length + 2) / 3 * 4 + 78 := by
  have name := quote_name_size key short
  have content : textSize (quote (utf16 (bytesToBase64Url bytes))) ≤
      (bytes.length + 2) / 3 * 4 + 2 := quote_base64Url_size bytes
  simp only [memberSize, textField, stringify]
  omega

theorem numberField_size (key : String) (value : Int) (short : (utf16 key).length ≤ 12)
    (positive : 0 ≤ value) (below : value < 10 ^ 16) : memberSize (numberField key value) ≤ 93 := by
  have name := quote_name_size key short
  have content := printInt_size value (by omega)
  simp only [memberSize, numberField, stringify]
  omega

theorem kindField_size (kind : Kind) : memberSize (kindField kind) ≤ 174 := by
  have short : (utf16 kind.text).length ≤ 16 := by
    cases kind <;> decide
  have size := textField_size "kind" (by decide) (utf16 kind.text)
  rw [kindField]
  omega

theorem encoded_length (message : AppMessage) :
    (encodeAppMessage message).length ≤ (message.fields.map memberSize).sum + 2 :=
  object_size message.fields

theorem whole_below {low value : Int} (whole : Whole low value) : value < 10 ^ 16 :=
  Int.lt_of_le_of_lt whole.2 (by decide)

theorem timestamp_below {value : Int} (timely : Timestamp value) : value < 10 ^ 16 :=
  Int.lt_of_le_of_lt timely.2 (by decide)

theorem text_length {reliableId messageId body : JsString} {createdAt sentAt attempt : Int}
    (named : Text 160 reliableId) (tracked : Text 160 messageId)
    (written : Text maxTextMessageChars body) (composed : Timestamp createdAt)
    (timely : Timestamp sentAt) (counted : Whole 1 attempt) :
    (encodeAppMessage (.reliableMsg reliableId .text (.textMessage messageId body createdAt) sentAt
      attempt)).length ≤ 65532 := by
  refine Nat.le_trans (encoded_length _) ?_
  have bodyUnits : body.length ≤ 8000 := written.2
  have idUnits := named.2
  have messageUnits := tracked.2
  have outerKind := kindField_size .reliableMsg
  have outerId := textField_size "id" (by decide) reliableId
  have channel := textField_size "channel" (by decide) (AppCodec.channelText .text)
  have channelUnits : (AppCodec.channelText .text).length = 4 := by decide
  have sent := numberField_size "createdAt" sentAt (by decide) timely.1 (timestamp_below timely)
  have tries := numberField_size "attempt" attempt (by decide) (Int.le_trans (by decide) counted.1)
    (whole_below counted)
  have inner := object_size (CoreAppMessage.textMessage messageId body createdAt).fields
  have innerKind := kindField_size .textMessage
  have innerId := textField_size "messageId" (by decide) messageId
  have innerBody := textField_size "body" (by decide) body
  have created := numberField_size "createdAt" createdAt (by decide) composed.1
    (timestamp_below composed)
  have name := quote_name_size "body" (by decide)
  have wrapped : memberSize (utf16 "body",
      .obj (CoreAppMessage.textMessage messageId body createdAt).fields) ≤
        textSize (quote (utf16 "body")) + textSize (stringify
          (.obj (CoreAppMessage.textMessage messageId body createdAt).fields)) + 2 := Nat.le_refl _
  simp only [CoreAppMessage.fields, CoreAppMessage.details, CoreAppMessage.kind, AppMessage.fields,
    List.map_cons, List.map_nil, List.sum_cons, List.sum_nil] at inner wrapped ⊢
  omega

theorem chunkBytes_le (id : TransportProfileId) :
    (AppMessages.getProfile id).files.chunkBytes ≤ 32768 := by
  cases id <;> decide

theorem frameMs_le (id : TransportProfileId) : (AppMessages.getProfile id).voice.frameMs ≤ 60 := by
  cases id <;> decide

theorem chunk_length {fileId : JsString} {index totalChunks : Int} {bytes : Bytes}
    (named : Text 160 fileId) (indexed : Whole 0 index) (divided : Whole 1 totalChunks)
    (short : bytes.length ≤ 32768) :
    (encodeAppMessage (.core (.fileChunk fileId index totalChunks
      (utf16 (bytesToBase64Url bytes))))).length ≤ 65532 := by
  refine Nat.le_trans (encoded_length _) ?_
  have idUnits := named.2
  have kind := kindField_size .fileChunk
  have file := textField_size "fileId" (by decide) fileId
  have position := numberField_size "index" index (by decide) indexed.1 (whole_below indexed)
  have total := numberField_size "totalChunks" totalChunks (by decide)
    (Int.le_trans (by decide) divided.1) (whole_below divided)
  have data := base64Field_size "data" (by decide) bytes
  simp only [CoreAppMessage.fields, CoreAppMessage.details, CoreAppMessage.kind, AppMessage.fields,
    List.map_cons, List.map_nil, List.sum_cons, List.sum_nil]
  omega

theorem frame_length {streamId : JsString} {seq sentAt : Int} {sampleRate frameMs : Nat}
    {bytes : Bytes} (named : Text 80 streamId) (numbered : Whole 0 seq) (timely : Whole 0 sentAt)
    (rate : sampleRate ≤ 192000) (brief : frameMs ≤ 60)
    (sized : bytes.length = samplesPerFrame sampleRate frameMs * 2) :
    (encodeAppMessage (.core (.voiceFrame streamId seq sentAt sampleRate frameMs
      (utf16 (bytesToBase64Url bytes))))).length ≤ 65532 := by
  refine Nat.le_trans (encoded_length _) ?_
  have samples : samplesPerFrame sampleRate frameMs ≤ 11520 := by
    have product : sampleRate * frameMs ≤ 192000 * 60 := Nat.mul_le_mul rate brief
    rw [samplesPerFrame]
    omega
  have idUnits := named.2
  have kind := kindField_size .voiceFrame
  have stream := textField_size "streamId" (by decide) streamId
  have number := numberField_size "seq" seq (by decide) numbered.1 (whole_below numbered)
  have sent := numberField_size "sentAt" sentAt (by decide) timely.1 (whole_below timely)
  have sampled := numberField_size "sampleRate" sampleRate (by decide) (by omega)
    (by omega)
  have lasting := numberField_size "frameMs" frameMs (by decide) (by omega)
    (by omega)
  have data := base64Field_size "pcm16" (by decide) bytes
  simp only [CoreAppMessage.fields, CoreAppMessage.details, CoreAppMessage.kind, AppMessage.fields,
    List.map_cons, List.map_nil, List.sum_cons, List.sum_nil]
  omega

/-- A text of 8000 units takes 48000 bytes when each is escaped, the largest chunk 43692. -/
theorem UserPayload.length {id : TransportProfileId} {message : AppMessage}
    (payload : UserPayload id message) : (encodeAppMessage message).length ≤ 65532 := by
  cases payload with
  | text _ _ _ _ _ _ named tracked written composed timely counted =>
      exact text_length named tracked written composed timely counted
  | chunk _ _ _ _ named indexed divided short =>
      exact chunk_length named indexed divided (Nat.le_trans short (chunkBytes_le id))
  | frame _ _ _ _ _ named numbered timely rate sized =>
      exact frame_length named numbered timely rate (frameMs_le id) sized

end Payloads

section Sealing

variable {web : WebCrypto} {entropy : Entropy} {config : CryptoConfig} {data : Bytes} {bucket : Nat}

/-- AES-GCM appends a tag of 16 bytes. -/
def Tagged (web : WebCrypto) : Prop :=
  ∀ key nonce aad plaintext, (web.encrypt key nonce aad plaintext).length = plaintext.length + 16

/-- Nothing after the step of the chain fails once a bucket can be filled. -/
theorem sealMessage_fits (tagged : Tagged web) (smallest : SmallestBucket config data.length bucket)
    (quota : bucket ≤ 65536) (entropy : Entropy) (counter : Nat) {message : Bytes}
    (keyed : message.length = aesKeyBytes) (context : AadContext) :
    ∃ encrypted, sealMessage web entropy config counter message context data = .ok encrypted ∧
      encrypted.counter = counter ∧ encrypted.nonce.length = nonceBytes ∧
      encrypted.ciphertext.length = bucket + 16 := by
  obtain ⟨padded, built, length⟩ := smallest.built quota entropy.filler
  let nonce := (List.range nonceBytes).map entropy.nonce
  have random : randomBytes entropy.nonce nonceBytes = .ok nonce := rfl
  have sized : nonce.length = nonceBytes := by simp [nonce]
  obtain ⟨aad, encoded, _⟩ := Envelope.encodeAad_ok context counter nonce sized
  have imported : importAes message = .ok message := if_neg (not_not_intro keyed)
  refine ⟨⟨web.encrypt message nonce aad padded, nonce, counter⟩, ?_, rfl, sized, ?_⟩
  · simp only [sealMessage, random, encoded, imported, built, bind, Except.bind, pure, Except.pure]
  · rw [tagged, length]

def largestBucket (id : TransportProfileId) : Nat :=
  (Profiles.getProfile id).paddingBuckets.foldr max 0

theorem largestBucket_large (id : TransportProfileId) : 65536 ≤ largestBucket id := by
  cases id <;> decide

theorem large_bucket_listed (id : TransportProfileId) :
    65536 ∈ (Profiles.getProfile id).paddingBuckets := by
  cases id <;> decide

theorem encryptBinary_fits (tagged : Tagged web) {sendRoot receiveRoot : Bytes} {worker : Worker}
    (store : KeyStore web sendRoot receiveRoot worker)
    (smallest : SmallestBucket worker.config data.length bucket) (quota : bucket ≤ 65536)
    (entropy : Entropy) (context : AadContext) :
    ∃ after encrypted, encryptBinary web entropy worker ⟨.view data, context⟩ = (after, .ok encrypted) ∧
      after.outboundCounter = worker.outboundCounter + 1 ∧
      encrypted.counter = worker.outboundCounter + 1 ∧ encrypted.nonce.length = nonceBytes ∧
      encrypted.ciphertext.length = bucket + 16 := by
  rcases encryptBinary_cases store entropy ⟨.view data, context⟩ with
    ⟨_, refused, _⟩ | ⟨converted, same, moved⟩
  · cases refused
  · cases same
    have keyed : (messageKeyAt web sendRoot (worker.outboundCounter + 1)).length = aesKeyBytes := by
      rw [messageKeyAt, deriveStep_message_length]
    obtain ⟨encrypted, made, counter, nonce, length⟩ := sealMessage_fits tagged smallest quota entropy
      (worker.outboundCounter + 1) keyed context
    rw [made] at moved
    exact ⟨_, encrypted, moved, rfl, counter, nonce, length⟩

/-- A frame of any bucket passes the checks of both clients and of the relay. -/
theorem bucket_carried (id : TransportProfileId) :
    ∀ bucket ∈ (Profiles.getProfile id).paddingBuckets,
      bucket + 16 + headerBytes ≤ (transportLimits id).maxFrameBytes ∧
        bucket + 16 + headerBytes ≤ defaultMaxMessageSize := by
  cases id <;> decide

theorem configured_buckets (before : Worker) (id : TransportProfileId) (bucket : Nat) :
    bucket ∈ (configure before (configurePayload id)).config.paddingBuckets ↔
      bucket ∈ (Profiles.getProfile id).paddingBuckets := by
  rw [mem_configured]
  cases id <;> exact Iff.rfl

/-- The profile stays the one that the worker was configured for. -/
def KeepsConfig (_ : Worker) (event : Request × Entropy) : Prop :=
  ∀ payload, event.1 ≠ .configure payload

theorem run_kept {start worker : Worker} {history : List Answered}
    (run : Machine.Run (CryptoWorker.machine web) KeepsConfig start worker history)
    (closed : start.sessionEstablished = false) : worker.config = start.config ∧ Sound web worker := by
  refine run.state_invariant (fun worker => worker.config = start.config ∧ Sound web worker)
    ⟨rfl, sound_of_closed web start closed⟩ ?_
  rintro before event after outputs ⟨kept, sound⟩ allowed stepped
  simp only [CryptoWorker.machine, Option.some.injEq, Prod.mk.injEq] at stepped
  obtain ⟨rfl, _⟩ := stepped
  exact ⟨(handle_config web event.2 before allowed).trans kept,
    handle_sound web event.2 before event.1 sound⟩

end Sealing

section Carriage

/-- What becomes of data that the channel of a profile encrypts: the next counter of the
worker belongs to a frame that every side lets through. -/
structure Carried (id : TransportProfileId) (worker : Worker) (data : Bytes)
    (result : SecureChannel × Worker × Except String Envelope) (envelope : Envelope) (bucket : Nat)
    (frame : Bytes) : Prop where
  encrypted : result.2.2 = .ok envelope
  counter : envelope.counter = worker.outboundCounter + 1
  advanced : result.2.1.outboundCounter = worker.outboundCounter + 1
  listed : bucket ∈ (Profiles.getProfile id).paddingBuckets
  room : data.length + 4 ≤ bucket
  payload : envelope.payload.length = bucket + 16
  packed : packEnvelope envelope (transportLimits id) = .ok frame
  length : frame.length = bucket + 16 + headerBytes
  client : frame.length ≤ (transportLimits id).maxFrameBytes
  relay : frame.length ≤ defaultMaxMessageSize

theorem frame_length_of_packed {env : Envelope} {profile : TransportLimits} {frame : Bytes}
    (packed : packEnvelope env profile = .ok frame) :
    frame.length = headerBytes + env.payload.length := by
  obtain ⟨packs, rfl⟩ := Transport.packEnvelope_ok.mp packed
  rw [List.length_append, Transport.headerOf_length _ _ packs.nonce, List.length_append,
    bigEndian_length]
  simp only [OnlyTwo.Envelope.aadBytes, headerBytes]
  omega

/-- Every user payload fits the wire of its profile, at any point of a session: the bucket it
needs is listed and can be filled, so neither the worker nor `packEnvelope` turns it down. -/
theorem user_payload_carried (id : TransportProfileId) {web : WebCrypto} (tagged : Tagged web)
    {before worker : Worker} {history : List Answered}
    (run : Machine.Run (CryptoWorker.machine web) KeepsConfig (configure before (configurePayload id)) worker
      history)
    (established : worker.sessionEstablished = true) {message : AppMessage}
    (payload : UserPayload id message) (entropy : Entropy) (sequence : Nat) (lane : LaneName) :
    (encodeAppMessage message).length ≤ largestBucket id - 4 ∧
      ∃ envelope bucket frame, Carried id worker (encodeAppMessage message)
        (SecureChannel.encryptAppMessage ⟨sequence, transportLimits id⟩ web entropy worker message lane)
        envelope bucket frame := by
  have short := payload.length
  have large := largestBucket_large id
  refine ⟨by omega, ?_⟩
  obtain ⟨config, sound⟩ := run_kept run rfl
  obtain ⟨sendRoot, receiveRoot, store⟩ := sound established
  have buckets : ∀ bucket, bucket ∈ worker.config.paddingBuckets ↔
      bucket ∈ (Profiles.getProfile id).paddingBuckets := by
    rw [config]
    exact configured_buckets before id
  have listed := (buckets 65536).mpr (large_bucket_listed id)
  have enough : (encodeAppMessage message).length + 4 ≤ 65536 := by omega
  obtain ⟨bucket, selected⟩ := selectPaddingBucket_of_fits listed enough
  have smallest := selectPaddingBucket_smallest selected
  -- The smallest bucket that fits is no larger than the one that always does.
  have quota : bucket ≤ 65536 := smallest.least 65536 listed enough
  have inProfile := (buckets bucket).mp smallest.listed
  obtain ⟨passesClient, passesRelay⟩ := bucket_carried id bucket inProfile
  let next : SecureChannel := SecureChannel.nextSequence ⟨sequence, transportLimits id⟩
  obtain ⟨after, encrypted, sent, advanced, counter, nonce, length⟩ := encryptBinary_fits tagged store
    smallest quota entropy (createAadContext (next.draft lane) next.profile)
  let envelope : Envelope :=
    ⟨next.draft lane, encrypted.counter, encrypted.nonce, encrypted.ciphertext, lane⟩
  -- The envelope takes its counter, nonce and ciphertext from the worker's answer.
  have answered : SecureChannel.encryptAppMessage ⟨sequence, transportLimits id⟩ web entropy worker
      message lane = (next, after, .ok envelope) := by
    simp only [SecureChannel.encryptAppMessage]
    rw [sent]
    rfl
  have packs : Transport.Packs envelope (transportLimits id) := by
    refine ⟨nonce, rfl, ?_⟩
    change headerBytes + encrypted.ciphertext.length ≤ _
    omega
  have packed := Transport.packEnvelope_ok.mpr ⟨packs, rfl⟩
  have whole := frame_length_of_packed packed
  change _ = headerBytes + encrypted.ciphertext.length at whole
  rw [answered]
  exact ⟨envelope, bucket, _, rfl, counter, advanced, inProfile, smallest.fits, length, packed,
    by omega, by omega, by omega⟩

/-- The sample primitives with a tag of the right length behind the plaintext. -/
def taggedCrypto : WebCrypto :=
  { sampleCrypto with
    encrypt := fun key nonce aad plaintext =>
      plaintext ++ sampleCrypto.hkdf (key ++ nonce) [] (aad ++ plaintext) 16
    decrypt := fun key nonce aad ciphertext =>
      let plaintext := ciphertext.take (ciphertext.length - 16)
      if ciphertext = plaintext ++ sampleCrypto.hkdf (key ++ nonce) [] (aad ++ plaintext) 16 then
        some plaintext
      else none }

theorem taggedCrypto_tagged : Tagged taggedCrypto := by
  intro key nonce aad plaintext
  change (plaintext ++ sampleCrypto.hkdf (key ++ nonce) [] (aad ++ plaintext) 16).length = _
  rw [List.length_append, sampleCrypto.hkdf_length]

def samplePair : Worker := (generateIdentity taggedCrypto [1] initial).1

def sampleOpened : Worker :=
  (establishSession taggedCrypto (configure samplePair (configurePayload .balanced))
    (taggedCrypto.publicKey [2]) "profile").1

def controlText : AppMessage :=
  .reliableMsg (utf16 "reliable_1") .text (.textMessage (utf16 "msg_1") (List.replicate 8000 1) 0) 0 1

theorem controlText_payload : UserPayload .balanced controlText := by
  refine .text _ _ _ _ _ _ ⟨by decide, by decide⟩ ⟨by decide, by decide⟩ ⟨?_, ?_⟩ ⟨by decide, by decide⟩
    ⟨by decide, by decide⟩ ⟨by decide, by decide⟩
  · exact List.replicate_succ_ne_nil
  · rw [List.length_replicate]
    exact Nat.le_refl _

/-- A text of 8000 control characters, in a session that has just been established. -/
theorem control_text_carried :
    (encodeAppMessage controlText).length ≤ largestBucket .balanced - 4 ∧
      ∃ envelope bucket frame, Carried .balanced sampleOpened (encodeAppMessage controlText)
        (SecureChannel.encryptAppMessage ⟨0, transportLimits .balanced⟩ taggedCrypto sampleEntropy
          sampleOpened controlText .text) envelope bucket frame := by
  let request : Request := .establishSession (.view (taggedCrypto.publicKey [2])) (some "profile")
  have along : (CryptoWorker.machine taggedCrypto).Along KeepsConfig
      (configure samplePair (configurePayload .balanced)) [(request, sampleEntropy)] :=
    Machine.along_of_forall _ _ (by simp [KeepsConfig, request])
  have reached : ((CryptoWorker.machine taggedCrypto).execute
      (configure samplePair (configurePayload .balanced)) [(request, sampleEntropy)]).map Prod.fst =
        some sampleOpened := rfl
  obtain ⟨history, run⟩ := Machine.execute_reaches [(request, sampleEntropy)] along reached
  exact user_payload_carried .balanced taggedCrypto_tagged run (by decide +kernel) controlText_payload
    sampleEntropy 0 .text

end Carriage

end OnlyTwo.Client
