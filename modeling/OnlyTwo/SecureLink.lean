import OnlyTwo.TwoParty
import OnlyTwo.UserPayloads

/-!
Two clients in one session and the relay between them. A side encrypts its messages
(client/src/crypto/SecureChannel.ts) and packs them into frames; the relay hands any bytes
to either side, and a side takes what comes through `unpackEnvelope`, `decryptAppMessage` and
`validateInboundStream`, as `onEnvelope` of client/src/session/SessionController.ts does.
Whatever the relay does short of forging a ciphertext, a side takes frames of the other side
only, bit for bit, and each of them as the message it was made of.
-/

namespace OnlyTwo.Client

open CryptoWorker
open AppMessages (LaneName)
open AppCodec (AppMessage Clock Thrown decodeAppMessage)
open Transport (Envelope createAadContext)

def SecureChannel.decryptAppMessage (self : SecureChannel) (web : WebCrypto) (clock : Clock)
    (worker : Worker) (env : Envelope) : Worker × Except Thrown AppMessage :=
  if env.outerType ≠ .data then (worker, .error (.error "Expected encrypted data frame"))
  else
    let answer := decryptBinary web worker
      (decryptRequest ⟨env.payload, env.nonce, env.counter⟩
        (createAadContext env.toAadContext self.profile))
    (answer.1,
      match answer.2 with
      | .error reason => .error (.error reason)
      | .ok plaintext => decodeAppMessage clock plaintext)

theorem SecureChannel.decryptAppMessage_ok {self : SecureChannel} {web : WebCrypto} {clock : Clock}
    {worker : Worker} {env : Envelope} {message : AppMessage}
    (read : (self.decryptAppMessage web clock worker env).2 = .ok message) :
    ∃ data, (decryptBinary web worker (decryptRequest ⟨env.payload, env.nonce, env.counter⟩
        (createAadContext env.toAadContext self.profile))).2 = .ok data ∧
      decodeAppMessage clock data = .ok message := by
  unfold decryptAppMessage at read
  split at read
  · cases read
  · simp only at read
    split at read
    · cases read
    · rename_i data opened
      exact ⟨data, opened, read⟩

theorem SecureChannel.encryptAppMessage_stream {self : SecureChannel} {web : WebCrypto}
    {entropy : Entropy} {worker : Worker} {message : AppMessage} {lane : LaneName} {env : Envelope}
    (encrypted : (self.encryptAppMessage web entropy worker message lane).2.2 = .ok env) :
    env.streamId = streamForLane lane := by
  simp only [encryptAppMessage] at encrypted
  generalize (encryptBinary web entropy worker _).2 = answer at encrypted
  cases answer with
  | error reason => cases encrypted
  | ok answered =>
      cases encrypted
      rfl

theorem SecureChannel.decryptAppMessage_worker (self : SecureChannel) (web : WebCrypto)
    (clock : Clock) (worker : Worker) (env : Envelope) :
    (self.decryptAppMessage web clock worker env).1 = worker ∨
      ∃ payload, (self.decryptAppMessage web clock worker env).1 =
        (decryptBinary web worker payload).1 := by
  unfold decryptAppMessage
  split
  · exact Or.inl rfl
  · exact Or.inr ⟨_, rfl⟩

end OnlyTwo.Client

namespace OnlyTwo.Conversation

open Bytes CryptoWorker
open OnlyTwo.Envelope (aadBytes encodeAad)
open AppMessages (LaneName TransportProfileId)
open AppCodec (AppMessage Clock encodeAppMessage decodeAppMessage)
open Client (SecureChannel streamForLane)
open FileProtocol (utf16)
open Transport (Envelope TransportLimits transportLimits packEnvelope unpackEnvelope)
open Outbound (validateInboundStream)

section Model

inductive Side where
  | left
  | right
  deriving DecidableEq, Repr

def Side.other : Side → Side
  | .left => .right
  | .right => .left

/-- The channel of a side and the worker behind it. -/
structure Endpoint where
  channel : SecureChannel
  worker : Worker

/-- A frame together with what it was made of. -/
structure Sealing where
  message : AppMessage
  lane : LaneName
  entropy : Entropy
  envelope : Envelope
  frame : Bytes

/-- A message that came through, and the frame it came in. -/
structure Taken where
  side : Side
  bytes : Bytes
  envelope : Envelope
  message : AppMessage

/-- Both ends, the frames each of them has made and the counters each of them has taken. -/
structure SecureLink where
  ends : Side → Endpoint
  sealings : Side → List Sealing
  taken : Side → List Nat

inductive LinkStep where
  | send (side : Side) (message : AppMessage) (lane : LaneName) (entropy : Entropy)
  | arrive (side : Side) (clock : Clock) (bytes : Bytes)

namespace SecureLink

def move (link : SecureLink) (side : Side) (endpoint : Endpoint) : SecureLink :=
  { link with ends := Function.update link.ends side endpoint }

def send (link : SecureLink) (web : WebCrypto) (side : Side) (message : AppMessage)
    (lane : LaneName) (entropy : Entropy) : SecureLink :=
  let endpoint := link.ends side
  let result := endpoint.channel.encryptAppMessage web entropy endpoint.worker message lane
  let moved := link.move side ⟨result.1, result.2.1⟩
  match result.2.2 with
  | .error _ => moved
  | .ok envelope =>
      match packEnvelope envelope endpoint.channel.profile with
      | .error _ => moved
      | .ok frame =>
          { moved with
            sealings := Function.update moved.sealings side
              (moved.sealings side ++ [⟨message, lane, entropy, envelope, frame⟩]) }

def arrive (link : SecureLink) (web : WebCrypto) (side : Side) (clock : Clock) (bytes : Bytes) :
    SecureLink × List Taken :=
  let endpoint := link.ends side
  match unpackEnvelope bytes endpoint.channel.profile with
  | .error _ => (link, [])
  | .ok envelope =>
      let result := endpoint.channel.decryptAppMessage web clock endpoint.worker envelope
      let moved := link.move side { endpoint with worker := result.1 }
      match result.2 with
      | .error _ => (moved, [])
      | .ok message =>
          match validateInboundStream message envelope.streamId with
          | .error _ => (moved, [])
          | .ok () =>
              ({ moved with
                  taken := Function.update moved.taken side
                    (moved.taken side ++ [envelope.counter]) },
                [⟨side, bytes, envelope, message⟩])

def machine (web : WebCrypto) : Machine SecureLink LinkStep Taken where
  step link
    | .send side message lane entropy => some (link.send web side message lane entropy, [])
    | .arrive side clock bytes => some (link.arrive web side clock bytes)

/-- Both sides have just joined, each with the profile of the table. -/
def joined (id : TransportProfileId) (left right : Worker) : SecureLink where
  ends
    | .left => ⟨⟨0, transportLimits id⟩, left⟩
    | .right => ⟨⟨0, transportLimits id⟩, right⟩
  sealings _ := []
  taken _ := []

end SecureLink

end Model

section Frames

/-- A frame is its header, which is authenticated, and its payload behind the length. -/
theorem packed_parts {envelope : Envelope} {profile : TransportLimits} {frame : Bytes}
    (packed : packEnvelope envelope profile = .ok frame) :
    frame = frame.take aadBytes ++ (bigEndian 4 envelope.payload.length ++ envelope.payload) := by
  obtain ⟨packs, rfl⟩ := Transport.packEnvelope_ok.mp packed
  rw [List.take_left' (Transport.headerOf_length _ _ packs.nonce)]

theorem packed_streamId {envelope read : Envelope} {profile : TransportLimits} {frame : Bytes}
    (packed : packEnvelope envelope profile = .ok frame)
    (unpacked : unpackEnvelope frame profile = .ok read) :
    read.streamId = envelope.streamId % 2 ^ 32 := by
  obtain ⟨packs, rfl⟩ := Transport.packEnvelope_ok.mp packed
  obtain ⟨outerType, _, rfl⟩ := Transport.unpackEnvelope_ok.mp unpacked
  obtain ⟨_, _, _, _, stream, _⟩ := Transport.layout_fields packs.nonce
  rw [Transport.layout_eq]
  exact stream

/-- A frame that is accepted was opened with the message key of its counter. -/
theorem decryptBinary_opens {web : WebCrypto} {sendRoot receiveRoot : Bytes} {worker : Worker}
    (store : KeyStore web sendRoot receiveRoot worker) {payload : DecryptRequest} {data : Bytes}
    (accepted : (decryptBinary web worker payload).2 = .ok data) :
    ∃ frame padded, readFrame payload = .ok frame ∧
      authenticate web frame (messageKeyAt web receiveRoot frame.counter) = .ok padded ∧
      parsePlaintext worker.config padded = .ok data := by
  rcases decryptBinary_cases store payload with
    ⟨reason, _, refused⟩ | ⟨frame, cached, read, _, found, opened⟩ |
      ⟨frame, read, _, _, ahead, opened⟩
  · rw [refused] at accepted
    cases accepted
  · have key := (store.genuine frame.counter cached found).2
    rw [opened, decryptCached] at accepted
    split at accepted
    · cases accepted
    · rename_i padded authentic
      exact ⟨frame, padded, read, key ▸ authentic, accepted⟩
  · rw [opened, decryptAhead_eq web worker receiveRoot frame ahead] at accepted
    split at accepted
    · cases accepted
    · rename_i padded authentic
      exact ⟨frame, padded, read, authentic, accepted⟩

theorem authenticate_opens {web : WebCrypto} {frame : Frame} {root padded : Bytes}
    (authentic : authenticate web frame (messageKeyAt web root frame.counter) = .ok padded) :
    ∃ aad, encodeAad frame.aadContext frame.counter frame.nonce = .ok aad ∧
      web.decrypt (messageKeyAt web root frame.counter) frame.nonce aad frame.ciphertext =
        some padded := by
  simp only [authenticate, importAes_messageKeyAt, bind, Except.bind] at authentic
  split at authentic
  · cases authentic
  · rename_i aad encoded
    split at authentic
    · cases authentic
    · rename_i opened
      cases authentic
      exact ⟨aad, encoded, opened⟩

end Frames

section Crossing

/-- The chain each side sends on; the other side receives on it. -/
def sendChains (web : WebCrypto) (secretA secretB shared : Bytes) (profileHashValue : String) :
    Side → Bytes
  | .left => lowerChain web shared profileHashValue
      (decide (compareBytes (web.publicKey secretA) (web.publicKey secretB) < 0))
  | .right => lowerChain web shared profileHashValue
      (!decide (compareBytes (web.publicKey secretA) (web.publicKey secretB) < 0))

/-- Two workers with each other's key and one profile join with crossed chains. -/
theorem joinSession_crossed (web : WebCrypto) {alice bob left right : Worker}
    {secretA secretB shared : Bytes} {profile : CryptoProfile} {profileHashValue : String}
    (identityA : alice.identity = some secretA) (identityB : bob.identity = some secretB)
    (distinct : web.publicKey secretA ≠ web.publicKey secretB)
    (agreedA : web.agree secretA (web.publicKey secretB) = some shared)
    (agreedB : web.agree secretB (web.publicKey secretA) = some shared)
    (joinedA : joinSession web alice profile (web.publicKey secretB) profileHashValue =
      (left, .ok ()))
    (joinedB : joinSession web bob profile (web.publicKey secretA) profileHashValue =
      (right, .ok ())) :
    left.config = right.config ∧
      FreshSession left (sendChains web secretA secretB shared profileHashValue .left)
        (sendChains web secretA secretB shared profileHashValue .right) ∧
      FreshSession right (sendChains web secretA secretB shared profileHashValue .right)
        (sendChains web secretA secretB shared profileHashValue .left) := by
  obtain ⟨_, configA, freshA⟩ := joinSession_ok web profile profileHashValue identityA
    (web.publicKey_length secretB) distinct agreedA
  obtain ⟨_, configB, freshB⟩ := joinSession_ok web profile profileHashValue identityB
    (web.publicKey_length secretA) distinct.symm agreedB
  rw [joinedA] at configA freshA
  rw [joinedB] at configB freshB
  -- The two comparisons have opposite signs.
  have opposite : decide (compareBytes (web.publicKey secretB) (web.publicKey secretA) < 0) =
      !decide (compareBytes (web.publicKey secretA) (web.publicKey secretB) < 0) := by
    have swapped := compareBytes_swap (web.publicKey secretA) (web.publicKey secretB)
    have apart := mt (compareBytes_eq_zero_iff _ _).mp distinct
    rw [swapped, Bool.eq_not, ne_eq, decide_eq_decide]
    omega
  rw [opposite, Bool.not_not] at freshB
  exact ⟨configA.trans configB.symm, freshA, freshB⟩

end Crossing

section Authenticity
variable {web : WebCrypto} {chains : Side → Bytes} {id : TransportProfileId}
  {link : SecureLink}

/-- What the ciphertext of a sealing was made from. -/
structure Sealing.MadeFrom (web : WebCrypto) (chain : Bytes) (config : CryptoConfig)
    (sealing : Sealing) (key nonce aad plaintext : Bytes) : Prop where
  key : key = messageKeyAt web chain sealing.envelope.counter
  nonce : nonce = sealing.envelope.nonce
  aad : aad = sealing.frame.take aadBytes
  plaintext : buildPlaintext config sealing.entropy.filler (encodeAppMessage sealing.message) =
    .ok plaintext

/-- The relay does not forge: what opens under a message key of the session, with the header in
front of it, was made by a side, from this key, this header and this plaintext. -/
def Unforged (web : WebCrypto) (chains : Side → Bytes) (id : TransportProfileId)
    (link : SecureLink) : LinkStep → Prop
  | .send _ _ _ _ => True
  | .arrive _ _ bytes => ∀ envelope, unpackEnvelope bytes (transportLimits id) = .ok envelope →
      ∀ owner counter plaintext,
        web.decrypt (messageKeyAt web (chains owner) counter) envelope.nonce (bytes.take aadBytes)
          envelope.payload = some plaintext →
        ∃ maker, ∃ sealing ∈ link.sealings maker, sealing.envelope.payload = envelope.payload ∧
          sealing.MadeFrom web (chains maker) (link.ends maker).worker.config
            (messageKeyAt web (chains owner) counter) envelope.nonce (bytes.take aadBytes) plaintext

/-- What every run of the session keeps. -/
structure Sound (web : WebCrypto) (chains : Side → Bytes) (id : TransportProfileId)
    (link : SecureLink) : Prop where
  profile : ∀ side, (link.ends side).channel.profile = transportLimits id
  store : ∀ side, KeyStore web (chains side) (chains side.other) (link.ends side).worker
  buckets : ∀ side, (link.ends side).worker.config.paddingBuckets =
    (link.ends .left).worker.config.paddingBuckets
  packed : ∀ side, ∀ sealing ∈ link.sealings side,
    packEnvelope sealing.envelope (transportLimits id) = .ok sealing.frame
  stream : ∀ side, ∀ sealing ∈ link.sealings side,
    sealing.envelope.streamId = streamForLane sealing.lane

/-- A message that was taken is one that the other side has sealed, on the same stream. -/
def Genuine (link : SecureLink) (taken : Taken) : Prop :=
  ∃ sealing ∈ link.sealings taken.side.other, sealing.frame = taken.bytes ∧
    taken.envelope.streamId = streamForLane sealing.lane ∧
      ∃ clock, decodeAppMessage clock (encodeAppMessage sealing.message) = .ok taken.message

/-- The keys of the two directions never meet. -/
def Separate (web : WebCrypto) (chains : Side → Bytes) : Prop :=
  ∀ sent received, messageKeyAt web (chains .left) sent ≠ messageKeyAt web (chains .right) received

theorem Separate.other (separate : Separate web chains) (side : Side) (sent received : Nat) :
    messageKeyAt web (chains side) sent ≠ messageKeyAt web (chains side.other) received := by
  cases side with
  | left => exact separate sent received
  | right => exact (separate received sent).symm

theorem streamForLane_lt (lane : LaneName) : streamForLane lane < 2 ^ 32 := by
  cases lane <;> decide

/-- The one thing a side takes from the relay: a frame of the other side. -/
theorem opened_sealing (sound : Sound web chains id link) (separate : Separate web chains)
    {side : Side} {clock : Clock} {bytes data : Bytes} {envelope : Envelope}
    (unforged : Unforged web chains id link (.arrive side clock bytes))
    (unpacked : unpackEnvelope bytes (transportLimits id) = .ok envelope)
    (accepted : (decryptBinary web (link.ends side).worker
      (decryptRequest ⟨envelope.payload, envelope.nonce, envelope.counter⟩
        (Transport.createAadContext envelope.toAadContext (transportLimits id)))).2 = .ok data) :
    ∃ sealing ∈ link.sealings side.other, sealing.frame = bytes ∧
      data = encodeAppMessage sealing.message := by
  obtain ⟨frame, padded, read, authentic, parsed⟩ := decryptBinary_opens (sound.store side) accepted
  obtain ⟨aad, encoded, opened⟩ := authenticate_opens authentic
  obtain ⟨context, header⟩ := Transport.unpacked_aad unpacked
  have sized := (Transport.pack_unpack unpacked).2.nonce
  rw [readFrame_decryptRequest _ _ sized] at read
  cases read
  rw [context, header] at encoded
  cases encoded
  obtain ⟨maker, sealing, member, payload, made⟩ :=
    unforged envelope unpacked side.other envelope.counter padded opened
  have whole : sealing.frame = bytes := by
    rw [packed_parts (sound.packed maker sealing member),
      packed_parts (Transport.pack_unpack unpacked).1, ← made.aad, payload]
  by_cases own : maker = side
  · -- A frame of its own does not open under the keys of the other side.
    subst own
    exact absurd made.key.symm (separate.other maker _ _)
  · have other : maker = side.other := by
      cases maker <;> cases side <;> first | rfl | exact absurd rfl own
    subst other
    refine ⟨sealing, member, whole, ?_⟩
    have same : (link.ends side.other).worker.config.paddingBuckets =
        (link.ends side).worker.config.paddingBuckets :=
      (sound.buckets _).trans (sound.buckets side).symm
    have given := parsePlaintext_buildPlaintext made.plaintext same
    rw [given] at parsed
    exact (Except.ok.inj parsed).symm

theorem arrive_genuine (sound : Sound web chains id link) (separate : Separate web chains)
    {side : Side} {clock : Clock} {bytes : Bytes}
    (unforged : Unforged web chains id link (.arrive side clock bytes)) :
    ∀ taken ∈ (link.arrive web side clock bytes).2, Genuine link taken := by
  intro taken member
  simp only [SecureLink.arrive, sound.profile] at member
  split at member
  · cases member
  · rename_i envelope unpacked
    split at member
    · cases member
    · rename_i message read
      split at member
      · cases member
      · cases List.mem_singleton.mp member
        obtain ⟨data, accepted, decoded⟩ := SecureChannel.decryptAppMessage_ok read
        rw [sound.profile] at accepted
        obtain ⟨sealing, sealed, same, rfl⟩ :=
          opened_sealing sound separate unforged unpacked accepted
        refine ⟨sealing, sealed, same, ?_, clock, decoded⟩
        have stream := packed_streamId (sound.packed _ sealing sealed) (same ▸ unpacked)
        rw [stream, sound.stream _ sealing sealed]
        exact Nat.mod_eq_of_lt (streamForLane_lt sealing.lane)

theorem Sound.move (sound : Sound web chains id link) {side : Side} {endpoint : Endpoint}
    (profile : endpoint.channel.profile = transportLimits id)
    (store : KeyStore web (chains side) (chains side.other) endpoint.worker)
    (config : endpoint.worker.config = (link.ends side).worker.config) :
    Sound web chains id (link.move side endpoint) := by
  have worker (other : Side) : (Function.update link.ends side endpoint other).worker.config =
      (link.ends other).worker.config := by
    by_cases same : other = side
    · rw [same, Function.update_self, config]
    · rw [Function.update_of_ne same]
  constructor
  · intro other
    by_cases same : other = side
    · simp only [SecureLink.move, same, Function.update_self, profile]
    · simp only [SecureLink.move, Function.update_of_ne same, sound.profile]
  · intro other
    by_cases same : other = side
    · subst same
      simpa [SecureLink.move] using store
    · simpa [SecureLink.move, Function.update_of_ne same] using sound.store other
  · intro other
    simp only [SecureLink.move, worker]
    exact sound.buckets other
  · exact sound.packed
  · exact sound.stream

theorem arrive_sound (sound : Sound web chains id link) (side : Side) (clock : Clock)
    (bytes : Bytes) : Sound web chains id (link.arrive web side clock bytes).1 := by
  have moved (envelope : Envelope) : Sound web chains id (link.move side
      { link.ends side with
        worker := ((link.ends side).channel.decryptAppMessage web clock (link.ends side).worker
          envelope).1 }) := by
    apply sound.move
    · exact sound.profile side
    · rcases (link.ends side).channel.decryptAppMessage_worker web clock (link.ends side).worker
        envelope with same | ⟨payload, ran⟩
      · rw [same]
        exact sound.store side
      · rw [ran]
        exact decryptBinary_store (sound.store side) payload
    · rcases (link.ends side).channel.decryptAppMessage_worker web clock (link.ends side).worker
        envelope with same | ⟨payload, ran⟩
      · rw [same]
      · rw [ran]
        exact decryptBinary_config payload
  unfold SecureLink.arrive
  simp only
  split
  · exact sound
  · rename_i envelope unpacked
    split
    · exact moved envelope
    · split
      · exact moved envelope
      · have kept := moved envelope
        exact ⟨kept.profile, kept.store, kept.buckets, kept.packed, kept.stream⟩

theorem send_sound (sound : Sound web chains id link) (side : Side) (message : AppMessage)
    (lane : LaneName) (entropy : Entropy) :
    Sound web chains id (link.send web side message lane entropy) := by
  let sent := (link.ends side).channel.encryptAppMessage web entropy (link.ends side).worker message
    lane
  have moved : Sound web chains id (link.move side ⟨sent.1, sent.2.1⟩) := by
    apply sound.move
    · exact sound.profile side
    · exact encryptBinary_store (sound.store side) entropy _
    · exact encryptBinary_config web entropy _ _
  unfold SecureLink.send
  simp only
  split
  · exact moved
  · rename_i envelope encrypted
    split
    · exact moved
    · rename_i frame packed
      rw [sound.profile] at packed
      have stream := SecureChannel.encryptAppMessage_stream encrypted
      have either (other : Side) (sealing : Sealing)
          (member : sealing ∈ Function.update link.sealings side
            (link.sealings side ++ [⟨message, lane, entropy, envelope, frame⟩]) other) :
          sealing ∈ link.sealings other ∨ sealing = ⟨message, lane, entropy, envelope, frame⟩ := by
        by_cases same : other = side
        · subst same
          rw [Function.update_self, List.mem_append, List.mem_singleton] at member
          exact member
        · rw [Function.update_of_ne same] at member
          exact Or.inl member
      refine ⟨moved.profile, moved.store, moved.buckets, ?_, ?_⟩
      · intro other sealing member
        rcases either other sealing member with old | rfl
        · exact sound.packed other sealing old
        · exact packed
      · intro other sealing member
        rcases either other sealing member with old | rfl
        · exact sound.stream other sealing old
        · exact stream

theorem sealings_grow (link : SecureLink) (web : WebCrypto) (side : Side) (message : AppMessage)
    (lane : LaneName) (entropy : Entropy) (other : Side) :
    link.sealings other <+: (link.send web side message lane entropy).sealings other := by
  unfold SecureLink.send
  simp only
  split
  · exact List.prefix_rfl
  · split
    · exact List.prefix_rfl
    · by_cases same : other = side
      · subst same
        simp only [Function.update_self]
        exact List.prefix_append _ _
      · simp only [Function.update_of_ne same]
        exact List.prefix_rfl

@[simp] theorem arrive_sealings (link : SecureLink) (web : WebCrypto) (side : Side) (clock : Clock)
    (bytes : Bytes) : (link.arrive web side clock bytes).1.sealings = link.sealings := by
  unfold SecureLink.arrive
  simp only
  split
  · rfl
  · split
    · rfl
    · split <;> rfl

theorem run_genuine {start : SecureLink} {history : List Taken} (separate : Separate web chains)
    (sound : Sound web chains id start)
    (run : (SecureLink.machine web).Run (Unforged web chains id) start link history) :
    Sound web chains id link ∧ ∀ taken ∈ history, Genuine link taken := by
  apply run.invariant fun link history => Sound web chains id link ∧
    ∀ taken ∈ history, Genuine link taken
  · exact ⟨sound, by simp⟩
  · rintro before past (⟨side, message, lane, entropy⟩ | ⟨side, clock, bytes⟩) after outputs
      ⟨sound, genuine⟩ unforged stepped
    · cases Option.some.inj stepped
      refine ⟨send_sound sound side message lane entropy, ?_⟩
      intro taken member
      rw [List.append_nil] at member
      obtain ⟨sealing, sealed, rest⟩ := genuine taken member
      exact ⟨sealing, (sealings_grow ..).subset sealed, rest⟩
    · have ran := Option.some.inj stepped
      have grown : after.sealings = before.sealings := by
        rw [← arrive_sealings before web side clock bytes, ran]
      have kept := arrive_sound sound side clock bytes
      have new := arrive_genuine sound separate unforged
      rw [ran] at kept new
      refine ⟨kept, ?_⟩
      intro taken member
      unfold Genuine
      rw [grown]
      rcases List.mem_append.mp member with old | fresh
      · exact genuine taken old
      · exact new taken fresh

theorem joined_sound {left right : Worker} (same : left.config = right.config)
    (freshLeft : FreshSession left (chains .left) (chains .right))
    (freshRight : FreshSession right (chains .right) (chains .left)) :
    Sound web chains id (.joined id left right) where
  profile side := by cases side <;> rfl
  store side := by
    cases side with
    | left => exact freshLeft.store
    | right => exact freshRight.store
  buckets side := by
    cases side with
    | left => rfl
    | right => exact congrArg CryptoConfig.paddingBuckets same.symm
  packed side sealing member := by cases member
  stream side sealing member := by cases member

/-- Decoding takes nothing away from a message within the bounds. -/
theorem Genuine.sealed {taken : Taken} (genuine : Genuine link taken) :
    ∃ sealing ∈ link.sealings taken.side.other,
      sealing.frame = taken.bytes ∧ taken.envelope.streamId = streamForLane sealing.lane ∧
        (sealing.message.Fits → taken.message = sealing.message) := by
  obtain ⟨sealing, sealed, whole, stream, clock, decoded⟩ := genuine
  refine ⟨sealing, sealed, whole, stream, fun fits => ?_⟩
  rw [AppCodec.decode_encode clock sealing.message fits] at decoded
  exact (Except.ok.inj decoded).symm

/-- Whatever the relay delivers, and however often and in whatever order: as long as it does not
forge, each message a side takes came in a frame that the other side has made in this session,
bit for bit, on the stream of its lane, and is the message the other side made it of if that is
one the decoder accepts. -/
theorem taken_messages_were_sealed {id : TransportProfileId} {web : WebCrypto}
    {alice bob left right : Worker} {secretA secretB shared : Bytes} {profile : CryptoProfile}
    {profileHashValue : String} {link : SecureLink} {history : List Taken}
    (identityA : alice.identity = some secretA) (identityB : bob.identity = some secretB)
    (distinct : web.publicKey secretA ≠ web.publicKey secretB)
    (agreedA : web.agree secretA (web.publicKey secretB) = some shared)
    (agreedB : web.agree secretB (web.publicKey secretA) = some shared)
    (joinedA : joinSession web alice profile (web.publicKey secretB) profileHashValue =
      (left, .ok ()))
    (joinedB : joinSession web bob profile (web.publicKey secretA) profileHashValue =
      (right, .ok ()))
    (separate : Separate web (sendChains web secretA secretB shared profileHashValue))
    (run : (SecureLink.machine web).Run
      (Unforged web (sendChains web secretA secretB shared profileHashValue) id)
      (.joined id left right) link history) :
    ∀ taken ∈ history, ∃ sealing ∈ link.sealings taken.side.other,
      sealing.frame = taken.bytes ∧ taken.envelope.streamId = streamForLane sealing.lane ∧
        (sealing.message.Fits → taken.message = sealing.message) := by
  obtain ⟨same, freshLeft, freshRight⟩ := joinSession_crossed web identityA identityB distinct
    agreedA agreedB joinedA joinedB
  intro taken member
  exact ((run_genuine separate (joined_sound same freshLeft freshRight) run).2 taken member).sealed

end Authenticity

section Sample

/-- Primitives whose chains stand still, each at its own root. -/
def standingCrypto : WebCrypto :=
  { sampleCrypto with
    hkdf := fun ikm _ info length =>
      ((if info = chainStepInfo then ikm ++ ikm else info ++ ikm) ++
        List.replicate length 0).take length
    hkdf_length := fun ikm salt info length => by
      rw [List.length_take, List.length_append, List.length_replicate]
      omega }

theorem standing_step {root : Bytes} (sized : root.length = aesKeyBytes) :
    deriveStep standingCrypto root = ⟨root, root⟩ := by
  have material : standingCrypto.hkdf root zero32 chainStepInfo (aesKeyBytes * 2) =
      root ++ root := by
    change ((if chainStepInfo = chainStepInfo then root ++ root else _) ++ _).take _ = _
    rw [if_pos rfl]
    apply List.take_left'
    rw [List.length_append, sized]
    omega
  rw [deriveStep, material, List.take_left' sized, List.drop_left' sized]

theorem standing_chainAt {root : Bytes} (sized : root.length = aesKeyBytes) (position : Nat) :
    chainAt standingCrypto root position = root := by
  induction position with
  | zero => rfl
  | succ position ih => rw [chainAt, ih, standing_step sized]

theorem standing_messageKeyAt {root : Bytes} (sized : root.length = aesKeyBytes) (counter : Nat) :
    messageKeyAt standingCrypto root counter = root := by
  rw [messageKeyAt, standing_chainAt sized, standing_step sized]

def sampleSide (own peer : Bytes) : Worker :=
  (joinSession standingCrypto (generateIdentity standingCrypto own initial).1 ⟨[1024], 32, 2⟩
    (standingCrypto.publicKey peer) "profile").1

def sampleAck : AppMessage := .reliableAck (utf16 "r1")

/-- The left side has acknowledged a message. -/
def sampleSent : SecureLink :=
  (SecureLink.joined .balanced (sampleSide [1] [2]) (sampleSide [2] [1])).send standingCrypto .left
    sampleAck .control sampleEntropy

def sampleFrame : Bytes :=
  ((sampleSent.sealings .left).map Sealing.frame).headD []

def sampleChains : Side → Bytes :=
  sendChains standingCrypto [1] [2] (3 :: List.replicate 31 0) "profile"

theorem sample_separate : Separate standingCrypto sampleChains := by
  have sized : (sampleChains .left).length = aesKeyBytes ∧
      (sampleChains .right).length = aesKeyBytes ∧ sampleChains .left ≠ sampleChains .right := by
    decide +kernel
  intro sent received
  rw [standing_messageKeyAt sized.1, standing_messageKeyAt sized.2.1]
  exact sized.2.2

/-- The frame is not forged, to whichever side it is delivered. -/
theorem sample_unforged {link : SecureLink} (same : link.sealings = sampleSent.sealings)
    (config : (link.ends .left).worker.config = ⟨[1024], 32, 2⟩) (side : Side) :
    Unforged standingCrypto sampleChains .balanced link
      (.arrive side AppCodec.stoppedClock sampleFrame) := by
  have made : (sampleSent.sealings .left).map (fun sealing =>
      (sealing.envelope.counter, sealing.frame, sealing.envelope.nonce, sealing.envelope.payload)) =
        [(1, sampleFrame, List.replicate 12 9, sampleFrame.drop 38)] := by
    decide +kernel
  have built : (sampleSent.sealings .left).map (fun sealing => buildPlaintext ⟨[1024], 32, 2⟩
      sealing.entropy.filler (encodeAppMessage sealing.message)) =
        [.ok ((sampleFrame.drop 38).drop 78)] := by
    decide +kernel
  have read : (unpackEnvelope sampleFrame (transportLimits .balanced)).map (fun envelope =>
      (envelope.nonce, envelope.payload)) = .ok (List.replicate 12 9, sampleFrame.drop 38) := by
    decide +kernel
  have keyed : (sampleFrame.drop 38).take aesKeyBytes = sampleChains .left ∧
      (sampleChains .left).length = aesKeyBytes ∧ (sampleChains .right).length = aesKeyBytes ∧
      (sampleFrame.take aadBytes).length = aadBytes := by
    decide +kernel
  obtain ⟨first, left, right, header⟩ := keyed
  intro envelope unpacked owner counter plaintext opened
  rw [unpacked] at read
  obtain ⟨nonce, payload⟩ := Prod.mk.inj (Except.ok.inj read)
  -- The ciphertext spells out its key, which is the left side's, and the rest after it.
  have cipher : sampleFrame.drop 38 = messageKeyAt standingCrypto (sampleChains owner) counter ++
      (List.replicate 12 9 ++ sampleFrame.take aadBytes ++ plaintext) := by
    have whole := sampleCrypto_idealised.only _ _ _ _ _ opened
    rw [payload, nonce] at whole
    rw [whole]
    simp only [sampleCrypto, List.append_assoc]
  have sized : (sampleChains owner).length = aesKeyBytes := by
    cases owner
    · exact left
    · exact right
  rw [standing_messageKeyAt sized] at cipher ⊢
  have key : sampleChains owner = sampleChains .left := by
    rw [← first, cipher, List.take_left' sized]
  have rest : (sampleFrame.drop 38).drop 78 = plaintext := by
    rw [cipher, ← List.append_assoc]
    apply List.drop_left'
    rw [List.length_append, sized, List.length_append, List.length_replicate, header]
    rfl
  obtain ⟨sealing, only⟩ := List.length_eq_one_iff.mp (by simpa using congrArg List.length made)
  rw [only] at made built
  simp only [List.map_cons, List.map_nil, List.cons.injEq, and_true, Prod.mk.injEq] at made built
  obtain ⟨one, whole, drawn, text⟩ := made
  refine ⟨.left, sealing, ?_, text.trans payload.symm, ?_⟩
  · rw [same, only]
    exact List.mem_singleton_self _
  · rw [config, key]
    exact ⟨(standing_messageKeyAt left _).symm, nonce.trans drawn.symm, by rw [whole], rest ▸ built⟩

/-- The relay hands the frame to its own sender, then to the other side. -/
theorem sample_ack_was_sealed :
    ∃ (link : SecureLink) (history : List Taken) (taken : Taken), taken ∈ history ∧
      taken.side = .right ∧ taken.envelope.streamId = 1 ∧
      ∃ sealing ∈ link.sealings taken.side.other, sealing.frame = taken.bytes ∧
        taken.envelope.streamId = streamForLane sealing.lane ∧
        (sealing.message.Fits → taken.message = sealing.message) := by
  let start := SecureLink.joined .balanced (sampleSide [1] [2]) (sampleSide [2] [1])
  let reflected := sampleSent.arrive standingCrypto .left AppCodec.stoppedClock sampleFrame
  let delivered := reflected.1.arrive standingCrypto .right AppCodec.stoppedClock sampleFrame
  have sends : Unforged standingCrypto sampleChains .balanced start
      (.send .left sampleAck .control sampleEntropy) := trivial
  have reflects : Unforged standingCrypto sampleChains .balanced sampleSent
      (.arrive .left AppCodec.stoppedClock sampleFrame) :=
    sample_unforged rfl (by decide +kernel) .left
  have delivers : Unforged standingCrypto sampleChains .balanced reflected.1
      (.arrive .right AppCodec.stoppedClock sampleFrame) :=
    sample_unforged (arrive_sealings _ _ _ _ _) (by decide +kernel) .right
  have run : (SecureLink.machine standingCrypto).Run
      (Unforged standingCrypto sampleChains .balanced) start delivered.1
      ((([] ++ []) ++ reflected.2) ++ delivered.2) :=
    .next (.next (.next .refl sends rfl) reflects rfl) delivers rfl
  have one : delivered.2.map (fun taken => (taken.side, taken.envelope.streamId)) =
      [(.right, 1)] := by
    decide +kernel
  obtain ⟨taken, only⟩ := List.length_eq_one_iff.mp (by simpa using congrArg List.length one)
  rw [only] at one run
  obtain ⟨side, stream⟩ := Prod.mk.inj (List.cons.inj one).1
  have member : taken ∈ (([] ++ []) ++ reflected.2) ++ [taken] :=
    List.mem_append_right _ (List.mem_singleton_self _)
  have identity (own : Bytes) :
      (generateIdentity standingCrypto own initial).1.identity = some own := rfl
  have joins : joinSession standingCrypto (generateIdentity standingCrypto [1] initial).1
      ⟨[1024], 32, 2⟩ (standingCrypto.publicKey [2]) "profile" = (sampleSide [1] [2], .ok ()) ∧
      joinSession standingCrypto (generateIdentity standingCrypto [2] initial).1 ⟨[1024], 32, 2⟩
        (standingCrypto.publicKey [1]) "profile" = (sampleSide [2] [1], .ok ()) := by
    decide +kernel
  exact ⟨delivered.1, _, taken, member, side, stream,
    taken_messages_were_sealed (identity [1]) (identity [2]) (by decide +kernel) (by decide +kernel)
      (by decide +kernel) joins.1 joins.2 sample_separate run taken member⟩

end Sample

end OnlyTwo.Conversation
