import OnlyTwo.Bytes
import OnlyTwo.InsertionMap
import OnlyTwo.Machine
import OnlyTwo.Profiles

/-!
The authenticated header of client/src/protocol/envelope.ts and the crypto worker
of client/src/crypto/cryptoWorker.ts. Every field of the header is written through
a `DataView`, so a value wider than its field is stored modulo the field's width.
The requests of the worker are chained, so each one runs to its end before the next
starts and a request is one step on the worker's module state. The WebCrypto
primitives are parameters. A byte array is a value here: the worker zeroizes only
arrays that it drops in the same request, so overwriting them changes nothing that
is still reachable.
`rootKey` lives inside one request and is not part of the state.
-/

namespace OnlyTwo.Envelope

open Bytes

inductive OuterType where
  | handshake
  | data
  deriving DecidableEq, Repr

def OuterType.code : OuterType → Nat
  | .handshake => 1
  | .data => 2

def magicA : UInt8 := 0x4f
def magicB : UInt8 := 0x54
def headerBytes : Nat := 38
def aadBytes : Nat := 34
def nonceBytes : Nat := 12

structure AadContext where
  protocolVersion : Nat
  outerType : OuterType
  flags : Nat
  streamId : Nat
  sequence : Nat
  deriving DecidableEq, Repr

def encodeAad (context : AadContext) (counter : Nat) (nonce : Bytes) : Except String Bytes :=
  if nonce.length ≠ nonceBytes then .error "Invalid nonce length"
  else .ok ([magicA, magicB] ++ bigEndian 1 context.protocolVersion ++
    bigEndian 1 context.outerType.code ++ bigEndian 1 context.flags ++
    bigEndian 1 headerBytes ++ bigEndian 4 context.streamId ++
    bigEndian 4 context.sequence ++ bigEndian 8 counter ++ nonce)

theorem encodeAad_ok (context : AadContext) (counter : Nat) (nonce : Bytes)
    (sized : nonce.length = nonceBytes) :
    ∃ aad, encodeAad context counter nonce = .ok aad ∧ aad.length = aadBytes := by
  refine ⟨_, if_neg (not_not_intro sized), ?_⟩
  simp [sized, aadBytes, nonceBytes]

end OnlyTwo.Envelope

namespace OnlyTwo.CryptoWorker

open Bytes Envelope

/-- What the worker takes from `crypto.subtle`. Agreement rejects a degenerate
peer key, decryption rejects a ciphertext that does not authenticate, and
derived bits have the requested length. -/
structure WebCrypto where
  publicKey : Bytes → Bytes
  publicKey_length : ∀ secret, (publicKey secret).length = 32
  agree : Bytes → Bytes → Option Bytes
  sha256 : Bytes → Bytes
  hkdf : Bytes → Bytes → Bytes → Nat → Bytes
  hkdf_length : ∀ ikm salt info length, (hkdf ikm salt info length).length = length
  encrypt : Bytes → Bytes → Bytes → Bytes → Bytes
  decrypt : Bytes → Bytes → Bytes → Bytes → Option Bytes

/-- AES-GCM as an ideal: decryption inverts encryption and accepts only what
encryption produced with the same key, nonce and associated data. -/
structure WebCrypto.Idealised (web : WebCrypto) : Prop where
  opens : ∀ key nonce aad plaintext,
    web.decrypt key nonce aad (web.encrypt key nonce aad plaintext) = some plaintext
  only : ∀ key nonce aad ciphertext plaintext,
    web.decrypt key nonce aad ciphertext = some plaintext →
      ciphertext = web.encrypt key nonce aad plaintext

def x25519PublicBytes : Nat := 32
def aesKeyBytes : Nat := 32
def zero32 : Bytes := List.replicate 32 0
def rootInfo : Bytes := utf8Encode "onlytwo-v2-root"
def chainSendInfo : Bytes := utf8Encode "onlytwo-v2-chain-send"
def chainRecvInfo : Bytes := utf8Encode "onlytwo-v2-chain-recv"
def chainStepInfo : Bytes := utf8Encode "onlytwo-v2-chain-step"

structure CryptoConfig where
  paddingBuckets : List Nat
  maxSkippedMessageKeys : Nat
  protocolVersion : Nat
  deriving DecidableEq, Repr

structure Worker where
  config : CryptoConfig
  identity : Option Bytes
  sendChainKey : Option Bytes
  receiveChainKey : Option Bytes
  outboundCounter : Nat
  highestInboundCounter : Nat
  sessionEstablished : Bool
  skippedKeys : InsertionMap Nat Bytes
  deriving DecidableEq

def initial : Worker where
  config := ⟨[4096, 16384, 65536, 131072], 4096, 2⟩
  identity := none
  sendChainKey := none
  receiveChainKey := none
  outboundCounter := 0
  highestInboundCounter := 0
  sessionEstablished := false
  skippedKeys := .empty

/-! Request payloads are untyped in the source and are converted on use. -/

inductive ByteSource where
  | view (bytes : Bytes)
  | numbers (values : List Int)
  | other
  deriving DecidableEq, Repr

def toBytes : ByteSource → String → Except String Bytes
  | .view bytes, _ => .ok bytes
  | .numbers values, _ => .ok (values.map fun value => UInt8.ofNat (value % 256).toNat)
  | .other, label => .error s!"Invalid {label}"

inductive CounterSource where
  | bigint (value : Nat)
  | number (value : Int)
  | text (value : String)
  | other
  deriving DecidableEq, Repr

def maxSafeInteger : Int := 2 ^ 53 - 1

def toCounter : CounterSource → Except String Nat
  | .bigint value => .ok value
  | .number value =>
      if 0 ≤ value ∧ value ≤ maxSafeInteger then .ok value.toNat else .error "Invalid counter"
  | .text value =>
      if value.toList ≠ [] ∧ value.toList.all Char.isDigit then
        .ok (Nat.ofDigitChars 10 value.toList 0)
      else .error "Invalid counter"
  | .other => .error "Invalid counter"

structure EncryptRequest where
  data : ByteSource
  aadContext : AadContext
  deriving DecidableEq, Repr

structure DecryptRequest where
  ciphertext : ByteSource
  nonce : ByteSource
  counter : CounterSource
  aadContext : AadContext
  deriving DecidableEq, Repr

/-- A `CONFIGURE` payload. An absent field keeps the configured value. -/
structure ConfigurePayload where
  paddingBuckets : Option (List Int)
  maxSkippedMessageKeys : Option Nat
  protocolVersion : Option Nat
  deriving DecidableEq, Repr

/-- What `CryptoClient.configure` posts for a profile. -/
structure CryptoProfile where
  paddingBuckets : List Int
  maxSkippedMessageKeys : Nat
  protocolVersion : Nat
  deriving DecidableEq, Repr

def CryptoProfile.payload (profile : CryptoProfile) : ConfigurePayload :=
  ⟨some profile.paddingBuckets, some profile.maxSkippedMessageKeys, some profile.protocolVersion⟩

def cryptoProfile (id : Profiles.TransportProfileId) : CryptoProfile where
  paddingBuckets := (Profiles.getProfile id).paddingBuckets.map Int.ofNat
  maxSkippedMessageKeys := (Profiles.getProfile id).maxSkippedMessageKeys
  protocolVersion := (Profiles.getProfile id).protocolVersion

structure Encrypted where
  ciphertext : Bytes
  nonce : Bytes
  counter : Nat
  deriving DecidableEq, Repr

/-- The values `getRandomValues` fills in during one request, by position. -/
structure Entropy where
  secret : Bytes
  nonce : Nat → UInt8
  filler : Nat → UInt8

def compareBytes : Bytes → Bytes → Int
  | a :: as, b :: bs => if a ≠ b then (a.toNat : Int) - b.toNat else compareBytes as bs
  | as, bs => (as.length : Int) - bs.length

/-- `getRandomValues` refuses views of more than 65536 bytes. -/
def randomBytes (source : Nat → UInt8) (length : Nat) : Except String Bytes :=
  if 65536 < length then .error "QuotaExceededError"
  else .ok ((List.range length).map source)

def importAes (raw : Bytes) : Except String Bytes :=
  if raw.length ≠ aesKeyBytes then .error "Invalid AES key" else .ok raw

structure ChainStep where
  next : Bytes
  message : Bytes
  deriving DecidableEq

def deriveStep (web : WebCrypto) (chainKey : Bytes) : ChainStep :=
  let material := web.hkdf chainKey zero32 chainStepInfo (aesKeyBytes * 2)
  ⟨material.take aesKeyBytes, material.drop aesKeyBytes⟩

def selectPaddingBucket (config : CryptoConfig) (actualBytes : Nat) : Except String Nat :=
  match (config.paddingBuckets.mergeSort (· ≤ ·)).find? (fun bucket => actualBytes + 4 ≤ bucket) with
  | some bucket => .ok bucket
  | none => .error "Payload too large for selected profile"

def buildPlaintext (config : CryptoConfig) (filler : Nat → UInt8) (actual : Bytes) :
    Except String Bytes := do
  let bucket ← selectPaddingBucket config actual.length
  let out ← randomBytes filler bucket
  return bigEndian 4 actual.length ++ actual ++ out.drop (4 + actual.length)

def parsePlaintext (config : CryptoConfig) (padded : Bytes) : Except String Bytes :=
  if padded.length ∉ config.paddingBuckets then .error "Invalid padded plaintext size"
  else
    let length := readBigEndian (padded.take 4)
    if padded.length - 4 < length then .error "Invalid plaintext length"
    else .ok ((padded.drop 4).take length)

def cacheSkipped (limit : Nat) (skippedKeys : InsertionMap Nat Bytes) (counter : Nat)
    (key : Bytes) : InsertionMap Nat Bytes :=
  (skippedKeys.set counter key).evict limit

def resetSession (worker : Worker) : Worker :=
  { worker with
    sendChainKey := none
    receiveChainKey := none
    outboundCounter := 0
    highestInboundCounter := 0
    sessionEstablished := false
    skippedKeys := .empty }

def resetAll (worker : Worker) : Worker := { resetSession worker with identity := none }

def generateIdentity (web : WebCrypto) (secret : Bytes) (worker : Worker) : Worker × Bytes :=
  ({ resetAll worker with identity := some secret }, web.publicKey secret)

def establishSession (web : WebCrypto) (worker : Worker) (peerRaw : Bytes)
    (profileHashValue : String) : Worker × Except String Unit :=
  match worker.identity with
  | none => (worker, .error "Identity not generated")
  | some secret =>
      let identityPublicRaw := web.publicKey secret
      if peerRaw.length ≠ x25519PublicBytes then (worker, .error "Invalid peer public key")
      else if compareBytes identityPublicRaw peerRaw = 0 then
        (worker, .error "Refusing identical peer key")
      else
        match web.agree secret peerRaw with
        -- The old session is reset before the agreement is tried.
        | none => (resetSession worker, .error "OperationError")
        | some shared =>
            let salt := web.sha256 (utf8Encode ("onlytwo-v2:" ++ profileHashValue))
            let rootKey := web.hkdf shared salt rootInfo aesKeyBytes
            let localIsLower := compareBytes identityPublicRaw peerRaw < 0
            ({ resetSession worker with
                sendChainKey := some (web.hkdf rootKey zero32
                  (if localIsLower then chainSendInfo else chainRecvInfo) aesKeyBytes)
                receiveChainKey := some (web.hkdf rootKey zero32
                  (if localIsLower then chainRecvInfo else chainSendInfo) aesKeyBytes)
                sessionEstablished := true }, .ok ())

/-- Everything `encryptBinary` does after the send chain has moved on. -/
def sealMessage (web : WebCrypto) (entropy : Entropy) (config : CryptoConfig) (counter : Nat)
    (message : Bytes) (context : AadContext) (data : Bytes) : Except String Encrypted := do
  let nonce ← randomBytes entropy.nonce nonceBytes
  let aad ← encodeAad context counter nonce
  let aes ← importAes message
  let plaintext ← buildPlaintext config entropy.filler data
  return ⟨web.encrypt aes nonce aad plaintext, nonce, counter⟩

def encryptBinary (web : WebCrypto) (entropy : Entropy) (worker : Worker)
    (payload : EncryptRequest) : Worker × Except String Encrypted :=
  match worker.sessionEstablished, worker.sendChainKey with
  | true, some chainKey =>
      match toBytes payload.data "plaintext" with
      | .error reason => (worker, .error reason)
      | .ok data =>
          let step := deriveStep web chainKey
          let counter := worker.outboundCounter + 1
          ({ worker with sendChainKey := some step.next, outboundCounter := counter },
            sealMessage web entropy worker.config counter step.message payload.aadContext data)
  | _, _ => (worker, .error "Session not established")

/-- The fields of a `DECRYPT` request after conversion. -/
structure Frame where
  ciphertext : Bytes
  nonce : Bytes
  counter : Nat
  aadContext : AadContext
  deriving DecidableEq, Repr

def readFrame (payload : DecryptRequest) : Except String Frame := do
  let ciphertext ← toBytes payload.ciphertext "ciphertext"
  let nonce ← toBytes payload.nonce "nonce"
  let counter ← toCounter payload.counter
  if nonce.length ≠ nonceBytes then .error "Invalid nonce length"
  else return ⟨ciphertext, nonce, counter, payload.aadContext⟩

/-- The skip loop: `count` positions from `counter` on are derived and cached,
before anything is known about the frame that asked for them. -/
def skipTo (web : WebCrypto) (limit : Nat) :
    Nat → Nat → Bytes → InsertionMap Nat Bytes → Bytes × InsertionMap Nat Bytes
  | 0, _, cursor, skippedKeys => (cursor, skippedKeys)
  | count + 1, counter, cursor, skippedKeys =>
      let skipped := deriveStep web cursor
      skipTo web limit count (counter + 1) skipped.next
        (cacheSkipped limit skippedKeys counter skipped.message)

def authenticate (web : WebCrypto) (frame : Frame) (messageKey : Bytes) : Except String Bytes := do
  let aad ← encodeAad frame.aadContext frame.counter frame.nonce
  let aes ← importAes messageKey
  match web.decrypt aes frame.nonce aad frame.ciphertext with
  | none => .error "OperationError"
  | some padded => return padded

def decryptCached (web : WebCrypto) (worker : Worker) (frame : Frame) (cached : Bytes) :
    Worker × Except String Bytes :=
  match authenticate web frame cached with
  | .error reason => (worker, .error reason)
  | .ok padded =>
      ({ worker with skippedKeys := worker.skippedKeys.delete frame.counter },
        parsePlaintext worker.config padded)

def decryptAhead (web : WebCrypto) (worker : Worker) (frame : Frame) (receiveChainKey : Bytes) :
    Worker × Except String Bytes :=
  let gap := frame.counter - worker.highestInboundCounter - 1
  let skipped := skipTo web worker.config.maxSkippedMessageKeys gap
    (worker.highestInboundCounter + 1) receiveChainKey worker.skippedKeys
  let step := deriveStep web skipped.1
  let tried := { worker with skippedKeys := skipped.2 }
  match authenticate web frame step.message with
  -- The cached keys stay when the frame does not authenticate.
  | .error reason => (tried, .error reason)
  | .ok padded =>
      ({ tried with
          receiveChainKey := some step.next
          highestInboundCounter := frame.counter },
        parsePlaintext worker.config padded)

def decryptBinary (web : WebCrypto) (worker : Worker) (payload : DecryptRequest) :
    Worker × Except String Bytes :=
  match worker.sessionEstablished, worker.receiveChainKey with
  | true, some receiveChainKey =>
      match readFrame payload with
      | .error reason => (worker, .error reason)
      | .ok frame =>
          if worker.highestInboundCounter + (worker.config.maxSkippedMessageKeys + 1) <
              frame.counter then
            (worker, .error "Counter too far ahead")
          else
            -- The cache is asked first, so a late frame is no replay.
            match worker.skippedKeys.get? frame.counter with
            | some cached => decryptCached web worker frame cached
            | none =>
                if frame.counter ≤ worker.highestInboundCounter then
                  (worker, .error "Replay detected")
                else decryptAhead web worker frame receiveChainKey
  | _, _ => (worker, .error "Session not established")

def configure (worker : Worker) (payload : ConfigurePayload) : Worker :=
  let buckets := match payload.paddingBuckets with
    | some listed => (listed.filter (1024 ≤ ·)).map Int.toNat
    | none => worker.config.paddingBuckets
  resetSession { worker with
    config :=
      { paddingBuckets := buckets.dedup.mergeSort (· ≤ ·)
        maxSkippedMessageKeys := min 1024 (max 32
          (payload.maxSkippedMessageKeys.getD worker.config.maxSkippedMessageKeys))
        protocolVersion := payload.protocolVersion.getD worker.config.protocolVersion } }

/-- The request that `CryptoClient.decrypt` posts for a received envelope. -/
def decryptRequest (encrypted : Encrypted) (context : AadContext) : DecryptRequest where
  ciphertext := .view encrypted.ciphertext
  nonce := .view encrypted.nonce
  counter := .text (toString encrypted.counter)
  aadContext := context

inductive Request where
  | configure (payload : ConfigurePayload)
  | generateIdentity
  | establishSession (peerPublicKey : ByteSource) (profileHashValue : Option String)
  | encrypt (payload : EncryptRequest)
  | decrypt (payload : DecryptRequest)
  | reset
  | unknown (type : String)
  deriving DecidableEq, Repr

inductive Reply where
  | done
  | publicKey (raw : Bytes)
  | encrypted (result : Encrypted)
  | plaintext (data : Bytes)
  deriving DecidableEq, Repr

def handle (web : WebCrypto) (entropy : Entropy) (worker : Worker) :
    Request → Worker × Except String Reply
  | .configure payload => (configure worker payload, .ok .done)
  | .generateIdentity =>
      let made := generateIdentity web entropy.secret worker
      (made.1, .ok (.publicKey made.2))
  | .establishSession peerPublicKey profileHashValue =>
      match toBytes peerPublicKey "peer public key" with
      | .error reason => (worker, .error reason)
      | .ok peerRaw =>
          let result := establishSession web worker peerRaw (profileHashValue.getD "")
          (result.1, result.2.map fun _ => .done)
  | .encrypt payload =>
      let result := encryptBinary web entropy worker payload
      (result.1, result.2.map .encrypted)
  | .decrypt payload =>
      let result := decryptBinary web worker payload
      (result.1, result.2.map .plaintext)
  | .reset => (resetAll worker, .ok .done)
  | .unknown type => (worker, .error s!"Unknown crypto request: {type}")

structure Answered where
  request : Request
  reply : Except String Reply

/-- The request chain: every request is answered, in order, by one `handle`. -/
def machine (web : WebCrypto) : Machine Worker (Request × Entropy) Answered where
  step worker event :=
    let result := handle web event.2 worker event.1
    some (result.1, [⟨event.1, result.2⟩])

end OnlyTwo.CryptoWorker
