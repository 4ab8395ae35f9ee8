import OnlyTwo.Buffers
import OnlyTwo.CryptoWorker

/-!
The crypto worker of client/src/crypto/cryptoWorker.ts once more, now with the arrays that hold
its keys. The module state holds references, `zeroize` overwrites the array behind one, and every
`zeroize` and `clone` of the source stands where the source has it. Arrays that never outlive
their request and are never shared (the root key, the padded plaintext, the material of a
derivation) are values here as in `CryptoWorker`, whose pure functions are used as they are.
-/

namespace OnlyTwo.CryptoWorker

open Bytes Envelope

structure WorkerBuffers where
  config : CryptoConfig
  identityKeyPair : Option Bytes
  identityPublicRaw : Option Nat
  sendChainKey : Option Nat
  receiveChainKey : Option Nat
  outboundCounter : Nat
  highestInboundCounter : Nat
  sessionEstablished : Bool
  skippedKeys : InsertionMap Nat Nat
  memory : Buffers Bytes
  deriving DecidableEq

namespace WorkerBuffers

def initial : WorkerBuffers where
  config := CryptoWorker.initial.config
  identityKeyPair := none
  identityPublicRaw := none
  sendChainKey := none
  receiveChainKey := none
  outboundCounter := 0
  highestInboundCounter := 0
  sessionEstablished := false
  skippedKeys := .empty
  memory := .empty

def read (memory : Buffers Bytes) (ref : Nat) : Bytes := (memory.read? ref).getD []

def zeroize (memory : Buffers Bytes) : Option Nat → Buffers Bytes
  | none => memory
  | some ref => memory.modify ref fun bytes => List.replicate bytes.length 0

def zeroizeAll (memory : Buffers Bytes) (refs : List Nat) : Buffers Bytes :=
  refs.foldl (fun memory ref => zeroize memory (some ref)) memory

structure ChainBuffers where
  next : Nat
  message : Nat
  memory : Buffers Bytes

def deriveStep (web : WebCrypto) (memory : Buffers Bytes) (chainKey : Nat) : ChainBuffers :=
  let step := CryptoWorker.deriveStep web (read memory chainKey)
  let next := memory.alloc step.next
  let message := next.1.alloc step.message
  ⟨next.2, message.2, message.1⟩

section Cache

structure CacheBuffers where
  skippedKeys : InsertionMap Nat Nat
  memory : Buffers Bytes

/-- The arrays of the entries that the eviction loop removes. -/
def zeroizeEvicted (limit : Nat) : List (Nat × Nat) → Buffers Bytes → Buffers Bytes
  | [], memory => memory
  | entry :: rest, memory =>
      if limit < (entry :: rest).length then
        zeroizeEvicted limit rest (zeroize memory (some entry.2))
      else memory

def cacheSkipped (limit : Nat) (cache : CacheBuffers) (counter key : Nat) : CacheBuffers :=
  let replaced := zeroize cache.memory (cache.skippedKeys.get? counter)
  let grown := cache.skippedKeys.set counter key
  ⟨grown.evict limit, zeroizeEvicted limit grown.entries replaced⟩

/-- The skip loop. A cursor is overwritten once it is used, but for the chain key it began with. -/
def skipTo (web : WebCrypto) (limit receiveChainKey : Nat) :
    Nat → Nat → Nat → CacheBuffers → Nat × CacheBuffers
  | 0, _, cursor, cache => (cursor, cache)
  | count + 1, counter, cursor, cache =>
      let skipped := deriveStep web cache.memory cursor
      let spent := if cursor ≠ receiveChainKey then zeroize skipped.memory (some cursor)
        else skipped.memory
      skipTo web limit receiveChainKey count (counter + 1) skipped.next
        (cacheSkipped limit ⟨cache.skippedKeys, spent⟩ counter skipped.message)

end Cache

section Requests

def resetSession (self : WorkerBuffers) : WorkerBuffers :=
  let sent := zeroize self.memory self.sendChainKey
  let received := zeroize sent self.receiveChainKey
  { self with
    sendChainKey := none
    receiveChainKey := none
    outboundCounter := 0
    highestInboundCounter := 0
    sessionEstablished := false
    skippedKeys := .empty
    memory := zeroizeAll received self.skippedKeys.values }

def resetAll (self : WorkerBuffers) : WorkerBuffers :=
  let closed := self.resetSession
  { closed with
    identityKeyPair := none
    identityPublicRaw := none
    memory := zeroize closed.memory closed.identityPublicRaw }

def generateIdentity (web : WebCrypto) (secret : Bytes) (self : WorkerBuffers) :
    WorkerBuffers × Bytes :=
  let cleared := self.resetAll
  let raw := cleared.memory.alloc (web.publicKey secret)
  ({ cleared with
      identityKeyPair := some secret
      identityPublicRaw := some raw.2
      memory := raw.1 }, read raw.1 raw.2)

def establishSession (web : WebCrypto) (self : WorkerBuffers) (peerRaw : Bytes)
    (profileHashValue : String) : WorkerBuffers × Except String Unit :=
  match self.identityKeyPair, self.identityPublicRaw with
  | some secret, some raw =>
      let identityPublicRaw := read self.memory raw
      if peerRaw.length ≠ x25519PublicBytes then (self, .error "Invalid peer public key")
      else if compareBytes identityPublicRaw peerRaw = 0 then
        (self, .error "Refusing identical peer key")
      else
        let closed := self.resetSession
        match web.agree secret peerRaw with
        | none => (closed, .error "OperationError")
        | some shared =>
            let salt := web.sha256 (utf8Encode ("onlytwo-v2:" ++ profileHashValue))
            let rootKey := web.hkdf shared salt rootInfo aesKeyBytes
            let localIsLower := compareBytes identityPublicRaw peerRaw < 0
            let send := closed.memory.alloc (web.hkdf rootKey zero32
              (if localIsLower then chainSendInfo else chainRecvInfo) aesKeyBytes)
            let receive := send.1.alloc (web.hkdf rootKey zero32
              (if localIsLower then chainRecvInfo else chainSendInfo) aesKeyBytes)
            ({ closed with
                sendChainKey := some send.2
                receiveChainKey := some receive.2
                sessionEstablished := true
                memory := receive.1 }, .ok ())
  | _, _ => (self, .error "Identity not generated")

def encryptBinary (web : WebCrypto) (entropy : Entropy) (self : WorkerBuffers)
    (payload : EncryptRequest) : WorkerBuffers × Except String Encrypted :=
  match self.sessionEstablished, self.sendChainKey with
  | true, some chainKey =>
      match toBytes payload.data "plaintext" with
      | .error reason => (self, .error reason)
      | .ok data =>
          let step := deriveStep web self.memory chainKey
          let moved := { self with
            sendChainKey := some step.next
            outboundCounter := self.outboundCounter + 1
            memory := zeroize step.memory (some chainKey) }
          match sealMessage web entropy moved.config moved.outboundCounter
              (read moved.memory step.message) payload.aadContext data with
          -- What throws here throws before the `try`.
          | .error reason => (moved, .error reason)
          | .ok encrypted =>
              ({ moved with memory := zeroize moved.memory (some step.message) }, .ok encrypted)
  | _, _ => (self, .error "Session not established")

/-- The `finally` of `decryptBinary`; `encodeAad` and `importAes` run before its `try`. -/
def zeroizeTried (frame : Frame) (memory : Buffers Bytes) (messageKey : Nat) (used : Bytes) :
    Buffers Bytes :=
  match encodeAad frame.aadContext frame.counter frame.nonce, importAes used with
  | .ok _, .ok _ => zeroize memory (some messageKey)
  | _, _ => memory

def decryptCached (web : WebCrypto) (self : WorkerBuffers) (frame : Frame) (cached : Nat) :
    WorkerBuffers × Except String Bytes :=
  let messageKey := self.memory.alloc (read self.memory cached)
  let used := read messageKey.1 messageKey.2
  match authenticate web frame used with
  | .error reason =>
      ({ self with memory := zeroizeTried frame messageKey.1 messageKey.2 used }, .error reason)
  | .ok padded =>
      ({ self with
          skippedKeys := self.skippedKeys.delete frame.counter
          memory := zeroizeTried frame (zeroize messageKey.1 (some cached)) messageKey.2 used },
        parsePlaintext self.config padded)

def decryptAhead (web : WebCrypto) (self : WorkerBuffers) (frame : Frame) (receiveChainKey : Nat) :
    WorkerBuffers × Except String Bytes :=
  let gap := frame.counter - self.highestInboundCounter - 1
  let skipped := skipTo web self.config.maxSkippedMessageKeys receiveChainKey gap
    (self.highestInboundCounter + 1) receiveChainKey ⟨self.skippedKeys, self.memory⟩
  let step := deriveStep web skipped.2.memory skipped.1
  let spent := if skipped.1 ≠ receiveChainKey then zeroize step.memory (some skipped.1)
    else step.memory
  let tried := { self with skippedKeys := skipped.2.skippedKeys }
  let used := read spent step.message
  match authenticate web frame used with
  | .error reason =>
      ({ tried with memory := zeroizeTried frame spent step.message used }, .error reason)
  | .ok padded =>
      ({ tried with
          receiveChainKey := some step.next
          highestInboundCounter := frame.counter
          memory := zeroizeTried frame (zeroize spent (some receiveChainKey)) step.message used },
        parsePlaintext self.config padded)

def decryptBinary (web : WebCrypto) (self : WorkerBuffers) (payload : DecryptRequest) :
    WorkerBuffers × Except String Bytes :=
  match self.sessionEstablished, self.receiveChainKey with
  | true, some receiveChainKey =>
      match readFrame payload with
      | .error reason => (self, .error reason)
      | .ok frame =>
          if self.highestInboundCounter + (self.config.maxSkippedMessageKeys + 1) <
              frame.counter then
            (self, .error "Counter too far ahead")
          else
            match self.skippedKeys.get? frame.counter with
            | some cached => decryptCached web self frame cached
            | none =>
                if frame.counter ≤ self.highestInboundCounter then
                  (self, .error "Replay detected")
                else decryptAhead web self frame receiveChainKey
  | _, _ => (self, .error "Session not established")

/-- `CONFIGURE`: the new configuration is that of the value model. -/
def configure (self : WorkerBuffers) (payload : ConfigurePayload) : WorkerBuffers :=
  { self with
    config := (CryptoWorker.configure { CryptoWorker.initial with config := self.config }
      payload).config }.resetSession

def handle (web : WebCrypto) (entropy : Entropy) (self : WorkerBuffers) :
    Request → WorkerBuffers × Except String Reply
  | .configure payload => (self.configure payload, .ok .done)
  | .generateIdentity =>
      let made := generateIdentity web entropy.secret self
      (made.1, .ok (.publicKey made.2))
  | .establishSession peerPublicKey profileHashValue =>
      match toBytes peerPublicKey "peer public key" with
      | .error reason => (self, .error reason)
      | .ok peerRaw =>
          let result := establishSession web self peerRaw (profileHashValue.getD "")
          (result.1, result.2.map fun _ => .done)
  | .encrypt payload =>
      let result := encryptBinary web entropy self payload
      (result.1, result.2.map .encrypted)
  | .decrypt payload =>
      let result := decryptBinary web self payload
      (result.1, result.2.map .plaintext)
  | .reset => (self.resetAll, .ok .done)
  | .unknown type => (self, .error s!"Unknown crypto request: {type}")

end Requests

def machine (web : WebCrypto) : Machine WorkerBuffers (Request × Entropy) Answered where
  step self event :=
    let result := handle web event.2 self event.1
    some (result.1, [⟨event.1, result.2⟩])

end WorkerBuffers

end OnlyTwo.CryptoWorker
