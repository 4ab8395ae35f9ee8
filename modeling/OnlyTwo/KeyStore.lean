import OnlyTwo.CryptoWorker

/-!
Positions of a symmetric chain and the key store that the worker keeps of them.
The send and receive keys are named by their distance from the keys that
`establishSession` derived, so every later result speaks about positions and
never unfolds the derivation again.
-/

namespace OnlyTwo.CryptoWorker

open Bytes Envelope

section Chain
variable (web : WebCrypto)

def chainAt (root : Bytes) : Nat → Bytes
  | 0 => root
  | position + 1 => (deriveStep web (chainAt root position)).next

/-- Counters start at one: counter `n + 1` is encrypted at chain position `n`. -/
def messageKeyAt (root : Bytes) (counter : Nat) : Bytes :=
  (deriveStep web (chainAt web root (counter - 1))).message

theorem deriveStep_message_length (chainKey : Bytes) :
    (deriveStep web chainKey).message.length = aesKeyBytes := by
  simp [deriveStep, web.hkdf_length, aesKeyBytes]

theorem importAes_messageKeyAt (root : Bytes) (counter : Nat) :
    importAes (messageKeyAt web root counter) = .ok (messageKeyAt web root counter) := by
  simp [importAes, messageKeyAt, deriveStep_message_length]

/-- Every cached key is the message key of the counter it is stored under. -/
def Genuine (root : Bytes) (skippedKeys : InsertionMap Nat Bytes) : Prop :=
  ∀ counter key, skippedKeys.get? counter = some key →
    0 < counter ∧ key = messageKeyAt web root counter

end Chain

section SkipLoop
variable {web : WebCrypto} {root : Bytes} {limit : Nat} {skippedKeys : InsertionMap Nat Bytes}

theorem get?_of_get?_evict {counter : Nat} {key : Bytes}
    (found : (skippedKeys.evict limit).get? counter = some key) :
    skippedKeys.get? counter = some key := by
  rw [InsertionMap.get?_eq_some_iff] at found ⊢
  exact InsertionMap.mem_of_mem_evict found

theorem get?_cacheSkipped {counter other : Nat} {key value : Bytes}
    (found : (cacheSkipped limit skippedKeys counter key).get? other = some value) :
    (other = counter ∧ value = key) ∨ skippedKeys.get? other = some value := by
  have stored := get?_of_get?_evict found
  rw [InsertionMap.get?_set] at stored
  split at stored
  · rename_i same
    exact Or.inl ⟨same, (Option.some.inj stored).symm⟩
  · exact Or.inr stored

theorem size_cacheSkipped_le (counter : Nat) (key : Bytes) :
    (cacheSkipped limit skippedKeys counter key).size ≤ limit := by
  rw [cacheSkipped, InsertionMap.size_evict]
  exact Nat.min_le_left _ _

theorem cacheSkipped_genuine (genuine : Genuine web root skippedKeys) (counter : Nat)
    (positive : 0 < counter) :
    Genuine web root (cacheSkipped limit skippedKeys counter (messageKeyAt web root counter)) := by
  intro other value found
  rcases get?_cacheSkipped found with ⟨rfl, rfl⟩ | old
  · exact ⟨positive, rfl⟩
  · exact genuine other value old

theorem skipTo_succ (count base : Nat) :
    skipTo web limit (count + 1) (base + 1) (chainAt web root base) skippedKeys =
      skipTo web limit count (base + 1 + 1) (chainAt web root (base + 1))
        (cacheSkipped limit skippedKeys (base + 1) (messageKeyAt web root (base + 1))) := rfl

theorem skipTo_chain (count base : Nat) (skippedKeys : InsertionMap Nat Bytes) :
    (skipTo web limit count (base + 1) (chainAt web root base) skippedKeys).1 =
      chainAt web root (base + count) := by
  induction count generalizing base skippedKeys with
  | zero => rfl
  | succ count ih =>
      rw [skipTo_succ, ih]
      congr 1
      omega

theorem skipTo_genuine (count base : Nat) (genuine : Genuine web root skippedKeys) :
    Genuine web root
      (skipTo web limit count (base + 1) (chainAt web root base) skippedKeys).2 := by
  induction count generalizing base skippedKeys with
  | zero => exact genuine
  | succ count ih =>
      rw [skipTo_succ]
      exact ih (base + 1) (cacheSkipped_genuine genuine (base + 1) (Nat.succ_pos base))

theorem skipTo_size (count base : Nat) (cursor : Bytes) (bounded : skippedKeys.size ≤ limit) :
    (skipTo web limit count base cursor skippedKeys).2.size ≤ limit := by
  induction count generalizing base cursor skippedKeys with
  | zero => exact bounded
  | succ count ih => exact ih (base + 1) _ (size_cacheSkipped_le base _)

/-- The loop adds no counter outside the range it walks. -/
theorem skipTo_keys (count base : Nat) (cursor : Bytes) (counter : Nat)
    (present : counter ∈ (skipTo web limit count base cursor skippedKeys).2.keys) :
    counter ∈ skippedKeys.keys ∨ (base ≤ counter ∧ counter < base + count) := by
  induction count generalizing base cursor skippedKeys with
  | zero => exact Or.inl present
  | succ count ih =>
      rcases ih (base + 1) _ present with cached | inside
      · rw [← InsertionMap.has_iff, InsertionMap.has, Option.isSome_iff_exists] at cached
        obtain ⟨value, found⟩ := cached
        rcases get?_cacheSkipped found with ⟨rfl, _⟩ | old
        · exact Or.inr ⟨Nat.le_refl _, by omega⟩
        · exact Or.inl (InsertionMap.mem_keys_of_get? old)
      · exact Or.inr ⟨by omega, by omega⟩

end SkipLoop

/-- The receiver's and the sender's chain keys stand at the counters' positions,
and the skipped-key cache holds only keys of its own chain, within its limit. -/
structure KeyStore (web : WebCrypto) (sendRoot receiveRoot : Bytes) (worker : Worker) : Prop where
  established : worker.sessionEstablished = true
  send : worker.sendChainKey = some (chainAt web sendRoot worker.outboundCounter)
  receive : worker.receiveChainKey = some (chainAt web receiveRoot worker.highestInboundCounter)
  genuine : Genuine web receiveRoot worker.skippedKeys
  bounded : worker.skippedKeys.size ≤ worker.config.maxSkippedMessageKeys
  window : ∀ counter ∈ worker.skippedKeys.keys,
    counter ≤ worker.highestInboundCounter + worker.config.maxSkippedMessageKeys

section Requests
variable {web : WebCrypto} {sendRoot receiveRoot : Bytes} {worker : Worker}

def InWindow (worker : Worker) (counter : Nat) : Prop :=
  counter ≤ worker.highestInboundCounter + (worker.config.maxSkippedMessageKeys + 1)

theorem toBytes_error {source : ByteSource} {label reason : String}
    (failed : toBytes source label = .error reason) : reason = "Invalid " ++ label := by
  cases source <;> simp only [toBytes, reduceCtorEq, Except.error.injEq] at failed
  exact failed.symm

theorem toCounter_error {source : CounterSource} {reason : String}
    (failed : toCounter source = .error reason) : reason = "Invalid counter" := by
  cases source <;> simp only [toCounter, reduceCtorEq, Except.error.injEq] at failed
  · split at failed <;> simp_all
  · split at failed <;> simp_all
  · exact failed.symm

theorem readFrame_error {payload : DecryptRequest} {reason : String}
    (failed : readFrame payload = .error reason) : reason ≠ "OperationError" := by
  simp only [readFrame, bind, Except.bind] at failed
  split at failed
  · rename_i failing
    cases failed
    rw [toBytes_error failing]
    decide
  split at failed
  · rename_i failing
    cases failed
    rw [toBytes_error failing]
    decide
  split at failed
  · rename_i failing
    cases failed
    rw [toCounter_error failing]
    decide
  split at failed
  · cases failed
    decide
  · cases failed

/-- Everything a `DECRYPT` request can do to an established session. Only a
rejected AES-GCM decryption answers with `OperationError`. -/
theorem decryptBinary_cases (store : KeyStore web sendRoot receiveRoot worker)
    (payload : DecryptRequest) :
    (∃ reason, reason ≠ "OperationError" ∧
      decryptBinary web worker payload = (worker, .error reason)) ∨
    (∃ frame cached, readFrame payload = .ok frame ∧ InWindow worker frame.counter ∧
      worker.skippedKeys.get? frame.counter = some cached ∧
      decryptBinary web worker payload = decryptCached web worker frame cached) ∨
    (∃ frame, readFrame payload = .ok frame ∧ InWindow worker frame.counter ∧
      worker.skippedKeys.get? frame.counter = none ∧
      worker.highestInboundCounter < frame.counter ∧
      decryptBinary web worker payload = decryptAhead web worker frame
        (chainAt web receiveRoot worker.highestInboundCounter)) := by
  simp only [decryptBinary, store.established, store.receive]
  cases read : readFrame payload with
  | error reason => exact Or.inl ⟨reason, readFrame_error read, rfl⟩
  | ok frame =>
      by_cases far : worker.highestInboundCounter +
          (worker.config.maxSkippedMessageKeys + 1) < frame.counter
      · exact Or.inl ⟨_, by decide, if_pos far⟩
      · have near : InWindow worker frame.counter := Nat.not_lt.mp far
        simp only [far, ↓reduceIte]
        cases found : worker.skippedKeys.get? frame.counter with
        | some cached => exact Or.inr (Or.inl ⟨frame, cached, rfl, near, found, rfl⟩)
        | none =>
            by_cases old : frame.counter ≤ worker.highestInboundCounter
            · exact Or.inl ⟨_, by decide, if_pos old⟩
            · exact Or.inr (Or.inr ⟨frame, rfl, near, found, Nat.not_le.mp old, if_neg old⟩)

theorem decryptBinary_cached (store : KeyStore web sendRoot receiveRoot worker)
    {payload : DecryptRequest} {frame : Frame} {key : Bytes} (read : readFrame payload = .ok frame)
    (near : InWindow worker frame.counter)
    (found : worker.skippedKeys.get? frame.counter = some key) :
    decryptBinary web worker payload = decryptCached web worker frame key := by
  simp only [decryptBinary, store.established, store.receive, read, Nat.not_lt.mpr near,
    ↓reduceIte, found]

theorem decryptBinary_ahead (store : KeyStore web sendRoot receiveRoot worker)
    {payload : DecryptRequest} {frame : Frame} (read : readFrame payload = .ok frame)
    (near : InWindow worker frame.counter)
    (missing : worker.skippedKeys.get? frame.counter = none)
    (ahead : worker.highestInboundCounter < frame.counter) :
    decryptBinary web worker payload = decryptAhead web worker frame
      (chainAt web receiveRoot worker.highestInboundCounter) := by
  simp only [decryptBinary, store.established, store.receive, read, Nat.not_lt.mpr near,
    ↓reduceIte, missing, Nat.not_le.mpr ahead]

/-- The map the skip loop leaves behind for a frame ahead of the chain. -/
def skippedBefore (web : WebCrypto) (receiveRoot : Bytes) (worker : Worker) (counter : Nat) :
    InsertionMap Nat Bytes :=
  (skipTo web worker.config.maxSkippedMessageKeys (counter - worker.highestInboundCounter - 1)
    (worker.highestInboundCounter + 1) (chainAt web receiveRoot worker.highestInboundCounter)
    worker.skippedKeys).2

theorem decryptAhead_eq (web : WebCrypto) (worker : Worker) (receiveRoot : Bytes) (frame : Frame)
    (ahead : worker.highestInboundCounter < frame.counter) :
    decryptAhead web worker frame (chainAt web receiveRoot worker.highestInboundCounter) =
      match authenticate web frame (messageKeyAt web receiveRoot frame.counter) with
      | .error reason =>
          ({ worker with skippedKeys := skippedBefore web receiveRoot worker frame.counter },
            .error reason)
      | .ok padded =>
          ({ worker with
              skippedKeys := skippedBefore web receiveRoot worker frame.counter
              receiveChainKey := some (chainAt web receiveRoot frame.counter)
              highestInboundCounter := frame.counter },
            parsePlaintext worker.config padded) := by
  have position : worker.highestInboundCounter +
      (frame.counter - worker.highestInboundCounter - 1) = frame.counter - 1 := by omega
  have stepped : chainAt web receiveRoot frame.counter =
      (deriveStep web (chainAt web receiveRoot (frame.counter - 1))).next := by
    have successor : frame.counter = frame.counter - 1 + 1 := by omega
    rw [successor]
    rfl
  cases tried : authenticate web frame (messageKeyAt web receiveRoot frame.counter) with
  | error reason =>
      simp only [messageKeyAt] at tried
      simp only [decryptAhead, skipTo_chain, position, tried, skippedBefore]
  | ok padded =>
      simp only [messageKeyAt] at tried
      simp only [decryptAhead, skipTo_chain, position, tried, stepped, skippedBefore]

theorem skippedBefore_store (store : KeyStore web sendRoot receiveRoot worker) (counter : Nat)
    (near : InWindow worker counter) (ahead : worker.highestInboundCounter < counter) :
    Genuine web receiveRoot (skippedBefore web receiveRoot worker counter) ∧
      (skippedBefore web receiveRoot worker counter).size ≤
        worker.config.maxSkippedMessageKeys ∧
      ∀ other ∈ (skippedBefore web receiveRoot worker counter).keys,
        other ≤ worker.highestInboundCounter + worker.config.maxSkippedMessageKeys := by
  refine ⟨skipTo_genuine _ _ store.genuine, skipTo_size _ _ _ store.bounded, ?_⟩
  intro other present
  rcases skipTo_keys _ _ _ other present with old | ⟨_, upper⟩
  · exact store.window other old
  · simp only [InWindow] at near
    omega

theorem decryptCached_store (store : KeyStore web sendRoot receiveRoot worker) (frame : Frame)
    (cached : Bytes) :
    KeyStore web sendRoot receiveRoot (decryptCached web worker frame cached).1 := by
  unfold decryptCached
  cases authenticate web frame cached with
  | error reason => exact store
  | ok padded =>
      refine ⟨store.established, store.send, store.receive, ?_, ?_, ?_⟩
      · intro counter key found
        simp only [InsertionMap.get?_delete] at found
        split at found
        · cases found
        · exact store.genuine counter key found
      · exact Nat.le_trans (InsertionMap.size_delete_le _ _) store.bounded
      · intro counter present
        exact store.window counter ((InsertionMap.mem_keys_delete _ _ _).mp present).2

theorem decryptAhead_store (store : KeyStore web sendRoot receiveRoot worker) (frame : Frame)
    (near : InWindow worker frame.counter)
    (ahead : worker.highestInboundCounter < frame.counter) :
    KeyStore web sendRoot receiveRoot (decryptAhead web worker frame
      (chainAt web receiveRoot worker.highestInboundCounter)).1 := by
  obtain ⟨genuine, bounded, window⟩ := skippedBefore_store store frame.counter near ahead
  rw [decryptAhead_eq web worker receiveRoot frame ahead]
  cases authenticate web frame (messageKeyAt web receiveRoot frame.counter) with
  | error reason => exact ⟨store.established, store.send, store.receive, genuine, bounded, window⟩
  | ok padded =>
      refine ⟨store.established, store.send, rfl, genuine, bounded, ?_⟩
      intro counter present
      have bound := window counter present
      simp only
      omega

/-- A `DECRYPT` request, accepted, refused or forged, keeps the key store. -/
theorem decryptBinary_store (store : KeyStore web sendRoot receiveRoot worker)
    (payload : DecryptRequest) :
    KeyStore web sendRoot receiveRoot (decryptBinary web worker payload).1 := by
  rcases decryptBinary_cases store payload with
    ⟨_, _, refused⟩ | ⟨frame, cached, _, _, _, taken⟩ | ⟨frame, _, near, _, ahead, taken⟩
  · rw [refused]; exact store
  · rw [taken]; exact decryptCached_store store frame cached
  · rw [taken]; exact decryptAhead_store store frame near ahead

theorem decryptBinary_config (payload : DecryptRequest) :
    (decryptBinary web worker payload).1.config = worker.config := by
  simp only [decryptBinary, decryptCached, decryptAhead]
  repeat' split
  all_goals rfl

/-- An encryption moves the send chain by one position, also when it fails. -/
theorem encryptBinary_cases (store : KeyStore web sendRoot receiveRoot worker) (entropy : Entropy)
    (payload : EncryptRequest) :
    (∃ reason, toBytes payload.data "plaintext" = .error reason ∧
      encryptBinary web entropy worker payload = (worker, .error reason)) ∨
    (∃ data, toBytes payload.data "plaintext" = .ok data ∧
      encryptBinary web entropy worker payload =
        ({ worker with
            sendChainKey := some (chainAt web sendRoot (worker.outboundCounter + 1))
            outboundCounter := worker.outboundCounter + 1 },
          sealMessage web entropy worker.config (worker.outboundCounter + 1)
            (messageKeyAt web sendRoot (worker.outboundCounter + 1)) payload.aadContext data)) := by
  simp only [encryptBinary, store.established, store.send]
  cases converted : toBytes payload.data "plaintext" with
  | error reason => exact Or.inl ⟨reason, rfl, rfl⟩
  | ok data => exact Or.inr ⟨data, rfl, rfl⟩

theorem encryptBinary_store (store : KeyStore web sendRoot receiveRoot worker) (entropy : Entropy)
    (payload : EncryptRequest) :
    KeyStore web sendRoot receiveRoot (encryptBinary web entropy worker payload).1 := by
  rcases encryptBinary_cases store entropy payload with ⟨_, _, refused⟩ | ⟨_, _, moved⟩
  · rw [refused]; exact store
  · rw [moved]
    exact ⟨store.established, rfl, store.receive, store.genuine, store.bounded, store.window⟩

/-- A session that has just been established stands at position zero. -/
structure FreshSession (worker : Worker) (sendRoot receiveRoot : Bytes) : Prop where
  established : worker.sessionEstablished = true
  send : worker.sendChainKey = some sendRoot
  receive : worker.receiveChainKey = some receiveRoot
  outbound : worker.outboundCounter = 0
  inbound : worker.highestInboundCounter = 0
  skipped : worker.skippedKeys = .empty

theorem FreshSession.store (fresh : FreshSession worker sendRoot receiveRoot) :
    KeyStore web sendRoot receiveRoot worker where
  established := fresh.established
  send := by rw [fresh.send, fresh.outbound]; rfl
  receive := by rw [fresh.receive, fresh.inbound]; rfl
  genuine := by
    intro counter key found
    rw [fresh.skipped] at found
    cases found
  bounded := by rw [fresh.skipped]; exact Nat.zero_le _
  window := by
    intro counter present
    rw [fresh.skipped] at present
    cases present

/-- `establishSession` either leaves no session or a fresh one. -/
theorem establishSession_cases (web : WebCrypto) (worker : Worker) (peerRaw : Bytes) (profileHashValue : String) :
    (∃ reason, establishSession web worker peerRaw profileHashValue = (worker, .error reason)) ∨
    (∃ reason, establishSession web worker peerRaw profileHashValue =
      (resetSession worker, .error reason)) ∨
    ((establishSession web worker peerRaw profileHashValue).2 = .ok () ∧
      ∃ sendRoot receiveRoot, FreshSession
        (establishSession web worker peerRaw profileHashValue).1 sendRoot receiveRoot) := by
  unfold establishSession
  cases worker.identity with
  | none => exact Or.inl ⟨_, rfl⟩
  | some secret =>
      simp only
      split
      · exact Or.inl ⟨_, rfl⟩
      split
      · exact Or.inl ⟨_, rfl⟩
      cases web.agree secret peerRaw with
      | none => exact Or.inr (Or.inl ⟨_, rfl⟩)
      | some shared => exact Or.inr (Or.inr ⟨rfl, _, _, ⟨rfl, rfl, rfl, rfl, rfl, rfl⟩⟩)

end Requests

/-- The key store of whichever session is established. -/
def Sound (web : WebCrypto) (worker : Worker) : Prop :=
  worker.sessionEstablished = true →
    ∃ sendRoot receiveRoot, KeyStore web sendRoot receiveRoot worker

theorem sound_of_closed (web : WebCrypto) (worker : Worker)
    (closed : worker.sessionEstablished = false) : Sound web worker := by
  intro established
  rw [closed] at established
  cases established

theorem handle_sound (web : WebCrypto) (entropy : Entropy) (worker : Worker) (request : Request)
    (sound : Sound web worker) : Sound web (handle web entropy worker request).1 := by
  cases request with
  | configure payload => exact sound_of_closed web _ rfl
  | generateIdentity => exact sound_of_closed web _ rfl
  | reset => exact sound_of_closed web _ rfl
  | unknown type => exact sound
  | establishSession peerPublicKey profileHashValue =>
      simp only [handle]
      cases toBytes peerPublicKey "peer public key" with
      | error reason => exact sound
      | ok peerRaw =>
          rcases establishSession_cases web worker peerRaw (profileHashValue.getD "") with
            ⟨_, refused⟩ | ⟨_, refused⟩ | ⟨_, sendRoot, receiveRoot, fresh⟩
          · simp only [refused]; exact sound
          · -- The old session is gone by the time the key agreement fails.
            simp only [refused]; exact sound_of_closed web _ rfl
          · exact fun _ => ⟨sendRoot, receiveRoot, fresh.store⟩
  | encrypt payload =>
      intro established
      by_cases before : worker.sessionEstablished = true
      · obtain ⟨sendRoot, receiveRoot, store⟩ := sound before
        exact ⟨sendRoot, receiveRoot, encryptBinary_store store entropy payload⟩
      · have closed : worker.sessionEstablished = false := by simpa using before
        simp [handle, encryptBinary, closed] at established
  | decrypt payload =>
      intro established
      by_cases before : worker.sessionEstablished = true
      · obtain ⟨sendRoot, receiveRoot, store⟩ := sound before
        exact ⟨sendRoot, receiveRoot, decryptBinary_store store payload⟩
      · have closed : worker.sessionEstablished = false := by simpa using before
        simp [handle, decryptBinary, closed] at established

/-- Every state the request chain reaches has a sound key store. -/
theorem run_sound (web : WebCrypto) {allowed : Worker → Request × Entropy → Prop}
    {worker : Worker} {history : List Answered}
    (run : Machine.Run (machine web) allowed initial worker history) : Sound web worker := by
  refine run.state_invariant (Sound web) (sound_of_closed web initial rfl) ?_
  intro before event after outputs sound _ stepped
  simp only [machine, Option.some.injEq, Prod.mk.injEq] at stepped
  obtain ⟨rfl, _⟩ := stepped
  exact handle_sound web event.2 before event.1 sound

end OnlyTwo.CryptoWorker
