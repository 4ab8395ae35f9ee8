import OnlyTwo.KeyStore

/-!
What the receive ratchet accepts and what a rejected frame leaves behind. The
skip loop runs before authentication and caches keys of counters above
`highestInboundCounter`. A later frame that is answered from such an entry
consumes it without moving `highestInboundCounter`, so its counter stays open.
Both results below are exact about this: they name the requests for which the
rules of SDD.md 7.8 (no duplicate counter, no state from failed decrypts) hold.
-/

namespace OnlyTwo.CryptoWorker

open Bytes Envelope

/-! A transparent instance of the primitives: the ciphertext spells out key,
nonce, associated data and plaintext, so authentication is prefix comparison. -/
section Sample

def sampleCrypto : WebCrypto where
  publicKey secret := (secret ++ zero32).take 32
  publicKey_length secret := by simp [zero32]
  agree secret peer := some (List.zipWith (· + ·) ((secret ++ zero32).take 32) peer)
  sha256 bytes := (bytes ++ zero32).take 32
  hkdf ikm _ info length :=
    let seed := (ikm ++ info).foldl (fun total byte => total * 31 + byte) 7
    (List.range length).map fun index => seed + UInt8.ofNat index
  hkdf_length ikm salt info length := by simp
  encrypt key nonce aad plaintext := key ++ nonce ++ aad ++ plaintext
  decrypt key nonce aad ciphertext :=
    let header := key ++ nonce ++ aad
    if ciphertext.take header.length = header then some (ciphertext.drop header.length) else none

theorem sampleCrypto_idealised : sampleCrypto.Idealised where
  opens key nonce aad plaintext := by
    simp only [sampleCrypto, List.take_left, List.drop_left, ↓reduceIte]
  only key nonce aad ciphertext plaintext opened := by
    simp only [sampleCrypto] at opened ⊢
    split at opened
    · rename_i header
      have whole := List.take_append_drop (key ++ nonce ++ aad).length ciphertext
      rw [header, Option.some.inj opened] at whole
      exact whole.symm
    · cases opened

def sampleEntropy : Entropy := ⟨[], fun _ => 9, fun _ => 0⟩

def sampleContext : AadContext := ⟨2, .data, 0, 2, 1⟩

def sampleWorker (secret : Bytes) : Worker :=
  configure (generateIdentity sampleCrypto secret initial).1 ⟨some [1024], some 32, some 2⟩

def sampleSession (own peer : Bytes) : Worker :=
  (establishSession sampleCrypto (sampleWorker own) (sampleCrypto.publicKey peer) "profile").1

/-- The first frame that the worker with secret `[1]` sends to the one with `[2]`. -/
def sampleRequest : DecryptRequest :=
  match (encryptBinary sampleCrypto sampleEntropy (sampleSession [1] [2])
      ⟨.view [104, 105], sampleContext⟩).2 with
  | .ok encrypted => decryptRequest encrypted sampleContext
  | .error _ => ⟨.other, .other, .other, sampleContext⟩

/-- Its second frame. -/
def sampleSecond : DecryptRequest :=
  let sender := (encryptBinary sampleCrypto sampleEntropy (sampleSession [1] [2])
    ⟨.view [104, 105], sampleContext⟩).1
  match (encryptBinary sampleCrypto sampleEntropy sender ⟨.view [121, 111], sampleContext⟩).2 with
  | .ok encrypted => decryptRequest encrypted sampleContext
  | .error _ => ⟨.other, .other, .other, sampleContext⟩

def forgedRequest (counter : Nat) : DecryptRequest :=
  decryptRequest ⟨[], List.replicate 12 0, counter⟩ sampleContext

def sampleOpening : List (Request × Entropy) :=
  [(.generateIdentity, { sampleEntropy with secret := [2] }),
    (.configure ⟨some [1024], some 32, some 2⟩, sampleEntropy),
    (.establishSession (.view (sampleCrypto.publicKey [1])) (some "profile"), sampleEntropy)]

theorem sampleSession_reached : ∃ history, Machine.Run (machine sampleCrypto)
    Machine.Unrestricted initial (sampleSession [2] [1]) history :=
  Machine.execute_reaches sampleOpening (Machine.along_unrestricted _ _) (by decide +kernel)

theorem sampleSession_opened :
    establishSession sampleCrypto (sampleWorker [2]) (sampleCrypto.publicKey [1]) "profile" =
      (sampleSession [2] [1], .ok ()) := by
  decide +kernel

end Sample

section Failed

/-- The request is turned down by AES-GCM. No other path of `decryptBinary`
answers with this error, see `decryptBinary_cases`. -/
def AuthenticationFails (web : WebCrypto) (worker : Worker) (payload : DecryptRequest) : Prop :=
  (decryptBinary web worker payload).2 = .error "OperationError"

structure SameRatchet (before after : Worker) : Prop where
  chain : after.receiveChainKey = before.receiveChainKey
  highest : after.highestInboundCounter = before.highestInboundCounter
  skipped : after.skippedKeys = before.skippedKeys

/-- The skip loop for this counter would insert no new entry. -/
def GapCached (worker : Worker) (counter : Nat) : Prop :=
  ∀ between, worker.highestInboundCounter < between → between < counter →
    between ∈ worker.skippedKeys.keys

variable {web : WebCrypto} {sendRoot receiveRoot : Bytes} {worker : Worker}

theorem skipTo_unchanged {limit : Nat} {skippedKeys : InsertionMap Nat Bytes} (count base : Nat)
    (genuine : Genuine web receiveRoot skippedKeys) (bounded : skippedKeys.size ≤ limit)
    (present : ∀ counter, base < counter → counter ≤ base + count →
      counter ∈ skippedKeys.keys) :
    (skipTo web limit count (base + 1) (chainAt web receiveRoot base) skippedKeys).2 =
      skippedKeys := by
  induction count generalizing base with
  | zero => rfl
  | succ count ih =>
      have here := present (base + 1) (Nat.lt_succ_self base) (by omega)
      rw [← InsertionMap.has_iff, InsertionMap.has, Option.isSome_iff_exists] at here
      obtain ⟨key, found⟩ := here
      -- The entry is the genuine key already, so setting it again changes nothing, and no entry
      -- goes.
      have same : cacheSkipped limit skippedKeys (base + 1)
          (messageKeyAt web receiveRoot (base + 1)) = skippedKeys := by
        rw [cacheSkipped, ← (genuine _ _ found).2, InsertionMap.set_same _ _ _ found,
          InsertionMap.evict_of_size_le limit _ bounded]
      rw [skipTo_succ, same]
      exact ih (base + 1) (fun counter lower upper => present counter (by omega) (by omega))

theorem skipTo_recent {limit : Nat} {skippedKeys : InsertionMap Nat Bytes} (count base : Nat)
    (cursor : Bytes) (age counter : Nat) (recent : skippedKeys.Recent age counter)
    (room : age + count ≤ limit) :
    counter ∈ (skipTo web limit count base cursor skippedKeys).2.keys := by
  induction count generalizing base cursor skippedKeys age with
  | zero => exact recent.mem
  | succ count ih =>
      exact ih (base + 1) _ (age + 1) ((recent.set base _).evict (by omega)) (by omega)

/-- A counter that the loop inserts survives the loop's own evictions. -/
theorem skipTo_inserts {limit : Nat} {skippedKeys : InsertionMap Nat Bytes} (count base : Nat)
    (cursor : Bytes) (counter : Nat) (absent : counter ∉ skippedKeys.keys)
    (lower : base ≤ counter) (upper : counter < base + count) (room : count ≤ limit) :
    counter ∈ (skipTo web limit count base cursor skippedKeys).2.keys := by
  induction count generalizing base cursor skippedKeys with
  | zero => omega
  | succ count ih =>
      by_cases here : counter = base
      · subst here
        exact skipTo_recent count (counter + 1) _ 1 counter
          ((InsertionMap.recent_set_new _ counter _ absent).evict (by omega)) (by omega)
      · refine ih (base + 1) _ ?_ (by omega) (by omega) (by omega)
        intro cached
        rw [← InsertionMap.has_iff, InsertionMap.has, Option.isSome_iff_exists] at cached
        obtain ⟨value, found⟩ := cached
        rcases get?_cacheSkipped found with ⟨same, _⟩ | old
        · exact here same
        · exact absent (InsertionMap.mem_keys_of_get? old)

theorem skippedBefore_unchanged_iff (store : KeyStore web sendRoot receiveRoot worker)
    (counter : Nat) (near : InWindow worker counter) :
    skippedBefore web receiveRoot worker counter = worker.skippedKeys ↔
      GapCached worker counter := by
  simp only [InWindow] at near
  constructor
  · intro same between lower upper
    apply Classical.byContradiction
    intro absent
    have inserted : between ∈ (skippedBefore web receiveRoot worker counter).keys :=
      skipTo_inserts _ _ _ between absent (by omega) (by omega) (by omega)
    rw [same] at inserted
    exact absent inserted
  · intro cached
    exact skipTo_unchanged _ _ store.genuine store.bounded
      (fun between lower upper => cached between lower (by omega))

theorem decryptCached_failed {frame : Frame} {cached : Bytes} {reason : String}
    (failed : authenticate web frame cached = .error reason) :
    decryptCached web worker frame cached = (worker, .error reason) := by
  simp [decryptCached, failed]

/-- `parsePlaintext` never answers with the error of a rejected decryption. -/
theorem parsePlaintext_error (config : CryptoConfig) (padded : Bytes) :
    parsePlaintext config padded ≠ .error "OperationError" := by
  unfold parsePlaintext
  split
  · simp
  · simp only
    split <;> simp

theorem failed_state (store : KeyStore web sendRoot receiveRoot worker) {payload : DecryptRequest}
    {frame : Frame} (read : readFrame payload = .ok frame)
    (fails : AuthenticationFails web worker payload) :
    (frame.counter ∈ worker.skippedKeys.keys ∧ (decryptBinary web worker payload).1 = worker) ∨
    (frame.counter ∉ worker.skippedKeys.keys ∧ InWindow worker frame.counter ∧
      (decryptBinary web worker payload).1 =
        { worker with skippedKeys := skippedBefore web receiveRoot worker frame.counter }) := by
  unfold AuthenticationFails at fails
  rcases decryptBinary_cases store payload with
    ⟨reason, other, refused⟩ | ⟨taken, cached, parsed, _, found, answered⟩ |
      ⟨taken, parsed, near, missing, ahead, answered⟩
  · -- Refused before AES-GCM is asked.
    rw [refused] at fails
    exact absurd (Except.error.inj fails) other
  · cases read.symm.trans parsed
    rw [answered] at fails ⊢
    cases tried : authenticate web frame cached with
    | error reason =>
        -- The cached entry stays, since only an authenticated frame deletes it.
        rw [decryptCached_failed tried]
        exact Or.inl ⟨InsertionMap.mem_keys_of_get? found, rfl⟩
    | ok padded =>
        simp only [decryptCached, tried] at fails
        exact absurd fails (parsePlaintext_error _ _)
  · cases read.symm.trans parsed
    rw [answered, decryptAhead_eq web worker receiveRoot frame ahead] at fails ⊢
    cases tried : authenticate web frame (messageKeyAt web receiveRoot frame.counter) with
    | error reason =>
        -- The skip loop has run, but its keys are all that is written before the failure.
        exact Or.inr ⟨(InsertionMap.get?_eq_none_iff _ _).mp missing, near, rfl⟩
    | ok padded =>
        simp only [tried] at fails
        exact absurd fails (parsePlaintext_error _ _)

/-- A request that fails to authenticate leaves the ratchet as it was, and so
every frame that could be decrypted before it still can, exactly when the
request is answered from the cache or the skip loop finds every position
between the chain and the frame already cached. -/
theorem failed_decrypt_unchanged_iff (web : WebCrypto) {worker : Worker}
    {history : List Answered}
    (run : Machine.Run (machine web) Machine.Unrestricted initial worker history)
    (payload : DecryptRequest) (frame : Frame) (read : readFrame payload = .ok frame)
    (fails : AuthenticationFails web worker payload) :
    (SameRatchet worker (decryptBinary web worker payload).1 ∧
      ∀ other data, (decryptBinary web worker other).2 = .ok data →
        (decryptBinary web (decryptBinary web worker payload).1 other).2 = .ok data) ↔
      (frame.counter ∈ worker.skippedKeys.keys ∨ GapCached worker frame.counter) := by
  have established : worker.sessionEstablished = true := by
    apply Classical.byContradiction
    intro closed
    have unopened : worker.sessionEstablished = false := by simpa using closed
    -- A closed session answers with an error of its own, before anything is decrypted.
    simp [AuthenticationFails, decryptBinary, unopened] at fails
  obtain ⟨sendRoot, receiveRoot, store⟩ := run_sound web run established
  rcases failed_state store read fails with ⟨cached, same⟩ | ⟨missing, near, after⟩
  · rw [same]
    exact ⟨fun _ => Or.inl cached, fun _ => ⟨⟨rfl, rfl, rfl⟩, fun _ _ accepted => accepted⟩⟩
  · rw [after]
    have gap := skippedBefore_unchanged_iff store frame.counter near
    constructor
    · rintro ⟨ratchet, _⟩
      exact Or.inr (gap.mp ratchet.skipped)
    · rintro (cached | gapCached)
      · exact absurd cached missing
      · rw [gap.mpr gapCached]
        exact ⟨⟨rfl, rfl, rfl⟩, fun _ _ accepted => accepted⟩

theorem forged_next_counter_unchanged :
    SameRatchet (sampleSession [2] [1])
        (decryptBinary sampleCrypto (sampleSession [2] [1]) (forgedRequest 1)).1 ∧
      ∀ other data, (decryptBinary sampleCrypto (sampleSession [2] [1]) other).2 = .ok data →
        (decryptBinary sampleCrypto
          (decryptBinary sampleCrypto (sampleSession [2] [1]) (forgedRequest 1)).1 other).2 =
            .ok data := by
  obtain ⟨history, run⟩ := sampleSession_reached
  refine (failed_decrypt_unchanged_iff sampleCrypto run (forgedRequest 1)
    ⟨[], List.replicate 12 0, 1, sampleContext⟩ (by decide +kernel)
    (by unfold AuthenticationFails; decide +kernel)).mpr (Or.inr ?_)
  intro between lower upper
  simp only at upper
  omega

/-- A forged frame two positions ahead leaves two new entries in the cache. -/
theorem forged_gap_changes_cache :
    ¬ ∀ (web : WebCrypto) (worker : Worker) (history : List Answered) (payload : DecryptRequest),
      web.Idealised → Machine.Run (machine web) Machine.Unrestricted initial worker history →
      AuthenticationFails web worker payload →
      SameRatchet worker (decryptBinary web worker payload).1 := by
  intro unchanged
  obtain ⟨history, run⟩ := sampleSession_reached
  have same := unchanged sampleCrypto _ history (forgedRequest 3) sampleCrypto_idealised run
    (by unfold AuthenticationFails; decide +kernel)
  have grown : (decryptBinary sampleCrypto (sampleSession [2] [1])
      (forgedRequest 3)).1.skippedKeys.keys = [1, 2] := by decide +kernel
  rw [same.skipped] at grown
  revert grown
  decide +kernel

end Failed

section Replay

/-- The counter of a `DECRYPT` request that was answered with a plaintext. -/
def acceptedCounter (answered : Answered) : Option Nat :=
  match answered.request, answered.reply with
  | .decrypt payload, .ok _ =>
      match readFrame payload with
      | .ok frame => some frame.counter
      | .error _ => none
  | _, _ => none

/-- Requests that stay within the established session. -/
def InSession : Request → Prop
  | .encrypt _ => True
  | .decrypt _ => True
  | _ => False

/-- A frame is answered from the cache only if its counter lies at or below
`highestInboundCounter`. -/
def CachedBelowHighest (worker : Worker) : Request → Prop
  | .decrypt payload => ∀ frame, readFrame payload = .ok frame →
      frame.counter ∈ worker.skippedKeys.keys → frame.counter ≤ worker.highestInboundCounter
  | _ => True

instance decidableInSession : (request : Request) → Decidable (InSession request)
  | .encrypt _ | .decrypt _ => inferInstanceAs (Decidable True)
  | .generateIdentity | .configure _ | .establishSession .. | .reset | .unknown _ =>
      inferInstanceAs (Decidable False)

instance decidableCachedBelowHighest (worker : Worker) :
    (request : Request) → Decidable (CachedBelowHighest worker request)
  | .decrypt payload =>
      match read : readFrame payload with
      | .error _ => isTrue fun frame same => by cases read.symm.trans same
      | .ok frame => decidable_of_iff (frame.counter ∈ worker.skippedKeys.keys →
          frame.counter ≤ worker.highestInboundCounter)
          ⟨fun below other same => by cases read.symm.trans same; exact below,
            fun below => below frame read⟩
  | .encrypt _ | .generateIdentity | .configure _ | .establishSession .. | .reset | .unknown _ =>
      inferInstanceAs (Decidable True)

variable {web : WebCrypto} {sendRoot receiveRoot : Bytes} {worker : Worker}

/-- Accepted counters are behind the chain and no longer cached. -/
structure Consumed (worker : Worker) (accepted : List Nat) : Prop where
  once : accepted.Nodup
  behind : ∀ counter ∈ accepted, counter ≤ worker.highestInboundCounter
  dropped : ∀ counter ∈ accepted, counter ∉ worker.skippedKeys.keys

theorem skippedBefore_avoids (counter other : Nat) (absent : other ∉ worker.skippedKeys.keys)
    (outside : other ≤ worker.highestInboundCounter ∨ counter ≤ other) :
    other ∉ (skippedBefore web receiveRoot worker counter).keys := by
  intro present
  rcases skipTo_keys _ _ _ other present with old | ⟨lower, upper⟩
  · exact absent old
  · omega

theorem Consumed.accept {accepted : List Nat} (consumed : Consumed worker accepted)
    {counter : Nat} (fresh : counter ∉ accepted)
    (behind : counter ≤ worker.highestInboundCounter)
    (dropped : counter ∉ worker.skippedKeys.keys) : Consumed worker (accepted ++ [counter]) where
  once := List.nodup_append.mpr ⟨consumed.once, List.nodup_singleton counter,
    fun a am b bm same => fresh (by rw [← List.mem_singleton.mp bm, ← same]; exact am)⟩
  behind := by
    intro other seen
    rcases List.mem_append.mp seen with old | new
    · exact consumed.behind other old
    · rw [List.mem_singleton.mp new]; exact behind
  dropped := by
    intro other seen
    rcases List.mem_append.mp seen with old | new
    · exact consumed.dropped other old
    · rw [List.mem_singleton.mp new]; exact dropped

/-- An authenticated frame counts as accepted only if its padding parses; the
state it leaves is the same either way. -/
theorem Consumed.answer {accepted : List Nat} (consumed : Consumed worker accepted)
    {payload : DecryptRequest} {frame : Frame} (read : readFrame payload = .ok frame)
    (fresh : frame.counter ∉ accepted) (behind : frame.counter ≤ worker.highestInboundCounter)
    (dropped : frame.counter ∉ worker.skippedKeys.keys) (answer : Except String Bytes) :
    Consumed worker (accepted ++
      (acceptedCounter ⟨.decrypt payload, answer.map .plaintext⟩).toList) := by
  cases answer with
  | error reason => simpa [acceptedCounter, Except.map] using consumed
  | ok data =>
      simp only [acceptedCounter, Except.map, read, Option.toList_some]
      exact consumed.accept fresh behind dropped

/-- One request under the condition accepts no counter or a new one. -/
theorem decryptBinary_consumed (store : KeyStore web sendRoot receiveRoot worker)
    {accepted : List Nat} (consumed : Consumed worker accepted) (payload : DecryptRequest)
    (below : CachedBelowHighest worker (.decrypt payload)) :
    Consumed (decryptBinary web worker payload).1
      (accepted ++ (acceptedCounter ⟨.decrypt payload,
        (decryptBinary web worker payload).2.map .plaintext⟩).toList) := by
  rcases decryptBinary_cases store payload with
    ⟨reason, _, refused⟩ | ⟨frame, cached, read, _, found, taken⟩ |
      ⟨frame, read, _, missing, ahead, taken⟩
  · rw [refused]
    simpa [acceptedCounter, Except.map] using consumed
  · have listed := InsertionMap.mem_keys_of_get? found
    rw [taken]
    unfold decryptCached
    cases authenticate web frame cached with
    | error reason => simpa [acceptedCounter, Except.map] using consumed
    | ok padded =>
        have kept : Consumed
            { worker with skippedKeys := worker.skippedKeys.delete frame.counter } accepted :=
          ⟨consumed.once, consumed.behind, fun counter seen present =>
            consumed.dropped counter seen ((InsertionMap.mem_keys_delete _ _ _).mp present).2⟩
        -- An accepted counter is not cached, and this one was.
        exact kept.answer read (fun seen => consumed.dropped _ seen listed)
          (below frame read listed)
          (fun present => ((InsertionMap.mem_keys_delete _ _ _).mp present).1 rfl) _
  · have absent := (InsertionMap.get?_eq_none_iff _ _).mp missing
    have dropped : ∀ counter ∈ accepted,
        counter ∉ (skippedBefore web receiveRoot worker frame.counter).keys := fun counter seen =>
      skippedBefore_avoids frame.counter counter (consumed.dropped counter seen)
        (Or.inl (consumed.behind counter seen))
    rw [taken, decryptAhead_eq web worker receiveRoot frame ahead]
    cases authenticate web frame (messageKeyAt web receiveRoot frame.counter) with
    | error reason =>
        have kept : Consumed
            { worker with skippedKeys := skippedBefore web receiveRoot worker frame.counter }
            accepted := ⟨consumed.once, consumed.behind, dropped⟩
        simpa [acceptedCounter, Except.map] using kept
    | ok padded =>
        have kept : Consumed
            { worker with
              skippedKeys := skippedBefore web receiveRoot worker frame.counter
              receiveChainKey := some (chainAt web receiveRoot frame.counter)
              highestInboundCounter := frame.counter } accepted :=
          ⟨consumed.once,
            fun counter seen => Nat.le_trans (consumed.behind counter seen) (Nat.le_of_lt ahead),
            dropped⟩
        refine kept.answer read (fun seen => ?_) (Nat.le_refl _)
          (skippedBefore_avoids frame.counter frame.counter absent (Or.inr (Nat.le_refl _))) _
        -- Accepted counters are behind the chain; this frame was ahead of it.
        have bound := consumed.behind _ seen
        omega

theorem handle_consumed (store : KeyStore web sendRoot receiveRoot worker)
    {accepted : List Nat} (consumed : Consumed worker accepted) (entropy : Entropy)
    (request : Request) (within : InSession request) (below : CachedBelowHighest worker request) :
    KeyStore web sendRoot receiveRoot (handle web entropy worker request).1 ∧
      Consumed (handle web entropy worker request).1 (accepted ++
        (acceptedCounter ⟨request, (handle web entropy worker request).2⟩).toList) := by
  cases request with
  | encrypt payload =>
      refine ⟨encryptBinary_store store entropy payload, ?_⟩
      have kept : Consumed (encryptBinary web entropy worker payload).1 accepted := by
        rcases encryptBinary_cases store entropy payload with ⟨_, _, refused⟩ | ⟨_, _, moved⟩
        · rw [refused]; exact consumed
        · rw [moved]; exact ⟨consumed.once, consumed.behind, consumed.dropped⟩
      simpa [acceptedCounter, handle] using kept
  | decrypt payload =>
      exact ⟨decryptBinary_store store payload, decryptBinary_consumed store consumed payload below⟩
  | _ => cases within

theorem run_consumed {fresh worker : Worker} {history : List Answered}
    (started : FreshSession fresh sendRoot receiveRoot)
    (run : Machine.Run (machine web) (fun state event => InSession event.1 ∧
      CachedBelowHighest state event.1) fresh worker history) :
    KeyStore web sendRoot receiveRoot worker ∧
      Consumed worker (history.filterMap acceptedCounter) := by
  refine run.invariant (fun state past => KeyStore web sendRoot receiveRoot state ∧
    Consumed state (past.filterMap acceptedCounter)) ⟨started.store, ?_⟩ ?_
  · exact ⟨List.nodup_nil, by simp, by simp⟩
  · rintro before past event after outputs ⟨store, consumed⟩ ⟨within, below⟩ stepped
    simp only [machine, Option.some.injEq, Prod.mk.injEq] at stepped
    obtain ⟨rfl, rfl⟩ := stepped
    have next := handle_consumed store consumed event.2 event.1 within below
    rw [List.filterMap_append]
    cases counted : acceptedCounter ⟨event.1, (handle web event.2 before event.1).2⟩ <;>
      simpa [counted] using next

theorem run_store {fresh worker : Worker} {history : List Answered}
    (started : FreshSession fresh sendRoot receiveRoot)
    (run : Machine.Run (machine web) (fun _ event => InSession event.1) fresh worker history) :
    KeyStore web sendRoot receiveRoot worker := by
  refine run.state_invariant (KeyStore web sendRoot receiveRoot) started.store ?_
  intro before event after outputs store within stepped
  simp only [machine, Option.some.injEq, Prod.mk.injEq] at stepped
  obtain ⟨rfl, _⟩ := stepped
  cases request : event.1 with
  | encrypt payload => exact encryptBinary_store store event.2 payload
  | decrypt payload => exact decryptBinary_store store payload
  | _ => rw [request] at within; cases within

/-- Consuming a cached key above `highestInboundCounter` leaves the counter
open: the chain derives the same key again and accepts the same frame. -/
theorem consumed_above_reopens (store : KeyStore web sendRoot receiveRoot worker)
    {payload : DecryptRequest} {frame : Frame} {data : Bytes}
    (read : readFrame payload = .ok frame)
    (accepted : (decryptBinary web worker payload).2 = .ok data)
    (cached : frame.counter ∈ worker.skippedKeys.keys)
    (above : worker.highestInboundCounter < frame.counter) :
    (decryptBinary web (decryptBinary web worker payload).1 payload).2 = .ok data := by
  rcases decryptBinary_cases store payload with
    ⟨reason, _, refused⟩ | ⟨_, key, parsed, near, found, taken⟩ | ⟨_, parsed, _, missing, _, _⟩
  · rw [refused] at accepted; cases accepted
  · cases read.symm.trans parsed
    have genuine := (store.genuine _ _ found).2
    have kept := decryptCached_store store frame key
    rw [taken] at accepted ⊢
    cases tried : authenticate web frame key with
    | error reason => simp [decryptCached, tried] at accepted
    | ok padded =>
        let spent := { worker with skippedKeys := worker.skippedKeys.delete frame.counter }
        have consumed : decryptCached web worker frame key =
            (spent, parsePlaintext worker.config padded) := by simp [decryptCached, tried, spent]
        -- The entry is gone and the chain is still behind the frame, so the loop derives its key
        -- again.
        have gone : spent.skippedKeys.get? frame.counter = none := by
          simp only [spent, InsertionMap.get?_delete, ↓reduceIte]
        rw [consumed] at accepted kept ⊢
        change (decryptBinary web spent payload).2 = .ok data
        rw [decryptBinary_ahead kept read near gone above,
          decryptAhead_eq web spent receiveRoot frame above, ← genuine, tried]
        exact accepted
  · cases read.symm.trans parsed
    exact absurd cached ((InsertionMap.get?_eq_none_iff _ _).mp missing)

/-- Over a whole session no counter is decrypted twice as long as no frame is
answered from a cache entry above `highestInboundCounter`; and a frame that is
accepted from such an entry is accepted a second time when it is replayed. -/
theorem replay_safe_unless_cached_above (web : WebCrypto) (idle fresh : Worker) (peerRaw : Bytes)
    (profileHashValue : String)
    (opened : establishSession web idle peerRaw profileHashValue = (fresh, .ok ())) :
    (∀ worker history, Machine.Run (machine web)
        (fun state event => InSession event.1 ∧ CachedBelowHighest state event.1)
        fresh worker history →
      (history.filterMap acceptedCounter).Nodup) ∧
    (∀ worker history payload frame data, Machine.Run (machine web)
        (fun _ event => InSession event.1) fresh worker history →
      readFrame payload = .ok frame →
      (decryptBinary web worker payload).2 = .ok data →
      frame.counter ∈ worker.skippedKeys.keys →
      worker.highestInboundCounter < frame.counter →
      (decryptBinary web (decryptBinary web worker payload).1 payload).2 = .ok data) := by
  obtain ⟨sendRoot, receiveRoot, started⟩ :
      ∃ sendRoot receiveRoot, FreshSession fresh sendRoot receiveRoot := by
    rcases establishSession_cases web idle peerRaw profileHashValue with
      ⟨_, refused⟩ | ⟨_, refused⟩ | ⟨_, sendRoot, receiveRoot, started⟩
    · rw [refused] at opened; cases opened
    · rw [refused] at opened; cases opened
    · rw [opened] at started
      exact ⟨sendRoot, receiveRoot, started⟩
  constructor
  · intro worker history run
    exact (run_consumed started run).2.once
  · intro worker history payload frame data run read accepted cached above
    exact consumed_above_reopens (run_store started run) read accepted cached above

/-- The second frame overtakes the first one, and the copy that follows is refused. -/
theorem replay_safe_sample :
    ∃ worker history, (machine sampleCrypto).execute (sampleSession [2] [1])
        [(.decrypt sampleSecond, sampleEntropy), (.decrypt sampleRequest, sampleEntropy),
          (.decrypt sampleSecond, sampleEntropy)] = some (worker, history) ∧
      history.filterMap acceptedCounter = [2, 1] ∧
      (history.filterMap acceptedCounter).Nodup := by
  have ran : ((machine sampleCrypto).execute (sampleSession [2] [1])
      [(.decrypt sampleSecond, sampleEntropy), (.decrypt sampleRequest, sampleEntropy),
        (.decrypt sampleSecond, sampleEntropy)]).map
      (fun result => result.2.filterMap acceptedCounter) = some [2, 1] := by decide +kernel
  obtain ⟨⟨worker, history⟩, executed, accepted⟩ := Option.map_eq_some_iff.mp ran
  have along : (machine sampleCrypto).Along
      (fun state event => InSession event.1 ∧ CachedBelowHighest state event.1)
      (sampleSession [2] [1])
      [(.decrypt sampleSecond, sampleEntropy), (.decrypt sampleRequest, sampleEntropy),
        (.decrypt sampleSecond, sampleEntropy)] := by decide +kernel
  exact ⟨worker, history, executed, accepted,
    (replay_safe_unless_cached_above sampleCrypto (sampleWorker [2]) (sampleSession [2] [1])
      (sampleCrypto.publicKey [1]) "profile" sampleSession_opened).1 worker history
      (Machine.execute_run _ along executed)⟩

/-- A forged frame with counter three, then the genuine first frame twice: both
copies are decrypted. -/
theorem forged_gap_reopens_counter :
    ¬ ∀ (web : WebCrypto) (idle fresh worker : Worker) (peerRaw : Bytes)
      (profileHashValue : String) (history : List Answered), web.Idealised →
      establishSession web idle peerRaw profileHashValue = (fresh, .ok ()) →
      Machine.Run (machine web) (fun _ event => InSession event.1) fresh worker history →
      (history.filterMap acceptedCounter).Nodup := by
  intro safe
  have ran : ((machine sampleCrypto).execute (sampleSession [2] [1])
      [(.decrypt (forgedRequest 3), sampleEntropy), (.decrypt sampleRequest, sampleEntropy),
        (.decrypt sampleRequest, sampleEntropy)]).map
      (fun result => result.2.filterMap acceptedCounter) = some [1, 1] := by decide +kernel
  obtain ⟨⟨worker, history⟩, executed, accepted⟩ := Option.map_eq_some_iff.mp ran
  have once := safe sampleCrypto _ _ worker _ _ history sampleCrypto_idealised
    sampleSession_opened
    (Machine.execute_run _ (Machine.along_of_forall _ _ (by simp [InSession])) executed)
  rw [accepted] at once
  revert once
  decide

end Replay

end OnlyTwo.CryptoWorker
