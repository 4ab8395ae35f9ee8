import Mathlib.Data.List.Perm.Subperm
import OnlyTwo.Padding
import OnlyTwo.ReplayWindow

/-!
Two workers joined by an unreliable link. One side encrypts, the relay hands
its frames to the other side in any order, any number of times or not at all.
The counters the receiver has skipped and not yet seen are its backlog; while
the backlog fits the skipped-key limit the cache is exactly the backlog, and
every frame in the window decrypts to the bytes that were encrypted.
-/

namespace OnlyTwo.CryptoWorker

open Bytes Envelope

section Agreement

theorem compareBytes_swap (left right : Bytes) :
    compareBytes right left = -compareBytes left right := by
  induction left generalizing right with
  | nil => cases right <;> simp [compareBytes]
  | cons a as ih =>
      cases right with
      | nil => simp [compareBytes]
      | cons b bs =>
          by_cases same : a = b
          · simp [compareBytes, same, ih]
          · simp [compareBytes, same, Ne.symm same]

theorem compareBytes_eq_zero_iff (left right : Bytes) :
    compareBytes left right = 0 ↔ left = right := by
  induction left generalizing right with
  | nil => cases right <;> simp [compareBytes, eq_comm]; omega
  | cons a as ih =>
      cases right with
      | nil => simp [compareBytes]; omega
      | cons b bs =>
          by_cases same : a = b
          · simp [compareBytes, same, ih]
          · have apart : (a.toNat : Int) - b.toNat ≠ 0 := by
              intro zero
              exact same (UInt8.toNat_inj.mp (by omega))
            simp [compareBytes, same, apart]

/-- The two requests `handleHandshake` makes of the worker, in order. -/
def joinSession (web : WebCrypto) (worker : Worker) (profile : CryptoProfile) (peerRaw : Bytes)
    (profileHashValue : String) : Worker × Except String Unit :=
  establishSession web (configure worker profile.payload) peerRaw profileHashValue

theorem configure_config (left right : Worker) (profile : CryptoProfile) :
    (configure left profile.payload).config = (configure right profile.payload).config := rfl

/-- The chains a session derives from a shared secret, lower key's view first. -/
def lowerChain (web : WebCrypto) (shared : Bytes) (profileHashValue : String) (lower : Bool) : Bytes :=
  web.hkdf (web.hkdf shared (web.sha256 (utf8Encode ("onlytwo-v2:" ++ profileHashValue)))
    rootInfo aesKeyBytes) zero32 (if lower then chainSendInfo else chainRecvInfo) aesKeyBytes

theorem joinSession_ok (web : WebCrypto) {worker : Worker} {secret peerRaw shared : Bytes}
    (profile : CryptoProfile) (profileHashValue : String)
    (identity : worker.identity = some secret) (sized : peerRaw.length = x25519PublicBytes)
    (distinct : web.publicKey secret ≠ peerRaw) (agreed : web.agree secret peerRaw = some shared) :
    (joinSession web worker profile peerRaw profileHashValue).2 = .ok () ∧
      (joinSession web worker profile peerRaw profileHashValue).1.config =
        (configure worker profile.payload).config ∧
      FreshSession (joinSession web worker profile peerRaw profileHashValue).1
        (lowerChain web shared profileHashValue
          (decide (compareBytes (web.publicKey secret) peerRaw < 0)))
        (lowerChain web shared profileHashValue
          (!decide (compareBytes (web.publicKey secret) peerRaw < 0))) := by
  have kept : (configure worker profile.payload).identity = some secret := identity
  have apart : ¬ compareBytes (web.publicKey secret) peerRaw = 0 := by
    rw [compareBytes_eq_zero_iff]; exact distinct
  have sizedNot : ¬ peerRaw.length ≠ x25519PublicBytes := not_not_intro sized
  simp only [joinSession, establishSession, kept, sizedNot, apart, ↓reduceIte, agreed]
  refine ⟨trivial, rfl, ⟨rfl, ?_, ?_, rfl, rfl, rfl⟩⟩
  · simp only [lowerChain, decide_eq_true_eq]
  · by_cases lower : compareBytes (web.publicKey secret) peerRaw < 0 <;> simp [lowerChain, lower]

end Agreement

section Link

/-- A frame on the wire together with the bytes its sender encrypted. -/
structure Sent where
  encrypted : Encrypted
  context : AadContext
  data : Bytes
  deriving DecidableEq

abbrev Sent.counter (sent : Sent) : Nat := sent.encrypted.counter

structure Link where
  sender : Worker
  receiver : Worker
  sent : List Sent
  delivered : List Nat

inductive LinkEvent where
  | encrypt (payload : EncryptRequest) (entropy : Entropy)
  | arrive (frame : Sent)

def Link.encrypt (web : WebCrypto) (link : Link) (payload : EncryptRequest) (entropy : Entropy) :
    Link :=
  let result := encryptBinary web entropy link.sender payload
  match result.2, toBytes payload.data "plaintext" with
  | .ok encrypted, .ok data =>
      { link with
        sender := result.1
        sent := link.sent ++ [⟨encrypted, payload.aadContext, data⟩] }
  -- A failed encryption puts nothing on the wire, but may burn its counter.
  | _, _ => { link with sender := result.1 }

def Link.arrive (web : WebCrypto) (link : Link) (frame : Sent) : Link × Except String Bytes :=
  let result := decryptBinary web link.receiver (decryptRequest frame.encrypted frame.context)
  match result.2 with
  | .ok _ => ({ link with
      receiver := result.1
      delivered := link.delivered ++ [frame.counter] }, result.2)
  | .error _ => ({ link with receiver := result.1 }, result.2)

def linkMachine (web : WebCrypto) : Machine Link LinkEvent (Sent × Except String Bytes) where
  step link
    | .encrypt payload entropy => some (link.encrypt web payload entropy, [])
    | .arrive frame =>
        if frame ∈ link.sent then
          let result := link.arrive web frame
          some (result.1, [(frame, result.2)])
        else none

/-- Counters below `highestInboundCounter` that have not been decrypted. -/
def Link.backlog (link : Link) : List Nat :=
  (List.range link.receiver.highestInboundCounter).filter
    fun counter => decide (0 < counter ∧ counter ∉ link.delivered)

def Link.BacklogFits (link : Link) : Prop :=
  link.backlog.length ≤ link.receiver.config.maxSkippedMessageKeys

theorem mem_backlog (link : Link) (counter : Nat) :
    counter ∈ link.backlog ↔ 0 < counter ∧ counter < link.receiver.highestInboundCounter ∧
      counter ∉ link.delivered := by
  simp only [Link.backlog, List.mem_filter, List.mem_range, decide_eq_true_eq]
  tauto

variable {web : WebCrypto} {chain back : Bytes} {link : Link}

/-- The frame was sealed with the message key of its own counter. -/
structure Sealed (web : WebCrypto) (chain : Bytes) (config : CryptoConfig) (frame : Sent) :
    Prop where
  positive : 0 < frame.counter
  nonce : frame.encrypted.nonce.length = nonceBytes
  cipher : ∃ aad plaintext filler,
    encodeAad frame.context frame.counter frame.encrypted.nonce = .ok aad ∧
    buildPlaintext config filler frame.data = .ok plaintext ∧
    frame.encrypted.ciphertext =
      web.encrypt (messageKeyAt web chain frame.counter) frame.encrypted.nonce aad plaintext

theorem sealMessage_sealed (chain : Bytes) {entropy : Entropy} {config : CryptoConfig}
    {counter : Nat} {context : AadContext} {data : Bytes} {encrypted : Encrypted}
    (positive : 0 < counter)
    (made : sealMessage web entropy config counter (messageKeyAt web chain counter) context data =
      .ok encrypted) :
    encrypted.counter = counter ∧ Sealed web chain config ⟨encrypted, context, data⟩ := by
  simp only [sealMessage, bind, Except.bind] at made
  split at made
  · cases made
  rename_i nonce random
  split at made
  · cases made
  rename_i aad encoded
  rw [importAes_messageKeyAt] at made
  simp only at made
  split at made
  · cases made
  rename_i plaintext built
  cases made
  exact ⟨rfl, positive, (randomBytes_ok random).2, aad, plaintext, entropy.filler, encoded, built, rfl⟩

/-- Conversion of the posted request gives back the frame's own fields. -/
theorem readFrame_decryptRequest (encrypted : Encrypted) (context : AadContext)
    (sized : encrypted.nonce.length = nonceBytes) :
    readFrame (decryptRequest encrypted context) =
      .ok ⟨encrypted.ciphertext, encrypted.nonce, encrypted.counter, context⟩ := by
  have digits : toCounter (.text (toString encrypted.counter)) = .ok encrypted.counter := by
    have text : (toString encrypted.counter).toList = Nat.toDigits 10 encrypted.counter := by
      simp
    have each : (Nat.toDigits 10 encrypted.counter).all Char.isDigit = true :=
      List.all_eq_true.mpr fun char member =>
        Nat.isDigit_of_mem_toDigits (by decide) (by decide) member
    simp only [toCounter, text, each, Nat.ofDigitChars_ten_toDigits]
    simp [Nat.toDigits_ne_nil]
  simp only [readFrame, decryptRequest, toBytes, digits, bind, Except.bind, sized, ne_eq,
    not_true_eq_false, ↓reduceIte]
  rfl

theorem authenticate_sealed {config : CryptoConfig} {frame : Sent}
    (opens : ∀ key nonce aad plaintext,
      web.decrypt key nonce aad (web.encrypt key nonce aad plaintext) = some plaintext)
    (made : Sealed web chain config frame) :
    ∃ plaintext, authenticate web
        ⟨frame.encrypted.ciphertext, frame.encrypted.nonce, frame.encrypted.counter, frame.context⟩
        (messageKeyAt web chain frame.encrypted.counter) = .ok plaintext ∧
      ∀ receiver : CryptoConfig, config.paddingBuckets = receiver.paddingBuckets →
        parsePlaintext receiver plaintext = .ok frame.data := by
  obtain ⟨aad, plaintext, filler, encoded, built, cipher⟩ := made.cipher
  refine ⟨plaintext, ?_, fun receiver same => parsePlaintext_buildPlaintext built same⟩
  have header : encodeAad frame.context frame.encrypted.counter frame.encrypted.nonce = .ok aad :=
    encoded
  simp only [authenticate, header, importAes_messageKeyAt, bind, Except.bind, cipher, opens]
  rfl

/-- Without eviction the loop keeps every old entry and adds its whole range. -/
theorem skipTo_keeps {limit : Nat} {skippedKeys : InsertionMap Nat Bytes} (count base : Nat)
    (cursor : Bytes) (room : skippedKeys.size + count ≤ limit) (counter : Nat)
    (wanted : counter ∈ skippedKeys.keys ∨ base ≤ counter ∧ counter < base + count) :
    counter ∈ (skipTo web limit count base cursor skippedKeys).2.keys := by
  induction count generalizing base cursor skippedKeys with
  | zero => exact wanted.elim id (fun range => by omega)
  | succ count ih =>
      have grown : (skippedKeys.set base (deriveStep web cursor).message).size ≤
          skippedKeys.size + 1 := by
        rw [InsertionMap.size_set]
        split <;> omega
      have cached : cacheSkipped limit skippedKeys base (deriveStep web cursor).message =
          skippedKeys.set base (deriveStep web cursor).message :=
        InsertionMap.evict_of_size_le limit _ (by omega)
      simp only [skipTo, cached]
      refine ih (base + 1) _ (by omega) ?_
      rw [InsertionMap.mem_keys_set]
      rcases wanted with old | range
      · exact Or.inl (Or.inr old)
      · by_cases here : counter = base
        · exact Or.inl (Or.inl here)
        · exact Or.inr ⟨by omega, by omega⟩

/-- The simulation between the sender's chain position, the wire and the
receiver's chain with its skipped-key cache. -/
structure Simulated (web : WebCrypto) (chain back : Bytes) (link : Link) : Prop where
  sender : ∃ inbound, KeyStore web chain inbound link.sender
  receiver : KeyStore web back chain link.receiver
  buckets : link.sender.config.paddingBuckets = link.receiver.config.paddingBuckets
  seals : ∀ frame ∈ link.sent, Sealed web chain link.sender.config frame
  behind : ∀ counter ∈ link.delivered, counter ≤ link.receiver.highestInboundCounter
  top : 0 < link.receiver.highestInboundCounter →
    link.receiver.highestInboundCounter ∈ link.delivered
  cache : link.BacklogFits → ∀ counter,
    counter ∈ link.receiver.skippedKeys.keys ↔ counter ∈ link.backlog

theorem encrypt_simulated (simulated : Simulated web chain back link) (payload : EncryptRequest)
    (entropy : Entropy) : Simulated web chain back (link.encrypt web payload entropy) := by
  obtain ⟨inbound, store⟩ := simulated.sender
  have kept := encryptBinary_store store entropy payload
  rcases encryptBinary_cases store entropy payload with
    ⟨reason, unread, refused⟩ | ⟨data, converted, moved⟩
  · simp only [Link.encrypt, refused, unread]
    exact ⟨simulated.sender, simulated.receiver, simulated.buckets, simulated.seals,
      simulated.behind, simulated.top, simulated.cache⟩
  · rw [moved] at kept
    simp only [Link.encrypt, moved, converted]
    cases made : sealMessage web entropy link.sender.config (link.sender.outboundCounter + 1)
        (messageKeyAt web chain (link.sender.outboundCounter + 1)) payload.aadContext data with
    | error reason =>
        exact ⟨⟨inbound, kept⟩, simulated.receiver, simulated.buckets, simulated.seals,
          simulated.behind, simulated.top, simulated.cache⟩
    | ok encrypted =>
        refine ⟨⟨inbound, kept⟩, simulated.receiver, simulated.buckets, ?_,
          simulated.behind, simulated.top, simulated.cache⟩
        intro frame member
        rcases List.mem_append.mp member with old | new
        · exact simulated.seals frame old
        · rw [List.mem_singleton.mp new]
          exact (sealMessage_sealed chain (Nat.succ_pos _) made).2

/-- What the receiver does with a genuine frame while its backlog fits. -/
theorem arrive_cases (simulated : Simulated web chain back link) (fits : link.BacklogFits)
    (opens : ∀ key nonce aad plaintext,
      web.decrypt key nonce aad (web.encrypt key nonce aad plaintext) = some plaintext)
    {frame : Sent} (genuine : frame ∈ link.sent) :
    ((frame.counter ∈ link.delivered ∨ ¬ InWindow link.receiver frame.counter) ∧
      ∃ reason, decryptBinary web link.receiver (decryptRequest frame.encrypted frame.context) =
        (link.receiver, .error reason)) ∨
    (frame.counter ∈ link.receiver.skippedKeys.keys ∧ frame.counter ∉ link.delivered ∧
      decryptBinary web link.receiver (decryptRequest frame.encrypted frame.context) =
        ({ link.receiver with
            skippedKeys := link.receiver.skippedKeys.delete frame.counter }, .ok frame.data)) ∨
    (link.receiver.highestInboundCounter < frame.counter ∧ InWindow link.receiver frame.counter ∧
      decryptBinary web link.receiver (decryptRequest frame.encrypted frame.context) =
        ({ link.receiver with
            skippedKeys := skippedBefore web chain link.receiver frame.counter
            receiveChainKey := some (chainAt web chain frame.counter)
            highestInboundCounter := frame.counter }, .ok frame.data)) := by
  have made := simulated.seals frame genuine
  have read := readFrame_decryptRequest frame.encrypted frame.context made.nonce
  obtain ⟨plaintext, opened, parsed⟩ := authenticate_sealed opens made
  have data := parsed link.receiver.config simulated.buckets
  rcases decryptBinary_cases simulated.receiver
      (decryptRequest frame.encrypted frame.context) with
    ⟨reason, _, refused⟩ | ⟨_, key, converted, near, found, taken⟩ |
      ⟨_, converted, near, missing, ahead, taken⟩
  · refine Or.inl ⟨?_, reason, refused⟩
    apply Classical.byContradiction
    intro neither
    simp only [not_or, not_not] at neither
    obtain ⟨undelivered, near⟩ := neither
    by_cases ahead : link.receiver.highestInboundCounter < frame.counter
    · -- A frame ahead of the chain is not in the backlog, hence not cached.
      have missing : link.receiver.skippedKeys.get? frame.counter = none := by
        rw [InsertionMap.get?_eq_none_iff, simulated.cache fits, mem_backlog]
        omega
      rw [decryptBinary_ahead simulated.receiver read near missing ahead,
        decryptAhead_eq web link.receiver chain _ ahead] at refused
      simp only [opened, data, Prod.mk.injEq, reduceCtorEq, and_false] at refused
    · -- A frame at or below the chain is in the backlog, hence cached.
      have below : frame.counter ≠ link.receiver.highestInboundCounter := by
        intro same
        have positive := made.positive
        exact undelivered (same ▸ simulated.top (by omega))
      have listed : frame.counter ∈ link.receiver.skippedKeys.keys := by
        rw [simulated.cache fits, mem_backlog]
        exact ⟨made.positive, by omega, undelivered⟩
      rw [← InsertionMap.has_iff, InsertionMap.has, Option.isSome_iff_exists] at listed
      obtain ⟨key, found⟩ := listed
      have same := (simulated.receiver.genuine _ _ found).2
      rw [decryptBinary_cached simulated.receiver read near found] at refused
      subst same
      simp only [decryptCached, opened, data, Prod.mk.injEq, reduceCtorEq, and_false] at refused
  · cases read.symm.trans converted
    have same := (simulated.receiver.genuine _ _ found).2
    have listed := InsertionMap.mem_keys_of_get? found
    refine Or.inr (Or.inl ⟨listed, ?_, ?_⟩)
    · rw [simulated.cache fits, mem_backlog] at listed
      exact listed.2.2
    · subst same
      rw [taken]
      simp only [decryptCached, opened, data]
  · cases read.symm.trans converted
    refine Or.inr (Or.inr ⟨ahead, near, ?_⟩)
    rw [taken, decryptAhead_eq web link.receiver chain _ ahead]
    simp only [opened, data]

/-- While the new backlog fits, the loop evicts nothing: the cache and the gap
together are no longer than the backlog they turn into. -/
theorem ahead_cache (simulated : Simulated web chain back link) (fits : link.BacklogFits)
    {counter : Nat} (ahead : link.receiver.highestInboundCounter < counter)
    (room : ({ link with
      receiver := { link.receiver with highestInboundCounter := counter }
      delivered := link.delivered ++ [counter] } : Link).BacklogFits) (other : Nat) :
    other ∈ (skippedBefore web chain link.receiver counter).keys ↔
      0 < other ∧ other < counter ∧ other ∉ link.delivered := by
  have cached : ∀ key, key ∈ link.receiver.skippedKeys.keys ↔
      0 < key ∧ key < link.receiver.highestInboundCounter ∧ key ∉ link.delivered := by
    intro key
    rw [simulated.cache fits, mem_backlog]
  have beyond : ∀ key, link.receiver.highestInboundCounter < key → key ∉ link.delivered :=
    fun key above seen => absurd (simulated.behind key seen) (Nat.not_le.mpr above)
  let gap := List.range' (link.receiver.highestInboundCounter + 1)
    (counter - link.receiver.highestInboundCounter - 1)
  -- What is cached lies below the chain and what the loop adds above it.
  have distinct : (link.receiver.skippedKeys.keys ++ gap).Nodup := by
    refine List.nodup_append.mpr ⟨InsertionMap.keys_nodup _, List.nodup_range', ?_⟩
    intro a am b bm same
    have low := (cached a).mp am
    have high := List.mem_range'_1.mp bm
    omega
  have covered : ∀ key ∈ link.receiver.skippedKeys.keys ++ gap,
      0 < key ∧ key < counter ∧ key ∉ link.delivered := by
    intro key member
    rcases List.mem_append.mp member with old | new
    · obtain ⟨positive, below, undelivered⟩ := (cached key).mp old
      exact ⟨positive, by omega, undelivered⟩
    · have range := List.mem_range'_1.mp new
      exact ⟨by omega, by omega, beyond key (by omega)⟩
  have bound : link.receiver.skippedKeys.size +
      (counter - link.receiver.highestInboundCounter - 1) ≤
        link.receiver.config.maxSkippedMessageKeys := by
    have inside : link.receiver.skippedKeys.keys ++ gap ⊆ ({ link with
        receiver := { link.receiver with highestInboundCounter := counter }
        delivered := link.delivered ++ [counter] } : Link).backlog := by
      intro key member
      obtain ⟨positive, below, undelivered⟩ := covered key member
      rw [mem_backlog]
      refine ⟨positive, below, ?_⟩
      simp only [List.mem_append, List.mem_singleton, not_or]
      exact ⟨undelivered, by omega⟩
    have shorter := (List.Nodup.subperm distinct inside).length_le
    rw [List.length_append, InsertionMap.length_keys, List.length_range'] at shorter
    exact Nat.le_trans shorter room
  constructor
  · intro present
    rcases skipTo_keys _ _ _ other present with old | range
    · obtain ⟨positive, below, undelivered⟩ := (cached other).mp old
      exact ⟨positive, by omega, undelivered⟩
    · exact ⟨by omega, by omega, beyond other (by omega)⟩
  · rintro ⟨positive, below, undelivered⟩
    refine skipTo_keeps _ _ _ bound other ?_
    by_cases old : other ∈ link.receiver.skippedKeys.keys
    · exact Or.inl old
    · refine Or.inr ?_
      -- The counter on top was decrypted, so a missing one is in the gap.
      have notTop : other ≠ link.receiver.highestInboundCounter := by
        intro same
        exact undelivered (same ▸ simulated.top (by omega))
      have notLow : ¬ other < link.receiver.highestInboundCounter := fun low =>
        old ((cached other).mpr ⟨positive, low, undelivered⟩)
      omega

theorem arrive_simulated (simulated : Simulated web chain back link) (fits : link.BacklogFits)
    (opens : ∀ key nonce aad plaintext,
      web.decrypt key nonce aad (web.encrypt key nonce aad plaintext) = some plaintext)
    {frame : Sent} (genuine : frame ∈ link.sent) :
    Simulated web chain back (link.arrive web frame).1 := by
  have kept := decryptBinary_store simulated.receiver
    (decryptRequest frame.encrypted frame.context)
  rcases arrive_cases simulated fits opens genuine with
    ⟨_, reason, refused⟩ | ⟨listed, undelivered, answered⟩ | ⟨ahead, near, answered⟩
  · simp only [Link.arrive, refused]
    exact ⟨simulated.sender, simulated.receiver, simulated.buckets, simulated.seals,
      simulated.behind, simulated.top, simulated.cache⟩
  · rw [answered] at kept
    simp only [Link.arrive, answered]
    rw [simulated.cache fits, mem_backlog] at listed
    refine ⟨simulated.sender, kept, simulated.buckets, simulated.seals, ?_, ?_, ?_⟩
    · intro counter seen
      rcases List.mem_append.mp seen with old | new
      · exact simulated.behind counter old
      · rw [List.mem_singleton.mp new]
        exact Nat.le_of_lt listed.2.1
    · exact fun positive => List.mem_append_left _ (simulated.top positive)
    · intro _ counter
      rw [InsertionMap.mem_keys_delete, simulated.cache fits, mem_backlog, mem_backlog]
      simp only [List.mem_append, List.mem_singleton, not_or]
      tauto
  · rw [answered] at kept
    simp only [Link.arrive, answered]
    refine ⟨simulated.sender, kept, simulated.buckets, simulated.seals, ?_, ?_, ?_⟩
    · intro counter seen
      rcases List.mem_append.mp seen with old | new
      · exact Nat.le_trans (simulated.behind counter old) (Nat.le_of_lt ahead)
      · exact Nat.le_of_eq (List.mem_singleton.mp new)
    · exact fun _ => List.mem_append_right _ (List.mem_singleton.mpr rfl)
    · intro room counter
      rw [ahead_cache simulated fits ahead room, mem_backlog]
      simp only [List.mem_append, List.mem_singleton, not_or]
      constructor
      · rintro ⟨positive, below, undelivered⟩
        exact ⟨positive, below, undelivered, by omega⟩
      · rintro ⟨positive, below, undelivered, _⟩
        exact ⟨positive, below, undelivered⟩

/-- The sender counts upwards, and what counts as delivered is what the receiver has
decrypted. -/
structure Numbered (link : Link) (past : List (Sent × Except String Bytes)) : Prop where
  bounded : ∀ frame ∈ link.sent, frame.counter ≤ link.sender.outboundCounter
  increasing : (link.sent.map Sent.counter).Pairwise (· < ·)
  opened : ∀ counter ∈ link.delivered, ∃ frame ∈ link.sent,
    frame.counter = counter ∧ (frame, .ok frame.data) ∈ past

theorem encrypt_numbered {past : List (Sent × Except String Bytes)}
    (simulated : Simulated web chain back link) (numbered : Numbered link past)
    (payload : EncryptRequest) (entropy : Entropy) :
    Numbered (link.encrypt web payload entropy) past := by
  obtain ⟨inbound, store⟩ := simulated.sender
  rcases encryptBinary_cases store entropy payload with
    ⟨reason, unread, refused⟩ | ⟨data, converted, moved⟩
  · simp only [Link.encrypt, refused, unread]
    exact ⟨numbered.bounded, numbered.increasing, numbered.opened⟩
  · have below : ∀ frame ∈ link.sent, frame.counter ≤ link.sender.outboundCounter + 1 :=
      fun frame member => Nat.le_succ_of_le (numbered.bounded frame member)
    simp only [Link.encrypt, moved, converted]
    cases made : sealMessage web entropy link.sender.config (link.sender.outboundCounter + 1)
        (messageKeyAt web chain (link.sender.outboundCounter + 1)) payload.aadContext data with
    | error reason => exact ⟨below, numbered.increasing, numbered.opened⟩
    | ok encrypted =>
        have number : encrypted.counter = link.sender.outboundCounter + 1 :=
          (sealMessage_sealed chain (Nat.succ_pos _) made).1
        refine ⟨?_, ?_, ?_⟩
        · intro frame member
          rcases List.mem_append.mp member with old | new
          · exact below frame old
          · rw [List.mem_singleton.mp new]
            exact Nat.le_of_eq number
        · rw [List.map_append, List.pairwise_append]
          refine ⟨numbered.increasing, List.pairwise_singleton _ _, ?_⟩
          intro earlier listed latest added
          obtain ⟨frame, member, rfl⟩ := List.mem_map.mp listed
          rw [List.mem_singleton.mp added]
          change frame.counter < encrypted.counter
          rw [number]
          exact Nat.lt_succ_of_le (numbered.bounded frame member)
        · intro counter seen
          obtain ⟨frame, member, taken⟩ := numbered.opened counter seen
          exact ⟨frame, List.mem_append_left _ member, taken⟩

theorem arrive_numbered {past : List (Sent × Except String Bytes)}
    (simulated : Simulated web chain back link) (fits : link.BacklogFits)
    (opens : ∀ key nonce aad plaintext,
      web.decrypt key nonce aad (web.encrypt key nonce aad plaintext) = some plaintext)
    (numbered : Numbered link past) {frame : Sent} (genuine : frame ∈ link.sent) :
    Numbered (link.arrive web frame).1 (past ++ [(frame, (link.arrive web frame).2)]) := by
  have earlier : ∀ outcome, ∀ counter ∈ link.delivered, ∃ other ∈ link.sent,
      other.counter = counter ∧ (other, .ok other.data) ∈ past ++ [(frame, outcome)] := by
    intro outcome counter seen
    obtain ⟨other, member, number, taken⟩ := numbered.opened counter seen
    exact ⟨other, member, number, List.mem_append_left _ taken⟩
  have later : ∀ counter ∈ link.delivered ++ [frame.counter], ∃ other ∈ link.sent,
      other.counter = counter ∧ (other, .ok other.data) ∈ past ++ [(frame, .ok frame.data)] := by
    intro counter seen
    rcases List.mem_append.mp seen with old | new
    · exact earlier _ counter old
    · exact ⟨frame, genuine, (List.mem_singleton.mp new).symm,
        List.mem_append_right _ (List.mem_singleton_self _)⟩
  rcases arrive_cases simulated fits opens genuine with
    ⟨_, reason, refused⟩ | ⟨_, _, answered⟩ | ⟨_, _, answered⟩
  · simp only [Link.arrive, refused]
    exact ⟨numbered.bounded, numbered.increasing, earlier _⟩
  · simp only [Link.arrive, answered]
    exact ⟨numbered.bounded, numbered.increasing, later⟩
  · simp only [Link.arrive, answered]
    exact ⟨numbered.bounded, numbered.increasing, later⟩

theorem run_simulated {start : Link} {history : List (Sent × Except String Bytes)}
    (opens : ∀ key nonce aad plaintext,
      web.decrypt key nonce aad (web.encrypt key nonce aad plaintext) = some plaintext)
    (begun : Simulated web chain back start) (unused : Numbered start [])
    (run : Machine.Run (linkMachine web) (fun state _ => state.BacklogFits) start link history) :
    Simulated web chain back link ∧ Numbered link history := by
  refine run.invariant (fun state past => Simulated web chain back state ∧ Numbered state past)
    ⟨begun, unused⟩ ?_
  rintro before past event after outputs ⟨simulated, numbered⟩ fits stepped
  cases event with
  | encrypt payload entropy =>
      simp only [linkMachine, Option.some.injEq, Prod.mk.injEq] at stepped
      obtain ⟨rfl, rfl⟩ := stepped
      rw [List.append_nil]
      exact ⟨encrypt_simulated simulated payload entropy,
        encrypt_numbered simulated numbered payload entropy⟩
  | arrive frame =>
      simp only [linkMachine] at stepped
      split at stepped
      · rename_i genuine
        simp only [Option.some.injEq, Prod.mk.injEq] at stepped
        obtain ⟨rfl, rfl⟩ := stepped
        exact ⟨arrive_simulated simulated fits opens genuine,
          arrive_numbered simulated fits opens numbered genuine⟩
      · cases stepped

/-- Of the frames on the wire, a counter names one. -/
theorem Numbered.unique {past : List (Sent × Except String Bytes)} (numbered : Numbered link past)
    {frame other : Sent} (sent : frame ∈ link.sent) (also : other ∈ link.sent)
    (same : other.counter = frame.counter) : other = frame :=
  List.inj_on_of_nodup_map (numbered.increasing.imp Nat.ne_of_lt) also sent same

theorem fresh_simulated {sender receiver : Worker} {inbound : Bytes}
    (sending : FreshSession sender chain inbound) (receiving : FreshSession receiver back chain)
    (buckets : sender.config.paddingBuckets = receiver.config.paddingBuckets) :
    Simulated web chain back ⟨sender, receiver, [], []⟩ where
  sender := ⟨inbound, sending.store⟩
  receiver := receiving.store
  buckets := buckets
  seals := by simp
  behind := by simp
  top := by
    intro positive
    simp only [receiving.inbound] at positive
    omega
  cache := by
    intro _ counter
    rw [mem_backlog]
    simp [receiving.skipped, receiving.inbound]

/-- Two workers that joined with each other's keys and one profile hold crossed
chains. Whatever the order of encryptions and arrivals, no two frames share a
counter, and a frame that has not been decrypted yet, so in particular any frame
on its first arrival, decrypts to exactly the bytes that were encrypted if its
counter is in the window and the backlog never outgrew the skipped-key limit. -/
theorem two_party_delivery (web : WebCrypto) (alice bob : Worker) (secretA secretB shared : Bytes)
    (profile : CryptoProfile) (profileHashValue : String)
    (identityA : alice.identity = some secretA) (identityB : bob.identity = some secretB)
    (distinct : web.publicKey secretA ≠ web.publicKey secretB)
    (agreedA : web.agree secretA (web.publicKey secretB) = some shared)
    (agreedB : web.agree secretB (web.publicKey secretA) = some shared)
    (opens : ∀ key nonce aad plaintext,
      web.decrypt key nonce aad (web.encrypt key nonce aad plaintext) = some plaintext) :
    ∃ a b : Worker,
      joinSession web alice profile (web.publicKey secretB) profileHashValue = (a, .ok ()) ∧
      joinSession web bob profile (web.publicKey secretA) profileHashValue = (b, .ok ()) ∧
      a.sendChainKey.isSome = true ∧ a.sendChainKey = b.receiveChainKey ∧
      b.sendChainKey.isSome = true ∧ b.sendChainKey = a.receiveChainKey ∧
      ∀ link history, Machine.Run (linkMachine web) (fun state _ => state.BacklogFits)
          ⟨a, b, [], []⟩ link history →
        (link.sent.map Sent.counter).Pairwise (· < ·) ∧
        (link.BacklogFits → ∀ frame ∈ link.sent, (frame, .ok frame.data) ∉ history →
          frame.counter ≤ link.receiver.highestInboundCounter +
            link.receiver.config.maxSkippedMessageKeys + 1 →
          (decryptBinary web link.receiver
            (decryptRequest frame.encrypted frame.context)).2 = .ok frame.data) := by
  have joinedA := joinSession_ok web profile profileHashValue identityA
    (web.publicKey_length secretB) distinct agreedA
  have joinedB := joinSession_ok web profile profileHashValue identityB
    (web.publicKey_length secretA) (Ne.symm distinct) agreedB
  -- The comparisons on the two sides have opposite signs, so the roles cross.
  have opposite : decide (compareBytes (web.publicKey secretB) (web.publicKey secretA) < 0) =
      !decide (compareBytes (web.publicKey secretA) (web.publicKey secretB) < 0) := by
    have swapped := compareBytes_swap (web.publicKey secretA) (web.publicKey secretB)
    have apart : compareBytes (web.publicKey secretA) (web.publicKey secretB) ≠ 0 := by
      rw [Ne, compareBytes_eq_zero_iff]; exact distinct
    rw [swapped]
    by_cases lower : compareBytes (web.publicKey secretA) (web.publicKey secretB) < 0
    · simp [lower, Int.le_of_lt lower]
    · have upper : 0 < compareBytes (web.publicKey secretA) (web.publicKey secretB) := by omega
      simp [lower, upper]
  obtain ⟨okA, configA, freshA⟩ := joinedA
  obtain ⟨okB, configB, freshB⟩ := joinedB
  rw [opposite, Bool.not_not] at freshB
  refine ⟨_, _, Prod.ext rfl okA, Prod.ext rfl okB, ?_, ?_, ?_, ?_, ?_⟩
  · simp [freshA.send]
  · rw [freshA.send, freshB.receive]
  · simp [freshB.send]
  · rw [freshB.send, freshA.receive]
  · intro link history run
    have buckets := congrArg CryptoConfig.paddingBuckets
      (configA.trans ((configure_config alice bob profile).trans configB.symm))
    obtain ⟨simulated, numbered⟩ := run_simulated opens (fresh_simulated freshA freshB buckets)
      ⟨by simp, by simp, by simp⟩ run
    refine ⟨numbered.increasing, fun fits frame genuine unopened near => ?_⟩
    have undelivered : frame.counter ∉ link.delivered := by
      intro seen
      obtain ⟨other, sent, number, taken⟩ := numbered.opened _ seen
      exact unopened (numbered.unique genuine sent number ▸ taken)
    rcases arrive_cases simulated fits opens genuine with
      ⟨seen | far, _⟩ | ⟨_, _, answered⟩ | ⟨_, _, answered⟩
    · exact absurd seen undelivered
    · exact absurd near far
    · rw [answered]
    · rw [answered]

def sampleLink : Link := ⟨sampleSession [1] [2], sampleSession [2] [1], [], []⟩

def sampleLetter (sequence : Nat) (data : Bytes) : EncryptRequest :=
  ⟨.view data, { sampleContext with sequence := sequence }⟩

/-- Two messages have been encrypted, and their frames are under way. -/
def sampleWire : Link :=
  (sampleLink.encrypt sampleCrypto (sampleLetter 1 [104, 105]) sampleEntropy).encrypt sampleCrypto
    (sampleLetter 2 [121, 111]) sampleEntropy

/-- The second frame overtakes the first one, which then decrypts all the same. -/
theorem two_party_delivery_sample :
    ∃ first second, sampleWire.sent = [first, second] ∧
      (sampleWire.arrive sampleCrypto second).2 = .ok [121, 111] ∧
      (decryptBinary sampleCrypto (sampleWire.arrive sampleCrypto second).1.receiver
        (decryptRequest first.encrypted first.context)).2 = .ok [104, 105] := by
  have wire : sampleWire.sent.map (fun sent => (sent.counter, sent.data)) =
      [(1, [104, 105]), (2, [121, 111])] := by decide +kernel
  obtain ⟨first, rest, sent, number, wire⟩ := List.map_eq_cons_iff.mp wire
  obtain ⟨second, rest, rfl, later, wire⟩ := List.map_eq_cons_iff.mp wire
  cases List.map_eq_nil_iff.mp wire
  have whole : ∀ frame ∈ sampleWire.sent, frame.counter = 2 →
      (sampleWire.arrive sampleCrypto frame).2 = .ok [121, 111] ∧
      (sampleWire.arrive sampleCrypto frame).1.BacklogFits ∧
      (sampleWire.arrive sampleCrypto frame).1.sent = sampleWire.sent := by
    unfold Link.BacklogFits
    decide +kernel
  have member : second ∈ sampleWire.sent := sent ▸ List.mem_cons_of_mem _ List.mem_cons_self
  obtain ⟨overtook, fits, kept⟩ := whole second member (congrArg Prod.fst later)
  have joinedA : joinSession sampleCrypto (sampleWorker [1]) ⟨[1024], 32, 2⟩
      (sampleCrypto.publicKey [2]) "profile" = (sampleSession [1] [2], .ok ()) := by
    decide +kernel
  have joinedB : joinSession sampleCrypto (sampleWorker [2]) ⟨[1024], 32, 2⟩
      (sampleCrypto.publicKey [1]) "profile" = (sampleSession [2] [1], .ok ()) := by
    decide +kernel
  obtain ⟨a, b, sameA, sameB, _, _, _, _, delivers⟩ := two_party_delivery sampleCrypto
    (sampleWorker [1]) (sampleWorker [2]) [1] [2] (3 :: List.replicate 31 0) ⟨[1024], 32, 2⟩
    "profile" rfl rfl (by decide +kernel) (by decide +kernel) (by decide +kernel)
    sampleCrypto_idealised.opens
  cases joinedA.symm.trans sameA
  cases joinedB.symm.trans sameB
  have posted : (linkMachine sampleCrypto).step sampleLink
      (.encrypt (sampleLetter 1 [104, 105]) sampleEntropy) =
        some (sampleLink.encrypt sampleCrypto (sampleLetter 1 [104, 105]) sampleEntropy, []) := rfl
  have both : (linkMachine sampleCrypto).step
      (sampleLink.encrypt sampleCrypto (sampleLetter 1 [104, 105]) sampleEntropy)
      (.encrypt (sampleLetter 2 [121, 111]) sampleEntropy) = some (sampleWire, []) := rfl
  have handed : (linkMachine sampleCrypto).step sampleWire (.arrive second) =
      some ((sampleWire.arrive sampleCrypto second).1,
        [(second, (sampleWire.arrive sampleCrypto second).2)]) := by
    simp [linkMachine, member]
  have ready : sampleLink.BacklogFits ∧
      (sampleLink.encrypt sampleCrypto (sampleLetter 1 [104, 105]) sampleEntropy).BacklogFits ∧
      sampleWire.BacklogFits := by
    unfold Link.BacklogFits
    decide +kernel
  have arrived : Machine.Run (linkMachine sampleCrypto) (fun state _ => state.BacklogFits)
      sampleLink (sampleWire.arrive sampleCrypto second).1 _ :=
    .next (.next (.next .refl ready.1 posted) ready.2.1 both) ready.2.2 handed
  obtain ⟨counter, data⟩ := Prod.mk.inj number
  have apart : first ≠ second := by
    rintro rfl
    cases number.symm.trans later
  have opened := (delivers _ _ arrived).2 fits first (by rw [kept, sent]; exact List.mem_cons_self)
    (by simp [apart]) (by rw [counter]; omega)
  exact ⟨first, second, sent, overtook, opened.trans (by rw [data])⟩

end Link

end OnlyTwo.CryptoWorker
