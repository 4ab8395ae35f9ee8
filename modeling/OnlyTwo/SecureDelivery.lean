import OnlyTwo.SecureLink

/-!
What an honest relay brings about: it hands each side frames of the other side, in any
order, any number of times or not at all. While the skipped keys suffice, a frame whose
counter is in the window is taken at its first arrival, as the message it was made of, and
never again. Each direction is the link of `OnlyTwo.CryptoWorker`; what a side sends does
not disturb what it receives.
-/

namespace OnlyTwo.Conversation

open Bytes CryptoWorker
open AppMessages (LaneName TransportProfileId)
open AppCodec (AppMessage Clock encodeAppMessage decodeAppMessage)
open Client (SecureChannel streamForLane)
open Transport (Envelope transportLimits packEnvelope unpackEnvelope)
open Outbound (validateInboundStream)

variable {web : WebCrypto} {chains : Side → Bytes} {id : TransportProfileId} {link : SecureLink}

section Directions

def Sealing.sent (sealing : Sealing) : Sent :=
  ⟨⟨sealing.envelope.payload, sealing.envelope.nonce, sealing.envelope.counter⟩,
    sealing.envelope.toAadContext, encodeAppMessage sealing.message⟩

/-- The direction in which a side receives. -/
def SecureLink.toward (link : SecureLink) (side : Side) : Link where
  sender := (link.ends side.other).worker
  receiver := (link.ends side).worker
  sent := (link.sealings side.other).map Sealing.sent
  delivered := link.taken side

theorem Side.other_ne (side : Side) : side.other ≠ side := by
  cases side <;> decide

@[simp] theorem Side.other_other (side : Side) : side.other.other = side := by
  cases side <;> rfl

theorem Side.eq_other {side other : Side} (apart : other ≠ side) : other = side.other := by
  cases side <;> cases other <;> first | rfl | exact absurd rfl apart

theorem move_toward_self (link : SecureLink) (side : Side) (endpoint : Endpoint) :
    (link.move side endpoint).toward side =
      { link.toward side with receiver := endpoint.worker } := by
  simp only [SecureLink.toward, SecureLink.move, Function.update_self,
    Function.update_of_ne side.other_ne]

theorem move_toward_other (link : SecureLink) (side : Side) (endpoint : Endpoint) :
    (link.move side endpoint).toward side.other =
      { link.toward side.other with sender := endpoint.worker } := by
  simp only [SecureLink.toward, SecureLink.move, Side.other_other, Function.update_self,
    Function.update_of_ne side.other_ne]

variable {chain back : Bytes} {direction : Link}

theorem Simulated.sender_turn (simulated : Simulated web chain back direction) {sender : Worker}
    (store : ∃ inbound, KeyStore web chain inbound sender)
    (config : sender.config = direction.sender.config) :
    Simulated web chain back { direction with sender := sender } where
  sender := store
  receiver := simulated.receiver
  buckets := by
    rw [config]
    exact simulated.buckets
  seals := by
    rw [config]
    exact simulated.seals
  behind := simulated.behind
  top := simulated.top
  cache := simulated.cache

/-- The receiver sends something itself. -/
theorem Simulated.receiver_turn (simulated : Simulated web chain back direction)
    (entropy : Entropy) (payload : EncryptRequest) :
    Simulated web chain back
      { direction with receiver := (encryptBinary web entropy direction.receiver payload).1 } := by
  have store := encryptBinary_store simulated.receiver entropy payload
  have cases := encryptBinary_cases simulated.receiver entropy payload
  generalize encryptBinary web entropy direction.receiver payload = answer at store cases ⊢
  rcases cases with ⟨_, _, rfl⟩ | ⟨_, _, rfl⟩
  · exact simulated
  · exact ⟨simulated.sender, store, simulated.buckets, simulated.seals, simulated.behind,
      simulated.top, simulated.cache⟩

/-- Frames sealed on the chain may join those on the wire, and others be lost. -/
theorem Simulated.sends (simulated : Simulated web chain back direction) {sent : List Sent}
    (seals : ∀ frame ∈ sent, Sealed web chain direction.sender.config frame) :
    Simulated web chain back { direction with sent := sent } :=
  ⟨simulated.sender, simulated.receiver, simulated.buckets, seals, simulated.behind,
    simulated.top, simulated.cache⟩

end Directions

section Reading

/-- What comes out at the other end: the lane is not on the wire. -/
def Sealing.received (sealing : Sealing) : Envelope :=
  { sealing.envelope with lane := Transport.laneOf .data }

/-- The envelope of a message that the other side reads and finds on the right stream. -/
structure Sealing.Readable (sealing : Sealing) : Prop where
  outerType : sealing.envelope.outerType = .data
  flags : sealing.envelope.flags = 0
  sequence : sealing.envelope.sequence < 2 ^ 32
  message : sealing.message.Fits
  suits : validateInboundStream sealing.message (streamForLane sealing.lane) = .ok ()

theorem nextSequence_lt (channel : SecureChannel) : channel.nextSequence.sequence < 2 ^ 32 := by
  simp only [SecureChannel.nextSequence]
  split
  · decide
  · exact Nat.mod_lt _ (by decide)

theorem encryptAppMessage_sealed {chain back : Bytes} {worker : Worker} {channel : SecureChannel}
    {entropy : Entropy} {message : AppMessage} {lane : LaneName} {envelope : Envelope}
    (store : KeyStore web chain back worker)
    (encrypted : (channel.encryptAppMessage web entropy worker message lane).2.2 = .ok envelope) :
    envelope.toAadContext = channel.nextSequence.draft lane ∧
      envelope.counter = worker.outboundCounter + 1 ∧
      (channel.encryptAppMessage web entropy worker message lane).2.1.outboundCounter =
        worker.outboundCounter + 1 ∧
      Sealed web chain worker.config
        ⟨⟨envelope.payload, envelope.nonce, envelope.counter⟩, envelope.toAadContext,
          encodeAppMessage message⟩ := by
  simp only [SecureChannel.encryptAppMessage] at encrypted ⊢
  rcases encryptBinary_cases store entropy ⟨.view (encodeAppMessage message),
    Transport.createAadContext (channel.nextSequence.draft lane) channel.nextSequence.profile⟩ with
    ⟨_, unread, _⟩ | ⟨data, converted, moved⟩
  · cases unread
  · cases converted
    rw [moved] at encrypted ⊢
    cases made : sealMessage web entropy worker.config (worker.outboundCounter + 1)
        (messageKeyAt web chain (worker.outboundCounter + 1))
        (Transport.createAadContext (channel.nextSequence.draft lane) channel.nextSequence.profile)
        (encodeAppMessage message) with
    | error reason =>
        rw [made] at encrypted
        cases encrypted
    | ok answer =>
        obtain ⟨counter, sealing⟩ := sealMessage_sealed chain (Nat.succ_pos _) made
        rw [made] at encrypted
        cases encrypted
        exact ⟨rfl, counter, rfl, sealing⟩

theorem Sound.reads (sound : Sound web chains id link) {side : Side} {sealing : Sealing}
    (member : sealing ∈ link.sealings side) (readable : sealing.Readable)
    (short : sealing.envelope.counter < 2 ^ 64) :
    unpackEnvelope sealing.frame (transportLimits id) = .ok sealing.received := by
  have packed := sound.packed side sealing member
  have packs := (Transport.packEnvelope_ok.mp packed).1
  have stream : sealing.envelope.streamId < 2 ^ 32 := by
    rw [sound.stream side sealing member]
    exact streamForLane_lt sealing.lane
  have fits : Transport.Fits sealing.envelope (transportLimits id) :=
    ⟨packs, readable.flags, stream, readable.sequence, short⟩
  obtain ⟨same, read⟩ := Transport.unpack_pack (Transport.transportLimits_encodable id) fits
  rw [packed] at same
  rw [Except.ok.inj same, read, readable.outerType, Sealing.received]

end Reading

section Relay

/-- What an honest relay does: it hands on what the other side has made. The receiver has not
left more counters open than it keeps keys for. -/
def Relayed (link : SecureLink) : LinkStep → Prop
  | .send _ message lane _ =>
      message.Fits ∧ validateInboundStream message (streamForLane lane) = .ok ()
  | .arrive side _ bytes => (link.toward side).BacklogFits ∧
      ∃ sealing ∈ link.sealings side.other, sealing.frame = bytes ∧
        sealing.envelope.counter < 2 ^ 64

structure Relaying (web : WebCrypto) (chains : Side → Bytes) (id : TransportProfileId)
    (link : SecureLink) : Prop extends Sound web chains id link where
  simulated : ∀ side, Simulated web (chains side.other) (chains side) (link.toward side)
  readable : ∀ side, ∀ sealing ∈ link.sealings side, sealing.Readable
  increasing : ∀ side,
    ((link.sealings side).map fun sealing => sealing.envelope.counter).Pairwise (· < ·)
  made : ∀ side, ∀ sealing ∈ link.sealings side,
    sealing.envelope.counter ≤ (link.ends side).worker.outboundCounter
  once : ∀ side, (link.taken side).Nodup

/-- The side has taken the counter and stands where the worker does. -/
def SecureLink.take (link : SecureLink) (side : Side) (worker : Worker) (counter : Nat) :
    SecureLink :=
  { link.move side { link.ends side with worker := worker } with
    taken := Function.update link.taken side (link.taken side ++ [counter]) }

/-- What the receiver does with a frame of the other side. -/
theorem arrive_sealing (relaying : Relaying web chains id link)
    (opens : ∀ key nonce aad plaintext,
      web.decrypt key nonce aad (web.encrypt key nonce aad plaintext) = some plaintext)
    {side : Side} (fits : (link.toward side).BacklogFits) {sealing : Sealing}
    (member : sealing ∈ link.sealings side.other) (short : sealing.envelope.counter < 2 ^ 64)
    (clock : Clock) :
    ((sealing.envelope.counter ∈ link.taken side ∨
        ¬ InWindow (link.ends side).worker sealing.envelope.counter) ∧
      link.arrive web side clock sealing.frame = (link, [])) ∨
    (sealing.envelope.counter ∉ link.taken side ∧
      InWindow (link.ends side).worker sealing.envelope.counter ∧
      ∃ worker, (worker.outboundCounter = (link.ends side).worker.outboundCounter ∧
          worker.config = (link.ends side).worker.config) ∧
        ((link.toward side).arrive web sealing.sent).1 =
          { link.toward side with
            receiver := worker
            delivered := link.taken side ++ [sealing.envelope.counter] } ∧
        link.arrive web side clock sealing.frame =
          (link.take side worker sealing.envelope.counter,
            [⟨side, sealing.frame, sealing.received, sealing.message⟩])) := by
  have readable := relaying.readable side.other sealing member
  have read := relaying.reads member readable short
  have genuine : sealing.sent ∈ (link.toward side).sent := List.mem_map_of_mem member
  have store := relaying.store side
  -- The worker is asked for the very frame that was sealed.
  have context : Transport.createAadContext sealing.envelope.toAadContext (transportLimits id) =
      sealing.envelope.toAadContext := (Transport.unpacked_aad read).1
  have suits : validateInboundStream sealing.message sealing.received.streamId = .ok () := by
    change validateInboundStream _ sealing.envelope.streamId = _
    rw [relaying.stream side.other sealing member]
    exact readable.suits
  have refuses {worker : Worker} {reason : String}
      (asked : decryptBinary web (link.ends side).worker
        (decryptRequest sealing.sent.encrypted sealing.sent.context) = (worker, .error reason)) :
      link.arrive web side clock sealing.frame =
        (link.move side { link.ends side with worker := worker }, []) := by
    simp only [SecureLink.arrive, relaying.profile, read, SecureChannel.decryptAppMessage]
    rw [if_neg (by simp [Sealing.received, readable.outerType])]
    simp only [Sealing.sent, Sealing.received, context] at asked ⊢
    simp only [asked]
  have reads {worker : Worker}
      (asked : decryptBinary web (link.ends side).worker
        (decryptRequest sealing.sent.encrypted sealing.sent.context) =
          (worker, .ok (encodeAppMessage sealing.message))) :
      link.arrive web side clock sealing.frame =
        (link.take side worker sealing.envelope.counter,
          [⟨side, sealing.frame, sealing.received, sealing.message⟩]) := by
    simp only [SecureLink.arrive, relaying.profile, read, SecureChannel.decryptAppMessage]
    rw [if_neg (by simp [Sealing.received, readable.outerType])]
    simp only [Sealing.sent, Sealing.received, context] at asked suits ⊢
    simp only [asked, AppCodec.decode_encode clock sealing.message readable.message, suits]
    rfl
  have accepted {worker : Worker}
      (answered : decryptBinary web (link.toward side).receiver
        (decryptRequest sealing.sent.encrypted sealing.sent.context) =
          (worker, .ok sealing.sent.data)) :
      ((link.toward side).arrive web sealing.sent).1 =
          { link.toward side with
            receiver := worker
            delivered := link.taken side ++ [sealing.envelope.counter] } ∧
        link.arrive web side clock sealing.frame =
          (link.take side worker sealing.envelope.counter,
            [⟨side, sealing.frame, sealing.received, sealing.message⟩]) := by
    constructor
    · simp only [Link.arrive, answered]
      rfl
    · exact reads answered
  rcases arrive_cases (relaying.simulated side) fits opens genuine with
    ⟨refused, reason, answered⟩ | ⟨listed, fresh, answered⟩ | ⟨ahead, near, answered⟩
  · refine Or.inl ⟨refused, ?_⟩
    rw [refuses answered]
    change (link.move side (link.ends side), []) = (link, [])
    rw [SecureLink.move, Function.update_eq_self]
  · have below : sealing.envelope.counter ≤ (link.ends side).worker.highestInboundCounter +
        (link.ends side).worker.config.maxSkippedMessageKeys := store.window _ listed
    have near : InWindow (link.ends side).worker sealing.envelope.counter := by
      simp only [InWindow]
      omega
    have kept := accepted answered
    refine Or.inr ⟨fresh, near, _, ?_, kept⟩
    exact ⟨rfl, rfl⟩
  · have fresh : sealing.envelope.counter ∉ link.taken side := by
      intro seen
      have behind := (relaying.simulated side).behind _ seen
      change (link.toward side).receiver.highestInboundCounter < sealing.envelope.counter at ahead
      omega
    have kept := accepted answered
    refine Or.inr ⟨fresh, near, _, ?_, kept⟩
    exact ⟨rfl, rfl⟩

/-- A side encrypts, whatever becomes of the ciphertext. -/
theorem encrypt_relaying (relaying : Relaying web chains id link) (side : Side)
    (channel : SecureChannel) (profile : channel.profile = transportLimits id)
    (entropy : Entropy) (payload : EncryptRequest) :
    Relaying web chains id (link.move side
      ⟨channel, (encryptBinary web entropy (link.ends side).worker payload).1⟩) where
  toSound := relaying.move profile (encryptBinary_store (relaying.store side) entropy payload)
    (encryptBinary_config web entropy _ payload)
  simulated other := by
    by_cases same : other = side
    · subst same
      rw [move_toward_self]
      exact Simulated.receiver_turn (relaying.simulated other) entropy payload
    · rw [Side.eq_other same, move_toward_other, Side.other_other]
      have before := relaying.simulated side.other
      rw [Side.other_other] at before
      apply Simulated.sender_turn before
        ⟨_, encryptBinary_store (relaying.store side) entropy payload⟩
      simp only [SecureLink.toward, Side.other_other, encryptBinary_config]
  readable := relaying.readable
  increasing := relaying.increasing
  made other sealing member := by
    have bound := relaying.made other sealing member
    by_cases same : other = side
    · subst same
      have grown : (link.ends other).worker.outboundCounter ≤
          (encryptBinary web entropy (link.ends other).worker payload).1.outboundCounter := by
        rcases encryptBinary_cases (relaying.store other) entropy payload with
          ⟨_, _, moved⟩ | ⟨_, _, moved⟩
        · rw [moved]
        · rw [moved]
          exact Nat.le_succ _
      simp only [SecureLink.move, Function.update_self]
      exact Nat.le_trans bound grown
    · simpa [SecureLink.move, Function.update_of_ne same] using bound
  once := relaying.once

theorem seal_relaying (relaying : Relaying web chains id link) {side : Side} {sealing : Sealing}
    (sound : Sound web chains id
      { link with
        sealings := Function.update link.sealings side (link.sealings side ++ [sealing]) })
    (readable : sealing.Readable)
    (latest : sealing.envelope.counter = (link.ends side).worker.outboundCounter)
    (above : ∀ old ∈ link.sealings side, old.envelope.counter < sealing.envelope.counter)
    (sealing_made : Sealed web (chains side) (link.ends side).worker.config sealing.sent) :
    Relaying web chains id
      { link with
        sealings := Function.update link.sealings side (link.sealings side ++ [sealing]) } := by
  have either (other : Side) (known : Sealing) (member : known ∈ Function.update link.sealings side
      (link.sealings side ++ [sealing]) other) :
      known ∈ link.sealings other ∨ other = side ∧ known = sealing := by
    by_cases same : other = side
    · subst same
      rw [Function.update_self, List.mem_append, List.mem_singleton] at member
      exact member.imp_right fun new => ⟨rfl, new⟩
    · rw [Function.update_of_ne same] at member
      exact Or.inl member
  refine ⟨sound, ?_, ?_, ?_, ?_, relaying.once⟩
  · intro other
    apply Simulated.sends (relaying.simulated other)
    intro frame sent
    obtain ⟨known, member, rfl⟩ := List.mem_map.mp sent
    rcases either other.other known member with old | ⟨rfl, rfl⟩
    · exact (relaying.simulated other).seals _ (List.mem_map_of_mem old)
    · exact sealing_made
  · intro other known member
    rcases either other known member with old | ⟨_, rfl⟩
    · exact relaying.readable other known old
    · exact readable
  · intro other
    by_cases same : other = side
    · subst same
      simp only [Function.update_self, List.map_append, List.map_cons, List.map_nil,
        List.pairwise_append, List.mem_map, List.mem_singleton]
      refine ⟨relaying.increasing other, List.pairwise_singleton _ _, ?_⟩
      rintro _ ⟨old, member, rfl⟩ _ rfl
      exact above old member
    · simp only [Function.update_of_ne same]
      exact relaying.increasing other
  · intro other known member
    rcases either other known member with old | ⟨rfl, rfl⟩
    · exact relaying.made other known old
    · exact Nat.le_of_eq latest

theorem send_relaying (relaying : Relaying web chains id link) (side : Side)
    {message : AppMessage} {lane : LaneName} (entropy : Entropy) (fits : message.Fits)
    (suits : validateInboundStream message (streamForLane lane) = .ok ()) :
    Relaying web chains id (link.send web side message lane entropy) := by
  have sound := send_sound relaying.toSound side message lane entropy
  have moved := encrypt_relaying relaying side (link.ends side).channel.nextSequence
    (relaying.profile side) entropy ⟨.view (encodeAppMessage message),
      Transport.createAadContext ((link.ends side).channel.nextSequence.draft lane)
        (link.ends side).channel.nextSequence.profile⟩
  unfold SecureLink.send at sound ⊢
  simp only at sound ⊢
  split
  · exact moved
  · rename_i envelope encrypted
    rw [encrypted] at sound
    simp only at sound
    split
    · exact moved
    · rename_i frame packed
      rw [packed] at sound
      simp only at sound
      obtain ⟨context, counter, outbound, made⟩ :=
        encryptAppMessage_sealed (relaying.store side) encrypted
      have new : Sealing.Readable ⟨message, lane, entropy, envelope, frame⟩ := by
        refine ⟨?_, ?_, ?_, fits, suits⟩
        · rw [context]
          rfl
        · rw [context]
          rfl
        · rw [context]
          exact nextSequence_lt _
      refine seal_relaying moved sound new ?_ ?_ ?_
      · simp only [SecureLink.move, Function.update_self]
        exact counter.trans outbound.symm
      · intro old member
        have bound := relaying.made side old member
        change old.envelope.counter < envelope.counter
        omega
      · simp only [SecureLink.move, Function.update_self, encryptBinary_config]
        exact made

theorem take_relaying (relaying : Relaying web chains id link) {side : Side} {worker : Worker}
    {counter : Nat} (sound : Sound web chains id (link.take side worker counter))
    (outbound : worker.outboundCounter = (link.ends side).worker.outboundCounter)
    (config : worker.config = (link.ends side).worker.config)
    (fresh : counter ∉ link.taken side)
    (arrived : Simulated web (chains side.other) (chains side)
      { link.toward side with receiver := worker, delivered := link.taken side ++ [counter] }) :
    Relaying web chains id (link.take side worker counter) where
  toSound := sound
  simulated other := by
    by_cases same : other = side
    · subst same
      have turned : (link.take other worker counter).toward other =
          { link.toward other with
            receiver := worker, delivered := link.taken other ++ [counter] } := by
        simp only [SecureLink.take, SecureLink.toward, SecureLink.move, Function.update_self,
          Function.update_of_ne other.other_ne]
      rw [turned]
      exact arrived
    · rw [Side.eq_other same, Side.other_other]
      have turned : (link.take side worker counter).toward side.other =
          { link.toward side.other with sender := worker } := by
        simp only [SecureLink.take, SecureLink.toward, SecureLink.move, Side.other_other,
          Function.update_self, Function.update_of_ne side.other_ne]
      have own := sound.store side
      have before := relaying.simulated side.other
      rw [Side.other_other] at before
      simp only [SecureLink.take, SecureLink.move, Function.update_self] at own
      rw [turned]
      apply Simulated.sender_turn before ⟨_, own⟩
      simp only [SecureLink.toward, Side.other_other, config]
  readable := relaying.readable
  increasing := relaying.increasing
  made other sealing member := by
    have bound := relaying.made other sealing member
    by_cases same : other = side
    · subst same
      simpa [SecureLink.take, SecureLink.move, outbound] using bound
    · simpa [SecureLink.take, SecureLink.move, Function.update_of_ne same] using bound
  once other := by
    by_cases same : other = side
    · subst same
      simp only [SecureLink.take, Function.update_self, ← List.concat_eq_append]
      exact List.Nodup.concat fresh (relaying.once other)
    · simp only [SecureLink.take, SecureLink.move, Function.update_of_ne same]
      exact relaying.once other

theorem arrive_relaying (relaying : Relaying web chains id link)
    (opens : ∀ key nonce aad plaintext,
      web.decrypt key nonce aad (web.encrypt key nonce aad plaintext) = some plaintext)
    {side : Side} (fits : (link.toward side).BacklogFits) {sealing : Sealing}
    (member : sealing ∈ link.sealings side.other) (short : sealing.envelope.counter < 2 ^ 64)
    (clock : Clock) :
    Relaying web chains id (link.arrive web side clock sealing.frame).1 := by
  have sound := arrive_sound relaying.toSound side clock sealing.frame
  have genuine : sealing.sent ∈ (link.toward side).sent := List.mem_map_of_mem member
  have arrived := arrive_simulated (relaying.simulated side) fits opens genuine
  rcases arrive_sealing relaying opens fits member short clock with
    ⟨_, ignored⟩ | ⟨fresh, _, worker, ⟨outbound, config⟩, turned, taken⟩
  · rw [ignored]
    exact relaying
  · rw [taken] at sound ⊢
    rw [turned] at arrived
    exact take_relaying relaying sound outbound config fresh arrived

/-- The counters a side has taken are those of its messages in the history. -/
def Counted (link : SecureLink) (history : List Taken) : Prop :=
  ∀ side, link.taken side =
    (history.filter fun taken => taken.side = side).map fun taken => taken.envelope.counter

theorem take_counted {history : List Taken} (counted : Counted link history) (taken : Taken)
    (worker : Worker) :
    Counted (link.take taken.side worker taken.envelope.counter) (history ++ [taken]) := by
  intro other
  rw [List.filter_append, List.map_append, ← counted other]
  by_cases same : other = taken.side
  · subst same
    simp [SecureLink.take]
  · simp [SecureLink.take, SecureLink.move, Function.update_of_ne same, Ne.symm same]

theorem send_taken (link : SecureLink) (web : WebCrypto) (side : Side) (message : AppMessage)
    (lane : LaneName) (entropy : Entropy) :
    (link.send web side message lane entropy).taken = link.taken := by
  unfold SecureLink.send
  simp only
  split
  · rfl
  · split <;> rfl

theorem run_relaying {start : SecureLink} {history : List Taken}
    (opens : ∀ key nonce aad plaintext,
      web.decrypt key nonce aad (web.encrypt key nonce aad plaintext) = some plaintext)
    (begun : Relaying web chains id start) (clear : ∀ side, start.taken side = [])
    (run : (SecureLink.machine web).Run Relayed start link history) :
    Relaying web chains id link ∧ Counted link history := by
  apply run.invariant fun link history => Relaying web chains id link ∧ Counted link history
  · exact ⟨begun, clear⟩
  · rintro before past (⟨side, message, lane, entropy⟩ | ⟨side, clock, bytes⟩) after outputs
      ⟨relaying, counted⟩ relayed stepped
    · cases Option.some.inj stepped
      refine ⟨send_relaying relaying side entropy relayed.1 relayed.2, ?_⟩
      intro other
      rw [send_taken, List.append_nil]
      exact counted other
    · obtain ⟨fits, sealing, member, rfl, short⟩ := relayed
      have ran := Option.some.inj stepped
      have kept := arrive_relaying relaying opens fits member short clock
      rw [ran] at kept
      refine ⟨kept, ?_⟩
      rcases arrive_sealing relaying opens fits member short clock with
        ⟨_, ignored⟩ | ⟨_, _, worker, _, _, taken⟩
      · rw [ran] at ignored
        cases ignored
        rw [List.append_nil]
        exact counted
      · rw [ran] at taken
        cases taken
        exact take_counted counted ⟨side, sealing.frame, sealing.received, sealing.message⟩ worker

theorem joined_relaying {left right : Worker} (same : left.config = right.config)
    (freshLeft : FreshSession left (chains .left) (chains .right))
    (freshRight : FreshSession right (chains .right) (chains .left)) :
    Relaying web chains id (.joined id left right) where
  toSound := joined_sound same freshLeft freshRight
  simulated side := by
    have buckets := congrArg CryptoConfig.paddingBuckets same
    cases side with
    | left => exact fresh_simulated freshRight freshLeft buckets.symm
    | right => exact fresh_simulated freshLeft freshRight buckets
  readable side sealing member := by cases member
  increasing side := List.Pairwise.nil
  made side sealing member := by cases member
  once side := List.nodup_nil

/-- An honest relay between two sides that joined with each other's keys and one profile, and
that send what the other one accepts: no side numbers two frames alike, no side takes a frame
twice, and in whatever order frames are sent, handed on, repeated or held back, one whose counter
fits the envelope, is in the window and not yet taken is taken at its next arrival, as the
message it was made of. -/
theorem frames_taken_once {id : TransportProfileId} {web : WebCrypto}
    {alice bob left right : Worker} {secretA secretB shared : Bytes} {profile : CryptoProfile}
    {profileHashValue : String} {link : SecureLink} {history : List Taken}
    (opens : ∀ key nonce aad plaintext,
      web.decrypt key nonce aad (web.encrypt key nonce aad plaintext) = some plaintext)
    (identityA : alice.identity = some secretA) (identityB : bob.identity = some secretB)
    (distinct : web.publicKey secretA ≠ web.publicKey secretB)
    (agreedA : web.agree secretA (web.publicKey secretB) = some shared)
    (agreedB : web.agree secretB (web.publicKey secretA) = some shared)
    (joinedA : joinSession web alice profile (web.publicKey secretB) profileHashValue =
      (left, .ok ()))
    (joinedB : joinSession web bob profile (web.publicKey secretA) profileHashValue =
      (right, .ok ()))
    (run : (SecureLink.machine web).Run Relayed (.joined id left right) link history)
    (side : Side) :
    ((link.sealings side).map fun sealing => sealing.envelope.counter).Pairwise (· < ·) ∧
      ((history.filter fun taken => taken.side = side).map
        fun taken => taken.envelope.counter).Nodup ∧
      ((link.toward side).BacklogFits → ∀ sealing ∈ link.sealings side.other,
        sealing.envelope.counter < 2 ^ 64 →
        InWindow (link.ends side).worker sealing.envelope.counter →
        ∀ clock, (link.arrive web side clock sealing.frame).2 =
          if ∃ taken ∈ history, taken.side = side ∧
              taken.envelope.counter = sealing.envelope.counter then []
          else [⟨side, sealing.frame, sealing.received, sealing.message⟩]) := by
  obtain ⟨same, freshLeft, freshRight⟩ := joinSession_crossed web identityA identityB distinct
    agreedA agreedB joinedA joinedB
  obtain ⟨relaying, counted⟩ := run_relaying opens (joined_relaying same freshLeft freshRight)
    (fun _ => rfl) run
  refine ⟨relaying.increasing side, counted side ▸ relaying.once side, ?_⟩
  intro fits sealing member short near clock
  have known : (∃ taken ∈ history, taken.side = side ∧
      taken.envelope.counter = sealing.envelope.counter) ↔
        sealing.envelope.counter ∈ link.taken side := by
    rw [counted side]
    simp only [List.mem_map, List.mem_filter, decide_eq_true_eq, and_assoc]
  rcases arrive_sealing relaying opens fits member short clock with
    ⟨seen | far, ignored⟩ | ⟨fresh, _, _, _, _, taken⟩
  · rw [ignored, if_pos (known.mpr seen)]
  · exact absurd near far
  · rw [taken, if_neg (mt known.mp fresh)]

def sampleDelivered : SecureLink :=
  (sampleSent.arrive standingCrypto .right AppCodec.stoppedClock sampleFrame).1

/-- The acknowledgement comes through at its first arrival and not at its second. -/
theorem sample_frame_taken_once :
    ∃ history, history.map (fun taken => (taken.side, taken.bytes)) = [(.right, sampleFrame)] ∧
      (sampleSent.arrive standingCrypto .right AppCodec.stoppedClock sampleFrame).2 = history ∧
      (sampleDelivered.arrive standingCrypto .right AppCodec.stoppedClock sampleFrame).2 = [] := by
  have made : (sampleSent.sealings .left).map (fun sealing =>
      (sealing.frame, sealing.envelope.counter)) = [(sampleFrame, 1)] := by
    decide +kernel
  obtain ⟨sealing, only⟩ := List.length_eq_one_iff.mp (by simpa using congrArg List.length made)
  have member : sealing ∈ sampleSent.sealings .left := only ▸ List.mem_singleton_self _
  rw [only] at made
  obtain ⟨whole, counter⟩ := Prod.mk.inj (List.cons.inj made).1
  have short : sealing.envelope.counter < 2 ^ 64 := by
    rw [counter]
    decide
  have sends : Relayed (.joined .balanced (sampleSide [1] [2]) (sampleSide [2] [1]))
      (.send .left sampleAck .control sampleEntropy) := by
    refine ⟨?_, rfl⟩
    change AppCodec.Text 160 (FileProtocol.utf16 "r1")
    unfold AppCodec.Text
    decide
  have fits : (sampleSent.toward .right).BacklogFits := by
    unfold Link.BacklogFits
    decide +kernel
  have later : (sampleDelivered.toward .right).BacklogFits := by
    unfold Link.BacklogFits
    decide +kernel
  have hands : Relayed sampleSent (.arrive .right AppCodec.stoppedClock sampleFrame) :=
    ⟨fits, sealing, member, whole, short⟩
  have sent : (SecureLink.machine standingCrypto).Run Relayed
      (.joined .balanced (sampleSide [1] [2]) (sampleSide [2] [1])) sampleSent ([] ++ []) :=
    .next .refl sends rfl
  have delivered : (SecureLink.machine standingCrypto).Run Relayed
      (.joined .balanced (sampleSide [1] [2]) (sampleSide [2] [1])) sampleDelivered
      (([] ++ []) ++
        (sampleSent.arrive standingCrypto .right AppCodec.stoppedClock sampleFrame).2) :=
    .next sent hands rfl
  have identity (own : Bytes) :
      (generateIdentity standingCrypto own initial).1.identity = some own := rfl
  have joins : joinSession standingCrypto (generateIdentity standingCrypto [1] initial).1
      ⟨[1024], 32, 2⟩ (standingCrypto.publicKey [2]) "profile" = (sampleSide [1] [2], .ok ()) ∧
      joinSession standingCrypto (generateIdentity standingCrypto [2] initial).1 ⟨[1024], 32, 2⟩
        (standingCrypto.publicKey [1]) "profile" = (sampleSide [2] [1], .ok ()) := by
    decide +kernel
  have opens : ∀ key nonce aad plaintext, standingCrypto.decrypt key nonce aad
      (standingCrypto.encrypt key nonce aad plaintext) = some plaintext :=
    sampleCrypto_idealised.opens
  have agreed : standingCrypto.agree [1] (standingCrypto.publicKey [2]) =
        some (3 :: List.replicate 31 0) ∧
      standingCrypto.agree [2] (standingCrypto.publicKey [1]) =
        some (3 :: List.replicate 31 0) := by
    decide +kernel
  have sealings : sampleDelivered.sealings = sampleSent.sealings := arrive_sealings ..
  have near : InWindow (sampleSent.ends .right).worker sealing.envelope.counter ∧
      InWindow (sampleDelivered.ends .right).worker sealing.envelope.counter := by
    rw [counter]
    unfold InWindow
    decide +kernel
  have first := (frames_taken_once opens (identity [1]) (identity [2]) (by decide +kernel)
    agreed.1 agreed.2 joins.1 joins.2 sent .right).2.2 fits sealing member
    short near.1 AppCodec.stoppedClock
  have second := (frames_taken_once opens (identity [1]) (identity [2]) (by decide +kernel)
    agreed.1 agreed.2 joins.1 joins.2 delivered .right).2.2 later sealing
    (sealings ▸ member) short near.2 AppCodec.stoppedClock
  rw [whole, if_neg (by simp)] at first
  rw [whole, first, if_pos ⟨_, List.mem_append_right _ (List.mem_singleton_self _), rfl, rfl⟩]
    at second
  exact ⟨_, rfl, first, second⟩

end Relay

end OnlyTwo.Conversation
