import OnlyTwo.HandshakeCodec
import OnlyTwo.SecureLink
import OnlyTwo.SessionEffects

/-!
From the handshakes to the link between two sides. `handleHandshake` of
client/src/session/SessionController.ts, when nothing comes in between, reads the payload of a
handshake, agrees on a session with the key in it and shows the safety phrase. Anyone may have
written the payload. Two sides that show one phrase hold each other's keys and nobody else's, so
what they take from then on is what the other has sealed.
-/

namespace OnlyTwo.Conversation

open Bytes CryptoWorker
open AppMessages (TransportProfileId)
open FileProtocol (utf16)
open Handshakes (Handshake decodeHandshake encodeHandshake announced profileHashText)
open Negotiation (PhraseInput hashedMaterial profileHash sessionCodeHash verificationPhrase)
open Profiles (getProfile)

section Model

/-- What `handleHandshake` finds before the session is secure. The local key is that of the pair
the worker holds. -/
structure Party (web : WebCrypto) where
  profileId : TransportProfileId
  roomCode : Js.JsString
  localPublicKey : Bytes
  worker : Worker
  held : worker.identity.map web.publicKey = some localPublicKey

/-- How a call of `handleHandshake` ends. The phrase is given by what it is computed from. -/
inductive Shaken where
  | thrown (reason : AppCodec.Thrown)
  | ignored
  | incompatible
  | phrase (input : PhraseInput)
  deriving DecidableEq

def compatible (web : WebCrypto) (id : TransportProfileId) (handshake : Handshake) : Bool :=
  handshake.appVersion = utf16 AppMessages.appVersion ∧ handshake.profileId = id ∧
    handshake.profileHash = profileHash web.sha256 (getProfile id) ∧
    AppMessages.featureFlags.all fun flag => handshake.featureFlags.contains (utf16 flag)

def Party.phraseInput {web : WebCrypto} (party : Party web) (peerKey : Bytes)
    (handshake : Handshake) : PhraseInput where
  localPublicKey := party.localPublicKey
  peerPublicKey := peerKey
  profile := getProfile party.profileId
  sessionCode := party.roomCode
  peerAppVersion := handshake.appVersion
  peerFeatureFlags := handshake.featureFlags

def Party.handleHandshake {web : WebCrypto} (party : Party web) (payload : Bytes) :
    Worker × Shaken :=
  match decodeHandshake payload with
  | .error reason => (party.worker, .thrown reason)
  | .ok handshake =>
      match Base64Url.base64UrlToBytes handshake.publicKey with
      | none => (party.worker, .thrown (.error "InvalidCharacterError"))
      | some peerKey =>
          if Base64Url.bytesToBase64Url peerKey =
              Base64Url.bytesToBase64Url party.localPublicKey then (party.worker, .ignored)
          else if compatible web party.profileId handshake then
            let joined := joinSession web party.worker (cryptoProfile party.profileId) peerKey
              (profileHashText web.sha256 party.profileId)
            match joined.2 with
            | .error reason => (joined.1, .thrown (.error reason))
            | .ok () => (joined.1, .phrase (party.phraseInput peerKey handshake))
          else (party.worker, .incompatible)

end Model

section Outcomes

variable {web : WebCrypto} {party : Party web}

/-- A phrase is shown for a session with the key of the handshake only. -/
theorem handleHandshake_phrase {payload : Bytes} {worker : Worker} {input : PhraseInput}
    (shown : party.handleHandshake payload = (worker, .phrase input)) :
    ∃ handshake, decodeHandshake payload = .ok handshake ∧
      input = party.phraseInput input.peerPublicKey handshake ∧
      joinSession web party.worker (cryptoProfile party.profileId) input.peerPublicKey
        (profileHashText web.sha256 party.profileId) = (worker, .ok ()) := by
  unfold Party.handleHandshake at shown
  split at shown
  · cases shown
  · rename_i handshake decoded
    split at shown
    · cases shown
    · rename_i peerKey _
      split at shown
      · cases shown
      · split at shown
        · simp only at shown
          split at shown
          · cases shown
          · rename_i joined
            cases shown
            exact ⟨handshake, decoded, rfl, Prod.ext rfl joined⟩
        · cases shown

/-- The worker joins no session without an agreement. -/
theorem joinSession_agreed {worker joined : Worker} {secret peerRaw : Bytes}
    {profile : CryptoProfile} {profileHashValue : String}
    (identity : worker.identity = some secret)
    (established : joinSession web worker profile peerRaw profileHashValue = (joined, .ok ())) :
    ∃ shared, web.agree secret peerRaw = some shared := by
  have kept : (configure worker profile.payload).identity = some secret := identity
  simp only [joinSession, establishSession, kept] at established
  split at established
  · cases established
  · split at established
    · cases established
    · split at established
      · cases established
      · rename_i shared agreed
        exact ⟨shared, agreed⟩

theorem Party.publicKey {secret : Bytes} (identity : party.worker.identity = some secret) :
    web.publicKey secret = party.localPublicKey := by
  have held := party.held
  rw [identity, Option.map_some, Option.some.injEq] at held
  exact held

end Outcomes

section Served

open AppMessages (HandshakeMessage)
open Session

variable {web : WebCrypto} {party : Party web} {session : SessionController}

/-- A handshake of the session, with its texts as code units. -/
def written (message : HandshakeMessage) : Handshake where
  publicKey := utf16 message.publicKey
  profileId := message.profileId
  profileHash := utf16 message.profileHash
  appVersion := utf16 message.appVersion
  featureFlags := message.featureFlags.map utf16

/-- A session without a channel that has the profile and the key of the party. -/
structure Stands (party : Party web) (session : SessionController) : Prop where
  bare : session.secure = none
  free : session.establishing = false
  profile : session.profile.id = party.profileId
  key : session.localPublicKey.map PublicKey.bytes = some party.localPublicKey

/-- A call is given the answers that it awaits, one after the other. -/
def served : SessionController × Progress HandshakeCall → List Session.Reply →
    Option (SessionController × Progress HandshakeCall)
  | turned, [] => some turned
  | (session, .waits call), reply :: rest =>
      (session.resumeHandshake call reply).bind fun turned =>
        served (turned.1, call.progress turned.2) rest
  | _, _ :: _ => none

/-- The transport takes the reply, if none was sent before. -/
def greeting (session : SessionController) : List Session.Reply :=
  if session.replyHandshakeSent then [] else [.flag true]

/-- The session's call ends as the party's does, with these answers. -/
inductive Ends (party : Party web) (session : SessionController) :
    Shaken → List Session.Reply → SessionController → Progress HandshakeCall → Prop where
  | unread (reason : AppCodec.Thrown) (text : String) :
      Ends party session (.thrown reason) [] session (.thrown text)
  | ignored : Ends party session .ignored [] session .finished
  | incompatible {after : SessionController} :
      after.secure = none → after.view.security = .verificationFailed →
      Ends party session .incompatible
        (greeting session ++ [.text (profileHashText web.sha256 party.profileId)]) after .finished
  | refused {after : SessionController} (reason : String) : after.secure = none →
      Ends party session (.thrown (.error reason))
        (greeting session ++ [.text (profileHashText web.sha256 party.profileId), .error reason])
        after (.thrown reason)
  | phrase {after : SessionController} (input : PhraseInput) : after.secure ≠ none →
      after.peerPublicKey = some input.peerPublicKey →
      after.view.safetyPhrase = some (verificationPhrase web.sha256 input) →
      Ends party session (.phrase input)
        (greeting session ++ [.text (profileHashText web.sha256 party.profileId), .done,
          .text (verificationPhrase web.sha256 input)]) after .finished

theorem compatible_written (profile : session.profile.id = party.profileId)
    (message : HandshakeMessage) :
    session.compatible message (profileHashText web.sha256 party.profileId) =
      compatible web party.profileId (written message) := by
  have listed (flag : String) : (message.featureFlags.map utf16).contains (utf16 flag) =
      message.featureFlags.contains flag := by
    rw [Bool.eq_iff_iff, List.contains_iff_mem, List.contains_iff_mem, List.mem_map]
    constructor
    · rintro ⟨other, member, same⟩
      exact AppCodec.utf16_inj.mp same ▸ member
    · exact fun member => ⟨flag, member, rfl⟩
  simp only [SessionController.compatible, compatible, written, listed, AppCodec.utf16_inj,
    ← Handshakes.utf16_profileHashText, profile]

/-- The reply is queued, and nothing has changed meanwhile. -/
theorem announced_sent {key : PublicKey} (known : session.localPublicKey = some key) :
    session.announced ⟨key, session.lifecycleEpoch, session.secureEpoch, session.profile.id⟩
      (.flag true) = some (.ok ()) := by
  simp [SessionController.announced, known]

/-- The call comes to the await of the profile hash. -/
theorem served_hashing (stands : Stands party session) {message : HandshakeMessage}
    {peerKey : Bytes} (read : base64UrlToBytes message.publicKey = some peerKey)
    (other : peerKey ≠ party.localPublicKey) (epoch : Nat) :
    ∃ begun : SessionController, begun.secure = none ∧ begun.profile = session.profile ∧
      begun.localPublicKey = session.localPublicKey ∧ ∀ replies,
        served (session.handleHandshake epoch (some message)) (greeting session ++ replies) =
          served (begun, .waits ⟨epoch, message, peerKey, .hashing⟩) replies := by
  obtain ⟨key, known, bytes⟩ := Option.map_eq_some_iff.mp stands.key
  have apart : bytesToBase64Url peerKey ≠ bytesToBase64Url key.bytes :=
    fun same => other ((Base64Url.base64Url_injective same).trans bytes)
  cases replied : session.replyHandshakeSent with
  | true =>
      simp only [SessionController.handleHandshake, known, read, if_neg apart, stands.bare,
        stands.free, ne_eq, not_true_eq_false, if_false, Bool.false_eq_true,
        SessionController.sendReplyHandshake, greeting, replied, if_true, List.nil_append]
      refine ⟨_, ?_, ?_, ?_, fun _ => rfl⟩ <;> rfl
  | false =>
      simp only [SessionController.handleHandshake, known, read, if_neg apart, stands.bare,
        stands.free, ne_eq, not_true_eq_false, if_false, Bool.false_eq_true,
        SessionController.sendReplyHandshake, greeting, replied, List.singleton_append,
        SessionController.announcement, Option.map_some, served, SessionController.resumeHandshake]
      refine ⟨_, ?_, ?_, ?_, fun _ => (by rw [announced_sent rfl]; rfl)⟩ <;> rfl

section Hashed

variable {begun : SessionController} {message : HandshakeMessage} {peerKey : Bytes}
  {expected : String} {key : PublicKey} {epoch : Nat}

theorem served_incompatible (other : begun.compatible message expected = false) :
    ∃ after, served (begun, .waits ⟨epoch, message, peerKey, .hashing⟩) [.text expected] =
        some (after, .finished) ∧
      after.secure = begun.secure ∧ after.view.security = .verificationFailed := by
  simp only [served, SessionController.resumeHandshake, other, Bool.false_eq_true, if_false,
    Option.bind_some]
  exact ⟨_, rfl, congrArg Core.secure (SessionController.core_addSystem _ _ _),
    congrArg Core.security (SessionController.core_addSystem _ _ _)⟩

theorem served_refused (same : begun.compatible message expected = true) (reason : String) :
    served (begun, .waits ⟨epoch, message, peerKey, .hashing⟩) [.text expected, .error reason] =
      some (begun.established, .thrown reason) := by
  simp only [served, SessionController.resumeHandshake, same, if_true, Option.bind_some]
  rfl

theorem served_phrase (same : begun.compatible message expected = true)
    (known : begun.localPublicKey = some key) (phrase : String) :
    ∃ after, served (begun, .waits ⟨epoch, message, peerKey, .hashing⟩)
        [.text expected, .done, .text phrase] = some (after, .finished) ∧
      after.secure ≠ none ∧ after.peerPublicKey = some peerKey ∧
      after.view.safetyPhrase = some phrase := by
  have held : (begun.installChannel peerKey).localPublicKey = some key := known
  have shown : ((begun.installChannel peerKey).showPhrase phrase).established.core =
      { (begun.installChannel peerKey).core with
        phase := .active
        security := .encryptedUnverified
        safetyPhrase := some phrase } := SessionController.core_addSystem _ _ _
  simp only [served, SessionController.resumeHandshake, same, if_true, Option.bind_some,
    HandshakeCall.progress, held]
  refine ⟨_, rfl, ?_, congrArg Core.peerPublicKey shown, congrArg Core.safetyPhrase shown⟩
  intro lost
  cases (congrArg Core.secure shown).symm.trans lost

end Hashed

/-- What the session holds at the end of a call of `handleHandshake` that nothing comes in
between is what the party's call ends with. -/
theorem handler_serves (stands : Stands party session) {message : HandshakeMessage}
    {payload : Bytes} (decoded : decodeHandshake payload = .ok (written message)) (epoch : Nat) :
    ∃ answers after ended,
      served (session.handleHandshake epoch (some message)) answers = some (after, ended) ∧
        Ends party session (party.handleHandshake payload).2 answers after ended := by
  obtain ⟨key, known, bytes⟩ := Option.map_eq_some_iff.mp stands.key
  have text : Base64Url.base64UrlToBytes (written message).publicKey =
      base64UrlToBytes message.publicKey := Base64Url.decode_utf16 _
  simp only [Party.handleHandshake, decoded, text]
  cases read : base64UrlToBytes message.publicKey with
  | none =>
      refine ⟨[], session, .thrown "Invalid public key", ?_, .unread _ _⟩
      simp [SessionController.handleHandshake, known, read, served]
  | some peerKey =>
      dsimp only
      split
      · rename_i same
        have own : peerKey = key.bytes :=
          (Base64Url.bytesToBase64Url_injective same).trans bytes.symm
        refine ⟨[], session, .finished, ?_, .ignored⟩
        simp [SessionController.handleHandshake, known, read, served, own]
      · rename_i different
        have other : peerKey ≠ party.localPublicKey := fun same => different (same ▸ rfl)
        obtain ⟨begun, bare, profile, held, hashing⟩ := served_hashing stands read other epoch
        have matching := compatible_written (profile ▸ stands.profile) message
        split
        · rename_i accepted
          have same := matching.trans accepted
          split
          · rename_i reason _
            exact ⟨_, _, _, (hashing _).trans (served_refused same reason),
              .refused reason bare⟩
          · obtain ⟨after, run, secure, peer, phrase⟩ := served_phrase same (held.trans known)
              (verificationPhrase web.sha256 (party.phraseInput peerKey (written message)))
            exact ⟨_, after, _, (hashing _).trans run, .phrase _ secure peer phrase⟩
        · rename_i refused
          obtain ⟨after, run, secure, failed⟩ :=
            served_incompatible (matching.trans (Bool.eq_false_iff.mpr refused))
          exact ⟨_, after, _, (hashing _).trans run, .incompatible (secure.trans bare) failed⟩

end Served

section Exchanged

variable {web : WebCrypto}

theorem Party.publicKey_length (party : Party web) : party.localPublicKey.length = 32 := by
  obtain ⟨secret, _, held⟩ := Option.map_eq_some_iff.mp party.held
  rw [← held]
  exact web.publicKey_length secret

theorem compatible_announced (localPublicKey : Bytes) (id : TransportProfileId) :
    compatible web id (announced web.sha256 localPublicKey id) = true := by
  have flags : AppMessages.featureFlags.all
      (fun flag => (AppMessages.featureFlags.map utf16).contains (utf16 flag)) = true := by
    decide +kernel
  simp only [compatible, announced, true_and]
  exact decide_eq_true flags

theorem phrase_of_material {first second : PhraseInput}
    (same : hashedMaterial web.sha256 first = hashedMaterial web.sha256 second) :
    verificationPhrase web.sha256 first = verificationPhrase web.sha256 second := by
  rw [verificationPhrase, same, verificationPhrase]

/-- The input of the phrase when the handshake is what the peer announces. -/
def exchangedInput (party peer : Party web) : PhraseInput :=
  Negotiation.handshakeInput party.localPublicKey peer.localPublicKey (getProfile party.profileId)
    party.roomCode (Handshakes.announcedMessage web.sha256 peer.localPublicKey peer.profileId)

theorem exchanged_material {alice bob : Party web} (profile : alice.profileId = bob.profileId)
    (room : alice.roomCode = bob.roomCode) :
    hashedMaterial web.sha256 (exchangedInput alice bob) =
      hashedMaterial web.sha256 (exchangedInput bob alice) := by
  have accepted (key : Bytes) (id : TransportProfileId) :
      Negotiation.Accepted (Handshakes.announcedMessage web.sha256 key id) := ⟨rfl, List.Perm.refl _⟩
  rw [exchangedInput, exchangedInput, hashedMaterial, hashedMaterial, ← profile, ← room,
    Negotiation.material_symmetric web.sha256 _ _ _ _ (accepted _ _) (accepted _ _)]

/-- A side that is handed what another side announces shows a phrase. -/
theorem announced_shown {party peer : Party web} {secret shared : Bytes}
    (identity : party.worker.identity = some secret)
    (sized : ∀ bytes, (web.sha256 bytes).length = 32)
    (profile : party.profileId = peer.profileId)
    (distinct : party.localPublicKey ≠ peer.localPublicKey)
    (agreed : web.agree secret peer.localPublicKey = some shared) :
    party.handleHandshake
        (encodeHandshake (announced web.sha256 peer.localPublicKey peer.profileId)) =
      ((joinSession web party.worker (cryptoProfile party.profileId) peer.localPublicKey
          (profileHashText web.sha256 party.profileId)).1,
        .phrase (exchangedInput party peer)) := by
  have decoded := Handshakes.decode_encode
    (Handshakes.announced_fits sized peer.publicKey_length peer.profileId)
  have key : Base64Url.base64UrlToBytes
      (announced web.sha256 peer.localPublicKey peer.profileId).publicKey =
        some peer.localPublicKey := Base64Url.decode_encoded peer.localPublicKey
  have other : Base64Url.bytesToBase64Url peer.localPublicKey ≠
      Base64Url.bytesToBase64Url party.localPublicKey :=
    fun same => distinct (Base64Url.bytesToBase64Url_injective same).symm
  have own := party.publicKey identity
  have joined := (joinSession_ok web (cryptoProfile party.profileId)
    (profileHashText web.sha256 party.profileId) identity peer.publicKey_length
    (own ▸ distinct) agreed).1
  have accepted : compatible web party.profileId
      (announced web.sha256 peer.localPublicKey peer.profileId) = true :=
    profile ▸ compatible_announced peer.localPublicKey party.profileId
  simp only [Party.handleHandshake, decoded, key]
  rw [if_neg other, if_pos accepted]
  simp only [joined]
  rfl

/-- Two sides of a room that are handed each other's announcements show one phrase and hold
crossed chains. -/
theorem exchanged_handshakes_match {alice bob : Party web} {secretA secretB shared : Bytes}
    (identityA : alice.worker.identity = some secretA)
    (identityB : bob.worker.identity = some secretB)
    (sized : ∀ bytes, (web.sha256 bytes).length = 32)
    (profile : alice.profileId = bob.profileId) (room : alice.roomCode = bob.roomCode)
    (distinct : alice.localPublicKey ≠ bob.localPublicKey)
    (agreedA : web.agree secretA bob.localPublicKey = some shared)
    (agreedB : web.agree secretB alice.localPublicKey = some shared) :
    ∃ left right inputA inputB,
      alice.handleHandshake
          (encodeHandshake (announced web.sha256 bob.localPublicKey bob.profileId)) =
        (left, .phrase inputA) ∧
      bob.handleHandshake
          (encodeHandshake (announced web.sha256 alice.localPublicKey alice.profileId)) =
        (right, .phrase inputB) ∧
      hashedMaterial web.sha256 inputA = hashedMaterial web.sha256 inputB ∧
      verificationPhrase web.sha256 inputA = verificationPhrase web.sha256 inputB ∧
      left.config = right.config ∧
      FreshSession left
        (sendChains web secretA secretB shared (profileHashText web.sha256 alice.profileId) .left)
        (sendChains web secretA secretB shared (profileHashText web.sha256 alice.profileId) .right) ∧
      FreshSession right
        (sendChains web secretA secretB shared (profileHashText web.sha256 alice.profileId) .right)
        (sendChains web secretA secretB shared (profileHashText web.sha256 alice.profileId) .left) := by
  have keyA := alice.publicKey identityA
  have keyB := bob.publicKey identityB
  have shownA := announced_shown identityA sized profile distinct agreedA
  have shownB := announced_shown identityB sized profile.symm distinct.symm agreedB
  have joinedA := (joinSession_ok web (cryptoProfile alice.profileId)
    (profileHashText web.sha256 alice.profileId) identityA bob.publicKey_length (keyA ▸ distinct)
    agreedA).1
  have joinedB := (joinSession_ok web (cryptoProfile alice.profileId)
    (profileHashText web.sha256 alice.profileId) identityB alice.publicKey_length
    (keyB ▸ distinct.symm) agreedB).1
  have material := exchanged_material profile room
  rw [← profile] at shownB
  refine ⟨_, _, _, _, shownA, shownB, material, phrase_of_material material, ?_⟩
  rw [← keyA] at joinedB agreedB distinct ⊢
  rw [← keyB] at joinedA agreedA distinct ⊢
  exact joinSession_crossed web identityA identityB distinct agreedA agreedB
    (Prod.ext rfl joinedA) (Prod.ext rfl joinedB)

end Exchanged

section Verified

/-- The relay may hand either side any handshakes, its own among them. The two sides have
different keys, and different profiles have different hashes. If the phrases that the two sides
show are the same and do not collide, each side has the other's key, both have one profile and
one digest of their room codes, and every message that one of them takes has been sealed by the
other. -/
theorem matching_phrases_authenticate {web : WebCrypto} {alice bob : Party web}
    {secretA secretB toAlice toBob : Bytes} {left right : Worker} {inputA inputB : PhraseInput}
    (identityA : alice.worker.identity = some secretA)
    (identityB : bob.worker.identity = some secretB)
    (distinct : alice.localPublicKey ≠ bob.localPublicKey)
    (commutes : web.agree secretA bob.localPublicKey = web.agree secretB alice.localPublicKey)
    (profiles : Function.Injective fun id => profileHash web.sha256 (getProfile id))
    (shownA : alice.handleHandshake toAlice = (left, .phrase inputA))
    (shownB : bob.handleHandshake toBob = (right, .phrase inputB))
    (same : verificationPhrase web.sha256 inputA = verificationPhrase web.sha256 inputB)
    (apart : hashedMaterial web.sha256 inputA ≠ hashedMaterial web.sha256 inputB →
      verificationPhrase web.sha256 inputA ≠ verificationPhrase web.sha256 inputB) :
    alice.profileId = bob.profileId ∧
      sessionCodeHash web.sha256 alice.roomCode = sessionCodeHash web.sha256 bob.roomCode ∧
      inputA.peerPublicKey = bob.localPublicKey ∧ inputB.peerPublicKey = alice.localPublicKey ∧
      ∃ shared, web.agree secretA bob.localPublicKey = some shared ∧
        ∀ (link : SecureLink) (history : List Taken),
          Separate web (sendChains web secretA secretB shared
            (profileHashText web.sha256 alice.profileId)) →
          (SecureLink.machine web).Run
            (Unforged web (sendChains web secretA secretB shared
              (profileHashText web.sha256 alice.profileId)) alice.profileId)
            (.joined alice.profileId left right) link history →
          ∀ taken ∈ history, ∃ sealing ∈ link.sealings taken.side.other,
            sealing.frame = taken.bytes ∧
              taken.envelope.streamId = Client.streamForLane sealing.lane ∧
              (sealing.message.Fits → taken.message = sealing.message) := by
  obtain ⟨handshakeA, _, madeA, joinedA⟩ := handleHandshake_phrase shownA
  obtain ⟨handshakeB, _, madeB, joinedB⟩ := handleHandshake_phrase shownB
  have bound := Negotiation.material_binds web.sha256 (not_not.mp (mt apart (not_not.mpr same)))
  have keys := bound.keys
  have hash := bound.profileHash
  have room := bound.sessionCodeHash
  rw [madeA, madeB] at keys hash room
  -- The same key on both sides is ruled out, so the keys cross.
  rcases Sym2.eq_iff.mp keys with ⟨equal, _⟩ | ⟨peerB, peerA⟩
  · exact absurd equal distinct
  · have peerKeyA : inputA.peerPublicKey = bob.localPublicKey := peerA
    have peerKeyB : inputB.peerPublicKey = alice.localPublicKey := peerB.symm
    have id : alice.profileId = bob.profileId := profiles hash
    have keyA := alice.publicKey identityA
    have keyB := bob.publicKey identityB
    rw [peerKeyA] at joinedA
    rw [peerKeyB, ← id] at joinedB
    obtain ⟨shared, agreed⟩ := joinSession_agreed identityA joinedA
    refine ⟨id, room, peerKeyA, peerKeyB, shared, agreed, ?_⟩
    intro link history separate run taken member
    rw [← keyA] at joinedB distinct commutes
    rw [← keyB] at joinedA agreed distinct commutes
    obtain ⟨config, freshA, freshB⟩ := joinSession_crossed web identityA identityB distinct agreed
      (commutes ▸ agreed) joinedA joinedB
    exact ((run_genuine separate (joined_sound config freshA freshB) run).2 taken member).sealed

end Verified

section Sample

def sampleParty (own : Bytes) : Party standingCrypto where
  profileId := .balanced
  roomCode := utf16 "abcd-efgh"
  localPublicKey := standingCrypto.publicKey own
  worker := (generateIdentity standingCrypto own initial).1
  held := rfl

theorem standing_sized (bytes : Bytes) : (standingCrypto.sha256 bytes).length = 32 := by
  change ((bytes ++ zero32).take 32).length = 32
  rw [List.length_take, List.length_append, zero32, List.length_replicate]
  omega

theorem standing_profiles :
    Function.Injective fun id => profileHash standingCrypto.sha256 (getProfile id) := by
  have apart : (Handshakes.profileIds.map fun id =>
      profileHash standingCrypto.sha256 (getProfile id)).Nodup := by
    decide +kernel
  have listed (id : TransportProfileId) : id ∈ Handshakes.profileIds := by
    cases id <;> decide
  intro first second same
  exact List.inj_on_of_nodup_map apart (listed first) (listed second) same

theorem sample_identity (own : Bytes) : (sampleParty own).worker.identity = some own := rfl

theorem sample_room (own other : Bytes) :
    (sampleParty own).profileId = (sampleParty other).profileId ∧
      (sampleParty own).roomCode = (sampleParty other).roomCode := ⟨rfl, rfl⟩

theorem sample_agreed :
    standingCrypto.agree [1] (sampleParty [2]).localPublicKey =
        some (3 :: List.replicate 31 0) ∧
      standingCrypto.agree [2] (sampleParty [1]).localPublicKey =
        some (3 :: List.replicate 31 0) ∧
      (sampleParty [1]).localPublicKey ≠ (sampleParty [2]).localPublicKey := by
  decide +kernel

theorem sample_handshakes_match :
    ∃ inputA inputB,
      ((sampleParty [1]).handleHandshake (encodeHandshake
        (announced standingCrypto.sha256 (sampleParty [2]).localPublicKey .balanced))).2 =
          .phrase inputA ∧
      ((sampleParty [2]).handleHandshake (encodeHandshake
        (announced standingCrypto.sha256 (sampleParty [1]).localPublicKey .balanced))).2 =
          .phrase inputB ∧
      verificationPhrase standingCrypto.sha256 inputA =
        verificationPhrase standingCrypto.sha256 inputB := by
  obtain ⟨agreedA, agreedB, distinct⟩ := sample_agreed
  obtain ⟨left, right, inputA, inputB, shownA, shownB, _, same, _⟩ :=
    exchanged_handshakes_match (sample_identity [1]) (sample_identity [2]) standing_sized
      (sample_room [1] [2]).1 (sample_room [1] [2]).2 distinct agreedA agreedB
  exact ⟨inputA, inputB, congrArg Prod.snd shownA, congrArg Prod.snd shownB, same⟩

theorem sample_phrases_authenticate :
    ∃ inputA inputB,
      ((sampleParty [1]).handleHandshake (encodeHandshake
        (announced standingCrypto.sha256 (sampleParty [2]).localPublicKey .balanced))).2 =
          .phrase inputA ∧
      ((sampleParty [2]).handleHandshake (encodeHandshake
        (announced standingCrypto.sha256 (sampleParty [1]).localPublicKey .balanced))).2 =
          .phrase inputB ∧
      inputA.peerPublicKey = (sampleParty [2]).localPublicKey ∧
      inputB.peerPublicKey = (sampleParty [1]).localPublicKey := by
  obtain ⟨agreedA, agreedB, distinct⟩ := sample_agreed
  have shownA := announced_shown (sample_identity [1]) standing_sized (sample_room [1] [2]).1
    distinct agreedA
  have shownB := announced_shown (sample_identity [2]) standing_sized (sample_room [2] [1]).1
    distinct.symm agreedB
  have material := exchanged_material (sample_room [1] [2]).1 (sample_room [1] [2]).2
  obtain ⟨_, _, peerA, peerB, _⟩ := matching_phrases_authenticate (sample_identity [1])
    (sample_identity [2]) distinct (agreedA.trans agreedB.symm) standing_profiles shownA shownB
    (phrase_of_material material) (fun apart => absurd material apart)
  exact ⟨_, _, congrArg Prod.snd shownA, congrArg Prod.snd shownB, peerA, peerB⟩

end Sample

end OnlyTwo.Conversation
