import Mathlib.Data.Sym.Sym2
import Mathlib.Data.List.Lex
import OnlyTwo.AppCodec
import OnlyTwo.PacketScheduler
import OnlyTwo.SessionCalls

/-!
The safety phrase of client/src/protocol/negotiation.ts and the profiles as they are
hashed into it. SHA-256 is a function of bytes. Strings are compared by their code units,
as `<` and `sort` compare them.
-/

namespace OnlyTwo.Negotiation

open Bytes Js FileProtocol
open AppCodec (Field textField numberField modeText utf16_inj)
open AppMessages (HandshakeMessage appVersion featureFlags)
open Profiles

section Strings

/-- `first < second` -/
def before (first second : JsString) : Bool :=
  decide (first.map UInt16.toNat < second.map UInt16.toNat)

/-- `texts.sort()` -/
def sort (texts : List JsString) : List JsString :=
  texts.mergeSort fun first second => !before second first

/-- The characters a `TextEncoder` finds: a lone surrogate is the replacement character. -/
def characters : JsString → List Char
  | [] => []
  | [unit] => [if isHigh unit || isLow unit then '\uFFFD' else Char.ofNat unit.toNat]
  | first :: second :: rest =>
      if isHigh first && isLow second then combine first second :: characters rest
      else (if isHigh first || isLow first then '\uFFFD' else Char.ofNat first.toNat) ::
        characters (second :: rest)

def utf8Encode (text : JsString) : Bytes := utf8EncodeText (characters text)

def bytesToHex (bytes : Bytes) : JsString :=
  bytes.flatMap fun byte =>
    units (hexDigit (byte.toNat / 16)) ++ units (hexDigit (byte.toNat % 16))

theorem toNat_map_inj {first second : JsString}
    (same : first.map UInt16.toNat = second.map UInt16.toNat) : first = second :=
  List.map_injective_iff.mpr (fun _ _ => UInt16.toNat.inj) same

theorem before_total {first second : JsString} (notBefore : before first second = false)
    (notAfter : before second first = false) : first = second := by
  simp only [before, decide_eq_false_iff_not, not_lt] at notBefore notAfter
  exact toNat_map_inj (le_antisymm notAfter notBefore)

theorem before_asymm {first second : JsString} (less : before first second = true) :
    before second first = false := by
  simp only [before, decide_eq_true_eq, decide_eq_false_iff_not, not_lt] at less ⊢
  exact le_of_lt less

theorem sort_perm (texts : List JsString) : (sort texts).Perm texts := List.mergeSort_perm _ _

theorem sort_sorted (texts : List JsString) :
    (sort texts).Pairwise fun first second => (!before second first) = true := by
  apply List.pairwise_mergeSort
  · intro first second third lower upper
    simp only [before, Bool.not_eq_true', decide_eq_false_iff_not, not_lt] at lower upper ⊢
    exact le_trans lower upper
  · intro first second
    cases later : before second first with
    | false => rfl
    | true => rw [before_asymm later]; rfl

/-- Sorting forgets the order and nothing else. -/
theorem sort_eq_iff {first second : List JsString} : sort first = sort second ↔ first.Perm second := by
  constructor
  · intro same
    have sorted := sort_perm second
    rw [← same] at sorted
    exact (sort_perm first).symm.trans sorted
  · intro perm
    apply List.Perm.eq_of_pairwise _ (sort_sorted first) (sort_sorted second)
    · exact (sort_perm first).trans (perm.trans (sort_perm second).symm)
    · intro one other _ _ lower upper
      rw [Bool.not_eq_true'] at lower upper
      exact before_total upper lower

theorem hexDigit_inj {first second : Nat} (firstSmall : first < 16) (secondSmall : second < 16)
    (same : hexDigit first = hexDigit second) : first = second := by
  have value := hexValue_hexDigit first firstSmall
  rw [same, hexValue_hexDigit second secondSmall] at value
  exact (Option.some.inj value).symm

theorem bytesToHex_cons (byte : UInt8) (bytes : Bytes) :
    bytesToHex (byte :: bytes) =
      units (hexDigit (byte.toNat / 16)) ++
        (units (hexDigit (byte.toNat % 16)) ++ bytesToHex bytes) := by
  rw [bytesToHex, List.flatMap_cons, List.append_assoc]
  rfl

theorem bytesToHex_inj {first second : Bytes} (same : bytesToHex first = bytesToHex second) :
    first = second := by
  induction first generalizing second with
  | nil =>
      cases second with
      | nil => rfl
      | cons byte second =>
          rw [bytesToHex_cons] at same
          exact absurd (List.append_eq_nil_iff.mp same.symm).1 (units_ne_nil _)
  | cons byte first ih =>
      cases second with
      | nil =>
          rw [bytesToHex_cons] at same
          exact absurd (List.append_eq_nil_iff.mp same).1 (units_ne_nil _)
      | cons other second =>
          rw [bytesToHex_cons, bytesToHex_cons] at same
          have bound := byte.toNat_lt
          have otherBound := other.toNat_lt
          obtain ⟨high, same⟩ := units_append_inj same
          obtain ⟨low, rest⟩ := units_append_inj same
          have highs := hexDigit_inj (by omega) (by omega) high
          have lows := hexDigit_inj (by omega) (by omega) low
          have equal : byte = other := UInt8.toNat.inj (by omega)
          rw [equal, ih rest]

end Strings

section Profiles

def idText : TransportProfileId → JsString
  | .balanced => utf16 "balanced"
  | .lowData => utf16 "low_data"
  | .voiceFirst => utf16 "voice_first"
  | .maximumPrivacy => utf16 "maximum_privacy"

def dropPolicyText : DropPolicy → JsString
  | .fail => utf16 "fail"
  | .dropOldest => utf16 "drop-oldest"

def codecText : VoiceCodec → JsString
  | .pcm16 => utf16 "pcm16"

def objectField (key : String) (fields : List Field) : Field := (utf16 key, .obj fields)

def boolField (key : String) (value : Bool) : Field := (utf16 key, .bool value)

def outboxFields (outbox : Outbox) : List Field :=
  [numberField "maxPackets" outbox.maxPackets, numberField "maxBytes" outbox.maxBytes,
    numberField "maxBufferedAmountBytes" outbox.maxBufferedAmountBytes,
    numberField "resumeBufferedAmountBytes" outbox.resumeBufferedAmountBytes,
    numberField "drainYieldMs" outbox.drainYieldMs]

def budgetFields (budget : LaneBudget) : List Field :=
  [numberField "priority" budget.priority, numberField "maxPackets" budget.maxPackets,
    numberField "maxBytes" budget.maxBytes,
    textField "dropPolicy" (dropPolicyText budget.dropPolicy)]

/-- In the order of `cloneLaneBudgets`. -/
def lanesFields (lanes : Lanes) : List Field :=
  [objectField "control" (budgetFields lanes.control), objectField "voice" (budgetFields lanes.voice),
    objectField "text" (budgetFields lanes.text), objectField "file" (budgetFields lanes.file)]

def reconnectFields (reconnect : Reconnect) : List Field :=
  [numberField "maxAttempts" reconnect.maxAttempts, numberField "baseDelayMs" reconnect.baseDelayMs,
    numberField "maxDelayMs" reconnect.maxDelayMs, numberField "jitterMs" reconnect.jitterMs]

def filesFields (files : Files) : List Field :=
  [numberField "smallBytes" files.smallBytes, numberField "mediumBytes" files.mediumBytes,
    numberField "maxFileBytes" files.maxFileBytes,
    numberField "maxMemoryReceiveBytes" files.maxMemoryReceiveBytes,
    numberField "chunkBytes" files.chunkBytes, numberField "windowChunks" files.windowChunks,
    numberField "ackTimeoutMs" files.ackTimeoutMs, numberField "maxRetries" files.maxRetries]

def voiceFields (voice : Voice) : List Field :=
  [boolField "enabled" voice.enabled, textField "mode" (modeText voice.mode),
    textField "codec" (codecText voice.codec), numberField "frameMs" voice.frameMs,
    numberField "jitterTargetMs" voice.jitterTargetMs,
    numberField "jitterMaxFrames" voice.jitterMaxFrames, boolField "vadEnabled" voice.vadEnabled,
    numberField "vadStartDb" voice.vadStartDb, numberField "vadStopDb" voice.vadStopDb,
    numberField "vadPreRollMs" voice.vadPreRollMs, numberField "vadHangoverMs" voice.vadHangoverMs,
    numberField "vadMinSpeechMs" voice.vadMinSpeechMs,
    numberField "maxQueuedLatencyMs" voice.maxQueuedLatencyMs]

def profileHashInput (profile : TransportProfile) : List Char :=
  stringify (.obj
    [textField "id" (idText profile.id), numberField "protocolVersion" profile.protocolVersion,
      numberField "maxFrameBytes" profile.maxFrameBytes,
      (utf16 "paddingBuckets", .arr (profile.paddingBuckets.map fun bucket => .num bucket)),
      numberField "maxSkippedMessageKeys" profile.maxSkippedMessageKeys,
      objectField "outbox" (outboxFields profile.outbox), objectField "lanes" (lanesFields profile.lanes),
      objectField "reconnect" (reconnectFields profile.reconnect), objectField "files" (filesFields profile.files),
      objectField "voice" (voiceFields profile.voice)])

end Profiles

section Phrase

def words : List String :=
  ["river", "lunar", "copper", "hawk", "signal", "stone", "violet", "orbit", "cedar", "silver",
    "ember", "north", "silent", "anchor", "prism", "comet", "field", "winter", "summit", "clear",
    "falcon", "harbor", "magnet", "solar", "forest", "quartz", "velvet", "island", "canyon", "brave",
    "delta", "marble", "radar", "willow", "aurora", "coral", "sable", "meteor", "bison", "atlas",
    "frost", "olive", "binary", "echo", "granite", "lotus", "nebula", "onyx", "pixel", "raven",
    "saffron", "tundra", "umbra", "vector", "yonder", "zenith", "amber", "brook", "cipher", "drift",
    "forge", "meadow", "plain", "root"]

variable (sha256 : Bytes → Bytes)

/-- A digest cut to sixteen bytes, in hexadecimal. -/
def shortDigest (bytes : Bytes) : JsString := bytesToHex ((sha256 bytes).take 16)

def profileHash (profile : TransportProfile) : JsString :=
  shortDigest sha256 (utf8EncodeText (profileHashInput profile))

structure PhraseInput where
  localPublicKey : Bytes
  peerPublicKey : Bytes
  profile : TransportProfile
  sessionCode : JsString
  peerAppVersion : JsString
  peerFeatureFlags : List JsString
  deriving DecidableEq, Repr

def sessionCodeHash (sessionCode : JsString) : JsString := shortDigest sha256 (utf8Encode sessionCode)

/-- The identities in the order of their hexadecimal forms. -/
def identities (localPublicKey peerPublicKey : Bytes) : JsString × JsString :=
  let localHex := bytesToHex localPublicKey
  let peerHex := bytesToHex peerPublicKey
  if before localHex peerHex then (localHex, peerHex) else (peerHex, localHex)

def textsField (key : String) (texts : List JsString) : Field := (utf16 key, .arr (texts.map .str))

def material (input : PhraseInput) : Json Int :=
  let pair := identities input.localPublicKey input.peerPublicKey
  .obj [textField "app" (utf16 "onlytwo"), textField "appVersion" (utf16 appVersion),
    textField "peerAppVersion" input.peerAppVersion,
    textsField "featureFlags" (featureFlags.map utf16),
    textsField "peerFeatureFlags" (sort input.peerFeatureFlags),
    numberField "protocolVersion" input.profile.protocolVersion,
    textField "profileHash" (profileHash sha256 input.profile),
    textField "sessionCodeHash" (sessionCodeHash sha256 input.sessionCode),
    textField "identityA" pair.1, textField "identityB" pair.2]

/-- What the phrase is the digest of. -/
def hashedMaterial (input : PhraseInput) : Bytes :=
  utf8EncodeText (stringify (material sha256 input))

def verificationPhrase (input : PhraseInput) : String :=
  " ".intercalate
    (((sha256 (hashedMaterial sha256 input)).take 8).map fun byte =>
      words.getD (byte &&& 63).toNat "")

/-- How `handleHandshake` calls it with the handshake it accepted. -/
def handshakeInput (localPublicKey peerPublicKey : Bytes) (profile : TransportProfile)
    (roomCode : JsString) (handshake : HandshakeMessage) : PhraseInput where
  localPublicKey := localPublicKey
  peerPublicKey := peerPublicKey
  profile := profile
  sessionCode := roomCode
  peerAppVersion := utf16 handshake.appVersion
  peerFeatureFlags := handshake.featureFlags.map utf16

end Phrase

section Symmetry

theorem identities_comm (first second : Bytes) :
    identities first second = identities second first := by
  simp only [identities]
  cases less : before (bytesToHex first) (bytesToHex second) with
  | true => simp [before_asymm less]
  | false =>
      cases more : before (bytesToHex second) (bytesToHex first) with
      | true => rfl
      | false => rw [before_total less more]

theorem identities_cases (first second : Bytes) :
    identities first second = (bytesToHex first, bytesToHex second) ∨
      identities first second = (bytesToHex second, bytesToHex first) := by
  simp only [identities]
  split
  · exact Or.inl rfl
  · exact Or.inr rfl

/-- The ordered identities are the unordered pair of keys. -/
theorem identities_inj {first second third fourth : Bytes}
    (same : identities first second = identities third fourth) : s(first, second) = s(third, fourth) := by
  rw [Sym2.eq_iff]
  rcases identities_cases first second with left | left <;>
    rcases identities_cases third fourth with right | right <;>
    rw [left, right, Prod.mk.injEq] at same
  · exact Or.inl ⟨bytesToHex_inj same.1, bytesToHex_inj same.2⟩
  · exact Or.inr ⟨bytesToHex_inj same.1, bytesToHex_inj same.2⟩
  · exact Or.inr ⟨bytesToHex_inj same.2, bytesToHex_inj same.1⟩
  · exact Or.inl ⟨bytesToHex_inj same.2, bytesToHex_inj same.1⟩

variable (sha256 : Bytes → Bytes)

/-- A handshake of this version, its flags in any order. -/
structure Accepted (handshake : HandshakeMessage) : Prop where
  version : handshake.appVersion = appVersion
  flags : handshake.featureFlags.Perm featureFlags

/-- `handleHandshake` lets it pass. -/
theorem Accepted.compatible {handshake : HandshakeMessage} (accepted : Accepted handshake)
    (self : Session.SessionController) (profile : handshake.profileId = self.profile.id) :
    self.compatible handshake handshake.profileHash = true := by
  have flags : ∀ flag ∈ featureFlags, flag ∈ handshake.featureFlags := fun flag listed =>
    accepted.flags.mem_iff.mpr listed
  simpa [Session.SessionController.compatible, accepted.version, profile] using flags

theorem material_symmetric (first second : Bytes) (profile : TransportProfile) (roomCode : JsString)
    {ours theirs : HandshakeMessage} (own : Accepted ours) (other : Accepted theirs) :
    material sha256 (handshakeInput first second profile roomCode theirs) =
      material sha256 (handshakeInput second first profile roomCode ours) := by
  have flags : sort (theirs.featureFlags.map utf16) = sort (ours.featureFlags.map utf16) :=
    sort_eq_iff.mpr ((other.flags.trans own.flags.symm).map utf16)
  simp only [material, handshakeInput]
  rw [identities_comm first second, flags, other.version, own.version]

theorem textField_inj {key : String} {first second : JsString}
    (same : textField key first = textField key second) : first = second :=
  Json.str.inj (Prod.mk.inj same).2

theorem textsField_inj {key : String} {first second : List JsString}
    (same : textsField key first = textsField key second) : first = second :=
  List.map_injective_iff.mpr (fun _ _ => Json.str.inj) (Json.arr.inj (Prod.mk.inj same).2)

/-- What the material of a phrase fixes. -/
structure Bound (first second : PhraseInput) : Prop where
  keys : s(first.localPublicKey, first.peerPublicKey) = s(second.localPublicKey, second.peerPublicKey)
  profileHash : profileHash sha256 first.profile = profileHash sha256 second.profile
  protocolVersion : first.profile.protocolVersion = second.profile.protocolVersion
  sessionCodeHash : sessionCodeHash sha256 first.sessionCode = sessionCodeHash sha256 second.sessionCode
  peerAppVersion : first.peerAppVersion = second.peerAppVersion
  peerFeatureFlags : first.peerFeatureFlags.Perm second.peerFeatureFlags

theorem material_binds {first second : PhraseInput}
    (same : hashedMaterial sha256 first = hashedMaterial sha256 second) :
    Bound sha256 first second := by
  have objects := stringify_inj (utf8EncodeText_inj same)
  simp only [material, Json.obj.injEq, List.cons.injEq, true_and, and_true] at objects
  obtain ⟨version, flags, protocol, profile, code, one, other⟩ := objects
  refine
    { keys := identities_inj (Prod.ext (textField_inj one) (textField_inj other))
      profileHash := textField_inj profile
      protocolVersion := ?_
      sessionCodeHash := textField_inj code
      peerAppVersion := textField_inj version
      peerFeatureFlags := sort_eq_iff.mp (textsField_inj flags) }
  have numbers := Json.num.inj (Prod.mk.inj protocol).2
  exact_mod_cast numbers

end Symmetry

/-- The two sides of a room show one phrase, which spells eight bytes of the digest of the
material, and no two calls hash the same material unless they agree on everything that the
phrase is to vouch for. -/
theorem safety_phrase (sha256 : Bytes → Bytes) :
    (∀ (first second : Bytes) (profile : TransportProfile) (roomCode : JsString)
      (ours theirs : HandshakeMessage), Accepted ours → Accepted theirs →
      verificationPhrase sha256 (handshakeInput first second profile roomCode theirs) =
        verificationPhrase sha256 (handshakeInput second first profile roomCode ours)) ∧
    (∀ input : PhraseInput, verificationPhrase sha256 input =
      " ".intercalate (((sha256 (hashedMaterial sha256 input)).take 8).map fun byte =>
        words.getD (byte &&& 63).toNat "")) ∧
    ∀ first second : PhraseInput,
      hashedMaterial sha256 first = hashedMaterial sha256 second → Bound sha256 first second := by
  refine ⟨?_, fun _ => rfl, fun first second => material_binds sha256⟩
  intro first second profile roomCode ours theirs own other
  simp only [verificationPhrase, hashedMaterial]
  rw [material_symmetric sha256 first second profile roomCode own other]

end OnlyTwo.Negotiation
