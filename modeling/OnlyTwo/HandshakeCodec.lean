import OnlyTwo.Base64Url
import OnlyTwo.JsonSize
import OnlyTwo.OutboundMessages

/-!
`encodeHandshake` and `decodeHandshake` of client/src/protocol/appMessages.ts. The payload of a
handshake travels unencrypted, so the decoder is handed whatever the relay makes of it. What
`sendHandshake` of client/src/session/SessionController.ts announces comes through unchanged.
-/

namespace OnlyTwo.Handshakes

open Bytes Js FileProtocol AppCodec
open AppMessages (TransportProfileId)
open Negotiation (idText textsField profileHash)
open Profiles (getProfile)

section Source

/-- `HandshakeMessage` with its strings as code units. -/
structure Handshake where
  publicKey : JsString
  profileId : TransportProfileId
  profileHash : JsString
  appVersion : JsString
  featureFlags : List JsString
  deriving DecidableEq, Repr

def handshakeKind : JsString := utf16 "handshake.v2"

def Handshake.fields (message : Handshake) : List Field :=
  [textField "kind" handshakeKind, textField "publicKey" message.publicKey,
    textField "profileId" (idText message.profileId),
    textField "profileHash" message.profileHash, textField "appVersion" message.appVersion,
    textsField "featureFlags" message.featureFlags]

def encodeHandshake (message : Handshake) : Bytes :=
  utf8EncodeText (stringify (.obj message.fields))

/-- The keys of `PROFILES`. -/
def profileIds : List TransportProfileId := [.balanced, .lowData, .voiceFirst, .maximumPrivacy]

/-- `isTransportProfileId`, with the profile it narrows the value to. -/
def isTransportProfileId (value : JsString) : Option TransportProfileId :=
  profileIds.find? fun id => idText id = value

def isHandshake (obj : JsonObject) : Bool :=
  match property obj "kind" with
  | some (.str kind) => kind = handshakeKind
  | _ => false

def featureFlag : Json Decimal → Option JsString
  | .str value => if value.length = 0 ∨ 64 < value.length then none else some value
  | _ => none

/-- One flag that is none spoils them all. -/
def featureFlags (obj : JsonObject) : Except Thrown (List JsString) :=
  match property obj "featureFlags" with
  | some (.arr items) =>
      if 64 < items.length then throw (.error "Invalid feature flags")
      else
        match items.mapM featureFlag with
        | some flags => return flags
        | none => throw (.error "Invalid feature flags")
  | _ => throw (.error "Invalid feature flags")

/-- `/^[a-f0-9]{32}$/` -/
def isProfileHash (value : JsString) : Bool := value.length = 32 && value.all isHexUnit

def decodeHandshakeObject (obj : JsonObject) : Except Thrown Handshake :=
  if isHandshake obj then do
    let flags ← featureFlags obj
    let profileId ← requireString obj "profileId"
    let profileHashValue ← requireString obj "profileHash"
    match isTransportProfileId profileId with
    | none => throw (.error "Invalid room profile")
    | some id =>
        if isProfileHash profileHashValue then do
          let publicKey ← boundedString obj "publicKey" 100
          let appVersion ← boundedOptionalString obj "appVersion" (utf16 "unknown") 100
          return ⟨publicKey, id, profileHashValue, appVersion, flags⟩
        else throw (.error "Invalid profile hash")
  else throw (.error "Unsupported handshake")

def decodeHandshake (bytes : Bytes) : Except Thrown Handshake :=
  match utf8Decode bytes with
  | none => throw .typeError
  | some text => do
      let obj ← parseJsonObject text
      decodeHandshakeObject obj

/-- The handshake that `sendHandshake` makes. -/
def announced (sha256 : Bytes → Bytes) (localPublicKey : Bytes) (id : TransportProfileId) :
    Handshake where
  publicKey := utf16 (bytesToBase64Url localPublicKey)
  profileId := id
  profileHash := profileHash sha256 (getProfile id)
  appVersion := utf16 AppMessages.appVersion
  featureFlags := AppMessages.featureFlags.map utf16

/-- The profile hash as `establishSession` is handed it. -/
def profileHashText (sha256 : Bytes → Bytes) (id : TransportProfileId) : String :=
  Outbound.hexText
    ((sha256 (utf8EncodeText (Negotiation.profileHashInput (getProfile id)))).take 16)

/-- The announcement with its strings as characters. -/
def announcedMessage (sha256 : Bytes → Bytes) (localPublicKey : Bytes) (id : TransportProfileId) :
    AppMessages.HandshakeMessage where
  publicKey := bytesToBase64Url localPublicKey
  profileId := id
  profileHash := profileHashText sha256 id
  appVersion := AppMessages.appVersion
  featureFlags := AppMessages.featureFlags

end Source

section Lists

variable {Item Result : Type} {read : Item → Option Result}

theorem mapM_map {make : Result → Item} {results : List Result}
    (each : ∀ result ∈ results, read (make result) = some result) :
    (results.map make).mapM read = some results := by
  induction results with
  | nil => rfl
  | cons first rest ih =>
      have head := each first List.mem_cons_self
      have tail := ih fun result member => each result (List.mem_cons_of_mem first member)
      simp [List.mapM_cons, head, tail]

theorem mapM_read {items : List Item} {results : List Result}
    (found : items.mapM read = some results) :
    results.length = items.length ∧ ∀ result ∈ results, ∃ item ∈ items, read item = some result := by
  induction items generalizing results with
  | nil =>
      cases found
      exact ⟨rfl, fun result member => by cases member⟩
  | cons first rest ih =>
      simp only [List.mapM_cons, Option.pure_def, Option.bind_eq_bind, Option.bind_eq_some_iff,
        Option.some.injEq] at found
      obtain ⟨head, headRead, tail, tailRead, rfl⟩ := found
      obtain ⟨length, each⟩ := ih tailRead
      refine ⟨congrArg Nat.succ length, ?_⟩
      intro result member
      rcases List.mem_cons.mp member with rfl | later
      · exact ⟨first, List.mem_cons_self, headRead⟩
      · obtain ⟨item, listed, itemRead⟩ := each result later
        exact ⟨item, List.mem_cons_of_mem first listed, itemRead⟩

end Lists

section RoundTrip

/-- The decoder's bounds. -/
structure Handshake.Fits (message : Handshake) : Prop where
  publicKey : Text 100 message.publicKey
  profileHash : isProfileHash message.profileHash = true
  appVersion : message.appVersion.length ≤ 100
  few : message.featureFlags.length ≤ 64
  featureFlags : ∀ flag ∈ message.featureFlags, Text 64 flag

theorem isTransportProfileId_idText (id : TransportProfileId) :
    isTransportProfileId (idText id) = some id := by
  cases id <;> decide +kernel

theorem distinct_fields (message : Handshake) : Distinct message.fields := by
  simp [Distinct, Handshake.fields, textField, textsField, utf16_inj]

theorem featureFlag_text {flag : JsString} (fits : Text 64 flag) :
    featureFlag (.str flag) = some flag := by
  obtain ⟨nonempty, short⟩ := fits
  exact if_neg (by simpa [nonempty] using short)

theorem featureFlag_fits {item : Json Decimal} {flag : JsString}
    (read : featureFlag item = some flag) : Text 64 flag := by
  cases item with
  | str value =>
      rw [featureFlag] at read
      split at read
      · cases read
      · rename_i inside
        cases read
        rw [List.length_eq_zero_iff, not_or, not_lt] at inside
        exact inside
  | _ => cases read

theorem featureFlags_written {message : Handshake} (fits : message.Fits) :
    featureFlags (written message.fields) = .ok message.featureFlags := by
  have listed : textsField "featureFlags" message.featureFlags ∈ message.fields := by
    simp [Handshake.fields]
  have found : property (written message.fields) "featureFlags" =
      some (.arr (message.featureFlags.map .str)) := by
    rw [property_written (distinct_fields message) listed, Json.map, mapItems_eq, List.map_map]
    rfl
  have read : (message.featureFlags.map .str).mapM featureFlag = some message.featureFlags :=
    mapM_map fun flag member => featureFlag_text (fits.featureFlags flag member)
  have few := fits.few
  rw [featureFlags, found]
  simp only [List.length_map, read]
  rw [if_neg (not_lt.mpr few)]
  rfl

theorem requireString_written {message : Handshake} (key : String) (value : JsString)
    (listed : textField key value ∈ message.fields) :
    requireString (written message.fields) key = .ok value := by
  rw [requireString, property_written (distinct_fields message) listed, Json.map]

theorem decode_fields {message : Handshake} (fits : message.Fits) :
    decodeHandshakeObject (written message.fields) = .ok message := by
  have distinct := distinct_fields message
  have kind : isHandshake (written message.fields) = true := by
    rw [isHandshake, property_written distinct List.mem_cons_self, Json.map]
    exact decide_eq_true rfl
  rw [decodeHandshakeObject, if_pos kind, featureFlags_written fits,
    requireString_written "profileId" (idText message.profileId) (by simp [Handshake.fields]),
    requireString_written "profileHash" message.profileHash (by simp [Handshake.fields])]
  simp only [bind, Except.bind, isTransportProfileId_idText, fits.profileHash, ↓reduceIte]
  rw [boundedString_written distinct "publicKey" (by simp [Handshake.fields]) fits.publicKey,
    boundedOptionalString_written distinct "appVersion" _ (by simp [Handshake.fields])
      fits.appVersion]
  rfl

theorem decode_encode {message : Handshake} (fits : message.Fits) :
    decodeHandshake (encodeHandshake message) = .ok message := by
  have decoded : utf8Decode (encodeHandshake message) = some (stringify (.obj message.fields)) :=
    utf8Decode_encode (by simp [stringify])
  have parsed : parseJsonObject (stringify (.obj message.fields)) = .ok (written message.fields) := by
    rw [parseJsonObject, parse_stringify, Json.map, mapFields_eq]
    rfl
  rw [decodeHandshake, decoded]
  simp only [parsed]
  exact decode_fields fits

theorem featureFlags_fit {obj : JsonObject} {flags : List JsString}
    (accepted : featureFlags obj = .ok flags) :
    flags.length ≤ 64 ∧ ∀ flag ∈ flags, Text 64 flag := by
  unfold featureFlags at accepted
  split at accepted
  · split at accepted
    · cases accepted
    · rename_i few
      split at accepted
      · rename_i found
        cases accepted
        obtain ⟨length, each⟩ := mapM_read found
        refine ⟨length ▸ not_lt.mp few, ?_⟩
        intro flag member
        obtain ⟨item, _, read⟩ := each flag member
        exact featureFlag_fits read
      · cases accepted
  · cases accepted

theorem accepted_fits {bytes : Bytes} {message : Handshake}
    (accepted : decodeHandshake bytes = .ok message) : message.Fits := by
  unfold decodeHandshake at accepted
  split at accepted
  · cases accepted
  · obtain ⟨obj, _, read⟩ := bind_ok accepted
    unfold decodeHandshakeObject at read
    split at read
    · obtain ⟨flags, flagsRead, read⟩ := bind_ok read
      obtain ⟨profileId, _, read⟩ := bind_ok read
      obtain ⟨profileHash, _, read⟩ := bind_ok read
      split at read
      · cases read
      · split at read
        · rename_i digest
          obtain ⟨publicKey, keyRead, read⟩ := bind_ok read
          obtain ⟨appVersion, versionRead, read⟩ := bind_ok read
          cases read
          obtain ⟨few, each⟩ := featureFlags_fit flagsRead
          exact ⟨boundedString_fits keyRead, digest, boundedOptionalString_fits versionRead, few,
            each⟩
        · cases read
    · cases read

theorem utf16_profileHashText (sha256 : Bytes → Bytes) (id : TransportProfileId) :
    utf16 (profileHashText sha256 id) = profileHash sha256 (getProfile id) :=
  Outbound.utf16_hexText _

theorem announced_fits {sha256 : Bytes → Bytes} (sized : ∀ bytes, (sha256 bytes).length = 32)
    {localPublicKey : Bytes} (key : localPublicKey.length = 32) (id : TransportProfileId) :
    (announced sha256 localPublicKey id).Fits where
  publicKey := by
    have length := Base64Url.encoded_length localPublicKey
    constructor
    · intro empty
      rw [announced, ← List.length_eq_zero_iff, length] at empty
      omega
    · rw [announced, length]
      omega
  profileHash := by
    obtain ⟨length, digits⟩ := Outbound.isHexUnit_bytesToHex
      ((sha256 (utf8EncodeText (Negotiation.profileHashInput (getProfile id)))).take 16)
    rw [List.length_take, sized] at length
    simp only [isProfileHash, announced, profileHash, Negotiation.shortDigest, digits, length]
    rfl
  appVersion := by
    change (utf16 AppMessages.appVersion).length ≤ 100
    decide +kernel
  few := by
    change (AppMessages.featureFlags.map utf16).length ≤ 64
    decide
  featureFlags := by
    have each : ∀ flag ∈ AppMessages.featureFlags.map utf16, flag ≠ [] ∧ flag.length ≤ 64 := by
      decide +kernel
    exact each

end RoundTrip

section Announcement

theorem commas_eq (close : Char) (texts : List (List Char)) :
    commas close texts = [','].intercalate texts ++ [close] := by
  induction texts with
  | nil => rfl
  | cons first rest ih =>
      cases rest with
      | nil => simp [commas]
      | cons second rest =>
          have later : second :: rest ≠ [] := List.cons_ne_nil second rest
          rw [commas, ih]
          · simp
          · exact later

/-- A character that is one code unit and is written as it is. -/
structure Unescaped (char : Char) : Prop where
  unit : units char = [UInt16.ofNat char.toNat]
  same : escapeUnit (UInt16.ofNat char.toNat) = [char]
  single : isHigh (UInt16.ofNat char.toNat) = false

theorem quote_unescaped {text : List Char} (plain : ∀ char ∈ text, Unescaped char) :
    quote (text.flatMap units) = '"' :: (text ++ ['"']) := by
  have escaped : escapeUnits (text.flatMap units) = text := by
    induction text with
    | nil => rfl
    | cons char rest ih =>
        have own := plain char List.mem_cons_self
        have others := ih (fun other member => plain other (List.mem_cons_of_mem char member))
        rw [List.flatMap_cons, own.unit, List.singleton_append, escapeUnits_cons _ own.single,
          own.same, others, List.singleton_append]
  rw [quote, escaped]

theorem base64Url_unescaped (bytes : Bytes) :
    ∀ char ∈ (bytesToBase64Url bytes).toList, Unescaped char := by
  have each (sextet : Nat) (bound : sextet < 64) : Unescaped (toUrl (encodeSextet sextet)) := by
    have checked : units (toUrl (encodeSextet sextet)) =
          [UInt16.ofNat (toUrl (encodeSextet sextet)).toNat] ∧
        escapeUnit (UInt16.ofNat (toUrl (encodeSextet sextet)).toNat) =
          [toUrl (encodeSextet sextet)] ∧
        isHigh (UInt16.ofNat (toUrl (encodeSextet sextet)).toNat) = false := by
      revert sextet
      decide +kernel
    exact ⟨checked.1, checked.2.1, checked.2.2⟩
  intro char member
  rw [base64Url_toList] at member
  simp only [List.mem_map] at member
  obtain ⟨_, ⟨sextet, listed, rfl⟩, rfl⟩ := member
  exact each sextet (sextet_lt bytes sextet listed)

theorem hexText_unescaped (bytes : Bytes) :
    ∀ char ∈ (Outbound.hexText bytes).toList, Unescaped char := by
  have each (value : Nat) (bound : value < 16) : Unescaped (hexDigit value) := by
    have checked : units (hexDigit value) = [UInt16.ofNat (hexDigit value).toNat] ∧
        escapeUnit (UInt16.ofNat (hexDigit value).toNat) = [hexDigit value] ∧
        isHigh (UInt16.ofNat (hexDigit value).toNat) = false := by
      revert value
      decide +kernel
    exact ⟨checked.1, checked.2.1, checked.2.2⟩
  intro char member
  rw [Outbound.hexText, String.toList_ofList, List.mem_flatMap] at member
  obtain ⟨byte, _, listed⟩ := member
  have small := byte.toNat_lt
  simp only [List.mem_cons, List.not_mem_nil, or_false] at listed
  rcases listed with rfl | rfl
  · exact each _ (by omega)
  · exact each _ (by omega)

/-- The texts that the client joins are the JSON of its announcement. -/
theorem client_encodes (sha256 : Bytes → Bytes) (localPublicKey : Bytes) (id : TransportProfileId) :
    Client.encodeHandshake (announcedMessage sha256 localPublicKey id) =
      encodeHandshake (announced sha256 localPublicKey id) := by
  have key : quote (utf16 (bytesToBase64Url localPublicKey)) = _ :=
    quote_unescaped (base64Url_unescaped localPublicKey)
  have hash : quote (profileHash sha256 (getProfile id)) =
      '"' :: ((profileHashText sha256 id).toList ++ ['"']) := by
    rw [← utf16_profileHashText]
    exact quote_unescaped (hexText_unescaped _)
  have named : quote (idText id) = '"' :: ((Client.profileName id).toList ++ ['"']) := by
    cases id <;> decide +kernel
  have flags : '[' :: commas ']'
        (stringifyItems (AppMessages.featureFlags.map fun flag => .str (utf16 flag))) =
      ("[\"" ++ "\",\"".intercalate AppMessages.featureFlags ++ "\"]").toList := by
    decide +kernel
  have names : quote (utf16 "kind") = "\"kind\"".toList ∧
      quote (utf16 "publicKey") = "\"publicKey\"".toList ∧
      quote (utf16 "profileId") = "\"profileId\"".toList ∧
      quote (utf16 "profileHash") = "\"profileHash\"".toList ∧
      quote (utf16 "appVersion") = "\"appVersion\"".toList ∧
      quote (utf16 "featureFlags") = "\"featureFlags\"".toList := by
    decide +kernel
  have constants : quote handshakeKind = "\"handshake.v2\"".toList ∧
      quote (utf16 AppMessages.appVersion) = ("\"" ++ AppMessages.appVersion ++ "\"").toList := by
    decide +kernel
  obtain ⟨kindName, keyName, idName, hashName, versionName, flagsName⟩ := names
  change utf8EncodeText (Client.handshakeText _).toList = utf8EncodeText _
  apply congrArg utf8EncodeText
  simp only [stringify, announced, Handshake.fields, stringifyFields, textField, textsField,
    List.map_map, Function.comp_def, commas_eq] at flags ⊢
  rw [kindName, keyName, idName, hashName, versionName, flagsName, constants.1, constants.2, key,
    hash, named, flags]
  simp only [Client.handshakeText, Client.jsonMember, announcedMessage, String.toList_append,
    String.toList_intercalate]
  simp

end Announcement

/-- What a client announces comes through, and so does every handshake within the bounds. What
the decoder accepts is within the bounds, whoever wrote it, and is written back unchanged. -/
theorem handshake_codec :
    (∀ message : Handshake, message.Fits →
      decodeHandshake (encodeHandshake message) = .ok message) ∧
    (∀ (bytes : Bytes) (message : Handshake), decodeHandshake bytes = .ok message →
      message.Fits ∧ decodeHandshake (encodeHandshake message) = .ok message) ∧
    ∀ (sha256 : Bytes → Bytes) (localPublicKey : Bytes) (id : TransportProfileId),
      (∀ bytes, (sha256 bytes).length = 32) → localPublicKey.length = 32 →
        decodeHandshake (Client.encodeHandshake (announcedMessage sha256 localPublicKey id)) =
          .ok (announced sha256 localPublicKey id) := by
  refine ⟨fun message => decode_encode, ?_, ?_⟩
  · intro bytes message accepted
    have fits := accepted_fits accepted
    exact ⟨fits, decode_encode fits⟩
  · intro sha256 localPublicKey id sized key
    rw [client_encodes]
    exact decode_encode (announced_fits sized key id)

def voiceHandshake : Handshake :=
  ⟨utf16 "AQID", .voiceFirst, List.replicate 32 97, utf16 AppMessages.appVersion,
    [utf16 "room.profile.v1"]⟩

theorem voice_handshake_codec :
    voiceHandshake.Fits ∧
      decodeHandshake (encodeHandshake voiceHandshake) = .ok voiceHandshake := by
  have fits : voiceHandshake.Fits := by
    refine ⟨⟨?_, ?_⟩, ?_, ?_, ?_, ?_⟩
    · decide
    · decide
    · decide
    · decide +kernel
    · decide
    · intro flag member
      cases List.mem_singleton.mp member
      constructor <;> decide
  exact ⟨fits, handshake_codec.1 voiceHandshake fits⟩

end OnlyTwo.Handshakes
