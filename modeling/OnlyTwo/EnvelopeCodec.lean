import OnlyTwo.WireFrames

/-!
The envelope on the wire. The authenticated data and the frame write the same
header, so the first bytes of a frame are its authenticated data, and `unpackEnvelope` reads
every field from where `packEnvelope` put it. What `unpackEnvelope` accepts is
exactly what `packEnvelope` makes of an envelope whose fields fit their widths.
-/

namespace OnlyTwo.Transport

open Bytes OnlyTwo.Envelope AppMessages

def createAadContext (env : AadContext) (profile : TransportLimits) : AadContext where
  protocolVersion := profile.protocolVersion
  outerType := env.outerType
  flags := env.flags
  streamId := env.streamId
  sequence := env.sequence

section Fields

theorem getUint_skip (first rest : Bytes) {start : Nat} (width : Nat)
    (beyond : first.length ≤ start) :
    getUint (first ++ rest) start width = getUint rest (start - first.length) width := by
  simp [getUint, List.drop_append, List.drop_of_length_le beyond]

theorem getUint_next (size value : Nat) (rest : Bytes) {start : Nat} (width : Nat)
    (beyond : size ≤ start) :
    getUint (bigEndian size value ++ rest) start width = getUint rest (start - size) width := by
  rw [getUint_skip _ _ _ (by simpa using beyond), bigEndian_length]

theorem getUint_field (width value : Nat) (rest : Bytes) :
    getUint (bigEndian width value ++ rest) 0 width = value % 256 ^ width := by
  have field : ((bigEndian width value ++ rest).drop 0).take width = bigEndian width value :=
    List.take_left' (bigEndian_length width value)
  rw [getUint, field, read_bigEndian]

/-- Reading a field and storing it gives back its bytes. -/
theorem bigEndian_getUint {bytes : Bytes} {start width : Nat}
    (inside : start + width ≤ bytes.length) :
    bigEndian width (getUint bytes start width) = (bytes.drop start).take width := by
  have length : ((bytes.drop start).take width).length = width := by
    simp only [List.length_take, List.length_drop]
    omega
  have same := bigEndian_read ((bytes.drop start).take width)
  rw [length] at same
  exact same

theorem take_append_drop_add (bytes : Bytes) (start width : Nat) :
    (bytes.drop start).take width ++ bytes.drop (start + width) = bytes.drop start := by
  rw [← List.drop_drop]
  exact List.take_append_drop width (bytes.drop start)

end Fields

/-- The header up to the nonce. -/
def headerOf (context : AadContext) (counter : Nat) (nonce : Bytes) : Bytes :=
  [magicA, magicB] ++ bigEndian 1 context.protocolVersion ++ bigEndian 1 context.outerType.code ++
    bigEndian 1 context.flags ++ bigEndian 1 headerBytes ++ bigEndian 4 context.streamId ++
    bigEndian 4 context.sequence ++ bigEndian 8 counter ++ nonce

variable {profile : TransportLimits} {env : Envelope} {bytes frame : Bytes}

theorem headerOf_length (context : AadContext) (counter : Nat) {nonce : Bytes}
    (sized : nonce.length = nonceBytes) : (headerOf context counter nonce).length = aadBytes := by
  simp [headerOf, sized, nonceBytes, aadBytes]

theorem encodeAad_header (context : AadContext) (counter : Nat) {nonce : Bytes}
    (sized : nonce.length = nonceBytes) :
    encodeAad context counter nonce = .ok (headerOf context counter nonce) :=
  if_neg (not_not_intro sized)

/-- What `packEnvelope` checks. -/
structure Packs (env : Envelope) (profile : TransportLimits) : Prop where
  nonce : env.nonce.length = nonceBytes
  version : env.protocolVersion = profile.protocolVersion
  size : headerBytes + env.payload.length ≤ profile.maxFrameBytes

theorem packEnvelope_ok :
    packEnvelope env profile = .ok frame ↔ Packs env profile ∧
      frame = headerOf env.toAadContext env.counter env.nonce ++
        (bigEndian 4 env.payload.length ++ env.payload) := by
  unfold packEnvelope
  constructor
  · intro packed
    simp only at packed
    split at packed
    · cases packed
    · rename_i nonce
      split at packed
      · cases packed
      · rename_i version
        split at packed
        · cases packed
        · rename_i size
          refine ⟨⟨not_not.mp nonce, not_not.mp version, not_lt.mp size⟩, ?_⟩
          rw [← Except.ok.inj packed, headerOf, not_not.mp version]
          simp only [List.append_assoc]
  · rintro ⟨packs, rfl⟩
    simp only
    rw [if_neg (not_not_intro packs.nonce), if_neg (not_not_intro packs.version),
      if_neg (not_lt.mpr packs.size), headerOf, packs.version]
    simp only [List.append_assoc]

/-- What `unpackEnvelope` checks of a frame. -/
structure Unpacks (bytes : Bytes) (profile : TransportLimits) (outerType : OuterType) : Prop where
  long : headerBytes ≤ bytes.length
  size : bytes.length ≤ profile.maxFrameBytes
  magic : bytes.take 2 = [magicA, magicB]
  version : getUint bytes 2 1 = profile.protocolVersion
  kind : getUint bytes 3 1 = outerType.code
  flags : getUint bytes 4 1 = 0
  header : getUint bytes 5 1 = headerBytes
  payload : getUint bytes 34 4 + headerBytes = bytes.length

def fieldsOf (bytes : Bytes) (profile : TransportLimits) (outerType : OuterType) : Envelope where
  protocolVersion := profile.protocolVersion
  outerType := outerType
  flags := 0
  streamId := getUint bytes 6 4
  sequence := getUint bytes 10 4
  counter := getUint bytes 14 8
  nonce := (bytes.drop 22).take nonceBytes
  payload := bytes.drop headerBytes
  lane := laneOf outerType

theorem outerTypeOf_some {code : Nat} {outerType : OuterType} :
    outerTypeOf code = some outerType ↔ code = outerType.code := by
  constructor
  · intro known
    unfold outerTypeOf at known
    split at known <;> cases known <;> rfl
  · rintro rfl
    cases outerType <;> rfl

theorem take_two_magic (bytes : Bytes) :
    bytes.take 2 = [magicA, magicB] ↔ bytes[0]? = some magicA ∧ bytes[1]? = some magicB := by
  match bytes with
  | [] => simp
  | [first] => simp
  | first :: second :: rest => simp

theorem unpackEnvelope_ok :
    unpackEnvelope bytes profile = .ok env ↔
      ∃ outerType, Unpacks bytes profile outerType ∧ env = fieldsOf bytes profile outerType := by
  unfold unpackEnvelope
  constructor
  · intro unpacked
    simp only at unpacked
    split at unpacked
    · cases unpacked
    · rename_i long
      split at unpacked
      · cases unpacked
      · rename_i size
        split at unpacked
        · cases unpacked
        · rename_i magic
          split at unpacked
          · cases unpacked
          · rename_i version
            split at unpacked
            · cases unpacked
            · rename_i outerType kind
              split at unpacked
              · cases unpacked
              · rename_i flags
                split at unpacked
                · cases unpacked
                · rename_i header
                  split at unpacked
                  · cases unpacked
                  · rename_i payload
                    -- All eight checks have passed.
                    have known : bytes.take 2 = [magicA, magicB] :=
                      (take_two_magic bytes).mpr (by simpa [not_or] using magic)
                    refine ⟨outerType, ⟨not_lt.mp long, not_lt.mp size, known, not_not.mp version,
                      outerTypeOf_some.mp kind, not_not.mp flags, not_not.mp header,
                      not_not.mp payload⟩, ?_⟩
                    rw [← Except.ok.inj unpacked, fieldsOf, not_not.mp version, not_not.mp flags]
  · rintro ⟨outerType, unpacks, rfl⟩
    -- The two magic bytes are compared one by one in the code.
    obtain ⟨first, second⟩ := (take_two_magic bytes).mp unpacks.magic
    simp only [if_neg (not_lt.mpr unpacks.long), if_neg (not_lt.mpr unpacks.size), first, second,
      ne_eq, not_true_eq_false, or_self, if_false, unpacks.version, unpacks.flags, unpacks.header,
      unpacks.payload, outerTypeOf_some.mpr unpacks.kind, fieldsOf]

section AuthenticatedData

/-- The header that is read is the header that was written. -/
theorem headerOf_fields {outerType : OuterType} (unpacks : Unpacks bytes profile outerType) :
    headerOf (fieldsOf bytes profile outerType).toAadContext
      (fieldsOf bytes profile outerType).counter (fieldsOf bytes profile outerType).nonce =
        bytes.take aadBytes := by
  have long : 38 ≤ bytes.length := unpacks.long
  have field : ∀ start width, start + width ≤ bytes.length →
      bigEndian width (getUint bytes start width) = (bytes.drop start).take width :=
    fun _ _ => bigEndian_getUint
  have version := field 2 1 (by omega)
  have kind := field 3 1 (by omega)
  have flags := field 4 1 (by omega)
  have header := field 5 1 (by omega)
  have stream := field 6 4 (by omega)
  have sequence := field 10 4 (by omega)
  have counter := field 14 8 (by omega)
  rw [unpacks.version] at version
  rw [unpacks.kind] at kind
  rw [unpacks.flags] at flags
  rw [unpacks.header] at header
  simp only [headerOf, fieldsOf, version, kind, flags, header, stream, sequence, counter,
    ← unpacks.magic, List.append_assoc]
  have joined := take_append_drop_add (bytes.take aadBytes)
  have slice : ∀ start width, start + width ≤ aadBytes →
      (bytes.drop start).take width = ((bytes.take aadBytes).drop start).take width := by
    intro start width inside
    rw [List.drop_take, List.take_take, min_eq_left (by omega)]
  have first : bytes.take 2 = ((bytes.take aadBytes).drop 0).take 2 := slice 0 2 (by decide)
  rw [first, slice 2 1 (by decide), slice 3 1 (by decide), slice 4 1 (by decide),
    slice 5 1 (by decide), slice 6 4 (by decide), slice 10 4 (by decide), slice 14 8 (by decide),
    slice 22 nonceBytes (by decide)]
  have last : ((bytes.take aadBytes).drop 22).take nonceBytes = (bytes.take aadBytes).drop 22 := by
    apply List.take_of_length_le
    simp [aadBytes, nonceBytes]
  rw [last, joined 14 8, joined 10 4, joined 6 4, joined 5 1, joined 4 1, joined 3 1, joined 2 1,
    joined 0 2, List.drop_zero]

theorem packed_aad (packed : packEnvelope env profile = .ok frame) :
    encodeAad (createAadContext env.toAadContext profile) env.counter env.nonce =
      .ok (frame.take aadBytes) := by
  obtain ⟨packs, rfl⟩ := packEnvelope_ok.mp packed
  have same : createAadContext env.toAadContext profile = env.toAadContext := by
    rw [createAadContext, ← packs.version]
  rw [same, encodeAad_header _ _ packs.nonce,
    List.take_left' (headerOf_length _ _ packs.nonce)]

theorem unpacked_aad (unpacked : unpackEnvelope bytes profile = .ok env) :
    createAadContext env.toAadContext profile = env.toAadContext ∧
      encodeAad env.toAadContext env.counter env.nonce = .ok (bytes.take aadBytes) := by
  obtain ⟨outerType, unpacks, rfl⟩ := unpackEnvelope_ok.mp unpacked
  have sized : (fieldsOf bytes profile outerType).nonce.length = nonceBytes := by
    have long : 38 ≤ bytes.length := unpacks.long
    simp only [fieldsOf, nonceBytes, List.length_take, List.length_drop]
    omega
  exact ⟨rfl, by rw [encodeAad_header _ _ sized, headerOf_fields unpacks]⟩

/-- The authenticated data is the header: of the frame that is packed, and of the
frame that is unpacked; so it tells accepted frames apart that differ in their
header, and sender and receiver agree on it. -/
theorem aad_is_header :
    (∀ env profile frame, packEnvelope env profile = .ok frame →
      encodeAad (createAadContext env.toAadContext profile) env.counter env.nonce =
        .ok (frame.take aadBytes)) ∧
    (∀ bytes profile env, unpackEnvelope bytes profile = .ok env →
      createAadContext env.toAadContext profile = env.toAadContext ∧
      encodeAad env.toAadContext env.counter env.nonce = .ok (bytes.take aadBytes)) ∧
    (∀ first second profile other env changed, unpackEnvelope first profile = .ok env →
      unpackEnvelope second other = .ok changed → first.take aadBytes ≠ second.take aadBytes →
      encodeAad (createAadContext env.toAadContext profile) env.counter env.nonce ≠
        encodeAad (createAadContext changed.toAadContext other) changed.counter changed.nonce) ∧
    ∀ env profile other frame received, packEnvelope env profile = .ok frame →
      unpackEnvelope frame other = .ok received →
      encodeAad (createAadContext env.toAadContext profile) env.counter env.nonce =
        encodeAad (createAadContext received.toAadContext other) received.counter
          received.nonce := by
  refine ⟨fun _ _ _ => packed_aad, fun _ _ _ => unpacked_aad, ?_, ?_⟩
  · intro first second profile other env changed read readChanged differ same
    obtain ⟨context, aad⟩ := unpacked_aad read
    obtain ⟨contextChanged, aadChanged⟩ := unpacked_aad readChanged
    rw [context, contextChanged, aad, aadChanged] at same
    exact differ (Except.ok.inj same)
  · intro env profile other frame received packed read
    obtain ⟨context, aad⟩ := unpacked_aad read
    rw [packed_aad packed, context, aad]

end AuthenticatedData

section RoundTrip

/-- The fields of an envelope that fits the wire. -/
structure Fits (env : Envelope) (profile : TransportLimits) : Prop extends Packs env profile where
  flags : env.flags = 0
  streamId : env.streamId < 2 ^ 32
  sequence : env.sequence < 2 ^ 32
  counter : env.counter < 2 ^ 64

/-- The version and every payload length of the profile fit their fields. -/
structure Encodable (profile : TransportLimits) : Prop where
  version : profile.protocolVersion < 256
  size : profile.maxFrameBytes < headerBytes + 2 ^ 32

theorem transportLimits_encodable (id : TransportProfileId) : Encodable (transportLimits id) := by
  constructor <;> cases id <;> decide

theorem code_lt (outerType : OuterType) : outerType.code < 256 := by
  cases outerType <;> decide

/-- The frame with its fields one after another. -/
def layout (env : Envelope) : Bytes :=
  [magicA, magicB] ++ (bigEndian 1 env.protocolVersion ++ (bigEndian 1 env.outerType.code ++
    (bigEndian 1 env.flags ++ (bigEndian 1 headerBytes ++ (bigEndian 4 env.streamId ++
    (bigEndian 4 env.sequence ++ (bigEndian 8 env.counter ++ (env.nonce ++
    (bigEndian 4 env.payload.length ++ env.payload)))))))))

theorem layout_eq (env : Envelope) :
    headerOf env.toAadContext env.counter env.nonce ++
      (bigEndian 4 env.payload.length ++ env.payload) = layout env := by
  simp only [headerOf, layout, List.append_assoc]

theorem layout_length (sized : env.nonce.length = nonceBytes) :
    (layout env).length = headerBytes + env.payload.length := by
  rw [← layout_eq, List.length_append, headerOf_length _ _ sized, List.length_append,
    bigEndian_length, aadBytes, headerBytes]
  omega

theorem getUint_magic (rest : Bytes) {start : Nat} (width : Nat) (beyond : 2 ≤ start) :
    getUint ([magicA, magicB] ++ rest) start width = getUint rest (start - 2) width :=
  getUint_skip [magicA, magicB] rest width beyond

/-- Where the fields of a frame are. -/
theorem layout_fields (sized : env.nonce.length = nonceBytes) :
    getUint (layout env) 2 1 = env.protocolVersion % 256 ∧
    getUint (layout env) 3 1 = env.outerType.code % 256 ∧
    getUint (layout env) 4 1 = env.flags % 256 ∧
    getUint (layout env) 5 1 = headerBytes ∧
    getUint (layout env) 6 4 = env.streamId % 256 ^ 4 ∧
    getUint (layout env) 10 4 = env.sequence % 256 ^ 4 ∧
    getUint (layout env) 14 8 = env.counter % 256 ^ 8 ∧
    getUint (layout env) 34 4 = env.payload.length % 256 ^ 4 := by
  have nonce : ∀ rest start width, 12 ≤ start →
      getUint (env.nonce ++ rest) start width = getUint rest (start - 12) width := by
    intro rest start width beyond
    rw [getUint_skip _ _ _ (by rw [sized]; exact beyond), sized]
    rfl
  refine ⟨?_, ?_, ?_, ?_, ?_, ?_, ?_, ?_⟩ <;>
    simp (disch := decide) only [layout, getUint_magic, getUint_next, nonce, Nat.reduceSub,
      getUint_field, pow_one]
  rfl

theorem layout_nonce (sized : env.nonce.length = nonceBytes) :
    ((layout env).drop 22).take nonceBytes = env.nonce := by
  have skipped : (layout env).drop 22 =
      env.nonce ++ (bigEndian 4 env.payload.length ++ env.payload) := by
    have front : layout env = (headerOf env.toAadContext env.counter []) ++
        (env.nonce ++ (bigEndian 4 env.payload.length ++ env.payload)) := by
      simp only [headerOf, layout, List.append_assoc, List.append_nil]
    rw [front]
    exact List.drop_left' (by simp [headerOf])
  rw [skipped]
  exact List.take_left' sized

theorem layout_payload (sized : env.nonce.length = nonceBytes) :
    (layout env).drop headerBytes = env.payload := by
  have front : layout env = (headerOf env.toAadContext env.counter env.nonce ++
      bigEndian 4 env.payload.length) ++ env.payload := by
    rw [← layout_eq, List.append_assoc]
  rw [front]
  apply List.drop_left'
  rw [List.length_append, headerOf_length _ _ sized, bigEndian_length]
  rfl

/-- Every field is read from where it was written. -/
theorem unpack_pack (encodable : Encodable profile) (fits : Fits env profile) :
    packEnvelope env profile = .ok (layout env) ∧
      unpackEnvelope (layout env) profile = .ok { env with lane := laneOf env.outerType } := by
  refine ⟨packEnvelope_ok.mpr ⟨fits.toPacks, (layout_eq env).symm⟩, ?_⟩
  have sized := fits.nonce
  have byte : env.protocolVersion < 256 := fits.version ▸ encodable.version
  have size := fits.size
  have limit := encodable.size
  have short : env.payload.length < 256 ^ 4 := by omega
  have total := layout_length sized
  obtain ⟨version, kind, flags, header, stream, sequence, counter, payload⟩ := layout_fields sized
  rw [Nat.mod_eq_of_lt byte] at version
  rw [Nat.mod_eq_of_lt (code_lt _)] at kind
  rw [fits.flags] at flags
  rw [Nat.mod_eq_of_lt (by simpa using fits.streamId)] at stream
  rw [Nat.mod_eq_of_lt (by simpa using fits.sequence)] at sequence
  rw [Nat.mod_eq_of_lt (by simpa using fits.counter)] at counter
  rw [Nat.mod_eq_of_lt short] at payload
  have unpacks : Unpacks (layout env) profile env.outerType := by
    refine ⟨?_, ?_, rfl, version.trans fits.version, kind, flags, header, ?_⟩
    · omega
    · omega
    · omega
  refine unpackEnvelope_ok.mpr ⟨env.outerType, unpacks, ?_⟩
  rw [fieldsOf, stream, sequence, counter, layout_nonce sized, layout_payload sized,
    ← fits.version, ← fits.flags]

/-- What is accepted is the packing of what is returned. -/
theorem pack_unpack (unpacked : unpackEnvelope bytes profile = .ok env) :
    packEnvelope env profile = .ok bytes ∧ Fits env profile := by
  obtain ⟨outerType, unpacks, rfl⟩ := unpackEnvelope_ok.mp unpacked
  have long : 38 ≤ bytes.length := unpacks.long
  have payload := unpacks.payload
  have size := unpacks.size
  have left : (fieldsOf bytes profile outerType).payload.length = bytes.length - 38 := by
    simp [fieldsOf, headerBytes]
  have bound : ∀ start width, getUint bytes start width < 256 ^ width := by
    intro start width
    refine lt_of_lt_of_le (readBigEndian_lt _) (Nat.pow_le_pow_right (by decide) ?_)
    exact List.length_take_le _ _
  have packs : Packs (fieldsOf bytes profile outerType) profile := by
    refine ⟨?_, rfl, ?_⟩
    · simp only [fieldsOf, nonceBytes, List.length_take, List.length_drop]
      omega
    · rw [left, headerBytes]
      omega
  refine ⟨packEnvelope_ok.mpr ⟨packs, ?_⟩, ⟨packs, rfl, bound 6 4, bound 10 4, bound 14 8⟩⟩
  have stored : bigEndian 4 (fieldsOf bytes profile outerType).payload.length =
      (bytes.drop 34).take 4 := by
    rw [← bigEndian_getUint (by omega), left]
    congr 1
    rw [headerBytes] at payload
    omega
  rw [headerOf_fields unpacks, stored]
  calc bytes = bytes.take aadBytes ++ bytes.drop aadBytes := (List.take_append_drop _ _).symm
    _ = bytes.take aadBytes ++ ((bytes.drop 34).take 4 ++ bytes.drop (34 + 4)) := by
        rw [take_append_drop_add]
        rfl

/-- Under every profile of the client, and under any whose version and sizes the
header can hold, unpacking inverts packing on every envelope that fits, packing
inverts unpacking on every accepted frame, and the accepted frames are exactly
the packed ones. -/
theorem envelope_codec :
    (∀ id, Encodable (transportLimits id)) ∧
    ∀ profile, Encodable profile →
      (∀ env, Fits env profile →
        ∃ frame, packEnvelope env profile = .ok frame ∧
          unpackEnvelope frame profile = .ok { env with lane := laneOf env.outerType }) ∧
      (∀ bytes env, unpackEnvelope bytes profile = .ok env →
        packEnvelope env profile = .ok bytes) ∧
      ∀ bytes, (∃ env, unpackEnvelope bytes profile = .ok env) ↔
        ∃ env, Fits env profile ∧ packEnvelope env profile = .ok bytes := by
  refine ⟨transportLimits_encodable, fun profile encodable =>
    ⟨fun env fits => ⟨layout env, unpack_pack encodable fits⟩,
      fun bytes env read => (pack_unpack read).1, fun bytes => ⟨?_, ?_⟩⟩⟩
  · rintro ⟨env, read⟩
    exact ⟨env, (pack_unpack read).2, (pack_unpack read).1⟩
  · rintro ⟨env, fits, packed⟩
    obtain ⟨same, read⟩ := unpack_pack encodable fits
    rw [packed] at same
    rw [Except.ok.inj same]
    exact ⟨_, read⟩

/-- A handshake frame of the balanced profile comes back as it was sent. -/
example : unpackEnvelope (layout
    { protocolVersion := 2, outerType := .handshake, flags := 0, streamId := 0, sequence := 7,
      counter := 0, nonce := List.replicate 12 9, payload := [1, 2, 3], lane := .control })
    (transportLimits .balanced) = .ok
      { protocolVersion := 2, outerType := .handshake, flags := 0, streamId := 0, sequence := 7,
        counter := 0, nonce := List.replicate 12 9, payload := [1, 2, 3], lane := .control } := by
  decide +kernel

end RoundTrip

end OnlyTwo.Transport
