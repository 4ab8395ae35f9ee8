import OnlyTwo.Bytes

/-!
WebSocket frames on the server: `readFrame` and `writeMessageLocked` of internal/ws/raw.go,
on a 64-bit platform. The reader is the bytes that still arrive and what it answers after
the last of them; memory is not bounded.
-/

namespace OnlyTwo.RawSocket

@[match_pattern] abbrev wsTextMessage : Nat := 1
@[match_pattern] abbrev wsBinaryMessage : Nat := 2
@[match_pattern] abbrev wsCloseMessage : Nat := 8
@[match_pattern] abbrev wsPingMessage : Nat := 9
@[match_pattern] abbrev wsPongMessage : Nat := 10

def maxInt : Nat := 2 ^ 63 - 1

inductive ReadError where
  | eof
  | unexpectedEof
  | invalid (text : String)
  | network (text : String)
  deriving DecidableEq

structure Reader where
  bytes : Bytes
  ending : ReadError
  deriving DecidableEq

/-- `io.ReadFull`. -/
def readFull (count : Nat) (reader : Reader) : Except ReadError (Bytes × Reader) :=
  if count ≤ reader.bytes.length then
    .ok (reader.bytes.take count, { reader with bytes := reader.bytes.drop count })
  else if reader.ending = .eof ∧ reader.bytes ≠ [] then .error .unexpectedEof
  else .error reader.ending

def validOpcode (opcode : Nat) : Bool :=
  match opcode with
  | wsTextMessage | wsBinaryMessage | wsCloseMessage | wsPingMessage | wsPongMessage => true
  | _ => false

/-- The checks of the first two bytes, which yield the opcode. -/
def readOpcode (first second : UInt8) : Except ReadError Nat :=
  if first &&& 0x70 ≠ 0 then .error (.invalid "websocket RSV bits are not supported")
  else
    let opcode := (first &&& 0x0f).toNat
    if second &&& 0x80 = 0 then .error (.invalid "client websocket frames must be masked")
    else if validOpcode opcode = false then .error (.invalid "unsupported websocket opcode")
    else if first &&& 0x80 = 0 then
      .error (.invalid "fragmented websocket frames are not supported")
    else .ok opcode

/-- The length in the second byte, or in the two or eight bytes after it. -/
def readLength (second : UInt8) (reader : Reader) : Except ReadError (Nat × Reader) :=
  let length := (second &&& 0x7f).toNat
  if length = 126 then
    match readFull 2 reader with
    | .error error => .error error
    | .ok (ext, reader) => .ok (Bytes.readBigEndian ext, reader)
  else if length = 127 then
    match readFull 8 reader with
    | .error error => .error error
    | .ok (ext, reader) =>
        let length := Bytes.readBigEndian ext
        if length &&& 1 <<< 63 ≠ 0 then .error (.invalid "invalid websocket frame length")
        else .ok (length, reader)
  else .ok (length, reader)

def checkLength (limit : Int) (opcode length : Nat) : Except ReadError Unit :=
  if wsCloseMessage ≤ opcode ∧ 125 < length then
    .error (.invalid "websocket control frame too large")
  else if opcode = wsCloseMessage ∧ length = 1 then
    .error (.invalid "invalid websocket close payload")
  else if 0 < limit ∧ limit < length then .error (.invalid "websocket frame too large")
  else if maxInt < length then .error (.invalid "websocket frame too large")
  else .ok ()

/-- The loop over the payload, which masks and unmasks alike. -/
def applyMask (mask payload : Bytes) : Bytes :=
  payload.mapIdx fun i byte => byte ^^^ mask.getD (i % 4) 0

def readPayload (length : Nat) (reader : Reader) : Except ReadError (Bytes × Reader) :=
  match readFull 4 reader with
  | .error error => .error error
  | .ok (mask, reader) =>
      match readFull length reader with
      | .error error => .error error
      | .ok (payload, reader) => .ok (applyMask mask payload, reader)

def readFrame (limit : Int) (reader : Reader) : Except ReadError (Nat × Bytes × Reader) :=
  match readFull 2 reader with
  | .error error => .error error
  | .ok (hdr, reader) =>
      match readOpcode (hdr.getD 0 0) (hdr.getD 1 0) with
      | .error error => .error error
      | .ok opcode =>
          match readLength (hdr.getD 1 0) reader with
          | .error error => .error error
          | .ok (length, reader) =>
              match checkLength limit opcode length with
              | .error error => .error error
              | .ok () => (readPayload length reader).map fun read => (opcode, read)

def frameHeader (opcode length : Nat) : Bytes :=
  let first := 0x80 ||| UInt8.ofNat (opcode &&& 0x0f)
  if length < 126 then [first, UInt8.ofNat length]
  else if length ≤ 0xffff then first :: 126 :: Bytes.bigEndian 2 length
  else first :: 127 :: Bytes.bigEndian 8 length

/-- The writes of `writeMessageLocked`. -/
def writeMessageLocked (opcode : Nat) (payload : Bytes) : List Bytes :=
  [frameHeader opcode payload.length, payload]

def setMaskBit : Bytes → Bytes
  | first :: second :: rest => first :: (second ||| 0x80) :: rest
  | short => short

/-- A frame that a client may send. -/
structure ClientFrame where
  opcode : Nat
  payload : Bytes
  mask : Bytes
  masked : mask.length = 4

/-- What `writeMessageLocked` writes, with the mask bit, the mask and the masked payload. -/
def ClientFrame.bytes (frame : ClientFrame) : Bytes :=
  match writeMessageLocked frame.opcode frame.payload with
  | [header, payload] => setMaskBit header ++ frame.mask ++ applyMask frame.mask payload
  | _ => []

/-- What the checks of `readFrame` leave; no slice is longer than `maxInt`. -/
structure Allowed (limit : Int) (opcode : Nat) (payload : Bytes) : Prop where
  known : validOpcode opcode = true
  control : wsCloseMessage ≤ opcode → payload.length ≤ 125
  close : opcode = wsCloseMessage → payload.length ≠ 1
  within : 0 < limit → (payload.length : Int) ≤ limit
  counted : payload.length ≤ maxInt

instance (limit : Int) (opcode : Nat) (payload : Bytes) :
    Decidable (Allowed limit opcode payload) :=
  decidable_of_iff (validOpcode opcode = true ∧ (wsCloseMessage ≤ opcode → payload.length ≤ 125) ∧
      (opcode = wsCloseMessage → payload.length ≠ 1) ∧
      (0 < limit → (payload.length : Int) ≤ limit) ∧ payload.length ≤ maxInt)
    ⟨fun ⟨known, control, close, within, counted⟩ => ⟨known, control, close, within, counted⟩,
      fun allowed => ⟨allowed.known, allowed.control, allowed.close, allowed.within,
        allowed.counted⟩⟩

section Masks

@[simp] theorem applyMask_length (mask payload : Bytes) :
    (applyMask mask payload).length = payload.length := by
  simp [applyMask]

theorem applyMask_twice (mask payload : Bytes) :
    applyMask mask (applyMask mask payload) = payload := by
  have cancels (byte key : UInt8) : byte ^^^ key ^^^ key = byte := by
    rw [UInt8.xor_assoc, UInt8.xor_self, UInt8.xor_zero]
  apply List.ext_getElem
  · simp
  · intro place _ _
    simp [applyMask, cancels]

end Masks

section Reading
variable {count length : Nat} {reader rest : Reader} {taken : Bytes}

theorem map_ok {First Second : Type} {read : Except ReadError First} {change : First → Second}
    {result : Second} (accepted : read.map change = .ok result) :
    ∃ value, read = .ok value ∧ change value = result := by
  cases read with
  | error => cases accepted
  | ok value => exact ⟨value, rfl, Except.ok.inj accepted⟩

theorem readFull_append (bytes following : Bytes) (ending : ReadError) :
    readFull bytes.length ⟨bytes ++ following, ending⟩ = .ok (bytes, ⟨following, ending⟩) := by
  simp [readFull]

theorem readFull_ok (read : readFull count reader = .ok (taken, rest)) :
    reader.bytes = taken ++ rest.bytes ∧ taken.length = count ∧ rest.ending = reader.ending := by
  simp only [readFull] at read
  split at read
  · rename_i enough
    cases read
    exact ⟨(List.take_append_drop count reader.bytes).symm, List.length_take_of_le enough, rfl⟩
  · split at read <;> cases read

end Reading

section Header
variable {limit : Int} {opcode length : Nat}

/-- The first byte of a frame with a known opcode. -/
theorem first_bits (known : validOpcode opcode = true) :
    (0x80 ||| UInt8.ofNat (opcode &&& 0x0f)) &&& 0x70 = 0 ∧
      ((0x80 ||| UInt8.ofNat (opcode &&& 0x0f)) &&& 0x0f).toNat = opcode ∧
      (0x80 ||| UInt8.ofNat (opcode &&& 0x0f)) &&& 0x80 ≠ 0 := by
  unfold validOpcode at known
  split at known
  · decide
  · decide
  · decide
  · decide
  · decide
  · cases known

/-- The second byte with the mask bit, whatever its seven bits say. -/
theorem second_bits (small : length < 128) :
    ((UInt8.ofNat length ||| 0x80) &&& 0x7f).toNat = length ∧
      (UInt8.ofNat length ||| 0x80) &&& 0x80 ≠ 0 := by
  have all : ∀ value : Fin 128, ((UInt8.ofNat value ||| 0x80) &&& 0x7f).toNat = value ∧
      (UInt8.ofNat value ||| 0x80) &&& 0x80 ≠ 0 := by decide
  exact all ⟨length, small⟩

theorem readOpcode_written (known : validOpcode opcode = true) (small : length < 128) :
    readOpcode (0x80 ||| UInt8.ofNat (opcode &&& 0x0f)) (UInt8.ofNat length ||| 0x80) =
      .ok opcode := by
  obtain ⟨clear, named, whole⟩ := first_bits known
  have masked := (second_bits small).2
  rw [readOpcode, if_neg (not_not.mpr clear)]
  simp only [named]
  rw [if_neg masked, if_neg (by simp [known]), if_neg whole]

theorem checkLength_allowed {payload : Bytes} (allowed : Allowed limit opcode payload) :
    checkLength limit opcode payload.length = .ok () := by
  have control := allowed.control
  have close := allowed.close
  have within := allowed.within
  have counted := allowed.counted
  simp only [checkLength]
  split
  · omega
  · split
    · omega
    · split
      · omega
      · split
        · omega
        · rfl

/-- The top bit of a length that a signed integer holds. -/
theorem top_bit_clear (small : length < 2 ^ 63) : length &&& 1 <<< 63 = 0 := by
  apply Nat.eq_of_testBit_eq
  intro place
  rw [Nat.one_shiftLeft, Nat.testBit_and, Nat.testBit_two_pow, Nat.zero_testBit]
  by_cases top : 63 = place
  · subst top
    rw [Nat.testBit_lt_two_pow small, Bool.false_and]
  · simp [top]

theorem readLength_short (short : length < 126) (reader : Reader) :
    readLength (UInt8.ofNat length ||| 0x80) reader = .ok (length, reader) := by
  have bits := (second_bits (Nat.lt_trans short (by decide))).1
  simp only [readLength, bits]
  rw [if_neg (by omega), if_neg (by omega)]

theorem readLength_two (counted : length ≤ 0xffff) (following : Bytes) (ending : ReadError) :
    readLength (UInt8.ofNat 126 ||| 0x80) ⟨Bytes.bigEndian 2 length ++ following, ending⟩ =
      .ok (length, ⟨following, ending⟩) := by
  have read := readFull_append (Bytes.bigEndian 2 length) following ending
  rw [Bytes.bigEndian_length] at read
  have bits := (second_bits (show 126 < 128 by decide)).1
  have fits : length < 256 ^ 2 := Nat.lt_succ_of_le counted
  simp only [readLength, bits, if_true, read]
  rw [Bytes.read_bigEndian, Nat.mod_eq_of_lt fits]

theorem readLength_eight (counted : length ≤ maxInt) (following : Bytes) (ending : ReadError) :
    readLength (UInt8.ofNat 127 ||| 0x80) ⟨Bytes.bigEndian 8 length ++ following, ending⟩ =
      .ok (length, ⟨following, ending⟩) := by
  have read := readFull_append (Bytes.bigEndian 8 length) following ending
  rw [Bytes.bigEndian_length] at read
  have bits := (second_bits (show 127 < 128 by decide)).1
  have signed : length < 2 ^ 63 := Nat.lt_of_le_of_lt counted (by decide)
  have fits : length < 256 ^ 8 := Nat.lt_trans signed (by decide)
  simp only [readLength, bits, read]
  rw [if_neg (by decide), if_pos trivial, Bytes.read_bigEndian, Nat.mod_eq_of_lt fits,
    if_neg (not_not.mpr (top_bit_clear signed))]

/-- One of the three encodings: seven bits, and the bytes from which the reader gets the
length back. -/
theorem frameHeader_cases (opcode : Nat) (counted : length ≤ maxInt) :
    ∃ bits ext, bits < 128 ∧
      frameHeader opcode length =
        (0x80 ||| UInt8.ofNat (opcode &&& 0x0f)) :: UInt8.ofNat bits :: ext ∧
      ∀ following ending, readLength (UInt8.ofNat bits ||| 0x80) ⟨ext ++ following, ending⟩ =
        .ok (length, ⟨following, ending⟩) := by
  by_cases short : length < 126
  · exact ⟨length, [], by omega, by simp [frameHeader, short],
      fun following ending => readLength_short short ⟨following, ending⟩⟩
  · by_cases two : length ≤ 0xffff
    · exact ⟨126, Bytes.bigEndian 2 length, by omega, by simp [frameHeader, short, two],
        readLength_two two⟩
    · exact ⟨127, Bytes.bigEndian 8 length, by omega, by simp [frameHeader, short, two],
        readLength_eight counted⟩

end Header

section RoundTrip
variable {limit : Int}

theorem readPayload_masked (frame : ClientFrame) (following : Bytes) (ending : ReadError) :
    readPayload frame.payload.length
      ⟨frame.mask ++ (applyMask frame.mask frame.payload ++ following), ending⟩ =
        .ok (frame.payload, ⟨following, ending⟩) := by
  have first := readFull_append frame.mask
    (applyMask frame.mask frame.payload ++ following) ending
  have second := readFull_append (applyMask frame.mask frame.payload) following ending
  rw [frame.masked] at first
  rw [applyMask_length] at second
  simp only [readPayload, first, second, applyMask_twice]

/-- A frame that a client sends is read back, up to its last byte. -/
theorem readFrame_bytes (frame : ClientFrame)
    (allowed : Allowed limit frame.opcode frame.payload) (following : Bytes)
    (ending : ReadError) :
    readFrame limit ⟨frame.bytes ++ following, ending⟩ =
      .ok (frame.opcode, frame.payload, ⟨following, ending⟩) := by
  obtain ⟨bits, ext, small, header, measured⟩ := frameHeader_cases frame.opcode allowed.counted
  let first := 0x80 ||| UInt8.ofNat (frame.opcode &&& 0x0f)
  let second := UInt8.ofNat bits ||| 0x80
  let body := frame.mask ++ (applyMask frame.mask frame.payload ++ following)
  have whole : frame.bytes ++ following = [first, second] ++ (ext ++ body) := by
    simp [ClientFrame.bytes, writeMessageLocked, header, setMaskBit, first, second, body]
  have opened : readFull 2 ⟨[first, second] ++ (ext ++ body), ending⟩ =
      .ok ([first, second], ⟨ext ++ body, ending⟩) :=
    readFull_append [first, second] (ext ++ body) ending
  have named : readOpcode first second = .ok frame.opcode :=
    readOpcode_written allowed.known small
  have length : readLength second ⟨ext ++ body, ending⟩ =
      .ok (frame.payload.length, ⟨body, ending⟩) := measured body ending
  have fits := checkLength_allowed allowed
  have read := readPayload_masked frame following ending
  rw [whole, readFrame, opened]
  simp only [List.getD_cons_zero, List.getD_cons_succ, named, length, fits]
  rw [read]
  rfl

end RoundTrip

/-- What `readFrame` has seen of a frame that it accepts. The length may take more bytes
than it needs. -/
structure Seen (limit : Int) (reader : Reader) (opcode : Nat) (payload : Bytes)
    (rest : Reader) : Prop where
  allowed : Allowed limit opcode payload
  ending : rest.ending = reader.ending
  bytes : ∃ first second ext mask,
    reader.bytes = first :: second :: ext ++ mask ++ applyMask mask payload ++ rest.bytes ∧
    first &&& 0x80 ≠ 0 ∧ first &&& 0x70 = 0 ∧ (first &&& 0x0f).toNat = opcode ∧
    second &&& 0x80 ≠ 0 ∧ mask.length = 4

section Acceptance
variable {limit : Int} {opcode length : Nat} {reader rest : Reader} {payload : Bytes}

theorem readOpcode_ok {first second : UInt8} (accepted : readOpcode first second = .ok opcode) :
    first &&& 0x80 ≠ 0 ∧ first &&& 0x70 = 0 ∧ (first &&& 0x0f).toNat = opcode ∧
      second &&& 0x80 ≠ 0 ∧ validOpcode opcode = true := by
  simp only [readOpcode] at accepted
  split at accepted
  · cases accepted
  · rename_i clear
    split at accepted
    · cases accepted
    · rename_i masked
      split at accepted
      · cases accepted
      · rename_i known
        split at accepted
        · cases accepted
        · rename_i whole
          cases accepted
          exact ⟨whole, not_not.mp clear, rfl, masked, Bool.eq_true_of_not_eq_false known⟩

theorem readLength_ok {second : UInt8} (accepted : readLength second reader = .ok (length, rest)) :
    ∃ ext, reader.bytes = ext ++ rest.bytes ∧ rest.ending = reader.ending := by
  simp only [readLength] at accepted
  split at accepted
  · split at accepted
    · cases accepted
    · rename_i ext after read
      obtain ⟨bytes, _, ending⟩ := readFull_ok read
      cases accepted
      exact ⟨ext, bytes, ending⟩
  · split at accepted
    · split at accepted
      · cases accepted
      · rename_i ext after read
        obtain ⟨bytes, _, ending⟩ := readFull_ok read
        split at accepted <;> cases accepted
        exact ⟨ext, bytes, ending⟩
    · cases accepted
      exact ⟨[], rfl, rfl⟩

theorem checkLength_ok (known : validOpcode opcode = true) (size : payload.length = length)
    (accepted : checkLength limit opcode length = .ok ()) : Allowed limit opcode payload := by
  subst size
  simp only [checkLength] at accepted
  split at accepted
  · cases accepted
  · split at accepted
    · cases accepted
    · split at accepted
      · cases accepted
      · split at accepted
        · cases accepted
        · constructor <;> first | exact known | omega

theorem readPayload_ok (accepted : readPayload length reader = .ok (payload, rest)) :
    ∃ mask, reader.bytes = mask ++ applyMask mask payload ++ rest.bytes ∧ mask.length = 4 ∧
      payload.length = length ∧ rest.ending = reader.ending := by
  simp only [readPayload] at accepted
  split at accepted
  · cases accepted
  · rename_i mask masked read
    obtain ⟨first, four, kept⟩ := readFull_ok read
    split at accepted
    · cases accepted
    · rename_i sent after received
      obtain ⟨second, size, ending⟩ := readFull_ok received
      cases accepted
      refine ⟨mask, ?_, four, ?_, ending.trans kept⟩
      · rw [applyMask_twice, first, second, List.append_assoc]
      · rw [applyMask_length, size]

theorem readFrame_ok (accepted : readFrame limit reader = .ok (opcode, payload, rest)) :
    Seen limit reader opcode payload rest := by
  simp only [readFrame] at accepted
  split at accepted
  · cases accepted
  rename_i hdr opened read
  obtain ⟨start, two, firstEnding⟩ := readFull_ok read
  obtain ⟨first, second, rfl⟩ := List.length_eq_two.mp two
  split at accepted
  · cases accepted
  rename_i code named
  obtain ⟨whole, clear, nibble, masked, known⟩ := readOpcode_ok named
  split at accepted
  · cases accepted
  rename_i size measured sized
  obtain ⟨ext, extended, secondEnding⟩ := readLength_ok sized
  split at accepted
  · cases accepted
  rename_i fits
  obtain ⟨⟨body, final⟩, received, same⟩ := map_ok accepted
  cases same
  obtain ⟨mask, last, four, counted, lastEnding⟩ := readPayload_ok received
  -- The four parts were read one behind the other, so they make up the frame.
  refine ⟨checkLength_ok known counted fits, lastEnding.trans (secondEnding.trans firstEnding),
    first, second, ext, mask, ?_, whole, clear, nibble, masked, four⟩
  rw [start, extended, last]
  simp

/-- A frame takes some bytes. -/
theorem readFrame_shrinks (accepted : readFrame limit reader = .ok (opcode, payload, rest)) :
    rest.bytes.length < reader.bytes.length := by
  obtain ⟨first, second, ext, mask, bytes, _⟩ := (readFrame_ok accepted).bytes
  rw [bytes]
  simp only [List.length_append, List.length_cons]
  omega

end Acceptance

end OnlyTwo.RawSocket
