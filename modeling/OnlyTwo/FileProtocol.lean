import OnlyTwo.Bytes

/-!
The file protocol of client/src/features/file/fileProtocol.ts and the `file.*`
messages of client/src/protocol/appMessages.ts. The decoder lets only
non-negative safe integers through, so the numbers of a message are naturals.
File names and media types come from outside and are kept as JavaScript holds
them, as UTF-16 code units; a `File` or `Blob` is its bytes.
-/

namespace OnlyTwo.FileProtocol

open Bytes

abbrev Utf16 := List UInt16

def utf16 (text : String) : Utf16 :=
  text.toList.flatMap fun char =>
    let code := char.toNat
    if code < 0x10000 then [UInt16.ofNat code]
    else [UInt16.ofNat (0xD800 + (code - 0x10000) / 0x400),
      UInt16.ofNat (0xDC00 + (code - 0x10000) % 0x400)]

/-- The code units `String.prototype.trim` removes. -/
def isJsSpace (unit : UInt16) : Bool :=
  let code := unit.toNat
  code ∈ [0x9, 0xA, 0xB, 0xC, 0xD, 0x20, 0xA0, 0x1680, 0x2028, 0x2029, 0x202F, 0x205F, 0x3000,
    0xFEFF] ∨ 0x2000 ≤ code ∧ code ≤ 0x200A

def trim (text : Utf16) : Utf16 :=
  ((text.dropWhile isJsSpace).reverse.dropWhile isJsSpace).reverse

def validateFilename (name : Utf16) : Utf16 :=
  let replaced := name.map fun unit =>
    if unit ∈ utf16 "\\/?%*:|\"<>" then UInt16.ofNat '_'.toNat else unit
  let clean := trim (replaced.take 180)
  if clean = [] then utf16 "download" else clean

/-- The part of `profile.files` that senders and receivers read. -/
structure FileLimits where
  smallBytes : Nat
  maxFileBytes : Nat
  maxMemoryReceiveBytes : Nat
  chunkBytes : Nat
  windowChunks : Nat
  maxRetries : Nat
  chunked : 0 < chunkBytes
  deriving DecidableEq

structure File where
  name : Utf16
  type : Utf16
  bytes : Bytes
  deriving DecidableEq, Repr

def File.size (file : File) : Nat := file.bytes.length

def File.slice (file : File) (start stop : Nat) : Bytes := (file.bytes.drop start).take (stop - start)

def validateOutboundFile (file : File) (files : FileLimits) : Except String Unit :=
  if file.size = 0 then .error "Empty files are not supported"
  else if files.maxFileBytes < file.size then .error "File is larger than this profile allows"
  else if 180 < file.name.length then .error "Filename is too long"
  else .ok ()

def defaultMime : Utf16 := utf16 "application/octet-stream"

/-- `Math.ceil(size / chunkSize)` for a positive chunk size. -/
def chunkCount (size chunkSize : Nat) : Nat := (size + chunkSize - 1) / chunkSize

/-- `value.toFixed(digits)` of an exact quotient; ties go up. -/
def toFixed (numerator denominator digits : Nat) : String :=
  let scaled := (2 * numerator * 10 ^ digits + denominator) / (2 * denominator)
  if digits = 0 then toString scaled
  else
    let fraction := toString (scaled % 10 ^ digits)
    toString (scaled / 10 ^ digits) ++ "." ++
      String.ofList (List.replicate (digits - fraction.length) '0') ++ fraction

/-- `formatBytes` of client/src/utils/bytes.ts. Division by 1024 is exact, so
the value stays the quotient of the bytes by a power of 1024. -/
def formatBytes (bytes : Nat) : String :=
  if bytes < 1024 then toString bytes ++ " B"
  else if bytes < 1024 ^ 2 then
    toFixed bytes 1024 (if 10 * 1024 ≤ bytes then 1 else 2) ++ " KB"
  else if bytes < 1024 ^ 3 then
    toFixed bytes (1024 ^ 2) (if 10 * 1024 ^ 2 ≤ bytes then 1 else 2) ++ " MB"
  else toFixed bytes (1024 ^ 3) (if 10 * 1024 ^ 3 ≤ bytes then 1 else 2) ++ " GB"

def encodeChunk (bytes : Bytes) : String := bytesToBase64Url bytes

def decodeChunk (value : String) : Option Bytes := base64UrlToBytes value

/-- The fields of a `file.offer`. -/
structure FileOffer where
  fileId : String
  name : Utf16
  mime : Utf16
  size : Nat
  chunkSize : Nat
  totalChunks : Nat
  sha256 : Option String
  deriving DecidableEq, Repr

inductive FileMessage where
  | offer (fields : FileOffer)
  | accept (fileId : String)
  | reject (fileId reason : String)
  | chunk (fileId : String) (index totalChunks : Nat) (data : String)
  | ack (fileId : String) (index : Nat)
  | nack (fileId : String) (index : Nat) (reason : String)
  | pause (fileId reason : String)
  | resume (fileId : String)
  | cancel (fileId reason : String)
  | complete (fileId : String) (sha256 : Option String)
  deriving DecidableEq, Repr

def FileMessage.fileId : FileMessage → String
  | .offer fields => fields.fileId
  | .accept fileId => fileId
  | .reject fileId _ => fileId
  | .chunk fileId _ _ _ => fileId
  | .ack fileId _ => fileId
  | .nack fileId _ _ => fileId
  | .pause fileId _ => fileId
  | .resume fileId => fileId
  | .cancel fileId _ => fileId
  | .complete fileId _ => fileId

inductive FileLane where
  | control
  | file
  deriving DecidableEq, Repr

/-- How an awaited `sendApp` or blob read ends: with a value or an exception. -/
abbrev Outcome := Except String Bool

section Chunks

/-- The bytes `sendChunk` reads for an index. -/
def chunkAt (bytes : Bytes) (chunkSize index : Nat) : Bytes :=
  (bytes.drop (index * chunkSize)).take
    (min (index * chunkSize + chunkSize) bytes.length - index * chunkSize)

theorem chunkAt_eq (bytes : Bytes) (chunkSize index : Nat) :
    chunkAt bytes chunkSize index = (bytes.drop (index * chunkSize)).take chunkSize := by
  rw [chunkAt]
  by_cases short : index * chunkSize + chunkSize ≤ bytes.length
  · rw [Nat.min_eq_left short]
    congr 1
    omega
  · rw [List.take_of_length_le, List.take_of_length_le]
    · rw [List.length_drop]
      omega
    · rw [List.length_drop]
      omega

theorem flatten_chunks (bytes : Bytes) (chunkSize count : Nat) :
    ((List.range count).map (chunkAt bytes chunkSize)).flatten = bytes.take (count * chunkSize) := by
  induction count with
  | zero => simp
  | succ count ih =>
      rw [List.range_succ, List.map_append, List.flatten_append, ih]
      simp only [List.map_cons, List.map_nil, List.flatten_cons, List.flatten_nil, List.append_nil,
        chunkAt_eq]
      rw [Nat.succ_mul, ← List.take_add]

theorem le_chunkCount_mul (size : Nat) {chunkSize : Nat} (positive : 0 < chunkSize) :
    size ≤ chunkCount size chunkSize * chunkSize := by
  have whole := Nat.div_add_mod (size + chunkSize - 1) chunkSize
  have rest := Nat.mod_lt (size + chunkSize - 1) positive
  rw [chunkCount, Nat.mul_comm]
  omega

theorem lt_of_lt_chunkCount {index size chunkSize : Nat} (positive : 0 < chunkSize)
    (inside : index < chunkCount size chunkSize) : index * chunkSize < size := by
  have reached := (Nat.le_div_iff_mul_le positive).mp inside
  rw [Nat.succ_mul] at reached
  omega

/-- All chunks in order are the file. -/
theorem flatten_all_chunks (bytes : Bytes) {chunkSize : Nat} (positive : 0 < chunkSize) :
    ((List.range (chunkCount bytes.length chunkSize)).map (chunkAt bytes chunkSize)).flatten =
      bytes := by
  rw [flatten_chunks, List.take_of_length_le (le_chunkCount_mul bytes.length positive)]

end Chunks

end OnlyTwo.FileProtocol
