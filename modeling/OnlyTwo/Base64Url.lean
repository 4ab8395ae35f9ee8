import OnlyTwo.JsonRoundTrip
import OnlyTwo.SessionCalls

/-!
`bytesToBase64Url` and `base64UrlToBytes` of client/src/utils/bytes.ts on strings of UTF-16 code
units. The bytes are gathered into a binary string slice by slice, `btoa` and `atob` are handed
code units and may throw, and the padding is made up from the length. `Bytes` has the same text
as characters. Since no two byte strings share a text, `handleHandshake` might as well compare
the keys.
-/

namespace OnlyTwo.Base64Url

open FileProtocol (Utf16 utf16)
open Bytes (encodeSextet sextets sextet_lt)

section Source

def code (char : Char) : UInt16 := UInt16.ofNat char.toNat

/-- `String.fromCharCode(...bytes)`. -/
def fromCharCode (bytes : Bytes) : Utf16 := bytes.map UInt8.toUInt16

/-- `charCodeAt` of an index inside of the string. -/
def charCodeAt (text : Utf16) (index : Nat) : UInt16 := text.getD index 0

def subarray (bytes : Bytes) (start stop : Nat) : Bytes := (bytes.drop start).take (stop - start)

def replace (old new : Char) (text : Utf16) : Utf16 :=
  text.map fun unit => if unit = code old then code new else unit

/-- `replace(/=+$/g, "")`. -/
def stripPadding (text : Utf16) : Utf16 := (text.reverse.dropWhile (· = code '=')).reverse

def padEnd (text : Utf16) (target : Nat) (fill : Char) : Utf16 :=
  text ++ List.replicate (target - text.length) (code fill)

/-- `btoa` throws if a code unit is not a byte. -/
def btoa (binary : Utf16) : Option Utf16 :=
  (binary.mapM fun unit => if unit.toNat < 256 then some unit.toUInt8 else none).map fun bytes =>
    (Bytes.btoa bytes).map code

def toChar (unit : UInt16) : Char := Char.ofNat unit.toNat

/-- `atob` throws on every other sign. -/
def atob (data : Utf16) : Option Utf16 := (Bytes.atob (data.map toChar)).map fromCharCode

/-- The loop of `bytesToBase64Url`. -/
def binaryString (bytes : Bytes) : Utf16 := Id.run do
  let mut binary := []
  for i in [0:bytes.length:0x8000] do
    binary := binary ++ fromCharCode (subarray bytes i (i + 0x8000))
  return binary

def bytesToBase64Url (bytes : Bytes) : Option Utf16 :=
  (btoa (binaryString bytes)).map fun text =>
    stripPadding (replace '/' '_' (replace '+' '-' text))

/-- The loop of `base64UrlToBytes`. -/
def charCodes (binary : Utf16) : Bytes := Id.run do
  let mut out := List.replicate binary.length 0
  for i in [0:binary.length] do
    out := out.set i (charCodeAt binary i).toUInt8
  return out

def base64UrlToBytes (value : Utf16) : Option Bytes :=
  let normalized := replace '_' '/' (replace '-' '+' value)
  (atob (padEnd normalized ((normalized.length + 3) / 4 * 4) '=')).map charCodes

end Source

section Loops

variable {α β : Type}

/-- A list that is taken up slice by slice is taken up whole. -/
theorem foldl_slices (each : α → β) (items : List α) (size count start : Nat) (gathered : List β) :
    (List.range' start count size).foldl (fun gathered i =>
      gathered ++ ((items.drop i).take size).map each) gathered =
      gathered ++ ((items.drop start).take (count * size)).map each := by
  induction count generalizing start gathered with
  | zero => simp
  | succ count ih =>
      have parts : (count + 1) * size = size + count * size := by
        rw [Nat.succ_mul, Nat.add_comm]
      rw [List.range'_succ, List.foldl_cons, ih, List.append_assoc, ← List.map_append, parts,
        List.take_add, List.drop_drop]

theorem foldl_whole (each : α → β) (items : List α) {size : Nat} (positive : 0 < size) :
    (List.range' 0 ((items.length + size - 1) / size) size).foldl (fun gathered i =>
      gathered ++ ((items.drop i).take size).map each) [] = items.map each := by
  have enough : items.length ≤ (items.length + size - 1) / size * size := by
    have split := Nat.div_add_mod (items.length + size - 1) size
    have small := Nat.mod_lt (items.length + size - 1) positive
    rw [Nat.mul_comm] at split
    omega
  rw [foldl_slices, List.drop_zero, List.take_of_length_le enough, List.nil_append]

/-- An array that is written index by index holds what was written. -/
theorem foldl_set (value : Nat → α) (blank : α) (count length : Nat) (within : count ≤ length) :
    (List.range' 0 count).foldl (fun out i => out.set i (value i)) (List.replicate length blank) =
      (List.range count).map value ++ List.replicate (length - count) blank := by
  induction count with
  | zero => simp
  | succ count ih =>
      have left : length - count = length - (count + 1) + 1 := by omega
      rw [List.range'_concat, List.foldl_append, ih (by omega), left, List.replicate_succ]
      simp [List.range_succ]

theorem binaryString_eq (bytes : Bytes) : binaryString bytes = fromCharCode bytes := by
  have slices := foldl_whole UInt8.toUInt16 bytes (Nat.succ_pos 0x7FFF)
  simp only [binaryString, subarray, Std.Legacy.Range.forIn_eq_forIn_range',
    Std.Legacy.Range.size, List.forIn_pure_yield_eq_foldl, Nat.add_sub_cancel_left, Nat.sub_zero]
  exact slices

theorem charCodes_eq (binary : Utf16) : charCodes binary = binary.map UInt16.toUInt8 := by
  have written := foldl_set (fun i => (charCodeAt binary i).toUInt8) 0 binary.length binary.length
    (le_refl _)
  have read : (List.range binary.length).map (fun i => (charCodeAt binary i).toUInt8) =
      binary.map UInt16.toUInt8 := by
    refine List.ext_getElem (by simp) fun i _ inside => ?_
    rw [List.length_map] at inside
    simp [charCodeAt, List.getElem?_eq_getElem inside]
  rw [read, Nat.sub_self, List.replicate_zero, List.append_nil] at written
  simpa [charCodes] using written

end Loops

/-! A code unit below the surrogates is one character, and a character below them one unit. -/
section Characters

theorem code_toNat {char : Char} (small : char.toNat < 0x10000) : (code char).toNat = char.toNat := by
  rw [code, UInt16.toNat_ofNat']
  exact Nat.mod_eq_of_lt small

theorem toChar_code {char : Char} (small : char.toNat < 0x10000) : toChar (code char) = char := by
  rw [toChar, code_toNat small, Char.ofNat_toNat]

theorem code_inj {first second : Char} (small : first.toNat < 0x10000)
    (others : second.toNat < 0x10000) : code first = code second ↔ first = second := by
  constructor
  · intro same
    rw [← toChar_code small, same, toChar_code others]
  · exact congrArg code

/-- A surrogate is read as the character zero and so is none of the signs that are looked for. -/
theorem toChar_eq {char : Char} (positive : 0 < char.toNat) (small : char.toNat < 0x10000)
    (unit : UInt16) : toChar unit = char ↔ unit = code char := by
  constructor
  · intro read
    by_cases valid : unit.toNat.isValidChar
    · have same : unit.toNat = char.toNat := by rw [← read, toChar, Js.toNat_ofNat valid]
      rw [code, ← same, UInt16.ofNat_toNat]
    · have zero : (toChar unit).toNat = 0 := by simp [toChar, Char.ofNat, valid, Char.toNat]
      rw [← read, zero] at positive
      exact absurd positive (by decide)
  · rintro rfl
    exact toChar_code small

theorem map_toChar_replace {old new : Char} (positive : 0 < old.toNat) (small : old.toNat < 0x10000)
    (known : new.toNat < 0x10000) (text : Utf16) :
    (replace old new text).map toChar =
      (text.map toChar).map fun char => if char = old then new else char := by
  rw [replace, List.map_map, List.map_map]
  refine List.map_congr_left fun unit _ => ?_
  by_cases found : unit = code old
  · simp [found, toChar_code small, toChar_code known]
  · have other : toChar unit ≠ old := fun read => found ((toChar_eq positive small unit).mp read)
    simp [found, other]

/-- `base64UrlToBytes` reads a string as its characters are read. -/
theorem base64UrlToBytes_eq (value : Utf16) :
    base64UrlToBytes value = Bytes.base64UrlToBytes (String.ofList (value.map toChar)) := by
  have codes : charCodes ∘ fromCharCode = id := by
    funext bytes
    rw [Function.comp_apply, charCodes_eq, fromCharCode, List.map_map]
    simp [Function.comp_def]
  -- Both replacements are on single signs, so they can be made sign by sign.
  have normalized : (replace '_' '/' (replace '-' '+' value)).map toChar =
      (value.map toChar).map Bytes.fromUrl := by
    rw [map_toChar_replace (by decide) (by decide) (by decide),
      map_toChar_replace (by decide) (by decide) (by decide), List.map_map]
    refine List.map_congr_left fun char _ => ?_
    by_cases minus : char = '-'
    · simp [minus, Bytes.fromUrl]
    · simp [minus, Bytes.fromUrl]
  have padded : (padEnd (replace '_' '/' (replace '-' '+' value))
      (((replace '_' '/' (replace '-' '+' value)).length + 3) / 4 * 4) '=').map toChar =
        Bytes.padEnd ((value.map toChar).map Bytes.fromUrl) := by
    rw [padEnd, Bytes.padEnd, List.map_append, normalized, List.map_replicate,
      toChar_code (by decide), ← normalized, List.length_map]
  rw [base64UrlToBytes, atob, Option.map_map, codes, Option.map_id_apply, padded,
    Bytes.base64UrlToBytes, String.toList_ofList]

/-- Each character of the text is a code unit of its own. -/
def Single (text : List Char) : Prop := ∀ char ∈ text, char.toNat < 0x10000

theorem single_sextets (bytes : Bytes) : Single ((sextets bytes).map encodeSextet) := by
  have coded : ∀ sextet, sextet < 64 → (encodeSextet sextet).toNat < 0x10000 := by
    decide +kernel
  intro char member
  obtain ⟨sextet, listed, rfl⟩ := List.mem_map.mp member
  exact coded sextet (sextet_lt bytes sextet listed)

theorem single_btoa (bytes : Bytes) : Single (Bytes.btoa bytes) := by
  intro char member
  rcases List.mem_append.mp member with coded | padded
  · exact single_sextets bytes char coded
  · rw [List.eq_of_mem_replicate padded]
    decide

theorem Single.substitute {text : List Char} (single : Single text) (old : Char) {new : Char}
    (small : new.toNat < 0x10000) :
    Single (text.map fun char => if char = old then new else char) := by
  intro char member
  obtain ⟨known, listed, rfl⟩ := List.mem_map.mp member
  split
  · exact small
  · exact single known listed

/-- The two replacements of `bytesToBase64Url`. -/
theorem substitute_twice (text : List Char) :
    (text.map fun char => if char = '+' then '-' else char).map
      (fun char => if char = '/' then '_' else char) = text.map Bytes.toUrl := by
  rw [List.map_map]
  refine List.map_congr_left fun char _ => ?_
  by_cases plus : char = '+'
  · simp [plus, Bytes.toUrl]
  · simp [plus, Bytes.toUrl]

theorem Single.toUrl {text : List Char} (single : Single text) : Single (text.map Bytes.toUrl) := by
  rw [← substitute_twice]
  exact (single.substitute '+' (by decide)).substitute '/' (by decide)

theorem single_base64Url (bytes : Bytes) : Single (Bytes.bytesToBase64Url bytes).toList := by
  rw [Bytes.base64Url_toList]
  exact (single_sextets bytes).toUrl

theorem utf16_eq {text : String} (single : Single text.toList) :
    utf16 text = text.toList.map code := by
  rw [utf16]
  generalize text.toList = chars at single
  induction chars with
  | nil => rfl
  | cons char rest ih =>
      have others := ih fun other member => single other (List.mem_cons_of_mem char member)
      rw [List.flatMap_cons, others, List.map_cons]
      simp only [single char List.mem_cons_self, if_true, List.singleton_append, code]

/-- `btoa` is handed bytes only. -/
theorem btoa_fromCharCode (bytes : Bytes) :
    btoa (fromCharCode bytes) = some ((Bytes.btoa bytes).map code) := by
  have read : (fromCharCode bytes).mapM (fun unit =>
      if unit.toNat < 256 then some unit.toUInt8 else none) = some bytes := by
    induction bytes with
    | nil => rfl
    | cons byte rest ih =>
        have small := byte.toNat_lt
        rw [fromCharCode] at ih
        simp [fromCharCode, List.mapM_cons, ih, small]
  rw [btoa, read, Option.map_some]

theorem replace_map_code {old new : Char} (small : old.toNat < 0x10000) {text : List Char}
    (single : Single text) :
    replace old new (text.map code) =
      (text.map fun char => if char = old then new else char).map code := by
  rw [replace, List.map_map, List.map_map]
  refine List.map_congr_left fun char member => ?_
  by_cases found : char = old
  · simp [found]
  · have other : code char ≠ code old := fun same =>
      found ((code_inj (single char member) small).mp same)
    simp [found, other]

theorem dropWhile_map_code {text : List Char} (single : Single text) :
    (text.map code).dropWhile (· = code '=') = (text.dropWhile (· = '=')).map code := by
  induction text with
  | nil => rfl
  | cons char rest ih =>
      have same : code char = code '=' ↔ char = '=' :=
        code_inj (single char List.mem_cons_self) (by decide)
      by_cases sign : char = '='
      · simp [sign, ih fun other member => single other (List.mem_cons_of_mem char member)]
      · simp [sign, same]

theorem stripPadding_map_code {text : List Char} (single : Single text) :
    stripPadding (text.map code) = (Bytes.stripPadding text).map code := by
  have reversed : Single text.reverse := fun char member =>
    single char (List.mem_reverse.mp member)
  rw [stripPadding, Bytes.stripPadding, ← List.map_reverse, dropWhile_map_code reversed,
    List.map_reverse]

/-- `bytesToBase64Url` writes the text of `Bytes` and never throws. -/
theorem bytesToBase64Url_eq (bytes : Bytes) :
    bytesToBase64Url bytes = some (utf16 (Bytes.bytesToBase64Url bytes)) := by
  have single := single_btoa bytes
  rw [bytesToBase64Url, binaryString_eq, btoa_fromCharCode, Option.map_some,
    replace_map_code (by decide) single,
    replace_map_code (by decide) (single.substitute '+' (by decide)), substitute_twice,
    stripPadding_map_code single.toUrl, utf16_eq (single_base64Url bytes),
    Bytes.bytesToBase64Url, String.toList_ofList]

end Characters

section Transport

/-- The signs of an encoded text. -/
def urlAlphabet : Utf16 :=
  utf16 "ABCDEFGHIJKLMNOPQRSTUVWXYZabcdefghijklmnopqrstuvwxyz0123456789-_"

theorem utf16_base64Url (bytes : Bytes) :
    utf16 (Bytes.bytesToBase64Url bytes) =
      (sextets bytes).map fun sextet => code (Bytes.toUrl (encodeSextet sextet)) := by
  rw [utf16_eq (single_base64Url bytes), Bytes.base64Url_toList, List.map_map, List.map_map]
  rfl

/-- The alphabet is in the order of the sextets. -/
theorem urlAlphabet_eq :
    urlAlphabet = (List.range 64).map fun sextet => code (Bytes.toUrl (encodeSextet sextet)) := by
  decide +kernel

theorem encoded_in_alphabet (bytes : Bytes) :
    ∀ unit ∈ utf16 (Bytes.bytesToBase64Url bytes), unit ∈ urlAlphabet := by
  intro unit member
  rw [utf16_base64Url] at member
  obtain ⟨sextet, listed, rfl⟩ := List.mem_map.mp member
  rw [urlAlphabet_eq]
  exact List.mem_map_of_mem (List.mem_range.mpr (sextet_lt bytes sextet listed))

/-- Four thirds of the length, rounded up. -/
theorem encoded_length (bytes : Bytes) :
    (utf16 (Bytes.bytesToBase64Url bytes)).length = (4 * bytes.length + 2) / 3 := by
  have padded := Bytes.sextets_length bytes
  rw [Bytes.padding] at padded
  rw [utf16_base64Url, List.length_map]
  omega

/-- A sign that `atob` throws on. -/
structure Foreign (char : Char) : Prop where
  space : Bytes.isSpace char = false
  padding : char ≠ '='
  digit : Bytes.decodeSextet char = none
  url : Bytes.fromUrl char = char

theorem foreign_wide {char : Char} (wide : 0x10000 ≤ char.toNat) : Foreign char := by
  have other : ∀ known : Char, known.toNat < 0x10000 → char ≠ known := by
    rintro known small rfl
    omega
  have digits : (Bytes.alphabet.all fun digit => digit.toNat.blt 0x10000) = true := by
    decide +kernel
  refine ⟨?_, other '=' (by decide), ?_, ?_⟩
  · simp [Bytes.isSpace, other]
  · rw [Bytes.decodeSextet, List.findIdx?_eq_none_iff]
    intro digit member
    have small := Nat.blt_eq.mp (List.all_eq_true.mp digits digit member)
    simpa using (other digit small).symm
  · simp [Bytes.fromUrl, other]

theorem foreign_null : Foreign (Char.ofNat 0) where
  space := rfl
  padding := by decide
  digit := by decide +kernel
  url := by decide

theorem mem_dropPadding {char : Char} {text : List Char} (member : char ∈ text)
    (sign : char ≠ '=') : char ∈ Bytes.dropPadding text := by
  have kept : ∀ padding : List Char, (∀ other ∈ padding, other = '=') → padding <:+ text →
      char ∈ text.take (text.length - padding.length) := by
    rintro padding equals ⟨front, rfl⟩
    rw [List.length_append, Nat.add_sub_cancel, List.take_left]
    rcases List.mem_append.mp member with there | padded
    · exact there
    · exact absurd (equals char padded) sign
  unfold Bytes.dropPadding
  split
  · split
    · rename_i two
      exact kept ['=', '='] (by simp) two
    · split
      · rename_i one
        exact kept ['='] (by simp) one
      · exact member
  · exact member

theorem mapM_none {α β : Type} {read : α → Option β} {item : α} {items : List α}
    (member : item ∈ items) (unread : read item = none) : items.mapM read = none := by
  induction items with
  | nil => cases member
  | cons first rest ih =>
      rw [List.mapM_cons]
      rcases List.mem_cons.mp member with rfl | later
      · rw [unread]
        rfl
      · cases read first with
        | none => rfl
        | some value => rw [ih later]; rfl

theorem decode_foreign {char : Char} {value : String} (member : char ∈ value.toList)
    (foreign : Foreign char) : Bytes.base64UrlToBytes value = none := by
  have padded : char ∈ Bytes.padEnd (value.toList.map Bytes.fromUrl) :=
    List.mem_append_left _ (List.mem_map.mpr ⟨char, member, foreign.url⟩)
  have spared : char ∈ (Bytes.padEnd (value.toList.map Bytes.fromUrl)).filter
      fun char => !Bytes.isSpace char := by
    simpa [foreign.space] using padded
  have kept := mem_dropPadding spared foreign.padding
  rw [Bytes.base64UrlToBytes, Bytes.atob, mapM_none kept foreign.digit, Option.bind_none]

/-- A character outside the plane of the code units is written as two of them, which stand for
no character. -/
theorem null_of_wide {char : Char} {value : String} (member : char ∈ value.toList)
    (wide : 0x10000 ≤ char.toNat) : Char.ofNat 0 ∈ (utf16 value).map toChar := by
  have range : char.toNat < 0x110000 := by
    have valid := char.valid
    simp only [UInt32.isValidChar, Nat.isValidChar] at valid
    change char.val.toNat < _
    omega
  have written : UInt16.ofNat (0xD800 + (char.toNat - 0x10000) / 0x400) ∈ utf16 value := by
    rw [utf16, List.mem_flatMap]
    refine ⟨char, member, ?_⟩
    simp only [if_neg (Nat.not_lt.mpr wide)]
    exact List.mem_cons_self
  have surrogate : toChar (UInt16.ofNat (0xD800 + (char.toNat - 0x10000) / 0x400)) =
      Char.ofNat 0 := by
    have small : 0xD800 + (char.toNat - 0x10000) / 0x400 < 0xDC00 := by omega
    have unit : (UInt16.ofNat (0xD800 + (char.toNat - 0x10000) / 0x400)).toNat =
        0xD800 + (char.toNat - 0x10000) / 0x400 :=
      UInt16.toNat_ofNat_of_lt' (by simp only [UInt16.size]; omega)
    rw [toChar, unit]
    have invalid : ¬ Nat.isValidChar (0xD800 + (char.toNat - 0x10000) / 0x400) := by
      simp only [Nat.isValidChar]
      omega
    rw [Char.ofNat, dif_neg invalid]
    rfl
  exact List.mem_map.mpr ⟨_, written, surrogate⟩

/-- The text of characters is decoded as its code units are. -/
theorem decode_utf16 (value : String) :
    base64UrlToBytes (utf16 value) = Bytes.base64UrlToBytes value := by
  rw [base64UrlToBytes_eq]
  by_cases single : Single value.toList
  · have read : (value.toList.map code).map toChar = value.toList := by
      rw [List.map_map]
      exact (List.map_congr_left fun char member => toChar_code (single char member)).trans
        (List.map_id _)
    rw [utf16_eq single, read, String.ofList_toList]
  · -- Neither the character nor what its code units are read as is a sign of the alphabet.
    simp only [Single, not_forall, Nat.not_lt] at single
    obtain ⟨char, member, wide⟩ := single
    have null := null_of_wide member wide
    rw [← String.toList_ofList (l := (utf16 value).map toChar)] at null
    rw [decode_foreign member (foreign_wide wide), decode_foreign null foreign_null]

/-- The padding is made up from the length of the text and the decoder of `Bytes` takes over. -/
theorem decode_encoded (bytes : Bytes) :
    base64UrlToBytes (utf16 (Bytes.bytesToBase64Url bytes)) = some bytes :=
  (decode_utf16 _).trans (Bytes.base64Url_roundtrip bytes)

theorem base64Url_injective : Function.Injective Bytes.bytesToBase64Url := by
  intro first second same
  have decoded := Bytes.base64Url_roundtrip first
  rw [same, Bytes.base64Url_roundtrip, Option.some.injEq] at decoded
  exact decoded.symm

theorem bytesToBase64Url_injective : Function.Injective bytesToBase64Url := by
  intro first second same
  rw [bytesToBase64Url_eq, bytesToBase64Url_eq, Option.some.injEq] at same
  have decoded := decode_encoded first
  rw [same, decode_encoded, Option.some.injEq] at decoded
  exact decoded.symm

end Transport

section Keys

open AppMessages Session

/-- `handleHandshake` with the keys themselves compared, not their texts. -/
def handleHandshakeByKey (self : SessionController) (epoch : Nat)
    (payload : Option HandshakeMessage) : SessionController × Progress HandshakeCall :=
  match self.localPublicKey with
  | none => (self, .finished)
  | some localKey =>
      match payload with
      | none => (self, .thrown "Unsupported handshake")
      | some handshake =>
          match Bytes.base64UrlToBytes handshake.publicKey with
          | none => (self, .thrown "Invalid public key")
          | some peerKey =>
              if peerKey = localKey.bytes then (self, .finished)
              else if self.secure ≠ none then
                if self.peerPublicKey = some peerKey then (self, .finished)
                else
                  ({ self with view := { self.view with
                      security := .verificationFailed
                      notice := some "Peer identity changed. Leave this room." } }, .finished)
              else if self.establishing then (self, .finished)
              else
                let replied := { self with establishing := true }.sendReplyHandshake
                let stage := match replied.2 with
                  | some announcement => HandshakeStage.replying announcement
                  | none => .hashing
                (replied.1, .waits ⟨epoch, handshake, peerKey, stage⟩)

theorem same_text_iff (first second : Bytes) :
    Bytes.bytesToBase64Url first = Bytes.bytesToBase64Url second ↔ first = second :=
  base64Url_injective.eq_iff

theorem known_text_iff (stored : Option Bytes) (peerKey : Bytes) :
    stored.any (fun known =>
      Bytes.bytesToBase64Url known = Bytes.bytesToBase64Url peerKey) = true ↔
        stored = some peerKey := by
  cases stored with
  | none => simp
  | some known => simp [same_text_iff]

theorem handleHandshake_eq (self : SessionController) (epoch : Nat)
    (payload : Option HandshakeMessage) :
    self.handleHandshake epoch payload = handleHandshakeByKey self epoch payload := by
  unfold SessionController.handleHandshake handleHandshakeByKey
  cases self.localPublicKey with
  | none => rfl
  | some localKey =>
      cases payload with
      | none => rfl
      | some handshake =>
          dsimp only
          cases Bytes.base64UrlToBytes handshake.publicKey with
          | none => rfl
          | some peerKey =>
              -- Only the two conditions differ.
              refine if_congr (same_text_iff _ _) rfl (if_congr Iff.rfl ?_ rfl)
              exact if_congr (known_text_iff _ _) rfl rfl

/-- Encoding is undone by decoding, stays in the alphabet and takes four thirds of the length,
rounded up; so two byte strings never share a text, and a handshake is handled as if the keys
were compared. -/
theorem base64Url_transport :
    (∀ bytes, ∃ text, bytesToBase64Url bytes = some text ∧ base64UrlToBytes text = some bytes ∧
      (∀ unit ∈ text, unit ∈ urlAlphabet) ∧ text.length = (4 * bytes.length + 2) / 3) ∧
    Function.Injective bytesToBase64Url ∧
    ∀ (session : SessionController) (epoch : Nat) (payload : Option HandshakeMessage),
      session.handleHandshake epoch payload = handleHandshakeByKey session epoch payload := by
  refine ⟨fun bytes => ?_, bytesToBase64Url_injective, handleHandshake_eq⟩
  exact ⟨utf16 (Bytes.bytesToBase64Url bytes), bytesToBase64Url_eq bytes, decode_encoded bytes,
    encoded_in_alphabet bytes, encoded_length bytes⟩

end Keys

end OnlyTwo.Base64Url
