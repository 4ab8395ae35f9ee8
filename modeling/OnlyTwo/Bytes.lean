import Mathlib.Data.List.Basic
import Mathlib.Data.List.Induction
import Mathlib.Tactic.Ring

/-!
Byte strings, after client/src/utils/bytes.ts. `Uint8Array` is a list of
bytes: slicing and concatenation are list operations, and a write through a
`DataView` is the fixed-width big-endian field it stores. `btoa` and `atob`
follow the standard alphabet and the forgiving decoder of the browser. A text
that holds no lone surrogate is its characters.
-/

namespace OnlyTwo

abbrev Bytes := List UInt8

namespace Bytes

def utf8Encode (value : String) : Bytes := value.toList.flatMap String.utf8EncodeChar

/-- `utf8Encode` of a text that is given by its characters. -/
def utf8EncodeText (text : List Char) : Bytes := text.flatMap String.utf8EncodeChar

/-- A fatal `TextDecoder`; it takes away a byte order mark at the start. -/
def utf8Decode (bytes : Bytes) : Option (List Char) :=
  bytes.toByteArray.utf8Decode?.map fun text =>
    if text.toList.head? = some '\uFEFF' then text.toList.tail else text.toList

theorem characters_encode (text : List Char) :
    (utf8EncodeText text).toByteArray.utf8Decode? = some text.toArray :=
  List.utf8Decode?_utf8Encode

theorem utf8Decode_encode {text : List Char} (unmarked : text.head? ≠ some '\uFEFF') :
    utf8Decode (utf8EncodeText text) = some text := by
  rw [utf8Decode, characters_encode, Option.map_some]
  simp [unmarked]

theorem utf8EncodeText_inj {first second : List Char}
    (same : utf8EncodeText first = utf8EncodeText second) : first = second := by
  have decoded := characters_encode first
  rw [same, characters_encode second, Option.some.injEq] at decoded
  exact (List.toArray_inj decoded).symm

/-- A `DataView` store of `width` bytes keeps the value modulo `256 ^ width`. -/
def bigEndian : Nat → Nat → Bytes
  | 0, _ => []
  | width + 1, value => UInt8.ofNat (value / 256 ^ width) :: bigEndian width value

def readBigEndian (bytes : Bytes) : Nat :=
  bytes.foldl (fun total byte => total * 256 + byte.toNat) 0

@[simp] theorem bigEndian_length (width value : Nat) :
    (bigEndian width value).length = width := by
  induction width with
  | zero => rfl
  | succ width ih => simp [bigEndian, ih]

theorem foldl_bigEndian (width value total : Nat) :
    (bigEndian width value).foldl (fun sum byte => sum * 256 + byte.toNat) total =
      total * 256 ^ width + value % 256 ^ width := by
  induction width generalizing total with
  | zero => simp [bigEndian, Nat.mod_one]
  | succ width ih =>
      simp only [bigEndian, List.foldl_cons, ih, UInt8.toNat_ofNat']
      have split : value % 256 ^ (width + 1) =
          value % 256 ^ width + 256 ^ width * (value / 256 ^ width % 256) := by
        rw [Nat.pow_succ, Nat.mod_mul]
      rw [split, Nat.pow_succ]
      ring

theorem read_bigEndian (width value : Nat) :
    readBigEndian (bigEndian width value) = value % 256 ^ width := by
  simp [readBigEndian, foldl_bigEndian]

theorem readBigEndian_lt (bytes : Bytes) : readBigEndian bytes < 256 ^ bytes.length := by
  induction bytes using List.reverseRecOn with
  | nil => simp [readBigEndian]
  | append_singleton bytes byte ih =>
      have bound := byte.toNat_lt
      simp only [readBigEndian, List.foldl_append, List.foldl_cons, List.foldl_nil,
        List.length_append, List.length_singleton, Nat.pow_succ] at ih ⊢
      omega

theorem bigEndian_concat (width value : Nat) (byte : UInt8) :
    bigEndian (width + 1) (value * 256 + byte.toNat) = bigEndian width value ++ [byte] := by
  have bound := byte.toNat_lt
  induction width with
  | zero => simp [bigEndian, UInt8.ofNat_add, UInt8.ofNat_mul]
  | succ width ih =>
      have same : (value * 256 + byte.toNat) / 256 ^ (width + 1) = value / 256 ^ width := by
        rw [Nat.pow_succ', ← Nat.div_div_eq_div_mul]
        congr 1
        omega
      rw [bigEndian, ih, same]
      rfl

/-- Storing what was read gives the bytes back. -/
theorem bigEndian_read (bytes : Bytes) : bigEndian bytes.length (readBigEndian bytes) = bytes := by
  induction bytes using List.reverseRecOn with
  | nil => rfl
  | append_singleton bytes byte ih =>
      simp only [readBigEndian, List.foldl_append, List.foldl_cons, List.foldl_nil,
        List.length_append, List.length_singleton] at ih ⊢
      rw [bigEndian_concat, ih]

/-! Base64 works on six-bit groups. Three bytes make four groups; one or two
trailing bytes make two or three groups and the text is padded with `=`. -/
section Base64

def alphabet : List Char :=
  "ABCDEFGHIJKLMNOPQRSTUVWXYZabcdefghijklmnopqrstuvwxyz0123456789+/".toList

def encodeSextet (sextet : Nat) : Char := alphabet.getD sextet '='

def decodeSextet (char : Char) : Option Nat := alphabet.findIdx? (· = char)

def sextets : Bytes → List Nat
  | [] => []
  | [a] => [a.toNat / 4, a.toNat % 4 * 16]
  | [a, b] => [a.toNat / 4, a.toNat % 4 * 16 + b.toNat / 16, b.toNat % 16 * 4]
  | a :: b :: c :: rest =>
      a.toNat / 4 :: (a.toNat % 4 * 16 + b.toNat / 16) ::
        (b.toNat % 16 * 4 + c.toNat / 64) :: c.toNat % 64 :: sextets rest

def fromSextets : List Nat → Option Bytes
  | [] => some []
  | [_] => none
  | [a, b] => some [UInt8.ofNat (a * 4 + b / 16)]
  | [a, b, c] => some [UInt8.ofNat (a * 4 + b / 16), UInt8.ofNat (b % 16 * 16 + c / 4)]
  | a :: b :: c :: d :: rest => (fromSextets rest).map fun bytes =>
      UInt8.ofNat (a * 4 + b / 16) :: UInt8.ofNat (b % 16 * 16 + c / 4) ::
        UInt8.ofNat (c % 4 * 64 + d) :: bytes

def padding (bytes : Bytes) : Nat := (3 - bytes.length % 3) % 3

def btoa (bytes : Bytes) : List Char :=
  (sextets bytes).map encodeSextet ++ List.replicate (padding bytes) '='

def isSpace (char : Char) : Bool :=
  char = ' ' || char = '\t' || char = '\n' || char = '\r' || char = '\x0c'

-- A text of whole quadruples may end in one or two padding signs.
def dropPadding (text : List Char) : List Char :=
  if text.length % 4 = 0 then
    if ['=', '='] <:+ text then text.take (text.length - 2)
    else if ['='] <:+ text then text.take (text.length - 1)
    else text
  else text

def atob (text : List Char) : Option Bytes :=
  ((dropPadding (text.filter fun char => !isSpace char)).mapM decodeSextet).bind fromSextets

def toUrl (char : Char) : Char := if char = '+' then '-' else if char = '/' then '_' else char

def fromUrl (char : Char) : Char := if char = '-' then '+' else if char = '_' then '/' else char

def stripPadding (text : List Char) : List Char :=
  (text.reverse.dropWhile (· = '=')).reverse

def padEnd (text : List Char) : List Char :=
  text ++ List.replicate ((text.length + 3) / 4 * 4 - text.length) '='

def bytesToBase64Url (bytes : Bytes) : String :=
  String.ofList (stripPadding ((btoa bytes).map toUrl))

def base64UrlToBytes (value : String) : Option Bytes :=
  atob (padEnd (value.toList.map fromUrl))

theorem sextet_lt (bytes : Bytes) : ∀ sextet ∈ sextets bytes, sextet < 64 := by
  fun_induction sextets bytes with
  | case1 => simp
  | case2 a =>
      have bound := a.toNat_lt
      simp only [List.mem_cons, List.not_mem_nil, or_false, forall_eq_or_imp, forall_eq]
      omega
  | case3 a b =>
      have boundA := a.toNat_lt
      have boundB := b.toNat_lt
      simp only [List.mem_cons, List.not_mem_nil, or_false, forall_eq_or_imp, forall_eq]
      omega
  | case4 a b c rest ih =>
      have boundA := a.toNat_lt
      have boundB := b.toNat_lt
      have boundC := c.toNat_lt
      simp only [List.mem_cons, forall_eq_or_imp]
      exact ⟨by omega, by omega, by omega, by omega, ih⟩

theorem ofNat_eq (byte : UInt8) (value : Nat) (same : value = byte.toNat) :
    UInt8.ofNat value = byte := by
  subst same; exact UInt8.ofNat_toNat

theorem fromSextets_sextets (bytes : Bytes) : fromSextets (sextets bytes) = some bytes := by
  fun_induction sextets bytes with
  | case1 => rfl
  | case2 a =>
      have first := ofNat_eq a (a.toNat / 4 * 4 + a.toNat % 4 * 16 / 16) (by omega)
      simp only [fromSextets, first]
  | case3 a b =>
      have boundB := b.toNat_lt
      have first := ofNat_eq a (a.toNat / 4 * 4 + (a.toNat % 4 * 16 + b.toNat / 16) / 16)
        (by omega)
      have second := ofNat_eq b
        ((a.toNat % 4 * 16 + b.toNat / 16) % 16 * 16 + b.toNat % 16 * 4 / 4) (by omega)
      simp only [fromSextets, first, second]
  | case4 a b c rest ih =>
      have boundB := b.toNat_lt
      have boundC := c.toNat_lt
      have first := ofNat_eq a (a.toNat / 4 * 4 + (a.toNat % 4 * 16 + b.toNat / 16) / 16)
        (by omega)
      have second := ofNat_eq b ((a.toNat % 4 * 16 + b.toNat / 16) % 16 * 16 +
        (b.toNat % 16 * 4 + c.toNat / 64) / 4) (by omega)
      have third := ofNat_eq c
        ((b.toNat % 16 * 4 + c.toNat / 64) % 4 * 64 + c.toNat % 64) (by omega)
      simp only [fromSextets, ih, first, second, third, Option.map_some]

theorem sextets_length (bytes : Bytes) :
    (sextets bytes).length + padding bytes = (bytes.length + 2) / 3 * 4 := by
  fun_induction sextets bytes with
  | case1 => rfl
  | case2 a => simp [padding]
  | case3 a b => simp [padding]
  | case4 a b c rest ih =>
      simp only [padding, List.length_cons] at ih ⊢
      omega

/-- One exhaustive check of the alphabet serves every later step. -/
theorem alphabet_codes (sextet : Nat) (bound : sextet < 64) :
    decodeSextet (encodeSextet sextet) = some sextet ∧
      fromUrl (toUrl (encodeSextet sextet)) = encodeSextet sextet ∧
      toUrl (encodeSextet sextet) ≠ '=' ∧ encodeSextet sextet ≠ '=' ∧
      isSpace (encodeSextet sextet) = false := by
  revert sextet
  decide +kernel

theorem stripPadding_append (text : List Char) (count : Nat) (clean : ∀ char ∈ text, char ≠ '=') :
    stripPadding (text ++ List.replicate count '=') = text := by
  have keep : text.reverse.dropWhile (· = '=') = text.reverse := by
    cases reversed : text.reverse with
    | nil => rfl
    | cons last rest =>
        have member : last ∈ text := by
          rw [← List.mem_reverse, reversed]; exact List.mem_cons_self
        simp [clean last member]
  have drop : (List.replicate count '=' ++ text.reverse).dropWhile (· = '=') =
      text.reverse.dropWhile (· = '=') := by
    induction count with
    | zero => rfl
    | succ count ih => simp [List.replicate_succ]
  simp only [stripPadding, List.reverse_append, List.reverse_replicate, drop, keep,
    List.reverse_reverse]

theorem base64Url_toList (bytes : Bytes) :
    (bytesToBase64Url bytes).toList = ((sextets bytes).map encodeSextet).map toUrl := by
  have clean : ∀ char ∈ ((sextets bytes).map encodeSextet).map toUrl, char ≠ '=' := by
    intro char member
    simp only [List.mem_map] at member
    obtain ⟨_, ⟨sextet, listed, rfl⟩, rfl⟩ := member
    exact (alphabet_codes sextet (sextet_lt bytes sextet listed)).2.2.1
  have mapped : (btoa bytes).map toUrl =
      ((sextets bytes).map encodeSextet).map toUrl ++ List.replicate (padding bytes) '=' := by
    simp [btoa, toUrl]
  rw [bytesToBase64Url, String.toList_ofList, mapped, stripPadding_append _ _ clean]

theorem restored_text (bytes : Bytes) :
    (((sextets bytes).map encodeSextet).map toUrl).map fromUrl =
      (sextets bytes).map encodeSextet := by
  rw [List.map_map, List.map_map]
  apply List.map_congr_left
  intro sextet listed
  exact (alphabet_codes sextet (sextet_lt bytes sextet listed)).2.1

theorem padEnd_restored (bytes : Bytes) :
    padEnd ((sextets bytes).map encodeSextet) = btoa bytes := by
  have total := sextets_length bytes
  have small : padding bytes < 3 := Nat.mod_lt _ (by decide)
  simp only [padEnd, btoa, List.length_map]
  congr 2
  omega

theorem dropPadding_btoa (bytes : Bytes) :
    dropPadding (btoa bytes) = (sextets bytes).map encodeSextet := by
  have total := sextets_length bytes
  have small : padding bytes < 3 := Nat.mod_lt _ (by decide)
  -- No sign of the alphabet is a padding sign, so what is dropped is padding alone.
  have clean : ∀ char ∈ (sextets bytes).map encodeSextet, char ≠ '=' := by
    intro char member
    obtain ⟨sextet, listed, rfl⟩ := List.mem_map.mp member
    exact (alphabet_codes sextet (sextet_lt bytes sextet listed)).2.2.2.1
  have whole : (btoa bytes).length % 4 = 0 := by
    simp only [btoa, List.length_append, List.length_map, List.length_replicate]
    omega
  generalize core : (sextets bytes).map encodeSextet = text at clean
  have shape : btoa bytes = text ++ List.replicate (padding bytes) '=' := by
    rw [btoa, core]
  have noSuffix : ¬ ['='] <:+ text := by
    rintro ⟨front, same⟩
    exact clean '=' (by rw [← same]; simp) rfl
  rw [dropPadding, if_pos whole, shape]
  have cases3 : padding bytes = 0 ∨ padding bytes = 1 ∨ padding bytes = 2 := by omega
  rcases cases3 with none | one | two
  · have noPair : ¬ ['=', '='] <:+ text := fun suffix =>
      noSuffix ((List.suffix_cons '=' ['=']).trans suffix)
    simp [none, noSuffix, noPair]
  · have noPair : ¬ ['=', '='] <:+ text ++ ['='] := by
      rintro ⟨front, same⟩
      have shorter : front ++ ['='] = text := by
        have appended : (front ++ ['=']) ++ ['='] = text ++ ['='] := by simpa using same
        exact List.append_cancel_right appended
      exact noSuffix ⟨front, shorter⟩
    simp [one, noPair]
  · have pair : ['=', '='] <:+ text ++ ['=', '='] := List.suffix_append text _
    simp [two, List.replicate_succ, pair]

theorem mapM_decodeSextet (values : List Nat) (bound : ∀ value ∈ values, value < 64) :
    (values.map encodeSextet).mapM decodeSextet = some values := by
  induction values with
  | nil => rfl
  | cons value rest ih =>
      have head := (alphabet_codes value (bound value List.mem_cons_self)).1
      have tail := ih (fun other member => bound other (List.mem_cons_of_mem value member))
      simp [List.mapM_cons, head, tail]

theorem atob_btoa (bytes : Bytes) : atob (btoa bytes) = some bytes := by
  have noSpace : (btoa bytes).filter (fun char => !isSpace char) = btoa bytes := by
    apply List.filter_eq_self.mpr
    intro char member
    rcases List.mem_append.mp member with coded | padded
    · obtain ⟨sextet, listed, rfl⟩ := List.mem_map.mp coded
      simp [(alphabet_codes sextet (sextet_lt bytes sextet listed)).2.2.2.2]
    · rw [List.eq_of_mem_replicate padded]
      decide
  rw [atob, noSpace, dropPadding_btoa, mapM_decodeSextet _ (sextet_lt bytes)]
  exact fromSextets_sextets bytes

/-- Decoding inverts the URL-safe encoding of every byte string. -/
theorem base64Url_roundtrip (bytes : Bytes) :
    base64UrlToBytes (bytesToBase64Url bytes) = some bytes := by
  rw [base64UrlToBytes, base64Url_toList, restored_text, padEnd_restored, atob_btoa]

end Base64

end Bytes

end OnlyTwo
