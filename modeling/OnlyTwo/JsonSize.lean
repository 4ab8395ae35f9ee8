import OnlyTwo.Bytes
import OnlyTwo.JsonRoundTrip

/-!
How many bytes of UTF-8 a written JSON text takes. A code unit takes six bytes at
most, a pair of surrogates less than two units, and a safe integer seventeen. Text that
is ASCII without quotes and backslashes, such as Base64, is written as it is. The bounds
are sums over the members of an object and leave the last comma in.
-/

namespace OnlyTwo.Js

open Bytes

def textSize (text : List Char) : Nat := (utf8EncodeText text).length

@[simp] theorem textSize_nil : textSize [] = 0 := rfl

@[simp] theorem textSize_cons (char : Char) (rest : List Char) :
    textSize (char :: rest) = char.utf8Size + textSize rest := by
  simp [textSize, utf8EncodeText]

@[simp] theorem textSize_append (first second : List Char) :
    textSize (first ++ second) = textSize first + textSize second := by
  simp [textSize, utf8EncodeText]

section Ascii

theorem textSize_ascii {text : List Char} (ascii : ∀ char ∈ text, char.utf8Size = 1) :
    textSize text = text.length := by
  induction text with
  | nil => rfl
  | cons char rest ih =>
      have first := ascii char List.mem_cons_self
      have others := ih (fun other member => ascii other (List.mem_cons_of_mem char member))
      rw [textSize_cons, first, others, List.length_cons, Nat.add_comm]

theorem isDigit_size {char : Char} (digit : char.isDigit = true) : char.utf8Size = 1 := by
  rw [Char.utf8Size_eq_one_iff, UInt32.le_iff_toNat_le]
  simp only [Char.isDigit, ge_iff_le, Bool.and_eq_true, decide_eq_true_eq,
    UInt32.le_iff_toNat_le] at digit
  exact Nat.le_trans digit.2 (by decide)

theorem hexDigit_size (value : Nat) (small : value < 16) : (hexDigit value).utf8Size = 1 := by
  revert value
  decide

end Ascii

section Strings

theorem unicodeEscape_size (unit : UInt16) : textSize (unicodeEscape unit) = 6 := by
  have bound := unit.toNat_lt
  simp only [unicodeEscape, textSize_cons, textSize_nil,
    hexDigit_size (unit.toNat / 4096) (by omega),
    hexDigit_size (unit.toNat / 256 % 16) (by omega),
    hexDigit_size (unit.toNat / 16 % 16) (by omega),
    hexDigit_size (unit.toNat % 16) (by omega)]
  rfl

theorem escapeUnit_size (unit : UInt16) : textSize (escapeUnit unit) ≤ 6 := by
  unfold escapeUnit
  split
  case h_8 =>
    split
    · exact Nat.le_of_eq (unicodeEscape_size unit)
    · have wide := Char.utf8Size_le_four (Char.ofNat unit.toNat)
      rw [textSize_cons, textSize_nil]
      omega
  all_goals decide

theorem escapeUnits_size (text : JsString) : textSize (escapeUnits text) ≤ 6 * text.length := by
  fun_induction escapeUnits text with
  | case1 => exact Nat.le_refl 0
  | case2 unit => exact escapeUnit_size unit
  | case3 first second rest pair ih =>
      have wide := Char.utf8Size_le_four (combine first second)
      rw [textSize_cons, List.length_cons, List.length_cons]
      omega
  | case4 first second rest single ih =>
      have own := escapeUnit_size first
      rw [textSize_append]
      simp only [List.length_cons] at ih ⊢
      omega

theorem quote_eq_size (text : JsString) : textSize (quote text) = textSize (escapeUnits text) + 2 := by
  have mark : ('"' : Char).utf8Size = 1 := rfl
  simp only [quote, textSize_cons, textSize_append, textSize_nil, mark]
  omega

theorem quote_size (text : JsString) : textSize (quote text) ≤ 6 * text.length + 2 := by
  have units := escapeUnits_size text
  rw [quote_eq_size]
  omega

/-- A character that is one code unit, is written as it is and takes one byte. -/
structure Plain (char : Char) : Prop where
  unit : units char = [UInt16.ofNat char.toNat]
  escaped : textSize (escapeUnit (UInt16.ofNat char.toNat)) = 1
  single : isHigh (UInt16.ofNat char.toNat) = false

theorem escapeUnits_cons {first : UInt16} (rest : JsString) (single : isHigh first = false) :
    escapeUnits (first :: rest) = escapeUnit first ++ escapeUnits rest := by
  cases rest with
  | nil => simp [escapeUnits]
  | cons second rest => rw [escapeUnits, single, Bool.false_and, if_neg Bool.false_ne_true]

theorem quote_plain_size {text : List Char} (plain : ∀ char ∈ text, Plain char) :
    textSize (quote (text.flatMap units)) = text.length + 2 := by
  have escaped : textSize (escapeUnits (text.flatMap units)) = text.length := by
    induction text with
    | nil => rfl
    | cons char rest ih =>
        have own := plain char List.mem_cons_self
        have others := ih (fun other member => plain other (List.mem_cons_of_mem char member))
        rw [List.flatMap_cons, own.unit, List.singleton_append, escapeUnits_cons _ own.single,
          textSize_append, own.escaped, others, List.length_cons, Nat.add_comm]
  rw [quote_eq_size, escaped]

/-- Sixty-four characters are all there are. -/
theorem base64Url_plain (sextet : Nat) (bound : sextet < 64) : Plain (toUrl (encodeSextet sextet)) := by
  have checked : units (toUrl (encodeSextet sextet)) =
        [UInt16.ofNat (toUrl (encodeSextet sextet)).toNat] ∧
      textSize (escapeUnit (UInt16.ofNat (toUrl (encodeSextet sextet)).toNat)) = 1 ∧
      isHigh (UInt16.ofNat (toUrl (encodeSextet sextet)).toNat) = false := by
    revert sextet
    decide +kernel
  exact ⟨checked.1, checked.2.1, checked.2.2⟩

/-- Base64 takes four bytes for every three. -/
theorem quote_base64Url_size (bytes : Bytes) :
    textSize (quote ((bytesToBase64Url bytes).toList.flatMap units)) ≤
      (bytes.length + 2) / 3 * 4 + 2 := by
  have plain : ∀ char ∈ ((sextets bytes).map encodeSextet).map toUrl, Plain char := by
    intro char member
    simp only [List.mem_map] at member
    obtain ⟨_, ⟨sextet, listed, rfl⟩, rfl⟩ := member
    exact base64Url_plain sextet (sextet_lt bytes sextet listed)
  have sized := quote_plain_size plain
  have total := sextets_length bytes
  rw [base64Url_toList, sized, List.length_map, List.length_map]
  omega

end Strings

section Members

theorem toDigits_size {value : Nat} (small : value < 10 ^ 16) :
    textSize (Nat.toDigits 10 value) ≤ 16 := by
  have ascii : ∀ char ∈ Nat.toDigits 10 value, char.utf8Size = 1 := fun char member =>
    isDigit_size (Nat.isDigit_of_mem_toDigits (by decide) (by decide) member)
  rw [textSize_ascii ascii]
  exact (Nat.length_toDigits_le_iff (by decide) (by decide)).mpr small

theorem printInt_size (value : Int) (small : value.natAbs < 10 ^ 16) :
    textSize (printInt value) ≤ 17 := by
  have digits := toDigits_size small
  have sign : ('-' : Char).utf8Size = 1 := rfl
  unfold printInt
  split
  · rw [textSize_cons, sign]
    omega
  · omega

/-- The texts, a comma after each of them, and the end of the list. -/
theorem commas_size (close : Char) (narrow : close.utf8Size = 1) (texts : List (List Char)) :
    textSize (commas close texts) ≤ (texts.map fun text => textSize text + 1).sum + 1 := by
  have comma : (',' : Char).utf8Size = 1 := rfl
  induction texts with
  | nil => simp [commas, narrow]
  | cons text rest ih =>
      cases rest with
      | nil => simp [commas, narrow]
      | cons second more =>
          simp only [commas, textSize_append, textSize_cons, comma, List.map_cons,
            List.sum_cons] at ih ⊢
          omega

/-- A member with its name, its colon and its comma. -/
def memberSize (member : JsString × Json Int) : Nat :=
  textSize (quote member.1) + textSize (stringify member.2) + 2

theorem object_size (fields : List (JsString × Json Int)) :
    textSize (stringify (.obj fields)) ≤ (fields.map memberSize).sum + 2 := by
  have brace : ('\x7b' : Char).utf8Size = 1 := rfl
  have colon : (':' : Char).utf8Size = 1 := rfl
  have listed := commas_size '\x7d' rfl (stringifyFields fields)
  have same : (stringifyFields fields).map (fun text => textSize text + 1) =
      fields.map memberSize := by
    rw [stringifyFields_eq, List.map_map]
    apply List.map_congr_left
    intro member _
    simp only [Function.comp_apply, stringifyField, textSize_append, textSize_cons, colon, memberSize]
    omega
  rw [same] at listed
  rw [stringify, textSize_cons, brace]
  omega

end Members

end OnlyTwo.Js
