import OnlyTwo.JsNumber

/-!
JSON as `JSON.stringify` writes it and `JSON.parse` reads it. Strings are UTF-16
code units and may hold lone surrogates, which are written as escapes, so a text is
a list of characters. The writer is given integers; a text may hold any decimal. An
object keeps its members in the order of the text, of which the last one of a name
counts. The parser takes fuel, of which a text never needs more than its length;
`parse_stringify` says that it inverts the writer.
-/

namespace OnlyTwo.Js

abbrev JsString := List UInt16

inductive Json (Number : Type) where
  | null
  | bool (value : Bool)
  | num (value : Number)
  | str (value : JsString)
  | arr (items : List (Json Number))
  | obj (fields : List (JsString × Json Number))

namespace Json

variable {Number Other : Type}

mutual
/-- The same value with its numbers replaced. -/
def map (change : Number → Other) : Json Number → Json Other
  | .null => .null
  | .bool value => .bool value
  | .num value => .num (change value)
  | .str value => .str value
  | .arr items => .arr (mapItems change items)
  | .obj fields => .obj (mapFields change fields)

def mapItems (change : Number → Other) : List (Json Number) → List (Json Other)
  | [] => []
  | item :: rest => item.map change :: mapItems change rest

def mapFields (change : Number → Other) :
    List (JsString × Json Number) → List (JsString × Json Other)
  | [] => []
  | (key, value) :: rest => (key, value.map change) :: mapFields change rest
end

end Json

/-- The code units of a character. -/
def units (char : Char) : JsString :=
  let code := char.toNat
  if code < 0x10000 then [UInt16.ofNat code]
  else [UInt16.ofNat (0xD800 + (code - 0x10000) / 0x400),
    UInt16.ofNat (0xDC00 + (code - 0x10000) % 0x400)]

def isHigh (unit : UInt16) : Bool := 0xD800 ≤ unit.toNat && unit.toNat < 0xDC00

def isLow (unit : UInt16) : Bool := 0xDC00 ≤ unit.toNat && unit.toNat < 0xE000

/-- The character of a surrogate pair. -/
def combine (high low : UInt16) : Char :=
  Char.ofNat (0x10000 + (high.toNat - 0xD800) * 0x400 + (low.toNat - 0xDC00))

section Writer

def hexDigit (value : Nat) : Char := "0123456789abcdef".toList.getD value '0'

def unicodeEscape (unit : UInt16) : List Char :=
  ['\\', 'u', hexDigit (unit.toNat / 4096), hexDigit (unit.toNat / 256 % 16),
    hexDigit (unit.toNat / 16 % 16), hexDigit (unit.toNat % 16)]

/-- One code unit that is not half of a pair. -/
def escapeUnit (unit : UInt16) : List Char :=
  match unit.toNat with
  | 8 => ['\\', 'b']
  | 9 => ['\\', 't']
  | 10 => ['\\', 'n']
  | 12 => ['\\', 'f']
  | 13 => ['\\', 'r']
  | 34 => ['\\', '"']
  | 92 => ['\\', '\\']
  | code =>
      if code < 0x20 || isHigh unit || isLow unit then unicodeEscape unit else [Char.ofNat code]

def escapeUnits : JsString → List Char
  | [] => []
  | [unit] => escapeUnit unit
  | first :: second :: rest =>
      if isHigh first && isLow second then combine first second :: escapeUnits rest
      else escapeUnit first ++ escapeUnits (second :: rest)

def quote (text : JsString) : List Char := '"' :: (escapeUnits text ++ ['"'])

def printInt (value : Int) : List Char :=
  if value < 0 then '-' :: Nat.toDigits 10 value.natAbs else Nat.toDigits 10 value.natAbs

/-- Texts with commas between them, and the end of the list after them. -/
def commas (close : Char) : List (List Char) → List Char
  | [] => [close]
  | [text] => text ++ [close]
  | text :: rest => text ++ ',' :: commas close rest

mutual
def stringify : Json Int → List Char
  | .null => "null".toList
  | .bool true => "true".toList
  | .bool false => "false".toList
  | .num value => printInt value
  | .str value => quote value
  | .arr items => '[' :: commas ']' (stringifyItems items)
  | .obj fields => '\x7b' :: commas '\x7d' (stringifyFields fields)

def stringifyItems : List (Json Int) → List (List Char)
  | [] => []
  | item :: rest => stringify item :: stringifyItems rest

def stringifyFields : List (JsString × Json Int) → List (List Char)
  | [] => []
  | (key, value) :: rest => (quote key ++ ':' :: stringify value) :: stringifyFields rest
end

end Writer

section Reader

def isSpace (char : Char) : Bool := char = ' ' || char = '\t' || char = '\n' || char = '\r'

def skipSpace (text : List Char) : List Char := text.dropWhile isSpace

def hexValue (char : Char) : Option Nat :=
  if '0' ≤ char ∧ char ≤ '9' then some (char.toNat - '0'.toNat)
  else if 'a' ≤ char ∧ char ≤ 'f' then some (char.toNat - 'a'.toNat + 10)
  else if 'A' ≤ char ∧ char ≤ 'F' then some (char.toNat - 'A'.toNat + 10)
  else none

def hexUnit (first second third fourth : Char) : Option UInt16 := do
  let a ← hexValue first
  let b ← hexValue second
  let c ← hexValue third
  let d ← hexValue fourth
  return UInt16.ofNat (((a * 16 + b) * 16 + c) * 16 + d)

def unescape : Char → Option UInt16
  | '"' => some 34
  | '\\' => some 92
  | '/' => some 47
  | 'b' => some 8
  | 'f' => some 12
  | 'n' => some 10
  | 'r' => some 13
  | 't' => some 9
  | _ => none

/-- The rest of a string after its opening quote. -/
def parseString : List Char → Option (JsString × List Char)
  | [] => none
  | '"' :: rest => some ([], rest)
  | '\\' :: 'u' :: a :: b :: c :: d :: rest =>
      match hexUnit a b c d with
      | none => none
      | some unit => (parseString rest).map fun (text, rest) => (unit :: text, rest)
  | '\\' :: char :: rest =>
      match unescape char with
      | none => none
      | some unit => (parseString rest).map fun (text, rest) => (unit :: text, rest)
  | char :: rest =>
      if char.toNat < 0x20 ∨ char = '\\' then none
      else (parseString rest).map fun (text, rest) => (units char ++ text, rest)

/-- Digits, of which there is one at least. -/
def parseDigits (text : List Char) : Option (List Char × List Char) :=
  let digits := text.takeWhile Char.isDigit
  if digits = [] then none else some (digits, text.dropWhile Char.isDigit)

def parseFraction : List Char → Option (List Char × List Char)
  | '.' :: rest => parseDigits rest
  | text => some ([], text)

def parseExponent : List Char → Option (Int × List Char)
  | char :: rest =>
      if char = 'e' ∨ char = 'E' then
        match rest with
        | '-' :: rest =>
            (parseDigits rest).map fun (digits, rest) => (-(Nat.ofDigitChars 10 digits 0 : Int), rest)
        | '+' :: rest =>
            (parseDigits rest).map fun (digits, rest) => ((Nat.ofDigitChars 10 digits 0 : Int), rest)
        | rest =>
            (parseDigits rest).map fun (digits, rest) => ((Nat.ofDigitChars 10 digits 0 : Int), rest)
      else some (0, char :: rest)
  | [] => some (0, [])

def parseUnsigned (negative : Bool) (text : List Char) : Option (Decimal × List Char) := do
  let (whole, rest) ← parseDigits text
  -- A leading zero stands alone.
  if whole.head? = some '0' ∧ whole ≠ ['0'] then none
  else
    let (fraction, rest) ← parseFraction rest
    let (exponent, rest) ← parseExponent rest
    return (⟨negative, Nat.ofDigitChars 10 (whole ++ fraction) 0, exponent - fraction.length⟩, rest)

def parseNumber : List Char → Option (Decimal × List Char)
  | '-' :: rest => parseUnsigned true rest
  | text => parseUnsigned false text

/-- Members of an array or an object, up to the end of it. -/
def parseMembers {Member : Type} (member : List Char → Option (Member × List Char)) (close : Char) :
    Nat → List Char → Option (List Member × List Char)
  | 0, _ => none
  | fuel + 1, text =>
      match member text with
      | none => none
      | some (first, rest) =>
          match skipSpace rest with
          | [] => none
          | char :: rest =>
              if char = ',' then
                (parseMembers member close fuel (skipSpace rest)).map fun (others, rest) =>
                  (first :: others, rest)
              else if char = close then some ([first], rest)
              else none

/-- What follows the opening of an array or an object. -/
def parseBody {Member : Type} (member : List Char → Option (Member × List Char)) (close : Char)
    (text : List Char) : Option (List Member × List Char) :=
  match skipSpace text with
  | [] => none
  | char :: rest =>
      if char = close then some ([], rest)
      else parseMembers member close (char :: rest).length (char :: rest)

def parseField {Value : Type} (value : List Char → Option (Value × List Char)) :
    List Char → Option ((JsString × Value) × List Char)
  | '"' :: rest =>
      match parseString rest with
      | none => none
      | some (key, rest) =>
          match skipSpace rest with
          | ':' :: rest => (value (skipSpace rest)).map fun (value, rest) => ((key, value), rest)
          | _ => none
  | _ => none

def parseValue : Nat → List Char → Option (Json Decimal × List Char)
  | 0, _ => none
  | fuel + 1, text =>
      match text with
      | 'n' :: 'u' :: 'l' :: 'l' :: rest => some (.null, rest)
      | 't' :: 'r' :: 'u' :: 'e' :: rest => some (.bool true, rest)
      | 'f' :: 'a' :: 'l' :: 's' :: 'e' :: rest => some (.bool false, rest)
      | '"' :: rest => (parseString rest).map fun (value, rest) => (.str value, rest)
      | '[' :: rest =>
          (parseBody (parseValue fuel) ']' rest).map fun (items, rest) => (.arr items, rest)
      | '\x7b' :: rest =>
          (parseBody (parseField (parseValue fuel)) '\x7d' rest).map fun (fields, rest) =>
            (.obj fields, rest)
      | text => (parseNumber text).map fun (value, rest) => (.num value, rest)

def parse (text : List Char) : Option (Json Decimal) :=
  match parseValue (text.length + 1) (skipSpace text) with
  | none => none
  | some (value, rest) => if skipSpace rest = [] then some value else none

end Reader

end OnlyTwo.Js
