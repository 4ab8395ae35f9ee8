import OnlyTwo.Json

/-!
`JSON.parse` inverts `JSON.stringify`. Each part of the reader undoes the part of
the writer that it belongs to, whatever follows in the text, as long as what follows
a number does not continue it; the loop over members needs nothing of its members
but that. The induction is on the fuel, which the nesting of the value bounds.
-/

namespace OnlyTwo.Js

section Strings

theorem toNat_ofNat {code : Nat} (valid : code.isValidChar) : (Char.ofNat code).toNat = code := by
  rw [Char.ofNat, dif_pos valid]
  rfl

theorem ofNat_toNat_unit (unit : UInt16) {value : Nat} (same : value = unit.toNat) :
    UInt16.ofNat value = unit := by
  subst same
  exact UInt16.ofNat_toNat

theorem combine_toNat {high low : UInt16} (isHigh : isHigh high = true)
    (isLow : isLow low = true) :
    ∃ offset, (combine high low).toNat = 0x10000 + offset ∧
      0xD800 + offset / 0x400 = high.toNat ∧ 0xDC00 + offset % 0x400 = low.toNat := by
  simp only [Js.isHigh, Js.isLow, Bool.and_eq_true, decide_eq_true_eq] at isHigh isLow
  refine ⟨(high.toNat - 0xD800) * 0x400 + (low.toNat - 0xDC00), ?_, by omega, by omega⟩
  have valid : (0x10000 + (high.toNat - 0xD800) * 0x400 + (low.toNat - 0xDC00)).isValidChar := by
    right
    omega
  rw [combine, toNat_ofNat valid, Nat.add_assoc]

theorem units_combine {high low : UInt16} (isHigh : isHigh high = true) (isLow : isLow low = true) :
    units (combine high low) = [high, low] := by
  obtain ⟨offset, code, first, second⟩ := combine_toNat isHigh isLow
  have above : ¬ 0x10000 + offset < 0x10000 := by omega
  have rest : 0x10000 + offset - 0x10000 = offset := by omega
  simp only [units, code, above, if_false, rest, first, second, UInt16.ofNat_toNat]

theorem units_ne_nil (char : Char) : units char ≠ [] := by
  simp only [units]
  split
  · exact List.cons_ne_nil _ _
  · exact List.cons_ne_nil _ _

/-- A character is known from its code units, whatever follows them. -/
theorem units_append_inj {first second : Char} {rest others : JsString}
    (same : units first ++ rest = units second ++ others) : first = second ∧ rest = others := by
  have known : ∀ char : Char, char.toNat < 0xD800 ∨ 0xDFFF < char.toNat ∧ char.toNat < 0x110000 :=
    fun char => char.valid
  have firstKnown := known first
  have secondKnown := known second
  have inj : first.toNat = second.toNat → first = second := Char.toNat_inj.mp
  simp only [units] at same
  split at same <;> split at same
  · simp only [List.cons_append, List.nil_append, List.cons.injEq] at same
    have codes := congrArg UInt16.toNat same.1
    simp only [UInt16.toNat_ofNat'] at codes
    exact ⟨inj (by omega), same.2⟩
  · simp only [List.cons_append, List.nil_append, List.cons.injEq] at same
    have codes := congrArg UInt16.toNat same.1
    simp only [UInt16.toNat_ofNat'] at codes
    omega
  · simp only [List.cons_append, List.nil_append, List.cons.injEq] at same
    have codes := congrArg UInt16.toNat same.1
    simp only [UInt16.toNat_ofNat'] at codes
    omega
  · simp only [List.cons_append, List.nil_append, List.cons.injEq] at same
    have highs := congrArg UInt16.toNat same.1
    have lows := congrArg UInt16.toNat same.2.1
    simp only [UInt16.toNat_ofNat'] at highs lows
    exact ⟨inj (by omega), same.2.2⟩

theorem flatMap_units_inj {first second : List Char}
    (same : first.flatMap units = second.flatMap units) : first = second := by
  induction first generalizing second with
  | nil =>
      cases second with
      | nil => rfl
      | cons char second =>
          rw [List.flatMap_nil, List.flatMap_cons] at same
          exact absurd (List.append_eq_nil_iff.mp same.symm).1 (units_ne_nil char)
  | cons char first ih =>
      cases second with
      | nil =>
          rw [List.flatMap_nil, List.flatMap_cons] at same
          exact absurd (List.append_eq_nil_iff.mp same).1 (units_ne_nil char)
      | cons other second =>
          rw [List.flatMap_cons, List.flatMap_cons] at same
          obtain ⟨rfl, rest⟩ := units_append_inj same
          rw [ih rest]

theorem hexValue_hexDigit : ∀ value, value < 16 → hexValue (hexDigit value) = some value := by
  decide

theorem hexUnit_digits (unit : UInt16) :
    hexUnit (hexDigit (unit.toNat / 4096)) (hexDigit (unit.toNat / 256 % 16))
      (hexDigit (unit.toNat / 16 % 16)) (hexDigit (unit.toNat % 16)) = some unit := by
  have bound := unit.toNat_lt
  simp only [hexUnit, hexValue_hexDigit _ (by omega : unit.toNat / 4096 < 16),
    hexValue_hexDigit _ (by omega : unit.toNat / 256 % 16 < 16),
    hexValue_hexDigit _ (by omega : unit.toNat / 16 % 16 < 16),
    hexValue_hexDigit _ (by omega : unit.toNat % 16 < 16), Option.pure_def, Option.bind_eq_bind,
    Option.bind_some, Option.some.injEq]
  apply ofNat_toNat_unit
  omega

theorem parseString_plain {char : Char} (rest : List Char) (quote : char ≠ '"')
    (escape : char ≠ '\\') (printable : 0x20 ≤ char.toNat) :
    parseString (char :: rest) =
      (parseString rest).map fun (text, rest) => (units char ++ text, rest) := by
  rw [parseString.eq_def]
  split
  · rename_i same
    cases same
  · rename_i same
    cases same
    exact absurd rfl quote
  · rename_i same
    cases same
    exact absurd rfl escape
  · rename_i same
    cases same
    exact absurd rfl escape
  · rename_i same
    cases same
    rw [if_neg (by simp [escape, printable])]

theorem parseString_unicode (unit : UInt16) (rest : List Char) :
    parseString (unicodeEscape unit ++ rest) =
      (parseString rest).map fun (text, rest) => (unit :: text, rest) := by
  simp only [unicodeEscape, List.cons_append, List.nil_append, parseString, hexUnit_digits]

/-- The reader undoes one escape of the writer. -/
theorem parseString_unit (unit : UInt16) (rest : List Char) :
    parseString (escapeUnit unit ++ rest) =
      (parseString rest).map fun (text, rest) => (unit :: text, rest) := by
  have known : ∀ code : Nat, unit.toNat = code → unit = UInt16.ofNat code := by
    rintro code rfl
    exact UInt16.ofNat_toNat.symm
  unfold escapeUnit
  split
  · rename_i code
    rw [known _ code]
    rfl
  · rename_i code
    rw [known _ code]
    rfl
  · rename_i code
    rw [known _ code]
    rfl
  · rename_i code
    rw [known _ code]
    rfl
  · rename_i code
    rw [known _ code]
    rfl
  · rename_i code
    rw [known _ code]
    rfl
  · rename_i code
    rw [known _ code]
    rfl
  · rename_i quote backslash
    split
    · exact parseString_unicode unit rest
    · rename_i plain
      simp only [Bool.or_eq_true, decide_eq_true_eq, Js.isHigh, Js.isLow, Bool.and_eq_true, not_or,
        not_and, not_lt] at plain
      have bound := unit.toNat_lt
      -- A unit that needs no escape is no half of a pair, so it is a character by itself.
      have valid : unit.toNat.isValidChar := by
        by_cases low : unit.toNat < 0xD800
        · exact Or.inl low
        · right
          omega
      have code := toNat_ofNat valid
      rw [List.cons_append, List.nil_append, parseString_plain]
      · have same : units (Char.ofNat unit.toNat) = [unit] := by
          simp only [units, code]
          rw [if_pos (by omega), UInt16.ofNat_toNat]
        rw [same]
        rfl
      · intro same
        rw [same] at code
        exact quote code.symm
      · intro same
        rw [same] at code
        exact backslash code.symm
      · omega

theorem parseString_escape (text : JsString) (rest : List Char) :
    parseString (escapeUnits text ++ '"' :: rest) = some (text, rest) := by
  fun_induction escapeUnits text with
  | case1 => rfl
  | case2 unit =>
      rw [parseString_unit]
      rfl
  | case3 first second others pair ih =>
      rw [Bool.and_eq_true] at pair
      obtain ⟨offset, code, _⟩ := combine_toNat pair.1 pair.2
      have above : ∀ char : Char, char.toNat < 0x10000 → combine first second ≠ char := by
        rintro char small rfl
        omega
      rw [List.cons_append, parseString_plain _ (above _ (by decide)) (above _ (by decide))
        (by omega), ih, units_combine pair.1 pair.2]
      rfl
  | case4 first second others single ih =>
      rw [List.append_assoc, parseString_unit, ih]
      rfl

end Strings

section Numbers

/-- What does not continue a number. -/
def Stops (rest : List Char) : Prop :=
  ∀ char ∈ rest.head?, char.isDigit = false ∧ char ≠ '.' ∧ char ≠ 'e' ∧ char ≠ 'E'

theorem parseDigits_append {digits rest : List Char} (all : ∀ char ∈ digits, char.isDigit = true)
    (some : digits ≠ []) (stops : Stops rest) :
    parseDigits (digits ++ rest) = .some (digits, rest) := by
  have none : rest.takeWhile Char.isDigit = [] ∧ rest.dropWhile Char.isDigit = rest := by
    cases rest with
    | nil => exact ⟨rfl, rfl⟩
    | cons char rest =>
        have other := (stops char rfl).1
        simp [other]
  simp only [parseDigits, List.takeWhile_append_of_pos all, List.dropWhile_append_of_pos all,
    none.1, none.2, List.append_nil, some, if_false]

theorem parseFraction_stops {rest : List Char} (stops : Stops rest) :
    parseFraction rest = some ([], rest) := by
  unfold parseFraction
  split
  · exact absurd rfl (stops '.' rfl).2.1
  · rfl

theorem parseExponent_stops {rest : List Char} (stops : Stops rest) :
    parseExponent rest = some (0, rest) := by
  cases rest with
  | nil => rfl
  | cons char rest =>
      obtain ⟨_, _, small, capital⟩ := stops char rfl
      simp [parseExponent, small, capital]

/-- A positive number does not begin with a zero. -/
theorem toDigits_head (value : Nat) :
    (Nat.toDigits 10 value).head? = some '0' → Nat.toDigits 10 value = ['0'] := by
  induction value using Nat.strongRecOn with
  | _ value ih =>
      by_cases small : value < 10
      · rw [Nat.toDigits_of_lt_base small]
        simp only [List.head?_cons, Option.some.injEq]
        intro same
        rw [same]
      · have large := not_lt.mp small
        rw [Nat.toDigits_of_base_le (by decide) large, List.head?_append]
        have earlier := ih (value / 10) (by omega)
        cases digits : Nat.toDigits 10 (value / 10) with
        | nil => exact absurd digits Nat.toDigits_ne_nil
        | cons first others =>
            intro zero
            rw [digits] at earlier
            have single := earlier (by simpa using zero)
            rw [← digits] at single
            have nothing : value / 10 = 0 := by
              have same := congrArg (fun chars => Nat.ofDigitChars 10 chars 0) single
              simp only [Nat.ofDigitChars_ten_toDigits] at same
              exact same
            omega

theorem parseUnsigned_toDigits (negative : Bool) (value : Nat) {rest : List Char}
    (stops : Stops rest) :
    parseUnsigned negative (Nat.toDigits 10 value ++ rest) = some (⟨negative, value, 0⟩, rest) := by
  have digits : ∀ char ∈ Nat.toDigits 10 value, char.isDigit = true := fun _ member =>
    Nat.isDigit_of_mem_toDigits (by decide) (by decide) member
  have leading : ¬ ((Nat.toDigits 10 value).head? = some '0' ∧ Nat.toDigits 10 value ≠ ['0']) :=
    fun both => both.2 (toDigits_head value both.1)
  simp [parseUnsigned, parseDigits_append digits Nat.toDigits_ne_nil stops, leading,
    parseFraction_stops stops, parseExponent_stops stops]

theorem toDigits_cons (value : Nat) :
    ∃ first others, Nat.toDigits 10 value = first :: others ∧ first.isDigit = true := by
  cases digits : Nat.toDigits 10 value with
  | nil => exact absurd digits Nat.toDigits_ne_nil
  | cons first others =>
      refine ⟨first, others, rfl, ?_⟩
      apply Nat.isDigit_of_mem_toDigits (b := 10) (n := value) (by decide) (by decide)
      simp [digits]

theorem parseNumber_printInt (value : Int) {rest : List Char} (stops : Stops rest) :
    parseNumber (printInt value ++ rest) = some (.ofInt value, rest) := by
  unfold printInt
  by_cases negative : value < 0
  · rw [if_pos negative, List.cons_append, parseNumber, parseUnsigned_toDigits _ _ stops]
    simp [Decimal.ofInt, negative]
  · rw [if_neg negative]
    have unsigned : parseNumber (Nat.toDigits 10 value.natAbs ++ rest) =
        parseUnsigned false (Nat.toDigits 10 value.natAbs ++ rest) := by
      obtain ⟨first, others, digits, digit⟩ := toDigits_cons value.natAbs
      rw [digits, List.cons_append]
      unfold parseNumber
      split
      · rename_i same
        cases same
        cases digit
      · rfl
    rw [unsigned, parseUnsigned_toDigits _ _ stops]
    simp [Decimal.ofInt, negative]

end Numbers

section Members

theorem skipSpace_cons {char : Char} (rest : List Char) (visible : isSpace char = false) :
    skipSpace (char :: rest) = char :: rest := by
  simp [skipSpace, visible]

/-- The end of an array or an object. -/
structure Closes (close : Char) : Prop where
  comma : close ≠ ','
  visible : isSpace close = false
  stops : ∀ rest, Stops (close :: rest)

theorem closes_bracket : Closes ']' :=
  ⟨by decide, by decide, fun _ char head => by cases head; decide⟩

theorem closes_brace : Closes '\x7d' :=
  ⟨by decide, by decide, fun _ char head => by cases head; decide⟩

theorem stops_comma (rest : List Char) : Stops (',' :: rest) := by
  intro char head
  cases head
  decide

variable {Source Member : Type} {member : List Char → Option (Member × List Char)}
  {print : Source → List Char} {meaning : Source → Member} {close : Char}

/-- The printed member begins with a character that is no space and no end. -/
def Begins (print : Source → List Char) (close : Char) (item : Source) : Prop :=
  ∃ char others, print item = char :: others ∧ isSpace char = false ∧ char ≠ close

/-- A loop over members reads what `commas` wrote if its member reads one. -/
theorem parseMembers_commas (closes : Closes close) {first : Source} {items : List Source}
    {fuel : Nat} (enough : items.length < fuel)
    (reads : ∀ item ∈ first :: items, ∀ rest, Stops rest →
      member (print item ++ rest) = some (meaning item, rest))
    (begins : ∀ item ∈ first :: items, Begins print close item) (rest : List Char) :
    parseMembers member close fuel (commas close ((first :: items).map print) ++ rest) =
      some ((first :: items).map meaning, rest) := by
  induction items generalizing first fuel with
  | nil =>
      obtain ⟨fuel, rfl⟩ := Nat.exists_eq_succ_of_ne_zero (Nat.ne_of_gt enough)
      have read := reads first List.mem_cons_self (close :: rest) (closes.stops rest)
      simp only [List.map_cons, List.map_nil, commas, List.append_assoc, List.cons_append,
        List.nil_append, parseMembers, read, skipSpace_cons rest closes.visible]
      simp [closes.comma]
  | cons second items ih =>
      obtain ⟨fuel, rfl⟩ := Nat.exists_eq_succ_of_ne_zero (Nat.ne_of_gt (Nat.zero_lt_of_lt enough))
      have others := ih (Nat.lt_of_succ_lt_succ enough)
        (fun item listed => reads item (List.mem_cons_of_mem first listed))
        (fun item listed => begins item (List.mem_cons_of_mem first listed))
      have read := reads first List.mem_cons_self
        (',' :: (commas close ((second :: items).map print) ++ rest)) (stops_comma _)
      have visible : skipSpace (commas close ((second :: items).map print) ++ rest) =
          commas close ((second :: items).map print) ++ rest := by
        obtain ⟨char, tail, printed, visible, _⟩ :=
          begins second (List.mem_cons_of_mem first List.mem_cons_self)
        cases items with
        | nil => simp [commas, printed, skipSpace, visible]
        | cons third items => simp [commas, printed, skipSpace, visible]
      have comma : skipSpace (',' :: (commas close ((second :: items).map print) ++ rest)) =
          ',' :: (commas close ((second :: items).map print) ++ rest) :=
        skipSpace_cons _ (by decide)
      have written : commas close ((first :: second :: items).map print) ++ rest =
          print first ++ ',' :: (commas close ((second :: items).map print) ++ rest) := by
        simp only [List.map_cons, commas, List.append_assoc, List.cons_append]
      rw [written, parseMembers, read]
      simp only [comma, if_true, visible, others]
      rfl

theorem length_commas (close : Char) (texts : List (List Char))
    (some : ∀ text ∈ texts, text ≠ []) : texts.length ≤ (commas close texts).length := by
  fun_induction commas close texts with
  | case1 => simp
  | case2 text => simp
  | case3 text rest several ih =>
      have later := ih (fun other listed => some other (List.mem_cons_of_mem text listed))
      simp only [List.length_cons, List.length_append]
      omega

theorem parseBody_commas (closes : Closes close) (items : List Source)
    (reads : ∀ item ∈ items, ∀ rest, Stops rest →
      member (print item ++ rest) = some (meaning item, rest))
    (begins : ∀ item ∈ items, Begins print close item) (rest : List Char) :
    parseBody member close (commas close (items.map print) ++ rest) =
      some (items.map meaning, rest) := by
  cases items with
  | nil =>
      simp [parseBody, commas, skipSpace_cons rest closes.visible]
  | cons first items =>
      obtain ⟨char, tail, printed, visible, apart⟩ := begins first List.mem_cons_self
      obtain ⟨others, whole⟩ : ∃ others,
          commas close ((first :: items).map print) ++ rest = char :: others := by
        cases items with
        | nil => exact ⟨tail ++ close :: rest, by simp [commas, printed]⟩
        | cons second items =>
            exact ⟨tail ++ ',' :: (commas close (print second :: items.map print) ++ rest),
              by simp [commas, printed]⟩
      have enough : items.length < (char :: others).length := by
        have nonempty : ∀ text ∈ (first :: items).map print, text ≠ [] := by
          intro text listed
          obtain ⟨item, member, rfl⟩ := List.mem_map.mp listed
          obtain ⟨_, _, shown, _⟩ := begins item member
          rw [shown]
          exact List.cons_ne_nil _ _
        have long := length_commas close _ nonempty
        rw [← whole, List.length_append]
        simp only [List.length_map, List.length_cons] at long
        omega
      have loop := parseMembers_commas closes enough reads begins rest
      rw [whole] at loop ⊢
      simp only [parseBody, skipSpace_cons others visible, if_neg apart]
      exact loop

end Members

section Values

theorem stringifyItems_eq (items : List (Json Int)) :
    stringifyItems items = items.map stringify := by
  induction items with
  | nil => rfl
  | cons item items ih => rw [stringifyItems, ih, List.map_cons]

def stringifyField (field : JsString × Json Int) : List Char :=
  quote field.1 ++ ':' :: stringify field.2

theorem stringifyFields_eq (fields : List (JsString × Json Int)) :
    stringifyFields fields = fields.map stringifyField := by
  induction fields with
  | nil => rfl
  | cons field fields ih =>
      rw [stringifyFields, ih, List.map_cons]
      rfl

theorem mapItems_eq {Number Other : Type} (change : Number → Other) (items : List (Json Number)) :
    Json.mapItems change items = items.map (Json.map change) := by
  induction items with
  | nil => rfl
  | cons item items ih => rw [Json.mapItems, ih, List.map_cons]

theorem mapFields_eq {Number Other : Type} (change : Number → Other)
    (fields : List (JsString × Json Number)) :
    Json.mapFields change fields = fields.map fun field => (field.1, field.2.map change) := by
  induction fields with
  | nil => rfl
  | cons field fields ih => rw [Json.mapFields, ih, List.map_cons]

mutual
/-- How deep arrays and objects are nested. -/
def depth : Json Int → Nat
  | .arr items => depthItems items + 1
  | .obj fields => depthFields fields + 1
  | _ => 0

def depthItems : List (Json Int) → Nat
  | [] => 0
  | item :: rest => max (depth item) (depthItems rest)

def depthFields : List (JsString × Json Int) → Nat
  | [] => 0
  | (_, value) :: rest => max (depth value) (depthFields rest)
end

theorem depth_item {items : List (Json Int)} {item : Json Int} (listed : item ∈ items) :
    depth item ≤ depthItems items := by
  induction items with
  | nil => cases listed
  | cons first items ih =>
      rw [depthItems]
      rcases List.mem_cons.mp listed with rfl | later
      · exact le_max_left _ _
      · exact (ih later).trans (le_max_right _ _)

theorem depth_field {fields : List (JsString × Json Int)} {field : JsString × Json Int}
    (listed : field ∈ fields) : depth field.2 ≤ depthFields fields := by
  induction fields with
  | nil => cases listed
  | cons first fields ih =>
      rw [depthFields]
      rcases List.mem_cons.mp listed with rfl | later
      · exact le_max_left _ _
      · exact (ih later).trans (le_max_right _ _)

theorem length_le_commas {texts : List (List Char)} {text : List Char} (close : Char)
    (listed : text ∈ texts) : text.length ≤ (commas close texts).length := by
  fun_induction commas close texts with
  | case1 => cases listed
  | case2 only =>
      cases List.mem_singleton.mp listed
      simp
  | case3 first rest several ih =>
      rw [List.length_append, List.length_cons]
      rcases List.mem_cons.mp listed with rfl | later
      · omega
      · have shorter := ih later
        omega

theorem commas_le_cons (close : Char) (text : List Char) (rest : List (List Char)) :
    (commas close rest).length ≤ (commas close (text :: rest)).length := by
  cases rest with
  | nil => simp [commas]
  | cons second rest =>
      have written : commas close (text :: second :: rest) =
          text ++ ',' :: commas close (second :: rest) := commas.eq_3 _ _ _ (by simp)
      rw [written, List.length_append, List.length_cons]
      omega

mutual
theorem depth_le_length (value : Json Int) : depth value ≤ (stringify value).length := by
  cases value with
  | arr items =>
      have inner := depthItems_le items
      simp only [depth, stringify, List.length_cons]
      omega
  | obj fields =>
      have inner := depthFields_le fields
      simp only [depth, stringify, List.length_cons]
      omega
  | null => exact Nat.zero_le _
  | bool => exact Nat.zero_le _
  | num => exact Nat.zero_le _
  | str => exact Nat.zero_le _

theorem depthItems_le (items : List (Json Int)) :
    depthItems items ≤ (commas ']' (stringifyItems items)).length := by
  cases items with
  | nil => exact Nat.zero_le _
  | cons item items =>
      have first := depth_le_length item
      have later := depthItems_le items
      have own : (stringify item).length ≤ (commas ']' (stringifyItems (item :: items))).length :=
        length_le_commas ']' List.mem_cons_self
      have rest := commas_le_cons ']' (stringify item) (stringifyItems items)
      rw [depthItems]
      exact max_le (first.trans own) (later.trans rest)

theorem depthFields_le (fields : List (JsString × Json Int)) :
    depthFields fields ≤ (commas '\x7d' (stringifyFields fields)).length := by
  cases fields with
  | nil => exact Nat.zero_le _
  | cons field fields =>
      obtain ⟨key, value⟩ := field
      have first := depth_le_length value
      have later := depthFields_le fields
      have own : (quote key ++ ':' :: stringify value).length ≤
          (commas '\x7d' (stringifyFields ((key, value) :: fields))).length :=
        length_le_commas '\x7d' List.mem_cons_self
      have rest := commas_le_cons '\x7d' (quote key ++ ':' :: stringify value)
        (stringifyFields fields)
      have inner : (stringify value).length ≤ (quote key ++ ':' :: stringify value).length := by
        rw [List.length_append, List.length_cons]
        omega
      rw [depthFields]
      exact max_le ((first.trans inner).trans own) (later.trans rest)
end

/-- How every printed value begins. -/
theorem stringify_begins (value : Json Int) :
    ∃ char others, stringify value = char :: others ∧ isSpace char = false ∧ char ≠ ']' ∧
      char ≠ '\x7d' := by
  cases value with
  | null => exact ⟨_, _, rfl, by decide, by decide, by decide⟩
  | bool value => cases value <;> exact ⟨_, _, rfl, by decide, by decide, by decide⟩
  | num value =>
      rw [stringify, printInt]
      split
      · exact ⟨_, _, rfl, by decide, by decide, by decide⟩
      · obtain ⟨first, others, digits, digit⟩ := toDigits_cons value.natAbs
        refine ⟨first, others, digits, ?_, ?_, ?_⟩
        · apply Bool.eq_false_iff.mpr
          intro space
          simp only [isSpace, Bool.or_eq_true, decide_eq_true_eq] at space
          rcases space with ((rfl | rfl) | rfl) | rfl <;> cases digit
        · rintro rfl
          cases digit
        · rintro rfl
          cases digit
  | str value => exact ⟨_, _, rfl, by decide, by decide, by decide⟩
  | arr items => exact ⟨_, _, rfl, by decide, by decide, by decide⟩
  | obj fields => exact ⟨_, _, rfl, by decide, by decide, by decide⟩

theorem parseField_field {value : List Char → Option (Json Decimal × List Char)}
    (field : JsString × Json Int) (rest : List Char)
    (reads : value (stringify field.2 ++ rest) = some (field.2.map .ofInt, rest)) :
    parseField value (stringifyField field ++ rest) =
      some ((field.1, field.2.map .ofInt), rest) := by
  obtain ⟨key, inner⟩ := field
  obtain ⟨char, others, printed, visible, _⟩ := stringify_begins inner
  have written : stringifyField (key, inner) ++ rest =
      '"' :: (escapeUnits key ++ '"' :: (':' :: (stringify inner ++ rest))) := by
    simp [stringifyField, quote]
  have colon : skipSpace (':' :: (stringify inner ++ rest)) = ':' :: (stringify inner ++ rest) :=
    skipSpace_cons _ (by decide)
  have start : skipSpace (stringify inner ++ rest) = stringify inner ++ rest := by
    rw [printed, List.cons_append, skipSpace_cons _ visible]
  rw [written, parseField, parseString_escape]
  simp only [colon, start, reads]
  rfl

/-- A digit or a sign begins a number. -/
theorem parseValue_number {fuel : Nat} {text : List Char} (value : Int) {rest : List Char}
    (written : text = printInt value ++ rest) (stops : Stops rest) :
    parseValue (fuel + 1) text = some (.num (.ofInt value), rest) := by
  have read := parseNumber_printInt value stops
  rw [← written] at read
  have sign : ∃ char others, text = char :: others ∧ (char = '-' ∨ char.isDigit = true) := by
    rw [written, printInt]
    split
    · exact ⟨_, _, rfl, Or.inl rfl⟩
    · obtain ⟨first, others, digits, digit⟩ := toDigits_cons value.natAbs
      exact ⟨first, others ++ rest, by rw [digits, List.cons_append], Or.inr digit⟩
  obtain ⟨char, others, shape, first⟩ := sign
  subst shape
  rw [parseValue, read]
  · rfl
  all_goals
    intro tail same
    cases same
    rcases first with impossible | impossible <;> cases impossible

/-- The reader undoes the writer, with fuel for the nesting. -/
theorem parseValue_stringify (fuel : Nat) (value : Json Int) (enough : depth value < fuel)
    (rest : List Char) (stops : Stops rest) :
    parseValue fuel (stringify value ++ rest) = some (value.map .ofInt, rest) := by
  induction fuel generalizing value rest with
  | zero => exact absurd enough (Nat.not_lt_zero _)
  | succ fuel ih =>
      cases value with
      | null => rfl
      | bool value => cases value <;> rfl
      | num value => exact parseValue_number value rfl stops
      | str value =>
          have written : stringify (.str value) ++ rest =
              '"' :: (escapeUnits value ++ '"' :: rest) := by
            simp [stringify, quote]
          rw [written, parseValue, parseString_escape]
          rfl
      | arr items =>
          have inner : ∀ item ∈ items, depth item < fuel := by
            intro item listed
            have deeper := depth_item listed
            rw [depth] at enough
            omega
          have begins : ∀ item ∈ items, Begins stringify ']' item := by
            intro item _
            obtain ⟨char, others, printed, visible, apart, _⟩ := stringify_begins item
            exact ⟨char, others, printed, visible, apart⟩
          have body : parseBody (parseValue fuel) ']' (commas ']' (items.map stringify) ++ rest) =
              some (items.map (Json.map .ofInt), rest) :=
            parseBody_commas closes_bracket items
              (fun item listed later stopped => ih item (inner item listed) later stopped) begins rest
          rw [stringify, stringifyItems_eq, List.cons_append, parseValue, body, Json.map, mapItems_eq]
          rfl
      | obj fields =>
          have inner : ∀ field ∈ fields, depth field.2 < fuel := by
            intro field listed
            have deeper := depth_field listed
            rw [depth] at enough
            omega
          have body : parseBody (parseField (parseValue fuel)) '\x7d'
              (commas '\x7d' (fields.map stringifyField) ++ rest) =
              some (fields.map fun field => (field.1, field.2.map .ofInt), rest) :=
            parseBody_commas closes_brace fields
              (fun field listed later stopped =>
                parseField_field field later (ih field.2 (inner field listed) later stopped))
              (fun field _ => ⟨'"', _, rfl, by decide, by decide⟩) rest
          rw [stringify, stringifyFields_eq, List.cons_append, parseValue, body, Json.map,
            mapFields_eq]
          rfl

/-- `JSON.parse(JSON.stringify(value))` is the value. -/
theorem parse_stringify (value : Json Int) :
    parse (stringify value) = some (value.map .ofInt) := by
  obtain ⟨char, others, printed, visible, _⟩ := stringify_begins value
  have start : skipSpace (stringify value) = stringify value := by
    rw [printed, skipSpace_cons _ visible]
  have enough : depth value < (stringify value).length + 1 :=
    Nat.lt_succ_of_le (depth_le_length value)
  have read := parseValue_stringify _ value enough [] (by simp [Stops])
  rw [List.append_nil] at read
  rw [parse, start, read]
  rfl

end Values

section Injective

variable {Number Other : Type} {change : Number → Other}

mutual
theorem map_inj (inj : Function.Injective change) :
    ∀ first second : Json Number, first.map change = second.map change → first = second := by
  intro first second same
  cases first <;> cases second <;> simp only [Json.map, reduceCtorEq] at same
  case null.null => rfl
  case bool.bool => rw [Json.bool.inj same]
  case num.num => rw [inj (Json.num.inj same)]
  case str.str => rw [Json.str.inj same]
  case arr.arr items others => rw [mapItems_inj inj items others (Json.arr.inj same)]
  case obj.obj fields others => rw [mapFields_inj inj fields others (Json.obj.inj same)]

theorem mapItems_inj (inj : Function.Injective change) :
    ∀ first second : List (Json Number),
      Json.mapItems change first = Json.mapItems change second → first = second := by
  intro first second same
  cases first <;> cases second <;>
    simp only [Json.mapItems, reduceCtorEq, List.cons.injEq] at same
  case nil.nil => rfl
  case cons.cons item items other others =>
      rw [map_inj inj item other same.1, mapItems_inj inj items others same.2]

theorem mapFields_inj (inj : Function.Injective change) :
    ∀ first second : List (JsString × Json Number),
      Json.mapFields change first = Json.mapFields change second → first = second := by
  intro first second same
  cases first <;> cases second <;>
    simp only [Json.mapFields, reduceCtorEq, List.cons.injEq, Prod.mk.injEq] at same
  case nil.nil => rfl
  case cons.cons field fields other others =>
      obtain ⟨key, value⟩ := field
      obtain ⟨name, held⟩ := other
      obtain ⟨⟨rfl, values⟩, rest⟩ := same
      rw [map_inj inj value held values, mapFields_inj inj fields others rest]
end

/-- Values that are written alike are the same. -/
theorem stringify_inj {first second : Json Int} (same : stringify first = stringify second) :
    first = second := by
  have parsed := congrArg parse same
  rw [parse_stringify, parse_stringify, Option.some.injEq] at parsed
  refine map_inj ?_ first second parsed
  intro value other equal
  have values := congrArg Decimal.value equal
  rw [Decimal.value_ofInt, Decimal.value_ofInt] at values
  exact_mod_cast values

end Injective

end OnlyTwo.Js
