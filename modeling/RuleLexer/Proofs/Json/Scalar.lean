import RuleLexer.Json.Printer
import RuleLexer.Json.Reader
import RuleLexer.Proofs.Number.Digits

namespace RuleLexer.Json

/-- Reading gives the value and leaves this text over. -/
def Yields {α : Type} (result : Except ReadError (α × Rest)) (value : α) (rest : List Char) : Prop :=
  ∃ position, result = .ok (value, ⟨position, rest⟩)

theorem Yields.bind {α β : Type} {result : Except ReadError (α × Rest)} {value : α}
    {rest : List Char} (read : Yields result value rest)
    {next : α × Rest → Except ReadError (β × Rest)} {outcome : β} {after : List Char}
    (then' : ∀ position, Yields (next (value, ⟨position, rest⟩)) outcome after) :
    Yields (result >>= next) outcome after := by
  obtain ⟨position, same⟩ := read
  rw [same]
  exact then' position

theorem readString_skip (start : Nat) (passed rest : List Char) (position : Nat) :
    readString start passed.length position (passed ++ rest) =
      readString start 0 (position + passed.length) rest := by
  induction passed generalizing position with
  | nil => rfl
  | cons c passed ih =>
    have step : readString start (passed.length + 1) position (c :: (passed ++ rest)) =
        readString start passed.length (position + 1) (passed ++ rest) := by
      rw [readString]
    rw [List.length_cons, List.cons_append, step, ih]
    congr 1
    omega

theorem hexValue?_digitChar {digit : Nat} (bound : digit < 16) :
    hexValue? (Nat.digitChar digit) = some digit := by
  have each : ∀ digit < 16, hexValue? (Nat.digitChar digit) = some digit := by decide
  exact each digit bound

theorem hexDigits_four {unit : Nat} (bound : unit < 0x10000) :
    Text.hexDigits 4 unit =
      [Nat.digitChar (unit / 0x1000), Nat.digitChar (unit / 0x100 % 16),
        Nat.digitChar (unit / 0x10 % 16), Nat.digitChar (unit % 16)] := by
  have zero : Nat.digitChar 0 = '0' := rfl
  have shorter (n : Nat) : ¬ n < 16 → Nat.toDigits 16 n =
      Nat.toDigits 16 (n / 16) ++ [Nat.digitChar (n % 16)] :=
    fun large => Nat.toDigits_of_base_le (by omega) (by omega)
  have single (n : Nat) : n < 16 → Nat.toDigits 16 n = [Nat.digitChar n] :=
    fun small => Nat.toDigits_of_lt_base small
  have halves : unit / 16 / 16 = unit / 0x100 ∧ unit / 0x100 / 16 = unit / 0x1000 := by omega
  unfold Text.hexDigits
  by_cases one : unit < 0x10
  · have parts : unit / 0x1000 = 0 ∧ unit / 0x100 % 16 = 0 ∧ unit / 0x10 % 16 = 0 ∧
        unit % 16 = unit := by omega
    simp [single unit one, parts, zero, List.replicate]
  · by_cases two : unit < 0x100
    · have parts : unit / 0x1000 = 0 ∧ unit / 0x100 % 16 = 0 ∧ unit / 0x10 % 16 = unit / 16 := by
        omega
      simp [shorter unit one, single (unit / 16) (by omega), parts, zero, List.replicate]
    · by_cases three : unit < 0x1000
      · have parts : unit / 0x1000 = 0 ∧ unit / 0x100 % 16 = unit / 0x100 := by omega
        simp [shorter unit one, shorter (unit / 16) (by omega), halves,
          single (unit / 0x100) (by omega), parts, zero]
      · simp [shorter unit one, shorter (unit / 16) (by omega), halves,
          shorter (unit / 0x100) (by omega), single (unit / 0x1000) (by omega)]

theorem length_hexDigits {unit : Nat} (bound : unit < 0x10000) :
    (Text.hexDigits 4 unit).length = 4 := by
  rw [hexDigits_four bound]
  rfl

theorem unit?_hexDigits {unit : Nat} (bound : unit < 0x10000) :
    unit? (Text.hexDigits 4 unit) = some unit := by
  rw [hexDigits_four bound]
  simp only [unit?, hexValue?_digitChar (show unit / 0x1000 < 16 by omega),
    hexValue?_digitChar (Nat.mod_lt _ (show 0 < 16 by omega)), Option.bind_eq_bind, Option.bind_some,
    Option.pure_def, Option.some.injEq]
  omega

theorem charOf_toNat (c : Char) : charOf c.toNat = c := by
  have valid : c.toNat.isValidChar := c.valid
  rw [charOf, if_pos valid, Char.ofNat_toNat]

theorem lowHalf?_unitEscape {unit : Nat} (low : isLowSurrogate unit = true) {rest : List Char}
    (more : rest ≠ []) : lowHalf? (unitEscape unit ++ rest) = .ok (some unit) := by
  have bound : unit < 0x10000 := by
    simp only [isLowSurrogate, Bool.and_eq_true, decide_eq_true_eq] at low
    omega
  have read := unit?_hexDigits bound
  rw [unitEscape, hexDigits_four bound] at *
  cases rest with
  | nil => exact absurd rfl more
  | cons c rest =>
    simp only [List.cons_append, List.nil_append, lowHalf?, read, low, if_true]

theorem unicodeEscape_unit {unit : Nat} (bound : unit < 0x10000)
    (whole : isHighSurrogate unit = false) {rest : List Char} (more : rest ≠ []) (position : Nat) :
    unicodeEscape position (Text.hexDigits 4 unit ++ rest) = .ok (charOf unit, 4) := by
  have length : ¬ (Text.hexDigits 4 unit ++ rest).length ≤ 4 := by
    have positive := List.length_pos_iff.mpr more
    rw [List.length_append, length_hexDigits bound]
    omega
  have digits : (Text.hexDigits 4 unit ++ rest).take 4 = Text.hexDigits 4 unit :=
    List.take_left' (length_hexDigits bound)
  simp only [unicodeEscape, length, if_false, digits, unit?_hexDigits bound, whole,
    Bool.false_eq_true]

theorem unicodeEscape_pair {high low : Nat} (first : isHighSurrogate high = true)
    (second : isLowSurrogate low = true) {rest : List Char} (more : rest ≠ []) (position : Nat) :
    unicodeEscape position (Text.hexDigits 4 high ++ (unitEscape low ++ rest)) =
      .ok (charOf (0x10000 + (high - 0xD800) * 0x400 + (low - 0xDC00)), 10) := by
  have bound : high < 0x10000 := by
    simp only [isHighSurrogate, Bool.and_eq_true, decide_eq_true_eq] at first
    omega
  have length : ¬ (Text.hexDigits 4 high ++ (unitEscape low ++ rest)).length ≤ 4 := by
    simp [length_hexDigits bound, unitEscape]
  have digits : (Text.hexDigits 4 high ++ (unitEscape low ++ rest)).take 4 = Text.hexDigits 4 high :=
    List.take_left' (length_hexDigits bound)
  have behind : (Text.hexDigits 4 high ++ (unitEscape low ++ rest)).drop 4 = unitEscape low ++ rest :=
    List.drop_left' (length_hexDigits bound)
  simp only [unicodeEscape, length, if_false, digits, unit?_hexDigits bound, first, if_true, behind,
    lowHalf?_unitEscape second more]

section

variable {start : Nat} {rest text after : List Char}

theorem readString_simple {letter c : Char} (escape : simpleEscape? letter = some c)
    (other : letter ≠ 'u') (position : Nat)
    (read : ∀ position, Yields (readString start 0 position rest) text after) :
    Yields (readString start 0 position ('\\' :: letter :: rest)) (c :: text) after := by
  have skip := readString_skip start [letter] rest (position + 1)
  have opened : readString start 0 position ('\\' :: letter :: rest) = (do
      let read ← readString start 1 (position + 1) (letter :: rest)
      return (c :: read.1, read.2)) := by
    rw [readString.eq_def]
    simp only [show ('\\' : Char) ≠ '"' by decide, if_false, if_true]
    split <;> simp_all
  rw [opened, show readString start 1 _ (letter :: rest) = _ from skip]
  apply (read _).bind
  intro position
  exact ⟨position, rfl⟩

theorem readString_unicode {digits : List Char} {c : Char} {count : Nat} (position : Nat)
    (escape : unicodeEscape (position + 1) (digits ++ rest) = .ok (c, count))
    (length : digits.length = count)
    (read : ∀ position, Yields (readString start 0 position rest) text after) :
    Yields (readString start 0 position ('\\' :: 'u' :: (digits ++ rest))) (c :: text) after := by
  have skip := readString_skip start ('u' :: digits) rest (position + 1)
  rw [List.length_cons, length, List.cons_append] at skip
  have opened : readString start 0 position ('\\' :: 'u' :: (digits ++ rest)) = (do
      let read ← readString start (count + 1) (position + 1) ('u' :: (digits ++ rest))
      return (c :: read.1, read.2)) := by
    rw [readString.eq_def]
    simp only [show ('\\' : Char) ≠ '"' by decide, if_false, if_true, escape]
    rfl
  rw [opened, skip]
  apply (read _).bind
  intro position
  exact ⟨position, rfl⟩

theorem readString_plain {c : Char} (low : 0x20 ≤ c.toNat) (quote : c ≠ '"') (backslash : c ≠ '\\')
    (position : Nat) (read : ∀ position, Yields (readString start 0 position rest) text after) :
    Yields (readString start 0 position (c :: rest)) (c :: text) after := by
  have printable : ¬ c.toNat ≤ 0x1F := by omega
  rw [readString.eq_def]
  simp only [quote, backslash, printable, if_false]
  apply (read _).bind
  intro position
  exact ⟨position, rfl⟩

theorem readString_pair {high low : Nat} (first : isHighSurrogate high = true)
    (second : isLowSurrogate low = true) (more : rest ≠ []) (position : Nat)
    (read : ∀ position, Yields (readString start 0 position rest) text after) :
    Yields (readString start 0 position (unitEscape high ++ unitEscape low ++ rest))
      (charOf (0x10000 + (high - 0xD800) * 0x400 + (low - 0xDC00)) :: text) after := by
  have bounds : high < 0x10000 ∧ low < 0x10000 := by
    simp only [isHighSurrogate, isLowSurrogate, Bool.and_eq_true, decide_eq_true_eq] at first second
    omega
  have pair := unicodeEscape_pair first second more (position + 1)
  rw [← List.append_assoc] at pair
  have length : (Text.hexDigits 4 high ++ unitEscape low).length = 10 := by
    simp [unitEscape, length_hexDigits bounds.1, length_hexDigits bounds.2]
  exact readString_unicode position pair length read

theorem readString_unitEscapes (c : Char) (more : rest ≠ []) (position : Nat)
    (read : ∀ position, Yields (readString start 0 position rest) text after) :
    Yields (readString start 0 position
      ((if c.toNat < 0x10000 then unitEscape c.toNat
        else unitEscape (0xD800 + (c.toNat - 0x10000) / 0x400) ++
          unitEscape (0xDC00 + (c.toNat - 0x10000) % 0x400)) ++ rest)) (c :: text) after := by
  have valid : c.toNat < 0xD800 ∨ (0xDFFF < c.toNat ∧ c.toNat < 0x110000) := c.valid
  split
  · next small =>
    have whole : isHighSurrogate c.toNat = false := by
      simp only [isHighSurrogate, Bool.and_eq_false_iff, decide_eq_false_iff_not]
      omega
    have escape := unicodeEscape_unit small whole more (position + 1)
    rw [charOf_toNat] at escape
    exact readString_unicode position escape (length_hexDigits small) read
  · next large =>
    have high : isHighSurrogate (0xD800 + (c.toNat - 0x10000) / 0x400) = true := by
      simp only [isHighSurrogate, Bool.and_eq_true, decide_eq_true_eq]
      omega
    have low : isLowSurrogate (0xDC00 + (c.toNat - 0x10000) % 0x400) = true := by
      simp only [isLowSurrogate, Bool.and_eq_true, decide_eq_true_eq]
      omega
    have joined : 0x10000 + (0xD800 + (c.toNat - 0x10000) / 0x400 - 0xD800) * 0x400 +
        (0xDC00 + (c.toNat - 0x10000) % 0x400 - 0xDC00) = c.toNat := by omega
    have pair := readString_pair high low more position read
    rw [joined, charOf_toNat] at pair
    exact pair

theorem readString_escapeChar (c : Char) (more : rest ≠ []) (position : Nat)
    (read : ∀ position, Yields (readString start 0 position rest) text after) :
    Yields (readString start 0 position (escapeChar c ++ rest)) (c :: text) after := by
  unfold escapeChar
  split
  · exact readString_simple rfl (by decide) position read
  · exact readString_simple rfl (by decide) position read
  · exact readString_simple rfl (by decide) position read
  · exact readString_simple rfl (by decide) position read
  · exact readString_simple rfl (by decide) position read
  · exact readString_simple rfl (by decide) position read
  · exact readString_simple rfl (by decide) position read
  · next quote backslash _ _ _ _ _ =>
    split
    · next printable =>
      simp only [Bool.and_eq_true, decide_eq_true_eq] at printable
      exact readString_plain printable.1 quote backslash position read
    · exact readString_unitEscapes c more position read

end

theorem readString_escaped (text : List Char) (start position : Nat) (rest : List Char) :
    Yields (readString start 0 position (text.flatMap escapeChar ++ '"' :: rest)) text rest := by
  induction text generalizing position with
  | nil =>
    rw [List.flatMap_nil, List.nil_append, readString.eq_def]
    exact ⟨position + 1, rfl⟩
  | cons c text ih =>
    rw [List.flatMap_cons, List.append_assoc]
    exact readString_escapeChar c (by simp) position ih

theorem readQuoted_string (text : String) (position : Nat) (rest : List Char) :
    Yields (readQuoted ⟨position, string text.toList ++ rest⟩) text rest := by
  unfold readQuoted
  have read := readString_escaped text.toList position (position + 1) rest
  simp only [string, List.cons_append, List.append_assoc, List.drop_succ_cons,
    List.drop_zero]
  apply read.bind
  intro behind
  exact ⟨behind, by rw [String.ofList_toList]; rfl⟩

/-- What follows a value in a document: nothing, white space, or the end of an item. -/
def Stops (rest : List Char) : Prop :=
  ∀ c ∈ rest.head?, isBlank c = true ∨ c = ',' ∨ c = ']' ∨ c = '\x7d'

theorem Stops.not_number {c : Char} {rest : List Char} (stops : Stops (c :: rest)) :
    c.isDigit = false ∧ c ≠ '.' ∧ c ≠ 'e' ∧ c ≠ 'E' := by
  have head := stops c rfl
  simp only [isBlank, Bool.or_eq_true, beq_iff_eq] at head
  rcases head with (((rfl | rfl) | rfl) | rfl) | rfl | rfl | rfl <;> decide

theorem Stops.fraction_exponent {rest : List Char} (stops : Stops rest) :
    fractionDigits rest = [] ∧ exponentLength rest = 0 := by
  cases rest with
  | nil => exact ⟨rfl, rfl⟩
  | cons c rest =>
    obtain ⟨-, point, small, large⟩ := stops.not_number
    constructor
    · unfold fractionDigits
      split
      · next same => exact absurd (List.cons.inj same).1 point
      · rfl
    · simp [exponentLength, small, large]

theorem wholeDigits_toDigits (n : Nat) {rest : List Char} (stops : Stops rest) :
    wholeDigits (Nat.toDigits 10 n ++ rest) = Nat.toDigits 10 n := by
  unfold wholeDigits
  split
  · next behind same =>
    cases written : Nat.toDigits 10 n with
    | nil => exact absurd written (Number.toDigits_ne_nil n)
    | cons c digits =>
      rw [written, List.cons_append] at same
      obtain ⟨rfl, -⟩ := List.cons.inj same
      rw [Number.toDigits_of_head_zero written]
  · have front : ∀ c ∈ Nat.toDigits 10 n, c.isDigit = true :=
      List.all_eq_true.mp (Number.all_isDigit_toDigits n)
    rw [List.takeWhile_append_of_pos front]
    cases rest with
    | nil => simp
    | cons c rest =>
      have stop : ¬ c.isDigit = true := by simp [stops.not_number.1]
      rw [List.takeWhile_cons_of_neg stop, List.append_nil]

theorem signLength_toDigits (n : Nat) (rest : List Char) :
    signLength (Nat.toDigits 10 n ++ rest) = 0 := by
  cases written : Nat.toDigits 10 n with
  | nil => exact absurd written (Number.toDigits_ne_nil n)
  | cons c digits =>
    have digit : c.isDigit = true :=
      List.all_eq_true.mp (Number.all_isDigit_toDigits n) c (by simp [written])
    unfold signLength
    split
    · next minus => cases (List.cons.inj minus).1; cases digit
    · rfl

theorem readNumber_of_sign {value : Int} (short : value.natAbs < 10 ^ Number.digitLimit)
    (sign : List Char) (written : Number.intText value = sign ++ Nat.toDigits 10 value.natAbs)
    {rest : List Char} (stops : Stops rest) (position : Nat)
    (signed : signLength (Number.intText value ++ rest) = sign.length) :
    Yields (readNumber ⟨position, Number.intText value ++ rest⟩) (.int value) rest := by
  obtain ⟨fraction, exponent⟩ := stops.fraction_exponent
  have unsigned : (Number.intText value ++ rest).drop sign.length =
      Nat.toDigits 10 value.natAbs ++ rest := by
    rw [written, List.append_assoc, List.drop_left]
  have length : sign.length + (Nat.toDigits 10 value.natAbs).length =
      (Number.intText value).length := by
    rw [written, List.length_append]
  have nonempty : (Nat.toDigits 10 value.natAbs).isEmpty = false :=
    List.isEmpty_eq_false_iff.mpr (Number.toDigits_ne_nil _)
  unfold readNumber
  simp only [signed, unsigned, wholeDigits_toDigits _ stops, nonempty, List.drop_left, fraction,
    List.isEmpty_nil, if_true, List.drop_zero, exponent, Nat.add_zero, length, List.take_left,
    Number.readInt_intText short, Rest.drop, decide_true, Bool.and_self, Bool.false_eq_true, if_false]
  exact ⟨_, rfl⟩

theorem readNumber_intText {value : Int} (short : value.natAbs < 10 ^ Number.digitLimit)
    {rest : List Char} (stops : Stops rest) (position : Nat) :
    Yields (readNumber ⟨position, Number.intText value ++ rest⟩) (.int value) rest := by
  cases value with
  | ofNat n =>
    exact readNumber_of_sign short [] rfl stops position (signLength_toDigits n rest)
  | negSucc n => exact readNumber_of_sign short ['-'] rfl stops position rfl

theorem ne_of_isDigit {c letter : Char} (digit : c.isDigit = true)
    (other : letter.isDigit = false) : (letter == c) = false := by
  apply beq_false_of_ne
  intro same
  rw [same, digit] at other
  cases other

theorem constants_of_intText (value : Int) (rest : List Char) :
    (constants.find? fun constant =>
      constant.1.toList.isPrefixOf (Number.intText value ++ rest)) = none := by
  have starts (n : Nat) : ∃ c digits, Nat.toDigits 10 n = c :: digits ∧ c.isDigit = true := by
    cases written : Nat.toDigits 10 n with
    | nil => exact absurd written (Number.toDigits_ne_nil n)
    | cons c digits =>
      exact ⟨c, digits, rfl,
        List.all_eq_true.mp (Number.all_isDigit_toDigits n) c (by simp [written])⟩
  cases value with
  | ofNat n =>
    obtain ⟨c, digits, written, digit⟩ := starts n
    have other {letter : Char} := @ne_of_isDigit c letter digit
    simp [constants, Number.intText, written, List.isPrefixOf, other (show 'n'.isDigit = false from rfl),
      other (show 't'.isDigit = false from rfl), other (show 'f'.isDigit = false from rfl),
      other (show 'N'.isDigit = false from rfl), other (show 'I'.isDigit = false from rfl),
      other (show '-'.isDigit = false from rfl)]
  | negSucc n =>
    obtain ⟨c, digits, written, digit⟩ := starts (n + 1)
    simp [constants, Number.intText, written, List.isPrefixOf,
      ne_of_isDigit digit (show 'I'.isDigit = false from rfl)]

theorem readScalar_intText {value : Int} (short : value.natAbs < 10 ^ Number.digitLimit)
    {rest : List Char} (stops : Stops rest) (position : Nat) :
    Yields (readScalar ⟨position, Number.intText value ++ rest⟩) (.int value) rest := by
  unfold readScalar
  simp only [constants_of_intText]
  exact readNumber_intText short stops position

end RuleLexer.Json
