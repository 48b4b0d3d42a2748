import RuleLexer.Number.Float
import RuleLexer.Value.Basic

namespace RuleLexer.Json

inductive Fault where
  | expectingValue
  | extraData
  | unterminatedString
  | invalidControl
  | invalidEscape
  | invalidUnicodeEscape
  | expectingComma
  | expectingColon
  | expectingName
  | byteOrderMark
deriving DecidableEq, Repr

inductive ReadError where
  | malformed (fault : Fault) (position : Nat)
  | tooManyDigits (count : Nat)
deriving DecidableEq, Repr

def Fault.message : Fault → String
  | .expectingValue => "Expecting value"
  | .extraData => "Extra data"
  | .unterminatedString => "Unterminated string starting at"
  | .invalidControl => "Invalid control character at"
  | .invalidEscape => "Invalid \\escape"
  | .invalidUnicodeEscape => "Invalid \\uXXXX escape"
  | .expectingComma => "Expecting ',' delimiter"
  | .expectingColon => "Expecting ':' delimiter"
  | .expectingName => "Expecting property name enclosed in double quotes"
  | .byteOrderMark => "Unexpected UTF-8 BOM (decode using utf-8-sig)"

def ReadError.message (document : List Char) : ReadError → String
  | .malformed fault position =>
    let before := document.take position
    let column := (before.reverse.takeWhile (· != '\n')).length + 1
    fault.message ++ ": line " ++ Nat.repr (before.count '\n' + 1) ++ " column "
      ++ Nat.repr column ++ " (char " ++ Nat.repr position ++ ")"
  | .tooManyDigits count => Number.tooManyDigitsMessage count

structure Rest where
  position : Nat
  text : List Char
deriving DecidableEq, Repr

def Rest.drop (rest : Rest) (count : Nat) : Rest :=
  ⟨rest.position + count, rest.text.drop count⟩

def isBlank (c : Char) : Bool :=
  c == ' ' || c == '\t' || c == '\n' || c == '\r'

def Rest.skipBlanks (rest : Rest) : Rest :=
  rest.drop (rest.text.takeWhile isBlank).length

def hexValue? (c : Char) : Option Nat :=
  if c.isDigit then some (c.toNat - 0x30)
  else if 'a' ≤ c && c ≤ 'f' then some (c.toNat - 0x61 + 10)
  else if 'A' ≤ c && c ≤ 'F' then some (c.toNat - 0x41 + 10)
  else none

def unit? : List Char → Option Nat
  | [a, b, c, d] => do
    let a ← hexValue? a
    let b ← hexValue? b
    let c ← hexValue? c
    let d ← hexValue? d
    return ((a * 16 + b) * 16 + c) * 16 + d
  | _ => none

def isHighSurrogate (unit : Nat) : Bool :=
  0xD800 ≤ unit && unit ≤ 0xDBFF

def isLowSurrogate (unit : Nat) : Bool :=
  0xDC00 ≤ unit && unit ≤ 0xDFFF

/-- A code point, or the replacement character for half of a surrogate pair. -/
def charOf (code : Nat) : Char :=
  if code.isValidChar then Char.ofNat code else '\uFFFD'

def lowHalf? (text : List Char) : Except Unit (Option Nat) :=
  match text with
  | '\\' :: 'u' :: a :: b :: c :: d :: _ :: _ =>
    match unit? [a, b, c, d] with
    | some unit => .ok (if isLowSurrogate unit then some unit else none)
    | none => .error ()
  | _ => .ok none

/-- The character of a `\u` escape whose digits come next, and the number of characters it takes
after the `u`, which is at `position`. -/
def unicodeEscape (position : Nat) (text : List Char) : Except ReadError (Char × Nat) :=
  let bad (at' : Nat) : Except ReadError (Char × Nat) :=
    .error (.malformed .invalidUnicodeEscape at')
  if text.length ≤ 4 then bad position
  else match unit? (text.take 4) with
    | none => bad position
    | some unit =>
      if isHighSurrogate unit then
        match lowHalf? (text.drop 4) with
        | .error () => bad (position + 6)
        | .ok (some low) =>
          .ok (charOf (0x10000 + (unit - 0xD800) * 0x400 + (low - 0xDC00)), 10)
        | .ok none => .ok (charOf unit, 4)
      else .ok (charOf unit, 4)

def simpleEscape? : Char → Option Char
  | '"' => some '"'
  | '\\' => some '\\'
  | '/' => some '/'
  | 'b' => some '\x08'
  | 'f' => some '\x0c'
  | 'n' => some '\n'
  | 'r' => some '\r'
  | 't' => some '\t'
  | _ => none

/-- The rest of a string that was opened at `start`. The first argument is the number of characters
to pass over, which belong to an escape that has been read. -/
def readString (start : Nat) : Nat → Nat → List Char → Except ReadError (List Char × Rest)
  | _, _, [] => .error (.malformed .unterminatedString start)
  | skip + 1, position, _ :: rest => readString start skip (position + 1) rest
  | 0, position, c :: rest =>
    if c = '"' then .ok ([], ⟨position + 1, rest⟩)
    else if c = '\\' then
      match rest with
      | [] => .error (.malformed .unterminatedString start)
      | 'u' :: digits => do
        let (d, taken) ← unicodeEscape (position + 1) digits
        let (text, after) ← readString start (taken + 1) (position + 1) rest
        return (d :: text, after)
      | e :: _ =>
        match simpleEscape? e with
        | none => .error (.malformed .invalidEscape position)
        | some d => do
          let (text, after) ← readString start 1 (position + 1) rest
          return (d :: text, after)
    else if c.toNat ≤ 0x1F then .error (.malformed .invalidControl position)
    else do
      let (text, after) ← readString start 0 (position + 1) rest
      return (c :: text, after)

def readQuoted (rest : Rest) : Except ReadError (String × Rest) := do
  let (text, after) ← readString rest.position 0 (rest.position + 1) (rest.text.drop 1)
  return (String.ofList text, after)

def fractionDigits : List Char → List Char
  | '.' :: rest => rest.takeWhile Char.isDigit
  | _ => []

def exponentLength : List Char → Nat
  | c :: rest =>
    if c = 'e' || c = 'E' then
      let (signs, digits) := match rest with
        | '+' :: digits => (1, digits)
        | '-' :: digits => (1, digits)
        | digits => (0, digits)
      let count := (digits.takeWhile Char.isDigit).length
      if count = 0 then 0 else 1 + signs + count
    else 0
  | [] => 0

def wholeDigits (text : List Char) : List Char :=
  match text with
  | '0' :: _ => ['0']
  | _ => text.takeWhile Char.isDigit

def signLength : List Char → Nat
  | '-' :: _ => 1
  | _ => 0

def readNumber (rest : Rest) : Except ReadError (Value × Rest) :=
  let signLength := signLength rest.text
  let unsigned := rest.text.drop signLength
  let whole := wholeDigits unsigned
  if whole.isEmpty then .error (.malformed .expectingValue rest.position)
  else
    let afterWhole := unsigned.drop whole.length
    let fraction := fractionDigits afterWhole
    let fractionLength := if fraction.isEmpty then 0 else fraction.length + 1
    let exponent := exponentLength (afterWhole.drop fractionLength)
    let length := signLength + whole.length + fractionLength + exponent
    let text := rest.text.take length
    if fractionLength = 0 && exponent = 0 then
      match Number.readInt text with
      | .ok value => .ok (.int value, rest.drop length)
      | .error (.tooManyDigits count) => .error (.tooManyDigits count)
      | .error .invalid => .error (.malformed .expectingValue rest.position)
    else match Number.readFloat? text with
      | some value => .ok (.float value, rest.drop length)
      | none => .error (.malformed .expectingValue rest.position)

def constants : List (String × Value) :=
  [("null", .null), ("true", .bool true), ("false", .bool false), ("NaN", .float .nan),
    ("Infinity", .float (.infinity false)), ("-Infinity", .float (.infinity true))]

def readScalar (rest : Rest) : Except ReadError (Value × Rest) :=
  match constants.find? fun constant => constant.1.toList.isPrefixOf rest.text with
  | some (name, value) => .ok (value, rest.drop name.length)
  | none => readNumber rest

mutual

/-- The value that comes next. Every level of nesting and every item takes from the fuel, and there
are not more of them than characters. -/
def readValue : Nat → Rest → Except ReadError (Value × Rest)
  | 0, rest => .error (.malformed .expectingValue rest.position)
  | fuel + 1, rest =>
    match rest.text with
    | '"' :: _ => do
      let (text, after) ← readQuoted rest
      return (.text text, after)
    | '[' :: _ => do
      let inside := (rest.drop 1).skipBlanks
      match inside.text with
      | ']' :: _ => return (.list [], inside.drop 1)
      | _ =>
        let (items, after) ← readItems fuel inside
        return (.list items, after)
    | '\x7b' :: _ => do
      let inside := (rest.drop 1).skipBlanks
      match inside.text with
      | '\x7d' :: _ => return (.dict [], inside.drop 1)
      | _ =>
        let (entries, after) ← readEntries fuel inside
        return (.dictOf entries, after)
    | _ => readScalar rest

def readItems : Nat → Rest → Except ReadError (List Value × Rest)
  | 0, rest => .error (.malformed .expectingValue rest.position)
  | fuel + 1, rest => do
    let (item, after) ← readValue fuel rest
    let after := after.skipBlanks
    match after.text with
    | ']' :: _ => return ([item], after.drop 1)
    | ',' :: _ =>
      let (items, after) ← readItems fuel (after.drop 1).skipBlanks
      return (item :: items, after)
    | _ => .error (.malformed .expectingComma after.position)

def readEntries : Nat → Rest → Except ReadError (List (String × Value) × Rest)
  | 0, rest => .error (.malformed .expectingName rest.position)
  | fuel + 1, rest =>
    match rest.text with
    | '"' :: _ => do
      let (key, after) ← readQuoted rest
      let after := after.skipBlanks
      match after.text with
      | ':' :: _ =>
        let (value, after) ← readValue fuel (after.drop 1).skipBlanks
        let after := after.skipBlanks
        match after.text with
        | '\x7d' :: _ => return ([(key, value)], after.drop 1)
        | ',' :: _ =>
          let (entries, after) ← readEntries fuel (after.drop 1).skipBlanks
          return ((key, value) :: entries, after)
        | _ => .error (.malformed .expectingComma after.position)
      | _ => .error (.malformed .expectingColon after.position)
    | _ => .error (.malformed .expectingName rest.position)

end

def parse (document : List Char) : Except ReadError Value :=
  match document with
  | '\uFEFF' :: _ => .error (.malformed .byteOrderMark 0)
  | _ => do
    let start : Rest := ⟨0, document⟩
    let (value, after) ← readValue (2 * document.length + 2) start.skipBlanks
    let after := after.skipBlanks
    if after.text.isEmpty then return value
    else .error (.malformed .extraData after.position)

end RuleLexer.Json
