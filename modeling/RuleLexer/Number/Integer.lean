import RuleLexer.Text.Blank
import RuleLexer.Text.Digit

namespace RuleLexer.Number

def intText : Int → List Char
  | .ofNat n => Nat.toDigits 10 n
  | .negSucc n => '-' :: Nat.toDigits 10 (n + 1)

def digitLimit : Nat := 4300

inductive IntError where
  | invalid
  | tooManyDigits (count : Nat)
deriving DecidableEq, Repr

def digit? (c : Char) : Option Nat :=
  Text.digitValue? c.toNat

def ofDigits (digits : List Nat) : Nat :=
  digits.foldl (fun n digit => 10 * n + digit) 0

def startsWithDigit : List Char → Bool
  | [] => false
  | c :: _ => (digit? c).isSome

def digitRun : List Char → List Nat × List Char
  | [] => ([], [])
  | c :: rest =>
    match digit? c with
    | some digit =>
      let run := digitRun rest
      (digit :: run.1, run.2)
    | none => if c == '_' && startsWithDigit rest then digitRun rest else ([], c :: rest)

/-- White space around a number. In a text of ASCII characters only, the separators U+001C to
U+001F do not count. -/
def trimNumber (text : List Char) : List Char :=
  let blank : Char → Bool := fun c =>
    if text.all (·.toNat < 0x80) then Text.isAsciiBlank c.toNat else Text.isBlank c.toNat
  ((text.dropWhile blank).reverse.dropWhile blank).reverse

def splitSign : List Char → Bool × List Char
  | '-' :: rest => (true, rest)
  | '+' :: rest => (false, rest)
  | text => (false, text)

def readInt (text : List Char) : Except IntError Int :=
  let (negative, unsigned) := splitSign (trimNumber text)
  let (digits, rest) := if startsWithDigit unsigned then digitRun unsigned else ([], unsigned)
  if digitLimit < digits.length then .error (.tooManyDigits digits.length)
  else if digits.isEmpty || !rest.isEmpty then .error .invalid
  else if negative then .ok (-(ofDigits digits : Int))
  else .ok (ofDigits digits)

def tooManyDigitsMessage (count : Nat) : String :=
  "Exceeds the limit (4300 digits) for integer string conversion: value has " ++ Nat.repr count
    ++ " digits; use sys.set_int_max_str_digits() to increase the limit"

end RuleLexer.Number
