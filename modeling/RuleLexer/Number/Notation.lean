import RuleLexer.Number.Integer
import RuleLexer.Number.Shortest

namespace RuleLexer.Number

structure SpecialNames where
  nan : String
  infinity : String
  negativeInfinity : String

def plainNames : SpecialNames := ⟨"nan", "inf", "-inf"⟩

def positional (digits : List Char) (count : Int) : List Char :=
  match count with
  | .ofNat count =>
    if count = 0 then '0' :: '.' :: digits
    else if digits.length ≤ count then
      digits ++ List.replicate (count - digits.length) '0' ++ ['.', '0']
    else digits.take count ++ '.' :: digits.drop count
  | .negSucc n => '0' :: '.' :: List.replicate (n + 1) '0' ++ digits

def exponential (digits : List Char) (exponent : Int) : List Char :=
  let mantissa := match digits with
    | first :: second :: rest => first :: '.' :: second :: rest
    | short => short
  let places := Nat.toDigits 10 exponent.natAbs
  let padding := List.replicate (2 - places.length) '0'
  mantissa ++ 'e' :: (if exponent < 0 then '-' else '+') :: padding ++ places

/-- A number is written with the fewest digits that read back, and always with a point unless it has
an exponent. -/
def floatText (names : SpecialNames) : Binary64 → List Char
  | .nan => names.nan.toList
  | .infinity false => names.infinity.toList
  | .infinity true => names.negativeInfinity.toList
  | .finite negative mantissa exponent =>
    let unsigned :=
      if mantissa = 0 then ['0', '.', '0']
      else
        let (value, place) := Shortest.digits mantissa exponent
        let written := Nat.toDigits 10 value
        let digits := (written.reverse.dropWhile (· == '0')).reverse
        let magnitude := place + written.length - 1
        if -4 ≤ magnitude && magnitude < 16 then positional digits (magnitude + 1)
        else exponential digits magnitude
    if negative then '-' :: unsigned else unsigned

end RuleLexer.Number
