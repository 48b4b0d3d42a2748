import RuleLexer.Number.Binary64

namespace RuleLexer.Shortest

structure Ratio where
  numerator : Nat
  denominator : Nat

def Ratio.ofPower (units : Nat) : Int → Ratio
  | .ofNat n => ⟨units * Nat.pow 2 n, 1⟩
  | .negSucc n => ⟨units, Nat.pow 2 (n + 1)⟩

def Ratio.scale (ratio : Ratio) : Int → Ratio
  | .ofNat n => ⟨ratio.numerator, ratio.denominator * Nat.pow 10 n⟩
  | .negSucc n => ⟨ratio.numerator * Nat.pow 10 (n + 1), ratio.denominator⟩

def Ratio.magnitude (ratio : Ratio) : Int :=
  if ratio.denominator ≤ ratio.numerator then
    (Nat.toDigits 10 (ratio.numerator / ratio.denominator)).length - 1
  else
    let places := (Nat.toDigits 10 (ratio.denominator / ratio.numerator)).length
    if ratio.denominator ≤ ratio.numerator * Nat.pow 10 (places - 1) then
      -((places - 1 : Nat) : Int)
    else -(places : Int)

structure Interval where
  low : Nat
  value : Nat
  high : Nat
  closed : Bool
  exponent : Int

def Interval.of (mantissa : Nat) (exponent : Int) : Interval where
  low := 4 * mantissa -
    (if mantissa = Nat.pow 2 52 && Binary64.leastExponent < exponent then 1 else 2)
  value := 4 * mantissa
  high := 4 * mantissa + 2
  closed := mantissa % 2 == 0
  exponent := exponent - 2

def Interval.has (interval : Interval) (digits : Nat) (place : Int) : Bool :=
  let low := (Ratio.ofPower interval.low interval.exponent).scale place
  let high := (Ratio.ofPower interval.high interval.exponent).scale place
  if interval.closed then
    low.numerator ≤ digits * low.denominator && digits * high.denominator ≤ high.numerator
  else
    low.numerator < digits * low.denominator && digits * high.denominator < high.numerator

/-- A decimal with its last digit at `place` that reads back, if there is one: one of the two
neighbours of the value, the nearer if both do, the even one in a tie. -/
def Interval.candidate? (interval : Interval) (place : Int) : Option Nat :=
  let value := (Ratio.ofPower interval.value interval.exponent).scale place
  let below := value.numerator / value.denominator
  let twice := 2 * (value.numerator % value.denominator)
  match interval.has below place, interval.has (below + 1) place with
  | true, true =>
    if twice < value.denominator || (twice == value.denominator && below % 2 == 0) then some below
    else some (below + 1)
  | true, false => some below
  | false, true => some (below + 1)
  | false, false => none

def Interval.search (interval : Interval) (magnitude : Int) : Nat → Nat → Nat × Int
  | 0, digits =>
    let place := magnitude - digits + 1
    let value := (Ratio.ofPower interval.value interval.exponent).scale place
    (value.numerator / value.denominator, place)
  | count + 1, digits =>
    let place := magnitude - digits + 1
    match interval.candidate? place with
    | some found => (found, place)
    | none => interval.search magnitude count (digits + 1)

/-- Digits and decimal exponent of the shortest decimal for `mantissa * 2 ^ exponent`, which is not
zero. Seventeen digits are always enough. -/
def digits (mantissa : Nat) (exponent : Int) : Nat × Int :=
  let magnitude := (Ratio.ofPower mantissa exponent).magnitude
  (Interval.of mantissa exponent).search magnitude 17 1

end RuleLexer.Shortest
