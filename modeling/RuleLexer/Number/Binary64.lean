namespace RuleLexer

inductive Binary64 where
  | nan
  | infinity (negative : Bool)
  | finite (negative : Bool) (mantissa : Nat) (exponent : Int)
deriving DecidableEq, Repr

namespace Binary64

def leastExponent : Int := -1074

def greatestExponent : Int := 971

/-- The quotient rounded to the nearest integer, a half to the even neighbour. -/
def roundDiv (numerator denominator : Nat) : Nat :=
  let quotient := numerator / denominator
  let twice := 2 * (numerator % denominator)
  if twice < denominator then quotient
  else if denominator < twice then quotient + 1
  else if quotient % 2 = 0 then quotient else quotient + 1

def scaled (numerator denominator : Nat) (exponent : Int) : Nat :=
  match exponent with
  | .ofNat n => roundDiv numerator (denominator * Nat.pow 2 n)
  | .negSucc n => roundDiv (numerator * Nat.pow 2 (n + 1)) denominator

def exponentFor (numerator denominator : Nat) : Int :=
  let guess := max leastExponent ((numerator.log2 : Int) - (denominator.log2 : Int) - 53)
  let bound := match guess with
    | .ofNat n => denominator * Nat.pow 2 n * Nat.pow 2 53
    | .negSucc _ => denominator * Nat.pow 2 53
  let value := match guess with
    | .ofNat _ => numerator
    | .negSucc n => numerator * Nat.pow 2 (n + 1)
  if value < bound then guess else guess + 1

def ofQuotient (negative : Bool) (numerator denominator : Nat) : Binary64 :=
  if numerator = 0 then .finite negative 0 leastExponent
  else
    let exponent := exponentFor numerator denominator
    let mantissa := scaled numerator denominator exponent
    let (mantissa, exponent) :=
      if mantissa = Nat.pow 2 53 then (Nat.pow 2 52, exponent + 1) else (mantissa, exponent)
    if greatestExponent < exponent then .infinity negative
    else .finite negative mantissa exponent

/-- The number nearest to `digits * 10 ^ exponent`. Exponents far outside the range are answered
without computing the power. -/
def ofDecimal (negative : Bool) (digits : Nat) (exponent : Int) : Binary64 :=
  if digits = 0 then .finite negative 0 leastExponent
  else
    let magnitude := (Nat.toDigits 10 digits).length + exponent
    if 400 < magnitude then .infinity negative
    else if magnitude < -400 then .finite negative 0 leastExponent
    else match exponent with
      | .ofNat n => ofQuotient negative (digits * Nat.pow 10 n) 1
      | .negSucc n => ofQuotient negative digits (Nat.pow 10 (n + 1))

def isZero : Binary64 → Bool
  | .finite _ 0 _ => true
  | _ => false

def same : Binary64 → Binary64 → Bool
  | .infinity a, .infinity b => a == b
  | .finite a m e, .finite b n f => (m == 0 && n == 0) || (a == b && m == n && e == f)
  | _, _ => false

def isInt : Binary64 → Int → Bool
  | .finite negative mantissa exponent, n =>
    let sign : Int := if negative then -1 else 1
    match exponent with
    | .ofNat e => sign * (mantissa * Nat.pow 2 e : Nat) == n
    | .negSucc e => sign * (mantissa : Int) == n * (Nat.pow 2 (e + 1) : Nat)
  | _, _ => false

end Binary64

end RuleLexer
