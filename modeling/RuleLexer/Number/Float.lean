import RuleLexer.Number.Binary64
import RuleLexer.Number.Integer

namespace RuleLexer.Number

structure Parts where
  whole : List Nat
  fraction : List Nat
  exponent : Int

def takeDigits (text : List Char) : List Nat × List Char :=
  if startsWithDigit text then digitRun text else ([], text)

def readExponent : List Char → Option Int
  | [] => some 0
  | c :: rest =>
    if c = 'e' || c = 'E' then
      let (negative, unsigned) := splitSign rest
      match takeDigits unsigned with
      | (digit :: digits, []) =>
        let value : Int := ofDigits (digit :: digits)
        some (if negative then -value else value)
      | _ => none
    else none

def readParts (text : List Char) : Option Parts :=
  let (whole, afterWhole) := takeDigits text
  let (fraction, rest) := match afterWhole with
    | '.' :: afterPoint => takeDigits afterPoint
    | _ => ([], afterWhole)
  if whole.isEmpty && fraction.isEmpty then none
  else (readExponent rest).map fun exponent => ⟨whole, fraction, exponent⟩

def Parts.value (negative : Bool) (parts : Parts) : Binary64 :=
  .ofDecimal negative (ofDigits (parts.whole ++ parts.fraction))
    (parts.exponent - parts.fraction.length)

def readFloat? (text : List Char) : Option Binary64 :=
  let (negative, unsigned) := splitSign (trimNumber text)
  let word := String.ofList (unsigned.map Char.toLower)
  if word = "inf" || word = "infinity" then some (.infinity negative)
  else if word = "nan" then some .nan
  else (readParts unsigned).map (Parts.value negative)

end RuleLexer.Number
