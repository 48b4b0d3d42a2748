import RuleLexer.Number.Integer
import RuleLexer.Source.Literal
import RuleLexer.Source.Segment

namespace RuleLexer

def referenceLimit : Int := 99

inductive RenumberError where
  | beyondLimit (reference : Nat) (shifted : Int)
  | tooManyDigits (count : Nat)
  | noCodePoint
  | wordOverflow
deriving DecidableEq, Repr

namespace RenumberError

def beyondLimitMessage (reference : Nat) (shifted : Int) : String :=
  "backreference \\" ++ Nat.repr reference ++ " maps to group "
    ++ String.ofList (Number.intText shifted)
    ++ ", beyond the 99 groups re can refer to; move the rule earlier or use a named group"

end RenumberError

namespace Segment

def digitsValue (digits : List Char) : Except RenumberError Nat :=
  if Number.digitLimit < digits.length then .error (.tooManyDigits digits.length)
  else .ok (Number.ofDigits (digits.filterMap Number.digit?))

def isOctalDigit (c : Char) : Bool :=
  '0' ≤ c && c ≤ '7'

/-- The text of a number that refers to no group: the character with that octal code, or the digits
themselves. The code of a surrogate is no character of a text here; U+FFFD, which is a different
character, is written in its place. -/
def octalText (digits : List Char) : Except RenumberError (List Char) :=
  if digits.all isOctalDigit then
    let code := digits.foldl (fun n c => 8 * n + (c.toNat - 0x30)) 0
    if 0x7FFFFFFF < code then .error .wordOverflow
    else if 0x10FFFF < code then .error .noCodePoint
    else .ok (escapeLiteral [if code.isValidChar then Char.ofNat code else '\uFFFD'])
  else .ok (escapeLiteral digits)

def renumbered (captures offset : Int) : Segment → Except RenumberError (List Char)
  | .number digits => do
    let reference ← digitsValue digits
    if 0 < reference && reference ≤ captures then
      let shifted := reference + offset + 1
      if referenceLimit < shifted then .error (.beyondLimit reference shifted)
      else .ok ('\\' :: Number.intText shifted)
    else octalText digits
  | .condition name =>
    if name.all isDigitChar then do
      let reference ← digitsValue name
      if 0 < reference && reference ≤ captures then
        .ok ((condition (Number.intText (reference + offset + 1))).text)
      else .ok (condition name).text
    else .ok (condition name).text
  | segment => .ok segment.text

end Segment

/-- The pattern's text with its references to groups 1 to `captures` shifted by `offset + 1`. -/
def renumber (source : List Char) (captures offset : Int) : Except RenumberError (List Char) := do
  let texts ← (Segment.split source).mapM (Segment.renumbered captures offset)
  return texts.flatten

end RuleLexer
