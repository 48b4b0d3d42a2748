import RuleLexer.Number.Integer
import RuleLexer.Regex.Basic
import RuleLexer.Regex.Piece
import RuleLexer.Text.CharacterName
import RuleLexer.Text.Letter

namespace RuleLexer

/-- Patterns are written for texts or for byte strings; the latter have no escapes for code points
beyond a byte. -/
inductive Alphabet where
  | text
  | bytes
deriving DecidableEq, Repr

namespace Escape

def isHex (c : Char) : Bool :=
  c.isDigit || ('a' ≤ c && c ≤ 'f') || ('A' ≤ c && c ≤ 'F')

def isOctal (c : Char) : Bool :=
  '0' ≤ c && c ≤ '7'

def hexValue (c : Char) : Nat :=
  if c.isDigit then c.toNat - 0x30
  else if 'a' ≤ c then c.toNat - 0x61 + 10
  else c.toNat - 0x41 + 10

def number (base : Nat) (digits : List Char) : Nat :=
  digits.foldl (fun n c => base * n + hexValue c) 0

def control? : Char → Option Nat
  | 'a' => some 0x7
  | 'f' => some 0xC
  | 'n' => some 0xA
  | 'r' => some 0xD
  | 't' => some 0x9
  | 'v' => some 0xB
  | '\\' => some 0x5C
  | _ => none

def category? : Char → Option SetItem
  | 'd' => some (.category .digit false)
  | 'D' => some (.category .digit true)
  | 's' => some (.category .blank false)
  | 'S' => some (.category .blank true)
  | 'w' => some (.category .word false)
  | 'W' => some (.category .word true)
  | _ => none

def anchor? : Char → Option Anchor
  | 'A' => some .textStart
  | 'b' => some .boundary
  | 'B' => some .notBoundary
  | 'Z' => some .textEnd
  | _ => none

def readHex (letter : Char) (count start : Nat) (input : Input) :
    Except Rejection (Nat × Input) := do
  let (digits, input) ← input.takeSome isHex count
  let escape := '\\' :: letter :: digits
  if digits.length ≠ count then .error ((Fault.incompleteEscape escape).at start)
  else if 0x10FFFF < number 16 digits then .error ((Fault.badEscape escape).at start)
  else .ok (number 16 digits, input)

def readName (start : Nat) (input : Input) : Except Rejection (Nat × Input) := do
  let (braced, input) ← input.accept '\x7b'
  if !braced then .error (Fault.missingBrace.at input.position)
  else
    let (name, input) ← input.takeUntil '\x7d' "character name"
    match Text.named? name with
    | some code => .ok (code, input)
    | none => .error ((Fault.undefinedCharacter name).at start)

def readCode? (alphabet : Alphabet) (letter : Char) (start : Nat) (input : Input) :
    Except Rejection (Option (Nat × Input)) :=
  match letter, alphabet with
  | 'x', _ => some <$> readHex 'x' 2 start input
  | 'u', .text => some <$> readHex 'u' 4 start input
  | 'U', .text => some <$> readHex 'U' 8 start input
  | 'N', .text => some <$> readName start input
  | _, _ => .ok none

def readLiteral (c : Char) (start : Nat) : Except Rejection Nat :=
  if Text.isAsciiLetter c.toNat || c.isDigit then .error ((Fault.badEscape ['\\', c]).at start)
  else .ok c.toNat

def octal (digits : List Char) (start : Nat) : Except Rejection Nat :=
  if 0o377 < number 8 digits then .error ((Fault.octalTooLarge ('\\' :: digits)).at start)
  else .ok (number 8 digits)

def readInSet (alphabet : Alphabet) (c : Char) (start : Nat) (input : Input) :
    Except Rejection (SetItem × Input) := do
  if c = 'b' then return (.char 0x8, input)
  if let some code := control? c then return (.char code, input)
  if let some item := category? c then return (item, input)
  if let some (code, input) ← readCode? alphabet c start input then return (.char code, input)
  if isOctal c then
    let (digits, input) ← input.takeSome isOctal 2
    let code ← octal (c :: digits) start
    return (.char code, input)
  let code ← readLiteral c start
  return (.char code, input)

inductive Meaning where
  | item (regex : Regex)
  | reference (group : Nat)
deriving DecidableEq, Repr

/-- A digit other than zero after a backslash: three octal digits are a character, else one or two
digits refer to a group. -/
def readNumber (c : Char) (start : Nat) (input : Input) : Except Rejection (Meaning × Input) := do
  let (second, input) ← input.takeSome Char.isDigit 1
  match second with
  | [d] =>
    let (third, after) ← if isOctal c && isOctal d then input.takeSome isOctal 1
      else .ok ([], input)
    if third.isEmpty then return (.reference (number 10 [c, d]), input)
    let code ← octal (c :: d :: third) start
    return (.item (.char code), after)
  | _ => return (.reference (number 10 [c]), input)

def readOutside (alphabet : Alphabet) (c : Char) (start : Nat) (input : Input) :
    Except Rejection (Meaning × Input) := do
  if let some anchor := anchor? c then return (.item (.anchor anchor), input)
  if let some item := category? c then return (.item (.set false [item]), input)
  if let some code := control? c then return (.item (.char code), input)
  if let some (code, input) ← readCode? alphabet c start input then
    return (.item (.char code), input)
  if c = '0' then
    let (digits, input) ← input.takeSome isOctal 2
    return (.item (.char (number 8 digits)), input)
  if c.isDigit then return ← readNumber c start input
  let code ← readLiteral c start
  return (.item (.char code), input)

end Escape

namespace SetItem

def readMember (alphabet : Alphabet) (start : Nat) (piece : Piece) (input : Input) :
    Except Rejection (SetItem × Input) :=
  match piece with
  | .plain c => .ok (.char c.toNat, input)
  | .escaped c => Escape.readInSet alphabet c start input
  | .dangling => .error (Fault.danglingBackslash.at start)

def ofEnds (low high : SetItem) (lowPiece highPiece : Piece) (input : Input) :
    Except Rejection SetItem :=
  let bad := (Fault.badRange lowPiece.text highPiece.text).at
    (input.position - (lowPiece.length + 1 + highPiece.length))
  match low, high with
  | .char a, .char b => if b < a then .error bad else .ok (.range a b)
  | _, _ => .error bad

/-- The members of a set that was opened at `start`, up to its closing bracket. `items` are the
members read before, the last one first; a bracket that comes first is a member. -/
def readAll (alphabet : Alphabet) (start : Nat) :
    Nat → List SetItem → Input → Except Rejection (List SetItem × Input)
  | 0, _, _ => .error (Fault.unterminatedSet.at start)
  | fuel + 1, items, input => do
    let first := input.position
    let (piece?, input) ← input.take
    let some piece := piece? | .error (Fault.unterminatedSet.at start)
    if piece = .plain ']' && !items.isEmpty then return (items.reverse, input)
    let (low, input) ← readMember alphabet first piece input
    let (dash, input) ← input.accept '-'
    if !dash then return ← readAll alphabet start fuel (low :: items) input
    let second := input.position
    let (piece?, input) ← input.take
    let some highPiece := piece? | .error (Fault.unterminatedSet.at start)
    if highPiece = .plain ']' then return ((.char '-'.toNat :: low :: items).reverse, input)
    let (high, input) ← readMember alphabet second highPiece input
    let range ← ofEnds low high piece highPiece input
    readAll alphabet start fuel (range :: items) input

end SetItem

end RuleLexer
