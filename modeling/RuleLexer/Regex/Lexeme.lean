import RuleLexer.Regex.Escape
import RuleLexer.Text.Identifier

namespace RuleLexer

inductive Opening where
  | capture (name : Option (List Char))
  | scoped (on off : Flags)
  | atomic
  | ahead (negated : Bool)
  | behind (negated : Bool)
  | condition (name : List Char)
deriving DecidableEq, Repr

inductive Lexeme where
  | blank
  | item (regex : Regex)
  | quantifier (least : Nat) (most : Option Nat)
  | reference (group : Nat)
  | namedReference (name : List Char)
  | opening (opening : Opening)
  | globalFlags (on : Flags)
deriving DecidableEq, Repr

namespace Lexeme

def repeatLimit : Nat := 4294967295

def readCount (digits : List Char) : Except Rejection (Option Nat) :=
  if digits.isEmpty then .ok none
  else if Number.digitLimit < digits.length then .error (.tooManyDigits digits.length)
  else if repeatLimit ≤ Escape.number 10 digits then .error .repeatTooLarge
  else .ok (some (Escape.number 10 digits))

/-- What follows an opening brace that was read as the piece before `input`. Braces that do not hold
one or two counts are ordinary characters. -/
def readBraces (input : Input) : Except Rejection (Lexeme × Input) := do
  let literal : Lexeme × Input := (.item (.char '\x7b'.toNat), input)
  let here := input.position
  if input.rest.head? = some (.plain '\x7d') then return literal
  let (low, after) ← input.takeAll Char.isDigit
  let (comma, after) ← after.accept ','
  let (high, after) ← if comma then after.takeAll Char.isDigit else .ok (low, after)
  let (closed, after) ← after.accept '\x7d'
  if !closed then return literal
  let least ← readCount low
  let most ← readCount high
  if let some m := most then
    if m < least.getD 0 then throw (Fault.reversedRepeat.at here)
  return (.quantifier (least.getD 0) most, after)

def flagOf? : Piece → Option Flag
  | .plain c => Flag.ofLetter? c
  | _ => none

def notFlag (piece : Piece) (otherwise : Fault) : Fault :=
  match piece with
  | .plain c => if Text.isLetter c.toNat then .unknownFlag else otherwise
  | _ => otherwise

def readFlagsOn (alphabet : Alphabet) :
    Nat → Flag → Flags → Input → Except Rejection (Flags × Char × Input)
  | 0, _, _, input => .error (Fault.missingFlagEnd.at input.position)
  | fuel + 1, flag, flags, input => do
    if flag = .locale && alphabet = .text then throw (Fault.localeFlag.at input.position)
    if flag = .unicode && alphabet = .bytes then throw (Fault.unicodeFlag.at input.position)
    let flags := flags.insert flag
    if flag.isCharacterType && flags.characterTypes ≠ Flags.none.insert flag then
      throw (Fault.incompatibleFlags.at input.position)
    let start := input.position
    let (piece?, input) ← input.take
    let some piece := piece? | .error (Fault.missingFlagEnd.at input.position)
    match piece with
    | .plain ')' => return (flags, ')', input)
    | .plain '-' => return (flags, '-', input)
    | .plain ':' => return (flags, ':', input)
    | _ =>
      match flagOf? piece with
      | some flag => readFlagsOn alphabet fuel flag flags input
      | none => .error ((notFlag piece .missingFlagEnd).at start)

def readFlagsOff : Nat → Flag → Flags → Input → Except Rejection (Flags × Input)
  | 0, _, _, input => .error (Fault.missingColon.at input.position)
  | fuel + 1, flag, flags, input => do
    if flag.isCharacterType then throw (Fault.characterTypeOff.at input.position)
    let flags := flags.insert flag
    let start := input.position
    let (piece?, input) ← input.take
    let some piece := piece? | .error (Fault.missingColon.at input.position)
    if piece = .plain ':' then return (flags, input)
    match flagOf? piece with
    | some flag => readFlagsOff fuel flag flags input
    | none => .error ((notFlag piece .missingColon).at start)

def readOff (input : Input) : Except Rejection (Flags × Input) := do
  let start := input.position
  let (piece?, input) ← input.take
  let some piece := piece? | .error (Fault.missingFlag.at input.position)
  match flagOf? piece with
  | some flag => readFlagsOff (input.rest.length + 1) flag .none input
  | none => .error ((notFlag piece .missingFlag).at start)

def scopedFlags (on off : Flags) (input : Input) : Except Rejection (Lexeme × Input) :=
  if off.has .template || off.has .debug then
    .error (Fault.globalFlagOff.at (input.position - 1))
  else if on.meets off then .error (Fault.flagOnAndOff.at (input.position - 1))
  else .ok (.opening (.scoped on off), input)

def readFlags (alphabet : Alphabet) (first : Option Flag) (input : Input) :
    Except Rejection (Lexeme × Input) := do
  let (on, stop, input) ← match first with
    | some flag => readFlagsOn alphabet (input.rest.length + 1) flag .none input
    | none => .ok (.none, '-', input)
  if stop = ')' then return (.globalFlags on, input)
  if on.has .template || on.has .debug then
    throw (Fault.globalFlagOn.at (input.position - 1))
  if stop = '-' then
    let (off, input) ← readOff input
    scopedFlags on off input
  else scopedFlags on .none input

def checkName (name : List Char) (input : Input) : Except Rejection Unit :=
  if Text.isIdentifier name then .ok ()
  else .error ((Fault.badNameCharacter name).at (input.position - (name.length + 1)))

def readNamed (input : Input) : Except Rejection (Lexeme × Input) := do
  let (angle, input) ← input.accept '<'
  if angle then
    let (name, input) ← input.takeUntil '>' "group name"
    checkName name input
    return (.opening (.capture (some name)), input)
  let (equals, input) ← input.accept '='
  if equals then
    let (name, input) ← input.takeUntil ')' "group name"
    checkName name input
    return (.namedReference name, input)
  let (piece?, input) ← input.take
  let some piece := piece? | .error (Fault.unexpectedEnd.at input.position)
  .error ((Fault.unknownExtension ('?' :: 'P' :: piece.text)).at
    (input.position - (piece.length + 2)))

def readBehind (input : Input) : Except Rejection (Lexeme × Input) := do
  let (piece?, input) ← input.take
  let some piece := piece? | .error (Fault.unexpectedEnd.at input.position)
  match piece with
  | .plain '=' => return (.opening (.behind false), input)
  | .plain '!' => return (.opening (.behind true), input)
  | _ =>
    .error ((Fault.unknownExtension ('?' :: '<' :: piece.text)).at
      (input.position - (piece.length + 2)))

def readOpening (alphabet : Alphabet) (start : Nat) (input : Input) :
    Except Rejection (Lexeme × Input) := do
  let (question, input) ← input.accept '?'
  if !question then return (.opening (.capture none), input)
  let (piece?, input) ← input.take
  let some piece := piece? | .error (Fault.unexpectedEnd.at input.position)
  match piece with
  | .plain 'P' => readNamed input
  | .plain ':' => return (.opening (.scoped .none .none), input)
  | .plain '#' =>
    let (closed, input) ← Input.skipPast ')' input.position input.rest
    if closed then return (.blank, input)
    else .error (Fault.unterminatedComment.at start)
  | .plain '=' => return (.opening (.ahead false), input)
  | .plain '!' => return (.opening (.ahead true), input)
  | .plain '<' => readBehind input
  | .plain '(' =>
    let (name, input) ← input.takeUntil ')' "group name"
    return (.opening (.condition name), input)
  | .plain '>' => return (.opening .atomic, input)
  | .plain '-' => readFlags alphabet none input
  | _ =>
    match flagOf? piece with
    | some flag => readFlags alphabet (some flag) input
    | none =>
      .error ((Fault.unknownExtension ('?' :: piece.text)).at
        (input.position - (piece.length + 1)))

def readSet (alphabet : Alphabet) (start : Nat) (input : Input) :
    Except Rejection (Lexeme × Input) := do
  let (negated, input) ← input.accept '^'
  let (items, input) ← SetItem.readAll alphabet start (input.rest.length + 1) [] input
  return (.item (.set negated items), input)

def isVerboseBlank (c : Char) : Bool :=
  Text.isAsciiBlank c.toNat

/-- The lexeme that starts with the character `c` at `start`. Bars and closing parentheses are not
lexemes. -/
def readPlain (alphabet : Alphabet) (verbose : Bool) (c : Char) (start : Nat) (input : Input) :
    Except Rejection (Lexeme × Input) :=
  if verbose && isVerboseBlank c then .ok (.blank, input)
  else if verbose && c == '#' then do
    let (_, input) ← Input.skipPast '\n' input.position input.rest
    return (.blank, input)
  else match c with
    | '[' => readSet alphabet start input
    | '?' => .ok (.quantifier 0 (some 1), input)
    | '*' => .ok (.quantifier 0 none, input)
    | '+' => .ok (.quantifier 1 none, input)
    | '\x7b' => readBraces input
    | '.' => .ok (.item .any, input)
    | '(' => readOpening alphabet start input
    | '^' => .ok (.item (.anchor .lineStart), input)
    | '$' => .ok (.item (.anchor .lineEnd), input)
    | _ => .ok (.item (.char c.toNat), input)

def read (alphabet : Alphabet) (verbose : Bool) (piece : Piece) (start : Nat) (input : Input) :
    Except Rejection (Lexeme × Input) :=
  match piece with
  | .plain c => readPlain alphabet verbose c start input
  | .escaped c => do
    let (meaning, input) ← Escape.readOutside alphabet c start input
    match meaning with
    | .item regex => return (.item regex, input)
    | .reference group => return (.reference group, input)
  | .dangling => .error (Fault.danglingBackslash.at start)

end Lexeme

end RuleLexer
