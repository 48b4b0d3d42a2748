import RuleLexer.Text.Digit
import RuleLexer.Text.Letter

namespace RuleLexer

inductive Segment where
  | escape (c : Char)
  | number (digits : List Char)
  | charClass (text : List Char)
  | comment (text : List Char)
  | condition (name : List Char)
  | named (name : List Char)
  | opening
  | other (c : Char)
deriving DecidableEq, Repr

namespace Segment

def text : Segment → List Char
  | .escape c => ['\\', c]
  | .number digits => '\\' :: digits
  | .charClass text => text
  | .comment text => '(' :: '?' :: '#' :: text ++ [')']
  | .condition name => '(' :: '?' :: '(' :: name ++ [')']
  | .named name => '(' :: '?' :: 'P' :: '<' :: name ++ ['>']
  | .opening => ['(']
  | .other c => [c]

def closeClass : List Char → Option (List Char × List Char)
  | [] => none
  | [c] => if c = ']' then some ([']'], []) else none
  | c :: d :: rest =>
    if c = ']' then some ([']'], d :: rest)
    else if c = '\\' then (closeClass rest).map fun (body, after) => (c :: d :: body, after)
    else (closeClass (d :: rest)).map fun (body, after) => (c :: body, after)

/-- The rest of a class after its opening bracket and caret. A closing bracket that comes first is
a member, unless the class cannot be closed otherwise. -/
def closeMembers : List Char → Option (List Char × List Char)
  | ']' :: rest =>
    match closeClass rest with
    | some (body, after) => some (']' :: body, after)
    | none => some ([']'], rest)
  | text => closeClass text

def readClass : List Char → Option (List Char × List Char)
  | '^' :: rest => (closeMembers rest).map fun (body, after) => ('[' :: '^' :: body, after)
  | rest => (closeMembers rest).map fun (body, after) => ('[' :: body, after)

def isWordChar (c : Char) : Bool :=
  Text.isWord c.toNat

def isDigitChar (c : Char) : Bool :=
  Text.isDigit c.toNat

def readName (stop : Char) (text : List Char) : Option (List Char × List Char) :=
  let name := text.takeWhile isWordChar
  match text.dropWhile isWordChar with
  | c :: rest => if c = stop && !name.isEmpty then some (name, rest) else none
  | [] => none

def readComment (text : List Char) : Option (List Char × List Char) :=
  match text.dropWhile (· != ')') with
  | _ :: rest => some (text.takeWhile (· != ')'), rest)
  | [] => none

def readParenthesis : List Char → Segment × List Char
  | '?' :: '#' :: rest =>
    match readComment rest with
    | some (text, after) => (.comment text, after)
    | none => (.other '(', '?' :: '#' :: rest)
  | '?' :: '(' :: rest =>
    match readName ')' rest with
    | some (name, after) => (.condition name, after)
    | none => (.other '(', '?' :: '(' :: rest)
  | '?' :: 'P' :: '<' :: rest =>
    match readName '>' rest with
    | some (name, after) => (.named name, after)
    | none => (.other '(', '?' :: 'P' :: '<' :: rest)
  | '?' :: rest => (.other '(', '?' :: rest)
  | rest => (.opening, rest)

def readBackslash : List Char → Segment × List Char
  | [] => (.other '\\', [])
  | c :: rest =>
    if isDigitChar c then
      (.number (c :: rest.takeWhile isDigitChar), rest.dropWhile isDigitChar)
    else (.escape c, rest)

def read (c : Char) (rest : List Char) : Segment × List Char :=
  match c with
  | '\\' => readBackslash rest
  | '[' =>
    match readClass rest with
    | some (text, after) => (.charClass text, after)
    | none => (.other '[', rest)
  | '(' => readParenthesis rest
  | c => (.other c, rest)

def splitUpTo : Nat → List Char → List Segment
  | _, [] => []
  | 0, _ :: _ => []
  | count + 1, c :: rest =>
    let (segment, after) := read c rest
    segment :: splitUpTo count after

/-- The segments of a text. A segment is never empty, so there are no more than characters. -/
def split (text : List Char) : List Segment :=
  splitUpTo text.length text

def opensGroup : Segment → Bool
  | .named _ | .opening => true
  | _ => false

def name? : Segment → Option (List Char)
  | .named name => some name
  | _ => none

end Segment

def countCaptures (source : List Char) : Nat :=
  (Segment.split source).countP Segment.opensGroup

def groupNames (source : List Char) : List (List Char) :=
  (Segment.split source).filterMap Segment.name?

end RuleLexer
