import RuleLexer.Text.Letter

namespace RuleLexer

def entity? : Char → Option (List Char)
  | '&' => some "&amp;".toList
  | '<' => some "&lt;".toList
  | '>' => some "&gt;".toList
  | _ => none

namespace Entities

def isWordChar (c : Char) : Bool :=
  Text.isWord c.toNat

def openingLength : List Char → Nat
  | '?' :: 'P' :: '<' :: rest =>
    let name := rest.takeWhile isWordChar
    if !name.isEmpty && (rest.dropWhile isWordChar).head? = some '>' then name.length + 4 else 0
  | '?' :: '<' :: '=' :: _ => 3
  | '?' :: '<' :: '!' :: _ => 3
  | _ => 0

def startsWithEntity : List Char → Bool
  | c :: _ => (entity? c).isSome
  | [] => false

def substitute (verbatim : Nat) : List Char → List Char
  | [] => []
  | c :: rest =>
    match verbatim with
    | count + 1 => c :: substitute count rest
    | 0 =>
      if c = '\\' then
        if startsWithEntity rest then substitute 0 rest else c :: substitute 1 rest
      else if c = '(' then c :: substitute (openingLength rest) rest
      else match entity? c with
        | some entity => entity ++ substitute 0 rest
        | none => c :: substitute 0 rest

end Entities

/-- The pattern's text with `&`, `<` and `>` as entities. A backslash before one of them is dropped,
because the entity needs none. -/
def escapeEntities (source : List Char) : List Char :=
  Entities.substitute 0 source

end RuleLexer
