import RuleLexer.Number.Notation
import RuleLexer.Text.Quoted
import RuleLexer.Value.Basic

namespace RuleLexer.Json

def names : Number.SpecialNames := ⟨"NaN", "Infinity", "-Infinity"⟩

def unitEscape (unit : Nat) : List Char :=
  '\\' :: 'u' :: Text.hexDigits 4 unit

def escapeChar (c : Char) : List Char :=
  match c with
  | '"' => ['\\', '"']
  | '\\' => ['\\', '\\']
  | '\n' => ['\\', 'n']
  | '\r' => ['\\', 'r']
  | '\t' => ['\\', 't']
  | '\x0c' => ['\\', 'f']
  | '\x08' => ['\\', 'b']
  | c =>
    if 0x20 ≤ c.toNat && c.toNat ≤ 0x7E then [c]
    else if c.toNat < 0x10000 then unitEscape c.toNat
    else
      let rest := c.toNat - 0x10000
      unitEscape (0xD800 + rest / 0x400) ++ unitEscape (0xDC00 + rest % 0x400)

def string (text : List Char) : List Char :=
  '"' :: text.flatMap escapeChar ++ ['"']

def lineBreak (indent : Option Int) (level : Nat) : List Char :=
  match indent with
  | none => []
  | some width => '\n' :: List.replicate (width.toNat * level) ' '

def separator (indent : Option Int) (level : Nat) : List Char :=
  match indent with
  | none => [',', ' ']
  | some _ => ',' :: lineBreak indent level

def join (between : List Char) : List (List Char) → List Char
  | [] => []
  | [item] => item
  | item :: items => item ++ between ++ join between items

def bracketed (indent : Option Int) (level : Nat) (opening closing : Char)
    (items : List (List Char)) : List Char :=
  if items.isEmpty then [opening, closing]
  else
    opening :: lineBreak indent (level + 1) ++ join (separator indent (level + 1)) items
      ++ lineBreak indent level ++ [closing]

def insertByKey {α : Type} (entry : String × α) : List (String × α) → List (String × α)
  | [] => [entry]
  | other :: rest =>
    if entry.1 < other.1 then entry :: other :: rest else other :: insertByKey entry rest

def sortByKey {α : Type} (entries : List (String × α)) : List (String × α) :=
  entries.foldr insertByKey []

mutual

def render (indent : Option Int) (level : Nat) : Value → Option (List Char)
  | .null => some "null".toList
  | .bool true => some "true".toList
  | .bool false => some "false".toList
  | .int value => some (Number.intText value)
  | .float value => some (Number.floatText names value)
  | .text value => some (string value.toList)
  | .bytes _ => none
  | .list items | .tuple items =>
    (renderItems indent (level + 1) items).map (bracketed indent level '[' ']')
  | .dict entries =>
    (renderEntries indent (level + 1) entries).map fun rendered =>
      bracketed indent level '\x7b' '\x7d' <| (sortByKey rendered).map fun (key, value) =>
        string key.toList ++ ':' :: ' ' :: value

def renderItems (indent : Option Int) (level : Nat) : List Value → Option (List (List Char))
  | [] => some []
  | item :: items => do
    let first ← render indent level item
    let rest ← renderItems indent level items
    return first :: rest

def renderEntries (indent : Option Int) (level : Nat) :
    List (String × Value) → Option (List (String × List Char))
  | [] => some []
  | (key, value) :: entries => do
    let first ← render indent level value
    let rest ← renderEntries indent level entries
    return (key, first) :: rest

end

/-- The JSON text of a value, or none if it holds a byte string. -/
def print? (indent : Option Int) (value : Value) : Option (List Char) :=
  render indent 0 value

end RuleLexer.Json
