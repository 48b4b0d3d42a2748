import RuleLexer.Number.Notation
import RuleLexer.Text.Quoted
import RuleLexer.Value.Basic

namespace RuleLexer.Value

def commaSeparated : List (List Char) → List Char
  | [] => []
  | [item] => item
  | item :: items => item ++ ',' :: ' ' :: commaSeparated items

mutual

def quoted : Value → List Char
  | .null => "None".toList
  | .bool true => "True".toList
  | .bool false => "False".toList
  | .int value => Number.intText value
  | .float value => Number.floatText Number.plainNames value
  | .text value => Text.quoted value.toList
  | .bytes value => Text.quotedBytes value
  | .list items => '[' :: commaSeparated (quotedItems items) ++ [']']
  | .tuple items =>
    match quotedItems items with
    | [item] => '(' :: item ++ [',', ')']
    | items => '(' :: commaSeparated items ++ [')']
  | .dict entries => '\x7b' :: commaSeparated (quotedEntries entries) ++ ['\x7d']

def quotedItems : List Value → List (List Char)
  | [] => []
  | item :: items => quoted item :: quotedItems items

def quotedEntries : List (String × Value) → List (List Char)
  | [] => []
  | (key, value) :: entries =>
    (Text.quoted key.toList ++ ':' :: ' ' :: quoted value) :: quotedEntries entries

end

def shown : Value → List Char
  | .text value => value.toList
  | value => value.quoted

end RuleLexer.Value
