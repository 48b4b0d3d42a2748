import RuleLexer.Json.Printer
import RuleLexer.Json.Reader
import RuleLexer.Token.Basic

namespace RuleLexer

inductive SerialError where
  | unreadable (error : Json.ReadError)
  | notList (value : Value)
  | notDict
  | missingType
  | unknownType (type : Value)
  | missingField (field : String)
  | noFields
deriving Repr

def Value.kind : Value → String
  | .null => "NoneType"
  | .bool _ => "bool"
  | .int _ => "int"
  | .float _ => "float"
  | .text _ => "str"
  | .bytes _ => "bytes"
  | .list _ => "list"
  | .tuple _ => "tuple"
  | .dict _ => "dict"

namespace Record

def toDict (record : Record) : Value :=
  .dict [("_type", .text "Token"), ("name", record.name), ("content", record.content),
    ("position", .dict [("_type", .text "Position"), ("line", record.line),
      ("column", record.column)])]

def field (entries : List (String × Value)) (name : String) : Except SerialError Value :=
  match Value.lookup entries name with
  | some value => .ok value
  | none => .error (.missingField name)

def fieldOf (value : Value) (name : String) : Except SerialError Value :=
  match value with
  | .dict entries => field entries name
  | _ => .error .noFields

def ofDict : Value → Except SerialError Record
  | .dict entries =>
    match (Value.lookup entries "_type").getD .null with
    | .null => .error .missingType
    | .text "Token" => do
      let position ← field entries "position"
      let name ← field entries "name"
      let content ← field entries "content"
      let line ← fieldOf position "line"
      let column ← fieldOf position "column"
      return ⟨name, content, line, column⟩
    | type => .error (.unknownType type)
  | _ => .error .notDict

def ofDicts : List Value → Except SerialError (List Record)
  | [] => .ok []
  | item :: items => do
    let record ← ofDict item
    let records ← ofDicts items
    return record :: records

def toJson? (indent : Option Int) (records : List Record) : Option (List Char) :=
  Json.print? indent (.list (records.map toDict))

def ofJson (document : List Char) : Except SerialError (List Record) :=
  match Json.parse document with
  | .error error => .error (.unreadable error)
  | .ok (.list items) => ofDicts items
  | .ok value => .error (.notList value)

end Record

namespace SerialError

def message (document : List Char) : SerialError → String
  | .unreadable error => error.message document
  | .notList value => "Expected a list of tokens, got " ++ value.kind
  | .missingType => "Missing '_type' field in serialized token"
  | .unknownType type => "Unknown token type: " ++ String.ofList type.quoted
  | .missingField field => String.ofList (Text.quoted field.toList)
  | .notDict => "not a dictionary"
  | .noFields => "a position without fields"

end SerialError

end RuleLexer
