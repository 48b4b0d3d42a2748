import RuleLexer.Scan.State
import RuleLexer.Value.Shown

namespace RuleLexer

structure Token where
  name : String
  content : Value
  position : Position
deriving Repr

/-- The fields of a token with any values in them, as serialised tokens may give them. -/
structure Record where
  name : Value
  content : Value
  line : Value
  column : Value
deriving Repr

def Token.toRecord (token : Token) : Record :=
  ⟨.text token.name, token.content, .int token.position.line, .int token.position.column⟩

namespace Record

def same (a b : Record) : Bool :=
  a.name.same b.name && a.content.same b.content && a.line.same b.line && a.column.same b.column

def sameAll : List Record → List Record → Bool
  | [], [] => true
  | a :: as, b :: bs => a.same b && sameAll as bs
  | _, _ => false

def positionText (record : Record) : List Char :=
  record.line.shown ++ ':' :: record.column.shown

/-- The content as it appears in a summary: of a text of more than twenty characters, the first
seventeen. -/
def summary : Value → Value
  | .text text =>
    if 20 < text.length then .text (String.ofList (text.toList.take 17 ++ "...".toList))
    else .text text
  | content => content

def text (record : Record) : List Char :=
  "Token(".toList ++ record.name.shown ++ ", ".toList ++ (summary record.content).quoted
    ++ ", ".toList ++ record.positionText ++ [')']

end Record

end RuleLexer
