import RuleLexer.Number.Integer
import RuleLexer.Text.Quoted

namespace RuleLexer

structure Position where
  line : Int
  column : Int
deriving DecidableEq, Repr

def Position.text (position : Position) : List Char :=
  Number.intText position.line ++ ':' :: Number.intText position.column

structure ScanState where
  line : Int := 1
  column : Int := 1
  updated : Bool := false
deriving DecidableEq, Repr

namespace ScanState

def position (state : ScanState) : Position :=
  ⟨state.line, state.column⟩

def breakLine (state : ScanState) : ScanState :=
  ⟨state.line + 1, 1, true⟩

def skip (state : ScanState) (count : Nat) : ScanState :=
  { state with column := state.column + count }

/-- The state behind a match of `count` characters: the column advances unless the position has been
moved already. -/
def passMatch (state : ScanState) (count : Nat) : ScanState :=
  if state.updated then { state with updated := false } else state.skip count

end ScanState

structure SkippedText where
  line : Int
  column : Int
  text : String
deriving DecidableEq, Repr

namespace SkippedText

def position (skipped : SkippedText) : Position :=
  ⟨skipped.line, skipped.column⟩

def message (skipped : SkippedText) : String :=
  String.ofList (skipped.position.text
    ++ ": skipped unexpected characters ".toList ++ Text.quoted skipped.text.toList)

end SkippedText

/-- Skipped text as a handler is given it, with the number of gaps that the scan has had before. -/
structure Gap extends SkippedText where
  earlier : Nat
deriving DecidableEq, Repr

end RuleLexer
