import RuleLexer.Number.Float
import RuleLexer.Scan.Scanner

namespace RuleLexer

inductive Action where
  | lineBreak
  | captures
  | capture (index : Int)
  | integer (index : Int)
  | decimal
  | constant (value : Value)
  /-- The values in turn, over and over; `counter` is the key under which calls are counted. -/
  | cycle (counter : Nat) (values : List Value)
  | whereabouts
  | join (separator : String)
  | move (line column : Option Int) (lines columns : Int) (updated : Bool) (value : Value)
  | relex (index : Int)
  | fail (message : String)
deriving Repr

namespace Action

def captureValue : Option String → Value
  | some text => .text text
  | none => .null

def itemAt? {α : Type} (items : List α) (index : Int) : Option α :=
  match index with
  | .ofNat n => items[n]?
  | .negSucc n => if n < items.length then items[items.length - (n + 1)]? else none

def captureAt (captures : Captures) (index : Int) : Run (Option String) :=
  match itemAt? captures index with
  | some found => pure found
  | none => throw .captureIndex

def textAt (captures : Captures) (index : Int) : Run String := do
  match ← captureAt captures index with
  | some text => pure text
  | none => throw .captureUnset

def readInteger (text : List Char) : Run Value :=
  match Number.readInt text with
  | .ok value => pure (.int value)
  | .error (.tooManyDigits count) => throw (.tooManyDigits count)
  | .error .invalid => throw (.notInteger text)

def readDecimal (captures : Captures) : Run Value := do
  let whole ← textAt captures 0
  let fraction := (← captureAt captures 1).getD ""
  let text := (whole ++ "." ++ if fraction = "" then "0" else fraction).toList
  match Number.readFloat? text with
  | some value => pure (.float value)
  | none => throw (.notFloat text)

def nextOf (counter : Nat) (values : List Value) : Run Value := do
  let calls := (← get).count counter
  modify fun context => context.increment counter
  return values.getD (calls % values.length) .null

def relexed (captures : Captures) (index : Int) : Run Value := do
  let found ← captureAt captures index
  let config ← configOrActive none
  let set ← RuleSet.compile config (some defaultTable)
  match found with
  | none => throw .captureUnset
  | some text =>
    let result ← set.scan config text
    return .list (result.tokens.map fun token => .list [.text token.name, token.content])

def run (captures : Captures) (state : ScanState) : Action → Run (Value × ScanState)
  | .lineBreak => RuleLexer.lineBreak captures state
  | .captures => return (.tuple (captures.map captureValue), state)
  | .capture index => return (captureValue (← captureAt captures index), state)
  | .integer index => return (← readInteger (← textAt captures index).toList, state)
  | .decimal => return (← readDecimal captures, state)
  | .constant value => return (value, state)
  | .cycle counter values => return (← nextOf counter values, state)
  | .whereabouts => return (.list [.int state.line, .int state.column, .bool state.updated], state)
  | .join separator =>
    return (.text (separator.intercalate (captures.map fun text => text.getD "")), state)
  | .move line column lines columns updated value =>
    return (value, ⟨line.getD state.line + lines, column.getD state.column + columns, updated⟩)
  | .relex index => return (← relexed captures index, state)
  | .fail message => throw (.raised message)

def callback (rule : String) (action : Action) : Callback := fun captures state => do
  match action with
  | .lineBreak => pure ()
  | _ => Run.emit (.called rule captures state)
  action.run captures state

end Action

end RuleLexer
