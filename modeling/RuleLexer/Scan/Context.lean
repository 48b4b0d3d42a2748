import RuleLexer.Log
import RuleLexer.Rule.Error
import RuleLexer.Scan.State

namespace RuleLexer

inductive Failure where
  | rule (error : RuleError)
  | rejected (rejection : Rejection)
  | renumber (error : RenumberError)
  | flagsNotNumber
  | unknownGroup (group : Option Int)
  | raised (message : String)
  | captureIndex
  | captureUnset
  | notInteger (text : List Char)
  | tooManyDigits (count : Nat)
  | notFloat (text : List Char)
  | unknownName (name : String)
  | noItem
deriving Repr

namespace Failure

def message : Failure → String
  | .rule error => error.message
  | .rejected rejection => rejection.message []
  | .renumber (.beyondLimit reference shifted) =>
    RenumberError.beyondLimitMessage reference shifted
  | .renumber (.tooManyDigits count) | .tooManyDigits count => Number.tooManyDigitsMessage count
  | .renumber .noCodePoint => "chr() arg not in range(0x110000)"
  | .renumber .wordOverflow => "the code point is too large"
  | .flagsNotNumber => "the flags are no number"
  | .unknownGroup (some group) => String.ofList (Number.intText group)
  | .unknownGroup none => "None"
  | .raised message => message
  | .captureIndex => "no such capture"
  | .captureUnset => "the capture is not set"
  | .notInteger text =>
    "invalid literal for int() with base 10: "
      ++ String.ofList ((Text.quoted text).take 200)
  | .notFloat text => "could not convert string to float: " ++ String.ofList (Text.quoted text)
  | .unknownName name => String.ofList (Text.quoted name.toList)
  | .noItem => "no such item"

end Failure

/-- A handler for skipped text. It may fail, at a certain text or at a certain call. -/
abbrev SkipHandler := Gap → Option Failure

/-- Options of a lexer. Values are taken as they come: switches by their truth, and flags that are
no number only fail when patterns are compiled. -/
structure Config where
  escapeEntities : Value := .bool true
  flags : Value := .int 0
  onSkip : Option SkipHandler := none
  logSkipped : Value := .bool true

structure Totals where
  calls : Int := 0
  sourceLength : Int := 0
  tokens : Int := 0
  skipped : Int := 0
deriving DecidableEq, Repr

def Totals.record (totals : Totals) (sourceLength tokens skipped : Int) : Totals where
  calls := totals.calls + 1
  sourceLength := totals.sourceLength + sourceLength
  tokens := totals.tokens + tokens
  skipped := totals.skipped + skipped

abbrev Captures := List (Option String)

inductive Event where
  | compiled (rules groups : Nat)
  | lexed (characters tokens skipped : Nat)
  | warned (skipped : SkippedText)
  | handled (skipped : SkippedText)
  | called (rule : String) (captures : Captures) (state : ScanState)
deriving DecidableEq, Repr

namespace Event

def logLine? : Event → Option String
  | .compiled rules groups =>
    some (Log.line .debug Log.compiler
      ("compiled " ++ Nat.repr rules ++ " rules into " ++ Nat.repr groups ++ " groups"))
  | .lexed characters tokens _ =>
    some (Log.line .debug Log.scanner
      ("lexed " ++ Nat.repr characters ++ " chars into " ++ Nat.repr tokens ++ " tokens"))
  | .warned skipped => some (Log.line .warning Log.scanner skipped.message)
  | _ => none

end Event

structure Context where
  config : Config := {}
  profiles : List Totals := []
  activeProfile : Option Nat := none
  counters : List (Nat × Nat) := []
  /-- What has been observed, the last event first. -/
  events : List Event := []

namespace Context

def emit (context : Context) (event : Event) : Context :=
  { context with events := event :: context.events }

def record (context : Context) (sourceLength tokens skipped : Int) : Context :=
  match context.activeProfile with
  | none => context
  | some place =>
    { context with
      profiles := context.profiles.modify place fun totals =>
        totals.record sourceLength tokens skipped }

def count (context : Context) (key : Nat) : Nat :=
  (context.counters.lookup key).getD 0

def increment (context : Context) (key : Nat) : Context :=
  { context with
    counters := (key, context.count key + 1) :: context.counters.filter (·.1 != key) }

end Context

abbrev Run (α : Type) := ExceptT Failure (StateM Context) α

namespace Run

def emit (event : Event) : Run Unit :=
  modify fun context => context.emit event

def ofExcept {α : Type} : Except Failure α → Run α
  | .ok value => pure value
  | .error failure => throw failure

end Run

end RuleLexer
