import RuleLexer.Regex.Malformed
import RuleLexer.Source.Renumber
import RuleLexer.Value.Shown

namespace RuleLexer

/-- The rule that an error is about: the table as a whole, a rule by its place, or, once its name is
known to be one, by its name. -/
inductive RuleRef where
  | table
  | place (number : Int)
  | named (name : String)
deriving DecidableEq, Repr

def RuleRef.message (rule : RuleRef) (detail : String) : String :=
  let location := match rule with
    | .table => ""
    | .place number => "in rule " ++ String.ofList (Number.intText number) ++ ": "
    | .named name => "in rule \"" ++ name ++ "\": "
  "Validation Error: " ++ location ++ detail

inductive RuleFault where
  | noRules
  | invalidRule
  | missingName
  | invalidName (name : Value)
  | missingPattern
  | invalidPattern (pattern : Value)
  | invalidCallback (callback : Value)
  | malformed (found : Malformed) (compiled : List Char) (pattern : List Char)
  | redefinedGroup (name : List Char) (rule : String) (pattern : List Char)
  | beyondLimit (reference : Nat) (shifted : Int) (pattern : List Char)
  | groupMismatch (counted found : Nat) (pattern : List Char)
deriving Repr

namespace RuleFault

def quoteValue (what : String) (value : Value) : String :=
  what ++ " \"" ++ String.ofList value.shown ++ "\""

def detail : RuleFault → String
  | .noRules => "no rules provided"
  | .invalidRule => "invalid rule"
  | .missingName => "missing name"
  | .invalidName name => quoteValue "invalid name" name
  | .missingPattern => "missing pattern"
  | .invalidPattern pattern => quoteValue "invalid pattern" pattern
  | .invalidCallback callback => quoteValue "invalid callback" callback
  | .malformed found compiled _ => found.message compiled
  | .redefinedGroup name rule _ =>
    "redefinition of group name '" ++ String.ofList name ++ "', already defined in rule \""
      ++ rule ++ "\""
  | .beyondLimit reference shifted _ => RenumberError.beyondLimitMessage reference shifted
  | .groupMismatch counted found _ =>
    "counted " ++ Nat.repr counted ++ " capturing groups but re found " ++ Nat.repr found

def pattern? : RuleFault → Option (List Char)
  | .malformed _ _ pattern | .redefinedGroup _ _ pattern | .beyondLimit _ _ pattern
  | .groupMismatch _ _ pattern => some pattern
  | _ => none

end RuleFault

structure RuleError where
  rule : RuleRef
  fault : RuleFault
deriving Repr

def RuleError.message (error : RuleError) : String :=
  error.rule.message error.fault.detail

end RuleLexer
