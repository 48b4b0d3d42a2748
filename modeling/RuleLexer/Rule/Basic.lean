import RuleLexer.Digest.Fingerprint
import RuleLexer.Regex.Search
import RuleLexer.Scan.Context
import RuleLexer.Source.Normal

namespace RuleLexer

/-- Makes the content of a token from the captures of a match; the null value makes none. The
position may be moved. -/
abbrev Callback := Captures → ScanState → Run (Value × ScanState)

inductive PatternField where
  | value (value : Value)
  | pattern (pattern : Pattern)
  | bytesPattern (source : List UInt8)

inductive CallbackField where
  | value (value : Value)
  | callback (callback : Callback)

inductive Candidate where
  | other
  | rule (name : Value) (pattern : PatternField) (callback : CallbackField) (discard : Value)

structure CompiledRule where
  name : String
  patternText : List Char
  callback : Option Callback
  discard : Bool
  captures : Nat
  groupIndex : Nat

namespace CompiledRule

def wrap (text : List Char) : List Char :=
  '(' :: text ++ [')']

def spanAfter (groupIndex captures : Int) : List Int :=
  (List.range captures.toNat).map fun (i : Nat) => groupIndex + 1 + (i : Int)

def wrapped (rule : CompiledRule) : List Char :=
  wrap rule.patternText

def groupSpan (rule : CompiledRule) : List Int :=
  spanAfter rule.groupIndex rule.captures

end CompiledRule

def lineBreak : Callback := fun _ state =>
  pure (.null, state.breakLine)

def htmlBreak : CompiledRule where
  name := "HTML_BREAK"
  patternText := "<br\\s*/?\\s*>".toList
  callback := some lineBreak
  discard := true
  captures := 0
  groupIndex := 1

structure RuleSet where
  rules : List CompiledRule
  pattern : Pattern

namespace RuleSet

def fingerprint (set : RuleSet) : List Char :=
  let text := String.ofList set.pattern.source ++ "\x00" ++ Nat.repr set.pattern.flags.bits
  Digest.hashText .sha256 (some 16) text

def ruleForGroup? (set : RuleSet) (group : Option Int) : Option CompiledRule :=
  group.bind fun index => set.rules.find? fun rule => (rule.groupIndex : Int) == index

end RuleSet

/-- The table that is used when none is given: white space is dropped, and words and other single
characters are tokens. -/
def defaultTable : List Candidate :=
  let blanks : Pattern :=
    { source := "\\s+".toList
      regex := .repeated .greedy 1 none (.set false [.category .blank false])
      groups := 0
      names := []
      flags := .ofList [.unicode] }
  let words : Pattern :=
    { source := "\\w+|.".toList
      regex := .alt (.repeated .greedy 1 none (.set false [.category .word false])) .any
      groups := 0
      names := []
      flags := .ofList [.unicode] }
  [.rule (.text "WHITESPACE") (.pattern blanks) (.value .null) (.bool true),
    .rule (.text "WORD") (.pattern words) (.value .null) (.bool false)]

end RuleLexer
