import RuleLexer.Regex.Pattern
import RuleLexer.Source.Entities
import RuleLexer.Source.Literal

namespace RuleLexer

inductive Matcher where
  | literal (text : List Char)
  | pattern (pattern : Pattern)
deriving DecidableEq, Repr

namespace Normal

def isFlagLetter (c : Char) : Bool :=
  "aiLmsux".toList.contains c

def dropFlagGroup : List Char → Option (List Char)
  | '(' :: '?' :: rest =>
    match rest.takeWhile isFlagLetter, rest.dropWhile isFlagLetter with
    | _ :: _, ')' :: after => some after
    | _, _ => none
  | _ => none

def dropFlagGroupsUpTo : Nat → List Char → List Char
  | 0, text => text
  | count + 1, text =>
    match dropFlagGroup text with
    | some rest => dropFlagGroupsUpTo count rest
    | none => text

def dropFlagGroups (text : List Char) : List Char :=
  dropFlagGroupsUpTo text.length text

def scopedFlags : List (Flag × Char) :=
  [(.ascii, 'a'), (.ignoreCase, 'i'), (.multiLine, 'm'), (.dotAll, 's'), (.verbose, 'x')]

def flagLetters (flags : Flags) : List Char :=
  (scopedFlags.filter fun entry => flags.has entry.1).map Prod.snd

end Normal

namespace Matcher

/-- The pattern text for what a rule matches. Flags of a pattern become a group around it, and a
newline keeps a verbose comment at its end from hiding that group's parenthesis. -/
def source : Matcher → List Char
  | .literal text => escapeLiteral text
  | .pattern compiled =>
    let body := Normal.dropFlagGroups compiled.source
    let letters := Normal.flagLetters compiled.flags
    if letters.isEmpty then body
    else
      let closing := if compiled.flags.has .verbose then ['\n', ')'] else [')']
      '(' :: '?' :: letters ++ ':' :: body ++ closing

def normal (entities : Bool) (matcher : Matcher) : List Char :=
  if entities then escapeEntities matcher.source else matcher.source

end Matcher

end RuleLexer
