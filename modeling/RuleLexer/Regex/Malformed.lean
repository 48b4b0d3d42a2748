import RuleLexer.Number.Integer
import RuleLexer.Text.Quoted

namespace RuleLexer

inductive Fault where
  | danglingBackslash
  | missing (what : String)
  | unterminatedName (terminator : Char)
  | badNameCharacter (name : List Char)
  | incompleteEscape (escape : List Char)
  | missingBrace
  | undefinedCharacter (name : List Char)
  | octalTooLarge (escape : List Char)
  | badEscape (escape : List Char)
  | openGroup
  | sameLookbehind
  | invalidReference (group : Nat)
  | unterminatedSet
  | badRange (low high : List Char)
  | reversedRepeat
  | nothingToRepeat
  | multipleRepeat
  | unexpectedEnd
  | unknownExtension (opening : List Char)
  | unterminatedComment
  | unterminatedGroup
  | badGroupNumber
  | unknownGroup (name : List Char)
  | redefinedGroup (name : List Char) (group earlier : Nat)
  | thirdBranch
  | misplacedFlags
  | localeFlag
  | unicodeFlag
  | incompatibleFlags
  | unknownFlag
  | missingFlagEnd
  | missingFlag
  | missingColon
  | globalFlagOn
  | globalFlagOff
  | characterTypeOff
  | flagOnAndOff
  | unbalanced
  | farLookbehind
  | variableLookbehind
  | templateRepeat (operator : String)
deriving DecidableEq, Repr

def Fault.message : Fault → String
  | .danglingBackslash => "bad escape (end of pattern)"
  | .missing what => "missing " ++ what
  | .unterminatedName terminator => "missing " ++ terminator.toString ++ ", unterminated name"
  | .badNameCharacter name => "bad character in group name " ++ String.ofList (Text.quoted name)
  | .incompleteEscape escape => "incomplete escape " ++ String.ofList escape
  | .missingBrace => "missing \x7b"
  | .undefinedCharacter name =>
    "undefined character name " ++ String.ofList (Text.quoted name)
  | .octalTooLarge escape =>
    "octal escape value " ++ String.ofList escape ++ " outside of range 0-0o377"
  | .badEscape escape => "bad escape " ++ String.ofList escape
  | .openGroup => "cannot refer to an open group"
  | .sameLookbehind => "cannot refer to group defined in the same lookbehind subpattern"
  | .invalidReference group => "invalid group reference " ++ Nat.repr group
  | .unterminatedSet => "unterminated character set"
  | .badRange low high =>
    "bad character range " ++ String.ofList low ++ "-" ++ String.ofList high
  | .reversedRepeat => "min repeat greater than max repeat"
  | .nothingToRepeat => "nothing to repeat"
  | .multipleRepeat => "multiple repeat"
  | .unexpectedEnd => "unexpected end of pattern"
  | .unknownExtension opening => "unknown extension " ++ String.ofList opening
  | .unterminatedComment => "missing ), unterminated comment"
  | .unterminatedGroup => "missing ), unterminated subpattern"
  | .badGroupNumber => "bad group number"
  | .unknownGroup name => "unknown group name " ++ String.ofList (Text.quoted name)
  | .redefinedGroup name group earlier =>
    "redefinition of group name " ++ String.ofList (Text.quoted name) ++ " as group "
      ++ Nat.repr group ++ "; was group " ++ Nat.repr earlier
  | .thirdBranch => "conditional backref with more than two branches"
  | .misplacedFlags => "global flags not at the start of the expression"
  | .localeFlag => "bad inline flags: cannot use 'L' flag with a str pattern"
  | .unicodeFlag => "bad inline flags: cannot use 'u' flag with a bytes pattern"
  | .incompatibleFlags => "bad inline flags: flags 'a', 'u' and 'L' are incompatible"
  | .unknownFlag => "unknown flag"
  | .missingFlagEnd => "missing -, : or )"
  | .missingFlag => "missing flag"
  | .missingColon => "missing :"
  | .globalFlagOn => "bad inline flags: cannot turn on global flag"
  | .globalFlagOff => "bad inline flags: cannot turn off global flag"
  | .characterTypeOff => "bad inline flags: cannot turn off flags 'a', 'u' and 'L'"
  | .flagOnAndOff => "bad inline flags: flag turned on and off"
  | .unbalanced => "unbalanced parenthesis"
  | .farLookbehind => "looks too much behind"
  | .variableLookbehind => "look-behind requires fixed-width pattern"
  | .templateRepeat operator => "internal: unsupported template operator " ++ operator

structure Malformed where
  fault : Fault
  position : Option Nat
deriving DecidableEq, Repr

/-- The message for a fault in the pattern `source`. Line and column are added to the position when
the pattern has more than one line. -/
def Malformed.message (source : List Char) (malformed : Malformed) : String :=
  match malformed.position with
  | none => malformed.fault.message
  | some position =>
    let before := source.take position
    let placed := malformed.fault.message ++ " at position " ++ Nat.repr position
    if source.contains '\n' then
      let column := (before.reverse.takeWhile (· != '\n')).length + 1
      let line := before.count '\n' + 1
      placed ++ " (line " ++ Nat.repr line ++ ", column " ++ Nat.repr column ++ ")"
    else placed

inductive Rejection where
  | malformed (found : Malformed)
  | repeatTooLarge
  | tooManyDigits (count : Nat)
  | localeInText
  | asciiWithUnicode
  | unicodeInBytes
  | asciiWithLocale
  | flagsTooLarge
deriving DecidableEq, Repr

def Rejection.message (source : List Char) : Rejection → String
  | .malformed found => found.message source
  | .repeatTooLarge => "the repetition number is too large"
  | .tooManyDigits count => Number.tooManyDigitsMessage count
  | .localeInText => "cannot use LOCALE flag with a str pattern"
  | .asciiWithUnicode => "ASCII and UNICODE flags are incompatible"
  | .unicodeInBytes => "cannot use UNICODE flag with a bytes pattern"
  | .asciiWithLocale => "ASCII and LOCALE flags are incompatible"
  | .flagsTooLarge => "the flags are too large"

end RuleLexer
