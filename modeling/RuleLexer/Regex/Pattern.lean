import RuleLexer.Regex.Parser

namespace RuleLexer

structure Pattern where
  source : List Char
  regex : Regex
  groups : Nat
  names : List (List Char × Nat)
  flags : Flags
deriving DecidableEq, Repr

namespace Regex

def repeatOperator : Greed → String
  | .greedy => "MAX_REPEAT"
  | .lazy => "MIN_REPEAT"
  | .possessive => "POSSESSIVE_REPEAT"

def lookbehindLimit : Nat := 4294967295

/-- Checks that need the whole tree: looks at the text before have a fixed width, and a template has
no repetitions. -/
def check (template : Bool) : Regex → Except Rejection Unit
  | .empty | .anchor _ | .char _ | .any | .set _ _ | .backref _ => .ok ()
  | .seq first second | .alt first second | .conditional _ first second => do
    first.check template
    second.check template
  | .group _ body | .scoped _ _ body | .atomic body | .ahead _ body => body.check template
  | .repeated greed _ _ body => do
    if template then throw (.malformed ⟨.templateRepeat (repeatOperator greed), none⟩)
    body.check template
  | .behind _ width body => do
    if lookbehindLimit < width.least then throw (.malformed ⟨.farLookbehind, none⟩)
    if width.most ≠ some width.least then throw (.malformed ⟨.variableLookbehind, none⟩)
    body.check template

end Regex

namespace Flags

def settle (alphabet : Alphabet) (flags : Flags) : Except Rejection Flags :=
  match alphabet with
  | .text =>
    if flags.has .locale then .error .localeInText
    else if !flags.has .ascii then .ok (flags.insert .unicode)
    else if flags.has .unicode then .error .asciiWithUnicode
    else .ok flags
  | .bytes =>
    if flags.has .unicode then .error .unicodeInBytes
    else if flags.has .locale && flags.has .ascii then .error .asciiWithLocale
    else .ok flags

end Flags

namespace Pattern

def checkConditions (groups : Nat) : List (Nat × Nat) → Except Rejection Unit
  | [] => .ok ()
  | (group, place) :: rest =>
    if groups < group then .error ((Fault.invalidReference group).at place)
    else checkConditions groups rest

def compile (alphabet : Alphabet) (source : List Char) (asked : Int) :
    Except Rejection Pattern := do
  let input ← Input.ofSource source
  let parser ← Parser.run alphabet (input.rest.length + 1) (.start input (.ofInt asked))
  let flags ← parser.flags.settle alphabet
  if !parser.input.rest.isEmpty then throw (Fault.unbalanced.at parser.input.position)
  checkConditions parser.groups parser.conditions.reverse
  let regex := parser.level.body
  regex.check (flags.has .template)
  if !Flags.fits asked then throw .flagsTooLarge
  return { source, regex, groups := parser.groups, names := parser.names.reverse, flags }

end Pattern

end RuleLexer
