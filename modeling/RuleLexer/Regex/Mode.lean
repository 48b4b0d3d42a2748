import RuleLexer.Regex.Basic
import RuleLexer.Text.Blank
import RuleLexer.Text.Digit
import RuleLexer.Text.LowerCase

namespace RuleLexer

structure Mode where
  ignoreCase : Bool
  multiLine : Bool
  dotAll : Bool
  ascii : Bool
deriving DecidableEq, Repr

namespace Mode

def ofFlags (flags : Flags) : Mode where
  ignoreCase := flags.has .ignoreCase
  multiLine := flags.has .multiLine
  dotAll := flags.has .dotAll
  ascii := flags.has .ascii

def change (mode : Mode) (on off : Flags) : Mode where
  ignoreCase := (mode.ignoreCase || on.has .ignoreCase) && !off.has .ignoreCase
  multiLine := (mode.multiLine || on.has .multiLine) && !off.has .multiLine
  dotAll := (mode.dotAll || on.has .dotAll) && !off.has .dotAll
  ascii := on.has .ascii || (mode.ascii && !on.has .unicode)

def inCategory (mode : Mode) (category : Category) (code : Nat) : Bool :=
  match category, mode.ascii with
  | .digit, true => Text.isAsciiDigit code
  | .digit, false => Text.isDigit code
  | .blank, true => Text.isAsciiBlank code
  | .blank, false => Text.isBlank code
  | .word, true => Text.isAsciiWord code
  | .word, false => Text.isWord code

def isChar (mode : Mode) (wanted code : Nat) : Bool :=
  if !mode.ignoreCase then wanted == code
  else if mode.ascii then Text.sameIgnoringAsciiCase wanted code
  else Text.sameIgnoringCase wanted code

def variants (mode : Mode) (code : Nat) : List Nat :=
  if !mode.ignoreCase then [code]
  else if mode.ascii then Text.asciiCaseVariants code
  else Text.caseVariants code

def holds (mode : Mode) (code : Nat) : SetItem → Bool
  | .char wanted => mode.isChar wanted code
  | .range low high => (mode.variants code).any fun c => low ≤ c && c ≤ high
  | .category category negated => mode.inCategory category code != negated

def inSet (mode : Mode) (negated : Bool) (items : List SetItem) (code : Nat) : Bool :=
  items.any (mode.holds code) != negated

/-- Characters of the text compared with each other, for the text of a group again. Only lower case
counts here. -/
def sameText (mode : Mode) (a b : Nat) : Bool :=
  if !mode.ignoreCase then a == b
  else if mode.ascii then Text.sameIgnoringAsciiCase a b
  else Text.lower a == Text.lower b

end Mode

end RuleLexer
