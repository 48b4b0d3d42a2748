import RuleLexer.Regex.Matching
import RuleLexer.Regex.Pattern

namespace RuleLexer

structure Match where
  start : Nat
  stop : Nat
  captures : List (Nat × Span)
  lastGroup : Option Nat
deriving DecidableEq, Repr

namespace Match

def isEmpty (found : Match) : Bool :=
  found.start == found.stop

def capture? (found : Match) (group : Nat) : Option Span :=
  found.captures.lookup group

end Match

namespace Pattern

def mode (pattern : Pattern) : Mode :=
  .ofFlags pattern.flags

def matchAt? (pattern : Pattern) (text : Array Char) (start : Nat) (nonempty : Bool) :
    Option Match :=
  let accept : Continuation := fun cursor =>
    if nonempty && cursor.position == start then none else some cursor
  (pattern.regex.run text pattern.mode (.start start) accept).map fun cursor =>
    ⟨start, cursor.position, cursor.captures, cursor.lastGroup⟩

/-- The first match at or after `start`, trying `count` places. Only at the first of them may a
match be required not to be empty. -/
def search? (pattern : Pattern) (text : Array Char) : Nat → Nat → Bool → Option Match
  | 0, _, _ => none
  | count + 1, start, nonempty =>
    pattern.matchAt? text start nonempty <|> pattern.search? text count (start + 1) false

end Pattern

structure Search where
  position : Nat
  afterEmpty : Bool
deriving DecidableEq, Repr

namespace Search

def start : Search := ⟨0, false⟩

/-- After an empty match the search stays where it is, and takes a match that is not empty only. -/
def next? (search : Search) (pattern : Pattern) (text : Array Char) : Option (Match × Search) :=
  (pattern.search? text (text.size + 1 - search.position) search.position search.afterEmpty).map
    fun found => (found, ⟨found.stop, found.isEmpty⟩)

/-- The number of matches that can still be found: at every place at most an empty one and one that
is not empty. -/
def bound (search : Search) (text : Array Char) : Nat :=
  2 * (text.size + 1 - search.position) - (if search.afterEmpty then 1 else 0)

end Search

end RuleLexer
