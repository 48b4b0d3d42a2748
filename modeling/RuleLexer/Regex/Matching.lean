import RuleLexer.Regex.Mode

namespace RuleLexer

structure Span where
  start : Nat
  stop : Nat
deriving DecidableEq, Repr

/-- A partial match: the place it has reached, the groups that have been closed, the last one first,
and the number of the last group that was closed. -/
structure Cursor where
  position : Nat
  captures : List (Nat × Span)
  lastGroup : Option Nat
deriving DecidableEq, Repr

namespace Cursor

def start (position : Nat) : Cursor := ⟨position, [], none⟩

def capture? (cursor : Cursor) (group : Nat) : Option Span :=
  cursor.captures.lookup group

def moveTo (cursor : Cursor) (position : Nat) : Cursor :=
  { cursor with position }

def advance (cursor : Cursor) : Cursor :=
  cursor.moveTo (cursor.position + 1)

def close (cursor : Cursor) (group start : Nat) : Cursor where
  position := cursor.position
  captures := (group, ⟨start, cursor.position⟩) :: cursor.captures
  lastGroup := some group

end Cursor

abbrev Continuation := Cursor → Option Cursor

/-- One part of a match, before the rest. Where it can match in several ways it tries them in order of
preference, up to the first for which the rest succeeds. -/
abbrev Step := Cursor → Continuation → Option Cursor

namespace Step

def times (step : Step) : Nat → Step
  | 0, cursor, next => next cursor
  | count + 1, cursor, next => step cursor fun reached => times step count reached next

/-- At most `count` times, more rather than fewer. An iteration that matches nothing is the last. -/
def greedily (step : Step) : Nat → Step
  | 0, cursor, next => next cursor
  | count + 1, cursor, next =>
    (step cursor fun reached =>
      if reached.position = cursor.position then next reached
      else greedily step count reached next) <|> next cursor

def lazily (step : Step) : Nat → Step
  | 0, cursor, next => next cursor
  | count + 1, cursor, next =>
    next cursor <|> step cursor fun reached =>
      if reached.position = cursor.position then next reached
      else lazily step count reached next

def first (step : Step) (cursor : Cursor) : Option Cursor :=
  step cursor some

def firstTimes (step : Step) : Nat → Cursor → Option Cursor
  | 0, cursor => some cursor
  | count + 1, cursor => (step.first cursor).bind (firstTimes step count)

def firstGreedily (step : Step) : Nat → Cursor → Cursor
  | 0, cursor => cursor
  | count + 1, cursor =>
    match step.first cursor with
    | none => cursor
    | some reached =>
      if reached.position = cursor.position then reached else firstGreedily step count reached

/-- Between `least` and `most` times. Without an upper bound the text's length is one, because only
the last of the iterations beyond `least` may match nothing. -/
def repeatedly (step : Step) (greed : Greed) (least : Nat) (most : Option Nat) (size : Nat) :
    Step := fun cursor next =>
  let extra := match most with
    | some most => most - least
    | none => size + 1
  match greed with
  | .greedy => step.times least cursor fun reached => step.greedily extra reached next
  | .lazy => step.times least cursor fun reached => step.lazily extra reached next
  | .possessive =>
    (step.firstTimes least cursor).bind fun reached => next (step.firstGreedily extra reached)

end Step

def codeAt? (text : Array Char) (position : Nat) : Option Nat :=
  text[position]?.map Char.toNat

namespace Mode

def isWordAt (mode : Mode) (text : Array Char) (position : Nat) : Bool :=
  (codeAt? text position).any (mode.inCategory .word)

def isBoundary (mode : Mode) (text : Array Char) (position : Nat) : Bool :=
  (0 < position && mode.isWordAt text (position - 1)) != mode.isWordAt text position

/-- The anchor holds at a place. Neither kind of word boundary is found in an empty text. -/
def holdsAt (mode : Mode) (text : Array Char) (position : Nat) : Anchor → Bool
  | .textStart => position == 0
  | .textEnd => position == text.size
  | .lineStart =>
    position == 0 || (mode.multiLine && text[position - 1]? == some '\n')
  | .lineEnd =>
    position == text.size
      || ((mode.multiLine || position + 1 == text.size) && text[position]? == some '\n')
  | .boundary => text.size != 0 && mode.isBoundary text position
  | .notBoundary => text.size != 0 && !mode.isBoundary text position

def standsAt (mode : Mode) (text : Array Char) (span : Span) (position : Nat) : Bool :=
  (List.range (span.stop - span.start)).all fun i =>
    match codeAt? text (span.start + i), codeAt? text (position + i) with
    | some a, some b => mode.sameText a b
    | _, _ => false

end Mode

def Step.character (text : Array Char) (accepts : Nat → Bool) : Step := fun cursor next =>
  match codeAt? text cursor.position with
  | some code => if accepts code then next cursor.advance else none
  | none => none

namespace Regex

def run (text : Array Char) : Regex → Mode → Step
  | .empty, _ => fun cursor next => next cursor
  | .char code, mode => Step.character text (mode.isChar code)
  | .any, mode => Step.character text fun code => mode.dotAll || code != '\n'.toNat
  | .set negated items, mode => Step.character text (mode.inSet negated items)
  | .anchor place, mode => fun cursor next =>
    if mode.holdsAt text cursor.position place then next cursor else none
  | .seq first second, mode => fun cursor next =>
    first.run text mode cursor fun reached => second.run text mode reached next
  | .alt first second, mode => fun cursor next =>
    first.run text mode cursor next <|> second.run text mode cursor next
  | .group index body, mode => fun cursor next =>
    body.run text mode cursor fun reached => next (reached.close index cursor.position)
  | .scoped on off body, mode => body.run text (mode.change on off)
  | .repeated greed least most body, mode =>
    (body.run text mode).repeatedly greed least most text.size
  | .atomic body, mode => fun cursor next => ((body.run text mode).first cursor).bind next
  | .ahead negated body, mode => fun cursor next =>
    match (body.run text mode).first cursor with
    | some seen => if negated then none else next (seen.moveTo cursor.position)
    | none => if negated then next cursor else none
  | .behind negated width body, mode => fun cursor next =>
    let seen? := if cursor.position < width.least then none
      else (body.run text mode).first (cursor.moveTo (cursor.position - width.least))
    match seen? with
    | some seen => if negated then none else next (seen.moveTo cursor.position)
    | none => if negated then next cursor else none
  | .backref index, mode => fun cursor next =>
    match cursor.capture? index with
    | some span =>
      if mode.standsAt text span cursor.position then
        next (cursor.moveTo (cursor.position + (span.stop - span.start)))
      else none
    | none => none
  | .conditional index yes no, mode => fun cursor next =>
    if (cursor.capture? index).isSome then yes.run text mode cursor next
    else no.run text mode cursor next

end Regex

end RuleLexer
