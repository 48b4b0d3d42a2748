import RuleLexer.Regex.Lexeme

namespace RuleLexer

namespace Regex

def ofItems : List Regex → Regex
  | [] => .empty
  | [item] => item
  | item :: items => .seq item (ofItems items)

def ofAlternatives : List Regex → Regex
  | [] => .empty
  | [choice] => choice
  | choice :: choices => .alt choice (ofAlternatives choices)

end Regex

inductive LevelKind where
  | whole
  | capture (index : Nat)
  | scoped (on off : Flags)
  | atomic
  | ahead (negated : Bool)
  /-- `outermost` if no other look at the text before is open around it. -/
  | behind (negated outermost : Bool)
  | conditional (group : Nat)
deriving DecidableEq, Repr

/-- The pattern itself or an open group. Alternatives and items are kept last first. -/
structure Level where
  kind : LevelKind
  start : Nat
  verbose : Bool
  finished : List Regex
  items : List Regex
deriving DecidableEq, Repr

namespace Level

def push (level : Level) (item : Regex) : Level :=
  { level with items := item :: level.items }

def current (level : Level) : Regex :=
  Regex.ofItems level.items.reverse

def body (level : Level) : Regex :=
  Regex.ofAlternatives (level.finished.reverse ++ [level.current])

end Level

structure Parser where
  input : Input
  level : Level
  outer : List Level
  groups : Nat
  names : List (List Char × Nat)
  widths : List (Nat × Width)
  conditions : List (Nat × Nat)
  lookbehind : Option Nat
  flags : Flags
deriving DecidableEq, Repr

namespace Parser

def start (input : Input) (flags : Flags) : Parser where
  input := input
  level := ⟨.whole, 0, flags.has .verbose, [], []⟩
  outer := []
  groups := 0
  names := []
  widths := []
  conditions := []
  lookbehind := none
  flags := flags

def push (parser : Parser) (item : Regex) : Parser :=
  { parser with level := parser.level.push item }

def isClosed (parser : Parser) (group : Nat) : Bool :=
  (parser.widths.lookup group).isSome

def widthOf (parser : Parser) (group : Nat) : Width :=
  (parser.widths.lookup group).getD (.fixed 0)

def checkLookbehind (parser : Parser) (group : Nat) : Except Rejection Unit :=
  match parser.lookbehind with
  | none => .ok ()
  | some before =>
    if !parser.isClosed group then .error (Fault.openGroup.at parser.input.position)
    else if before < group then .error (Fault.sameLookbehind.at parser.input.position)
    else .ok ()

def pushReference (parser : Parser) (group start : Nat) : Except Rejection Parser := do
  if parser.groups < group then throw ((Fault.invalidReference group).at (start + 1))
  if !parser.isClosed group then throw (Fault.openGroup.at start)
  parser.checkLookbehind group
  return parser.push (.backref group)

def namePlace (parser : Parser) (name : List Char) : Nat :=
  parser.input.position - (name.length + 1)

def pushNamedReference (parser : Parser) (name : List Char) : Except Rejection Parser := do
  let some group := parser.names.lookup name
    | .error ((Fault.unknownGroup name).at (parser.namePlace name))
  if !parser.isClosed group then throw (Fault.openGroup.at (parser.namePlace name))
  parser.checkLookbehind group
  return parser.push (.backref group)

def pushQuantifier (parser : Parser) (least : Nat) (most : Option Nat) (start : Nat) :
    Except Rejection Parser := do
  match parser.level.items with
  | [] | .anchor _ :: _ => .error (Fault.nothingToRepeat.at start)
  | .repeated .. :: _ => .error (Fault.multipleRepeat.at start)
  | item :: items =>
    let (lazy, input) ← parser.input.accept '?'
    let (possessive, input) ← if lazy then .ok (false, input) else input.accept '+'
    let greed : Greed := if lazy then .lazy else if possessive then .possessive else .greedy
    let repeated : Regex := .repeated greed least most item
    return { parser with input, level := { parser.level with items := repeated :: items } }

def openLevel (parser : Parser) (kind : LevelKind) (start : Nat) (verbose : Bool) : Parser :=
  { parser with level := ⟨kind, start, verbose, [], []⟩, outer := parser.level :: parser.outer }

def groupLimit : Nat := 1073741823

def condition (parser : Parser) (name : List Char) : Except Rejection (Parser × Nat) :=
  let place := parser.namePlace name
  if Text.isIdentifier name then
    match parser.names.lookup name with
    | some group => .ok (parser, group)
    | none => .error ((Fault.unknownGroup name).at place)
  else match Number.readInt name with
    | .ok (.ofNat 0) => .error (Fault.badGroupNumber.at place)
    | .ok (.ofNat group) =>
      if groupLimit ≤ group then .error ((Fault.invalidReference group).at place)
      else if parser.conditions.any (·.1 = group) then .ok (parser, group)
      else .ok ({ parser with conditions := (group, place) :: parser.conditions }, group)
    | _ => .error ((Fault.badNameCharacter name).at place)

def openGroup (parser : Parser) : Option (List Char) → Except Rejection Parser
  | none => .ok { parser with groups := parser.groups + 1 }
  | some name =>
    match parser.names.lookup name with
    | some earlier =>
      .error ((Fault.redefinedGroup name (parser.groups + 1) earlier).at (parser.namePlace name))
    | none =>
      .ok { parser with
        groups := parser.groups + 1
        names := (name, parser.groups + 1) :: parser.names }

def pushOpening (parser : Parser) (opening : Opening) (start : Nat) : Except Rejection Parser := do
  let verbose := parser.level.verbose
  match opening with
  | .capture name =>
    let parser ← parser.openGroup name
    return parser.openLevel (.capture parser.groups) start verbose
  | .scoped on off =>
    let verbose := (verbose || on.has .verbose) && !off.has .verbose
    return parser.openLevel (.scoped on off) start verbose
  | .atomic => return parser.openLevel .atomic start verbose
  | .ahead negated => return parser.openLevel (.ahead negated) start verbose
  | .behind negated =>
    let outermost := parser.lookbehind.isNone
    let parser := if outermost then { parser with lookbehind := some parser.groups } else parser
    return parser.openLevel (.behind negated outermost) start verbose
  | .condition name =>
    let (parser, group) ← parser.condition name
    parser.checkLookbehind group
    return parser.openLevel (.conditional group) start verbose

def pushGlobalFlags (parser : Parser) (on : Flags) (start : Nat) : Except Rejection Parser :=
  if parser.level.kind = .whole && parser.level.finished.isEmpty && parser.level.items.isEmpty then
    let flags := parser.flags.union on
    .ok { parser with flags, level := { parser.level with verbose := flags.has .verbose } }
  else .error (Fault.misplacedFlags.at start)

def pushLexeme (parser : Parser) (start : Nat) : Lexeme → Except Rejection Parser
  | .blank => .ok parser
  | .item item => .ok (parser.push item)
  | .quantifier least most => parser.pushQuantifier least most start
  | .reference group => parser.pushReference group start
  | .namedReference name => parser.pushNamedReference name
  | .opening opening => parser.pushOpening opening start
  | .globalFlags on => parser.pushGlobalFlags on start

/-- Takes a bar, which ends an alternative. A conditional has two of them at most. -/
def pushBar (parser : Parser) (rest : List Piece) : Except Rejection Parser := do
  let level := parser.level
  if let .conditional _ := level.kind then
    if !level.finished.isEmpty then throw (Fault.thirdBranch.at parser.input.position)
  let input ← Input.goTo (parser.input.position + 1) rest
  return { parser with
    input
    level := { level with finished := level.current :: level.finished, items := [] } }

def closedItem (parser : Parser) : Regex :=
  let level := parser.level
  let body := level.body
  match level.kind with
  | .whole => body
  | .capture index => .group index body
  | .scoped on off => .scoped on off body
  | .atomic => .atomic body
  | .ahead negated => .ahead negated body
  | .behind negated _ => .behind negated (body.width parser.widthOf) body
  | .conditional group =>
    match level.finished with
    | [] => .conditional group level.current .empty
    | yes :: _ => .conditional group yes level.current

def pushClose (parser : Parser) (next : Level) (outer : List Level) (rest : List Piece) :
    Except Rejection Parser := do
  let input ← Input.goTo (parser.input.position + 1) rest
  let item := parser.closedItem
  let widths := match parser.level.kind with
    | .capture index => (index, item.width parser.widthOf) :: parser.widths
    | _ => parser.widths
  let lookbehind := match parser.level.kind with
    | .behind _ true => none
    | _ => parser.lookbehind
  return { parser with input, level := next.push item, outer, widths, lookbehind }

/-- Reads on until the end of the pattern or a parenthesis that closes nothing. Each step takes at
least one piece, so `fuel` need not exceed the number of pieces by more than one. -/
def run (alphabet : Alphabet) : Nat → Parser → Except Rejection Parser
  | 0, parser => .ok parser
  | fuel + 1, parser =>
    match parser.input.rest with
    | [] =>
      match parser.outer with
      | [] => .ok parser
      | _ :: _ => .error (Fault.unterminatedGroup.at parser.level.start)
    | .plain ')' :: rest =>
      match parser.outer with
      | [] => .ok parser
      | next :: outer => do run alphabet fuel (← parser.pushClose next outer rest)
    | .plain '|' :: rest => do run alphabet fuel (← parser.pushBar rest)
    | piece :: rest => do
      let start := parser.input.position
      let input ← Input.goTo (start + piece.length) rest
      let (lexeme, input) ← Lexeme.read alphabet parser.level.verbose piece start input
      run alphabet fuel (← { parser with input }.pushLexeme start lexeme)

end Parser

end RuleLexer
