import RuleLexer.Proofs.Regex.Form
import RuleLexer.Proofs.Source.Tally

namespace RuleLexer

namespace Quantifier

def IsDecimal : Quantifier → Prop
  | .counts low high => low.all Char.isDigit = true ∧ (high.getD []).all Char.isDigit = true
  | _ => True

end Quantifier

def Greed.text : Greed → List Char
  | .greedy => []
  | .lazy => ['?']
  | .possessive => ['+']

structure Repetition where
  quantifier : Quantifier
  greed : Greed
  decimal : quantifier.IsDecimal
  single : quantifier = .once → greed = .greedy

namespace Repetition

def text (times : Repetition) : List Char :=
  times.quantifier.text ++ times.greed.text

def once : Repetition :=
  ⟨.once, .greedy, trivial, fun _ => rfl⟩

end Repetition

structure GroupName where
  text : List Char
  nonempty : text ≠ []
  word : ∀ c ∈ text, Segment.isWordChar c = true

structure CharClass where
  complemented : Bool
  members : List Piece
  proper : Piece.AreProper members
  nonempty : members ≠ []
  inner : ∀ piece ∈ members.tail, piece ≠ .plain ']'
  caret : complemented = false → members.head? ≠ some (.plain '^')

def CharClass.text (set : CharClass) : List Char :=
  '[' :: ((if set.complemented then ['^'] else []) ++ (set.members.flatMap Piece.text ++ [']']))

def Anchor.text : Anchor → List Char
  | .lineStart => ['^']
  | .lineEnd => ['$']
  | .textStart => ['\\', 'A']
  | .textEnd => ['\\', 'Z']
  | .boundary => ['\\', 'b']
  | .notBoundary => ['\\', 'B']

def Category.letter (negated : Bool) : Category → Char
  | .digit => if negated then 'D' else 'd'
  | .blank => if negated then 'S' else 's'
  | .word => if negated then 'W' else 'w'

inductive Atom where
  | literal (c : Char)
  | any
  | anchor (anchor : Anchor)
  | category (category : Category) (negated : Bool)
  | charClass (set : CharClass)
  | reference (group : Nat)

inductive Enclosure where
  | capturing
  | named (name : GroupName)
  | plain
  | ahead (negated : Bool)
  | behind (negated : Bool)
  | conditional (group : Nat)

/-- A regular expression: items with the number of their repetitions, sequences and alternatives. -/
inductive Expression where
  | empty
  | atom (atom : Atom) (times : Repetition)
  | enclosed (kind : Enclosure) (body : Expression) (times : Repetition)
  | append (first second : Expression)
  | either (first second : Expression)

namespace Atom

def text : Atom → List Char
  | .literal c => escapeLiteral [c]
  | .any => ['.']
  | .anchor place => place.text
  | .category kind negated => ['\\', kind.letter negated]
  | .charClass set => set.text
  | .reference group => '\\' :: Nat.toDigits 10 group

def reference? : Atom → Option Nat
  | .reference group => some group
  | _ => none

def shift (shift : Nat) : Atom → Atom
  | .reference group => .reference (group + shift)
  | item => item

end Atom

namespace Enclosure

def sign : Enclosure → List Char
  | .capturing => []
  | .named name => '?' :: 'P' :: '<' :: (name.text ++ ['>'])
  | .plain => ['?', ':']
  | .ahead negated => ['?', if negated then '!' else '=']
  | .behind negated => ['?', '<', if negated then '!' else '=']
  | .conditional group => '?' :: '(' :: (Nat.toDigits 10 group ++ [')'])

def captures : Enclosure → Bool
  | .capturing | .named _ => true
  | _ => false

def name? : Enclosure → Option (List Char)
  | .named name => some name.text
  | _ => none

def condition? : Enclosure → Option Nat
  | .conditional group => some group
  | _ => none

def shift (shift : Nat) : Enclosure → Enclosure
  | .conditional group => .conditional (group + shift)
  | kind => kind

end Enclosure

namespace Expression

def text : Expression → List Char
  | .empty => []
  | .atom item times => item.text ++ times.text
  | .enclosed kind body times => '(' :: (kind.sign ++ (body.text ++ ')' :: times.text))
  | .append first second => first.text ++ second.text
  | .either first second => first.text ++ '|' :: second.text

def atoms : Expression → List Atom
  | .empty => []
  | .atom item _ => [item]
  | .enclosed _ body _ => body.atoms
  | .append first second | .either first second => first.atoms ++ second.atoms

def enclosures : Expression → List Enclosure
  | .empty | .atom _ _ => []
  | .enclosed kind body _ => kind :: body.enclosures
  | .append first second | .either first second => first.enclosures ++ second.enclosures

def captures (expression : Expression) : Nat :=
  expression.enclosures.countP Enclosure.captures

def names (expression : Expression) : List (List Char) :=
  expression.enclosures.filterMap Enclosure.name?

def references (expression : Expression) : List Nat :=
  expression.atoms.filterMap Atom.reference?

def conditions (expression : Expression) : List Nat :=
  expression.enclosures.filterMap Enclosure.condition?

/-- The expression behind `shift` groups: every reference and condition has moved on. -/
def shift (shift : Nat) : Expression → Expression
  | .empty => .empty
  | .atom item times => .atom (item.shift shift) times
  | .enclosed kind body times => .enclosed (kind.shift shift) (body.shift shift) times
  | .append first second => .append (first.shift shift) (second.shift shift)
  | .either first second => .either (first.shift shift) (second.shift shift)

/-- No decimal digit stands directly behind a reference, if `after` stands behind the expression. -/
def isApart : Expression → List Char → Bool
  | .empty, _ => true
  | .atom item times, after =>
    item.reference?.isNone || !Number.startsWithDigit (times.text ++ after)
  | .enclosed _ body times, after => body.isApart (')' :: (times.text ++ after))
  | .append first second, after => first.isApart (second.text ++ after) && second.isApart after
  | .either first second, after =>
    first.isApart ('|' :: (second.text ++ after)) && second.isApart after

end Expression

end RuleLexer
