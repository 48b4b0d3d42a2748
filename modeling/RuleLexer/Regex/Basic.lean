import RuleLexer.Regex.Flags

namespace RuleLexer

inductive Category where
  | digit
  | blank
  | word
deriving DecidableEq, Repr

inductive SetItem where
  | char (code : Nat)
  | range (low high : Nat)
  | category (category : Category) (negated : Bool)
deriving DecidableEq, Repr

inductive Anchor where
  | lineStart
  /-- The end of the text or before a newline there, or the end of a line in multi-line mode. -/
  | lineEnd
  | textStart
  | textEnd
  | boundary
  | notBoundary
deriving DecidableEq, Repr

inductive Greed where
  | greedy
  | lazy
  | possessive
deriving DecidableEq, Repr

structure Width where
  least : Nat
  most : Option Nat
deriving DecidableEq, Repr

/-- Characters are code points, so that a pattern may also name code points that no text holds. -/
inductive Regex where
  | empty
  | char (code : Nat)
  | any
  | set (negated : Bool) (items : List SetItem)
  | anchor (anchor : Anchor)
  | seq (first second : Regex)
  | alt (first second : Regex)
  | group (index : Nat) (body : Regex)
  | scoped (on off : Flags) (body : Regex)
  | repeated (greed : Greed) (least : Nat) (most : Option Nat) (body : Regex)
  | atomic (body : Regex)
  | ahead (negated : Bool) (body : Regex)
  /-- A look at the text before, from `width.least` characters back. -/
  | behind (negated : Bool) (width : Width) (body : Regex)
  | backref (group : Nat)
  | conditional (group : Nat) (yes no : Regex)
deriving DecidableEq, Repr

namespace Width

def fixed (n : Nat) : Width := ⟨n, some n⟩

def append (left right : Width) : Width :=
  ⟨left.least + right.least, left.most.bind fun l => right.most.map (l + ·)⟩

def join (left right : Width) : Width :=
  ⟨min left.least right.least, left.most.bind fun l => right.most.map (max l)⟩

def times (width : Width) (least : Nat) (most : Option Nat) : Width :=
  ⟨width.least * least,
    match width.most, most with
    | some 0, _ => some 0
    | some n, some m => some (n * m)
    | none, some 0 => some 0
    | _, _ => none⟩

end Width

namespace Regex

def width (groups : Nat → Width) : Regex → Width
  | .empty | .anchor _ | .ahead _ _ | .behind _ _ _ => .fixed 0
  | .char _ | .any | .set _ _ => .fixed 1
  | .seq first second => (first.width groups).append (second.width groups)
  | .alt first second => (first.width groups).join (second.width groups)
  | .group _ body | .scoped _ _ body | .atomic body => body.width groups
  | .repeated _ least most body => (body.width groups).times least most
  | .backref index => groups index
  | .conditional _ yes no => (yes.width groups).join (no.width groups)

def groupCount : Regex → Nat
  | .empty | .anchor _ | .char _ | .any | .set _ _ | .backref _ => 0
  | .seq first second | .alt first second | .conditional _ first second =>
    first.groupCount + second.groupCount
  | .group _ body => body.groupCount + 1
  | .scoped _ _ body | .repeated _ _ _ body | .atomic body | .ahead _ body | .behind _ _ body =>
    body.groupCount

end Regex

end RuleLexer
