namespace RuleLexer

inductive Flag where
  | template
  | ignoreCase
  | locale
  | multiLine
  | dotAll
  | unicode
  | verbose
  | debug
  | ascii
deriving DecidableEq, Repr

def Flag.bit : Flag → Nat
  | .template => 0
  | .ignoreCase => 1
  | .locale => 2
  | .multiLine => 3
  | .dotAll => 4
  | .unicode => 5
  | .verbose => 6
  | .debug => 7
  | .ascii => 8

def Flag.ofLetter? : Char → Option Flag
  | 'i' => some .ignoreCase
  | 'L' => some .locale
  | 'm' => some .multiLine
  | 's' => some .dotAll
  | 'x' => some .verbose
  | 'a' => some .ascii
  | 't' => some .template
  | 'u' => some .unicode
  | _ => none

def Flag.isCharacterType : Flag → Bool
  | .ascii | .locale | .unicode => true
  | _ => false

/-- A set of flags is kept as the bit mask that callers pass in and read back. -/
structure Flags where
  bits : Nat
deriving DecidableEq, Repr

namespace Flags

def none : Flags := ⟨0⟩

def has (flags : Flags) (flag : Flag) : Bool :=
  flags.bits.testBit flag.bit

def insert (flags : Flags) (flag : Flag) : Flags :=
  ⟨flags.bits ||| 1 <<< flag.bit⟩

def union (left right : Flags) : Flags :=
  ⟨left.bits ||| right.bits⟩

def ofList (flags : List Flag) : Flags :=
  flags.foldl insert none

def meets (left right : Flags) : Bool :=
  left.bits &&& right.bits != 0

def characterTypes (flags : Flags) : Flags :=
  ⟨flags.bits &&& 0x124⟩

/-- The flags that a number asks for. A negative number is read as a word that is wide enough for
it and for every known flag. -/
def ofInt (n : Int) : Flags :=
  if 0 ≤ n then ⟨n.toNat⟩
  else if -512 ≤ n then ⟨(n + 512).toNat⟩
  else ⟨(n + Nat.pow 2 (n.natAbs.log2 + 1)).toNat⟩

def fits (n : Int) : Bool :=
  -0x80000000 < n && n < 0x80000000

end Flags

end RuleLexer
