import RuleLexer.Regex.Malformed

namespace RuleLexer

/-- A backslash and the character after it are one piece; a backslash at the end of the pattern is one
by itself, which may never be reached. -/
inductive Piece where
  | plain (c : Char)
  | escaped (c : Char)
  | dangling
deriving DecidableEq, Repr

namespace Piece

def text : Piece → List Char
  | .plain c => [c]
  | .escaped c => ['\\', c]
  | .dangling => ['\\']

def length (piece : Piece) : Nat :=
  piece.text.length

def split : List Char → List Piece
  | [] => []
  | ['\\'] => [.dangling]
  | '\\' :: c :: rest => .escaped c :: split rest
  | c :: rest => .plain c :: split rest

theorem flatMap_text_split (source : List Char) : (split source).flatMap text = source := by
  fun_induction split source <;> simp_all [text]

end Piece

structure Input where
  position : Nat
  rest : List Piece
deriving DecidableEq, Repr

def Fault.at (fault : Fault) (position : Nat) : Rejection :=
  .malformed ⟨fault, some position⟩

namespace Input

/-- Goes on to `rest`, which starts at `position`. Reaching a dangling backslash is a fault. -/
def goTo (position : Nat) (rest : List Piece) : Except Rejection Input :=
  if rest = [.dangling] then .error (Fault.danglingBackslash.at position)
  else .ok ⟨position, rest⟩

def ofSource (source : List Char) : Except Rejection Input :=
  goTo 0 (Piece.split source)

def take (input : Input) : Except Rejection (Option Piece × Input) :=
  match input.rest with
  | [] => .ok (none, input)
  | piece :: rest => do
    let input ← goTo (input.position + piece.length) rest
    .ok (some piece, input)

def accept (c : Char) (input : Input) : Except Rejection (Bool × Input) :=
  match input.rest with
  | .plain d :: rest =>
    if d = c then do
      let input ← goTo (input.position + 1) rest
      .ok (true, input)
    else .ok (false, input)
  | _ => .ok (false, input)

def takeSome (kind : Char → Bool) : Nat → Input → Except Rejection (List Char × Input)
  | 0, input => .ok ([], input)
  | count + 1, input =>
    match input.rest with
    | .plain c :: rest =>
      if kind c then do
        let input ← goTo (input.position + 1) rest
        let (taken, input) ← takeSome kind count input
        .ok (c :: taken, input)
      else .ok ([], input)
    | _ => .ok ([], input)

def takeAll (kind : Char → Bool) (input : Input) : Except Rejection (List Char × Input) :=
  takeSome kind input.rest.length input

def readUntil (terminator : Char) (what : String) (taken : List Char) (position : Nat) :
    List Piece → Except Rejection (List Char × Input)
  | [] =>
    if taken.isEmpty then .error ((Fault.missing what).at position)
    else .error ((Fault.unterminatedName terminator).at (position - taken.length))
  | piece :: rest => do
    let input ← goTo (position + piece.length) rest
    if piece = .plain terminator then
      if taken.isEmpty then .error ((Fault.missing what).at position)
      else .ok (taken, input)
    else readUntil terminator what (taken ++ piece.text) (position + piece.length) rest

def takeUntil (terminator : Char) (what : String) (input : Input) :
    Except Rejection (List Char × Input) :=
  readUntil terminator what [] input.position input.rest

def skipPast (last : Char) (position : Nat) : List Piece → Except Rejection (Bool × Input)
  | [] => .ok (false, ⟨position, []⟩)
  | piece :: rest => do
    let input ← goTo (position + piece.length) rest
    if piece = .plain last then .ok (true, input)
    else skipPast last (position + piece.length) rest

end Input

end RuleLexer
