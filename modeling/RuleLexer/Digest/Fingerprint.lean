import RuleLexer.Digest.Md5
import RuleLexer.Digest.Sha256

namespace RuleLexer.Digest

inductive Algorithm where
  | sha256
  | md5
deriving DecidableEq, Repr

def Algorithm.ofName? (name : String) : Option Algorithm :=
  let letters := name.toList.map Char.toLower
  if letters = "sha256".toList then some .sha256
  else if letters = "md5".toList then some .md5
  else none

def unsupportedMessage (name : String) : String :=
  "unsupported hash type " ++ name

def utf8 (text : String) : List UInt8 :=
  text.toUTF8.toList

def hex (algorithm : Algorithm) (text : String) : List Char :=
  match algorithm with
  | .sha256 => Sha256.hex (utf8 text)
  | .md5 => Md5.hex (utf8 text)

/-- The first `count` items; a negative count leaves out that many at the end. -/
def takeSigned {α : Type} (count : Int) (items : List α) : List α :=
  match count with
  | .ofNat n => items.take n
  | .negSucc n => items.take (items.length - (n + 1))

def hashText (algorithm : Algorithm) (truncate : Option Int) (text : String) : List Char :=
  match truncate with
  | none => hex algorithm text
  | some count => takeSigned count (hex algorithm text)

end RuleLexer.Digest
