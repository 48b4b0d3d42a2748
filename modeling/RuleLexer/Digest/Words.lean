import RuleLexer.Text.Quoted

namespace RuleLexer.Digest

inductive Endian where
  | big
  | little
deriving DecidableEq, Repr

def littleBytes : Nat → Nat → List UInt8
  | 0, _ => []
  | count + 1, n => UInt8.ofNat (n % 256) :: littleBytes count (n / 256)

def bytesOf (endian : Endian) (count n : Nat) : List UInt8 :=
  match endian with
  | .little => littleBytes count n
  | .big => (littleBytes count n).reverse

def wordOf (endian : Endian) (bytes : List UInt8) : UInt32 :=
  let ordered := match endian with
    | .big => bytes
    | .little => bytes.reverse
  ordered.foldl (fun word byte => word * 256 + byte.toUInt32) 0

/-- A message followed by the byte 0x80, zeros up to a multiple of 64 bytes less eight, and its
length in bits. -/
def padded (endian : Endian) (message : List UInt8) : List UInt8 :=
  let zeros := (55 + 64 - message.length % 64) % 64
  message ++ 0x80 :: List.replicate zeros 0 ++ bytesOf endian 8 (8 * message.length)

def chunks {α : Type} (size : Nat) : Nat → List α → List (List α)
  | 0, _ => []
  | count + 1, items => items.take size :: chunks size count (items.drop size)

def blocks (endian : Endian) (message : List UInt8) : List (Array UInt32) :=
  let bytes := padded endian message
  (chunks 64 (bytes.length / 64) bytes).map fun block =>
    ((chunks 4 16 block).map (wordOf endian)).toArray

def rotateLeft (word count : UInt32) : UInt32 :=
  word <<< count ||| word >>> (32 - count)

def rotateRight (word count : UInt32) : UInt32 :=
  word >>> count ||| word <<< (32 - count)

def hexText (endian : Endian) (words : List UInt32) : List Char :=
  words.flatMap fun word =>
    (bytesOf endian 4 word.toNat).flatMap fun byte => Text.hexDigits 2 byte.toNat

end RuleLexer.Digest
