import RuleLexer.Text.Printable

namespace RuleLexer.Text

def hexDigits (width n : Nat) : List Char :=
  let digits := Nat.toDigits 16 n
  List.replicate (width - digits.length) '0' ++ digits

def chooseQuote (codes : List Nat) : Char :=
  if codes.contains 0x27 && !codes.contains 0x22 then '"' else '\''

def quoteEscape? (quote : Char) (code : Nat) : Option (List Char) :=
  if code == quote.toNat then some ['\\', quote]
  else if code == 0x5C then some ['\\', '\\']
  else if code == 0x9 then some ['\\', 't']
  else if code == 0xA then some ['\\', 'n']
  else if code == 0xD then some ['\\', 'r']
  else none

def quoteChar (quote c : Char) : List Char :=
  match quoteEscape? quote c.toNat with
  | some escape => escape
  | none =>
    if isPrintable c.toNat then [c]
    else if c.toNat ≤ 0xFF then '\\' :: 'x' :: hexDigits 2 c.toNat
    else if c.toNat ≤ 0xFFFF then '\\' :: 'u' :: hexDigits 4 c.toNat
    else '\\' :: 'U' :: hexDigits 8 c.toNat

def quoteByte (quote : Char) (byte : UInt8) : List Char :=
  match quoteEscape? quote byte.toNat with
  | some escape => escape
  | none =>
    if 0x20 ≤ byte && byte < 0x7F then [Char.ofNat byte.toNat]
    else '\\' :: 'x' :: hexDigits 2 byte.toNat

def quoted (text : List Char) : List Char :=
  let quote := chooseQuote (text.map Char.toNat)
  quote :: text.flatMap (quoteChar quote) ++ [quote]

def quotedBytes (bytes : List UInt8) : List Char :=
  let quote := chooseQuote (bytes.map UInt8.toNat)
  'b' :: quote :: bytes.flatMap (quoteByte quote) ++ [quote]

end RuleLexer.Text
