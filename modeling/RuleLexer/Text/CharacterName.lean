import RuleLexer.Text.CharacterName.Alias
import RuleLexer.Text.CharacterName.Alphabets
import RuleLexer.Text.CharacterName.Ancient
import RuleLexer.Text.CharacterName.Asian
import RuleLexer.Text.CharacterName.Pictographs
import RuleLexer.Text.CharacterName.Symbols
import RuleLexer.Text.Ranges

namespace RuleLexer.Text

def isNameChar (c : Char) : Bool :=
  c.isAlphanum || c == ' ' || c == '-'

def initialSounds : List String :=
  ["G", "GG", "N", "D", "DD", "R", "M", "B", "BB", "S", "SS", "", "J", "JJ", "C", "K", "T", "P", "H"]

def medialSounds : List String :=
  ["A", "AE", "YA", "YAE", "EO", "E", "YEO", "YE", "O", "WA", "WAE", "OE", "YO", "U", "WEO", "WE",
   "WI", "YU", "EU", "YI", "I"]

def finalSounds : List String :=
  ["", "G", "GG", "GS", "N", "NJ", "NH", "D", "L", "LG", "LM", "LB", "LS", "LT", "LP", "LH", "M",
   "B", "BS", "S", "SS", "NG", "J", "C", "K", "T", "P", "H"]

def syllableNames : List String :=
  initialSounds.flatMap fun first => medialSounds.flatMap fun middle =>
    finalSounds.map fun last => first ++ middle ++ last

def syllable? (name : List Char) : Option Nat := do
  let sounds ← "HANGUL SYLLABLE ".toList.isPrefixOf? name
  let place ← syllableNames.findIdx? fun other => other.toList == sounds
  return 0xAC00 + place

def isCodeDigit (c : Char) : Bool :=
  c.isDigit || ('A' ≤ c && c ≤ 'F')

def codeAmong? (codes : Ranges) (digits : List Char) : Option Nat :=
  let code := digits.foldl
    (fun n c => 16 * n + (if c.isDigit then c.toNat - 0x30 else c.toNat - 0x37)) 0
  if (digits.length == 4 || digits.length == 5) && digits.all isCodeDigit && codes.has code then
    some code
  else none

def ideographRanges : Ranges :=
  [(0x3400, 0x4DBF), (0x4E00, 0x9FFF), (0x20000, 0x2A6DF), (0x2A700, 0x2B738), (0x2B740, 0x2B81D),
   (0x2B820, 0x2CEA1), (0x2CEB0, 0x2EBE0), (0x30000, 0x3134A)]

/-- The unified ideographs. One more zero before the four digits of a code is accepted. -/
def ideograph? (name : List Char) : Option Nat := do
  codeAmong? ideographRanges (← "CJK UNIFIED IDEOGRAPH-".toList.isPrefixOf? name)

def codedNames : List (String × Ranges) :=
  [("CJK COMPATIBILITY IDEOGRAPH-", [(0xF900, 0xFA6D), (0xFA70, 0xFAD9), (0x2F800, 0x2FA1D)]),
   ("KHITAN SMALL SCRIPT CHARACTER-", [(0x18B00, 0x18CD5)]),
   ("NUSHU CHARACTER-", [(0x1B170, 0x1B2FB)])]

def coded? (name : List Char) : Option Nat :=
  codedNames.findSome? fun (stem, codes) => do
    let digits ← stem.toList.isPrefixOf? name
    if digits.head? == some '0' then none else codeAmong? codes digits

def nameRuns : List NameRun :=
  alphabetRuns ++ symbolRuns ++ asianRuns ++ ancientRuns ++ pictographRuns ++ selectorRuns

/-- The character that goes by a name in Unicode 14. Small letters are as good as capitals, but not in
the names of syllables and unified ideographs. -/
def named? (name : List Char) : Option Nat :=
  if name.all isNameChar then
    let capitals := name.map Char.toUpper
    syllable? name <|> ideograph? name <|> coded? capitals <|>
      nameRuns.findSome? (·.find? capitals) <|> otherName? capitals
  else none

theorem isNameChar_of_named? {name : List Char} {code : Nat} (known : named? name = some code) :
    ∀ c ∈ name, isNameChar c = true := by
  unfold named? at known
  split at known
  · next all => exact List.all_eq_true.mp all
  · cases known

end RuleLexer.Text
