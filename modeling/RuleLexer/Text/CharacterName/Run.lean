namespace RuleLexer.Text

/-- Characters with consecutive codes whose names start with the same stem. What the names go on with
stands between commas, on as many lines as it takes; a code without a name has nothing there. -/
structure NameRun where
  first : Nat
  stem : String
  rests : String

def NameRun.others (run : NameRun) : List (List Char) :=
  (run.rests.splitOn ",").map fun other => other.toList.dropWhile Char.isWhitespace

def NameRun.find? (run : NameRun) (name : List Char) : Option Nat := do
  let rest ← run.stem.toList.isPrefixOf? name
  let place ← run.others.findIdx? fun other => !rest.isEmpty && other == rest
  return run.first + place

end RuleLexer.Text
