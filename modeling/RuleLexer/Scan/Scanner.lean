import RuleLexer.Rule.Compile
import RuleLexer.Token.Basic

namespace RuleLexer

structure Scanner where
  set : RuleSet
  config : Config
  text : Array Char
  search : Search := .start
  position : Nat := 0
  state : ScanState := {}
  tokens : Nat := 0
  /-- The texts skipped so far, the last one first. -/
  skipped : List SkippedText := []

def sliceText (text : Array Char) (start stop : Nat) : String :=
  String.ofList (text.extract start stop).toList

namespace Scanner

/-- Reports skipped text: to the log unless that is switched off, then to the handler if there is
one. -/
def report (config : Config) (gap : Gap) : Run Unit := do
  if config.logSkipped.isTruthy then Run.emit (.warned gap.toSkippedText)
  match config.onSkip with
  | none => pure ()
  | some handler =>
    Run.emit (.handled gap.toSkippedText)
    match handler gap with
    | some failure => throw failure
    | none => pure ()

def skipTo (scanner : Scanner) (stop : Nat) : Run Scanner :=
  if scanner.position < stop then do
    let skipped : SkippedText :=
      ⟨scanner.state.line, scanner.state.column, sliceText scanner.text scanner.position stop⟩
    report scanner.config ⟨skipped, scanner.skipped.length⟩
    return { scanner with
      skipped := skipped :: scanner.skipped
      state := scanner.state.skip (stop - scanner.position) }
  else pure scanner

def capturesOf (text : Array Char) (rule : CompiledRule) (found : Match) : Captures :=
  (List.range rule.captures).map fun i =>
    (found.capture? (rule.groupIndex + 1 + i)).map fun span =>
      sliceText text span.start span.stop

def contentOf (scanner : Scanner) (rule : CompiledRule) (found : Match) :
    Run (Value × ScanState) :=
  match rule.callback with
  | some callback => callback (capturesOf scanner.text rule found) scanner.state
  | none => pure (.text (sliceText scanner.text found.start found.stop), scanner.state)

/-- The token that a match makes, at the position that its callback left behind. -/
def tokenOf (rule : CompiledRule) (content : Value) (state : ScanState) : Option Token :=
  match content with
  | .null => none
  | _ => if rule.discard then none else some ⟨rule.name, content, state.position⟩

def take (scanner : Scanner) (found : Match) (search : Search) : Run (Option Token × Scanner) := do
  let scanner ← scanner.skipTo found.start
  let group := found.lastGroup.map Int.ofNat
  let some rule := scanner.set.ruleForGroup? group | throw (.unknownGroup group)
  let (content, state) ← scanner.contentOf rule found
  let token := tokenOf rule content state
  return (token,
    { scanner with
      search
      position := found.stop
      state := state.passMatch (found.stop - found.start)
      tokens := scanner.tokens + token.toList.length })

/-- Goes on to the next token. `fuel` bounds the number of matches; none is the end of the text. -/
def nextUpTo : Nat → Scanner → Run (Option Token × Scanner)
  | 0, scanner => pure (none, scanner)
  | fuel + 1, scanner =>
    match scanner.search.next? scanner.set.pattern scanner.text with
    | none => do
      let scanner ← scanner.skipTo scanner.text.size
      return (none, { scanner with position := scanner.text.size })
    | some (found, search) => do
      let (token, scanner) ← scanner.take found search
      match token with
      | some token => return (some token, scanner)
      | none => nextUpTo fuel scanner

def next (scanner : Scanner) : Run (Option Token × Scanner) :=
  nextUpTo (scanner.search.bound scanner.text + 1) scanner

def takeUpTo : Nat → Scanner → Run (List Token × Scanner)
  | 0, scanner => pure ([], scanner)
  | count + 1, scanner => do
    let (token, scanner) ← scanner.next
    match token with
    | none => return ([], scanner)
    | some token =>
      let (tokens, scanner) ← takeUpTo count scanner
      return (token :: tokens, scanner)

def drain (scanner : Scanner) : Run (List Token × Scanner) :=
  takeUpTo (scanner.search.bound scanner.text + 1) scanner

def finish (scanner : Scanner) : Run Unit := do
  modify fun context =>
    context.record scanner.text.size scanner.tokens scanner.skipped.length
  Run.emit (.lexed scanner.text.size scanner.tokens scanner.skipped.length)

end Scanner

structure ScanResult where
  tokens : List Token
  skipped : List SkippedText
deriving Repr

def ScanResult.isComplete (result : ScanResult) : Bool :=
  result.skipped.isEmpty

namespace RuleSet

def scanner (set : RuleSet) (config : Config) (text : String) : Scanner :=
  { set, config, text := text.toList.toArray }

def scan (set : RuleSet) (config : Config) (text : String) : Run ScanResult := do
  let (tokens, scanner) ← (set.scanner config text).drain
  scanner.finish
  return ⟨tokens, scanner.skipped.reverse⟩

end RuleSet

def configOrActive (config : Option Config) : Run Config :=
  match config with
  | some config => pure config
  | none => return (← get).config

def scanText (table : Option (List Candidate)) (config : Option Config) (text : String) :
    Run ScanResult := do
  let config ← configOrActive config
  let set ← RuleSet.compile config table
  set.scan config text

end RuleLexer
