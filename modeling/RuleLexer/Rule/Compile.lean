import RuleLexer.Rule.Basic

namespace RuleLexer

structure ValidRule where
  name : String
  matcher : Matcher
  callback : Option Callback
  discard : Bool

namespace Candidate

def checkName (place : Nat) : Value → Except RuleError String
  | .null => .error ⟨.place place, .missingName⟩
  | .text name => if name = "" then .error ⟨.place place, .missingName⟩ else .ok name
  | name => .error ⟨.place place, .invalidName name⟩

def checkPattern (name : String) : PatternField → Except RuleError Matcher
  | .value .null => .error ⟨.named name, .missingPattern⟩
  | .value (.text text) =>
    if text = "" then .error ⟨.named name, .missingPattern⟩ else .ok (.literal text.toList)
  | .value pattern => .error ⟨.named name, .invalidPattern pattern⟩
  | .pattern pattern => .ok (.pattern pattern)
  | .bytesPattern source => .error ⟨.named name, .invalidPattern (.bytes source)⟩

def checkCallback (name : String) : CallbackField → Except RuleError (Option Callback)
  | .value .null => .ok none
  | .value callback => .error ⟨.named name, .invalidCallback callback⟩
  | .callback callback => .ok (some callback)

def validate (place : Nat) : Candidate → Except RuleError ValidRule
  | .other => .error ⟨.place place, .invalidRule⟩
  | .rule name pattern callback discard => do
    let name ← checkName place name
    let matcher ← checkPattern name pattern
    let callback ← checkCallback name callback
    return ⟨name, matcher, callback, discard.isTruthy⟩

end Candidate

def compileText (rule : RuleRef) (compiled pattern : List Char) (flags : Int) :
    Except Failure Pattern :=
  match Pattern.compile .text compiled flags with
  | .ok pattern => .ok pattern
  | .error (.malformed found) => .error (.rule ⟨rule, .malformed found compiled pattern⟩)
  | .error rejection => .error (.rejected rejection)

def renumberRule (name : String) (source : List Char) (captures : Nat) (offset : Int) :
    Except Failure (List Char) :=
  match renumber source captures offset with
  | .ok text => .ok text
  | .error (.beyondLimit reference shifted) =>
    .error (.rule ⟨.named name, .beyondLimit reference shifted source⟩)
  | .error error => .error (.renumber error)

/-- Enters the group names of a rule; none of them may have been given before. `defined` holds the
names with their rules, the last one first. -/
def defineNames (rule : String) (source : List Char) :
    List (List Char × String) → List (List Char) → Except Failure (List (List Char × String))
  | defined, [] => .ok defined
  | defined, name :: names =>
    match defined.lookup name with
    | some earlier => .error (.rule ⟨.named rule, .redefinedGroup name earlier source⟩)
    | none => defineNames rule source ((name, rule) :: defined) names

structure Assembly where
  /-- The rules so far, the last one first. -/
  rules : List CompiledRule
  offset : Nat
  defined : List (List Char × String)

namespace Assembly

def start : Assembly := ⟨[htmlBreak], 1, []⟩

def add (config : Config) (assembly : Assembly) (place : Nat) (candidate : Candidate) :
    Except Failure Assembly := do
  let rule ← (candidate.validate place).mapError Failure.rule
  let source := rule.matcher.normal config.escapeEntities.isTruthy
  let captures := countCaptures source
  let standalone ← renumberRule rule.name source captures (-1)
  let some flags := config.flags.toInt? | .error .flagsNotNumber
  let _ ← compileText (.named rule.name) standalone source flags
  let defined ← defineNames rule.name source assembly.defined (groupNames source)
  let patternText ← renumberRule rule.name source captures assembly.offset
  let compiled : CompiledRule :=
    ⟨rule.name, patternText, rule.callback, rule.discard, captures, assembly.offset + 1⟩
  return ⟨compiled :: assembly.rules, assembly.offset + captures + 1, defined⟩

def addAll (config : Config) : Assembly → Nat → List Candidate → Except Failure Assembly
  | assembly, _, [] => .ok assembly
  | assembly, place, candidate :: candidates => do
    let assembly ← assembly.add config place candidate
    addAll config assembly (place + 1) candidates

def joinBars : List (List Char) → List Char
  | [] => []
  | [text] => text
  | text :: texts => text ++ '|' :: joinBars texts

def source (assembly : Assembly) : List Char :=
  joinBars (assembly.rules.reverse.map CompiledRule.wrapped)

/-- Compiles the pattern of the whole table. The groups that were counted must be those that it
has. -/
def finish (config : Config) (assembly : Assembly) : Except Failure RuleSet := do
  let some flags := config.flags.toInt? | .error .flagsNotNumber
  let source := assembly.source
  let composed := (Flags.ofInt flags).insert .multiLine
  let pattern ← compileText .table source source composed.bits
  if pattern.groups ≠ assembly.offset then
    throw (.rule ⟨.table, .groupMismatch assembly.offset pattern.groups source⟩)
  return ⟨assembly.rules.reverse, pattern⟩

end Assembly

namespace RuleSet

def ofTable (config : Config) : Option (List Candidate) → Except Failure RuleSet
  | none | some [] => .error (.rule ⟨.table, .noRules⟩)
  | some candidates => do
    let assembly ← Assembly.start.addAll config 1 candidates
    assembly.finish config

def compile (config : Config) (table : Option (List Candidate)) : Run RuleSet := do
  let set ← Run.ofExcept (ofTable config table)
  Run.emit (.compiled set.rules.length set.pattern.groups)
  return set

end RuleSet

end RuleLexer
