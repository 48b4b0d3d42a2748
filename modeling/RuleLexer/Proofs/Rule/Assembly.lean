import RuleLexer.Proofs.Regex.Reading
import RuleLexer.Rule.Compile

namespace RuleLexer

def Candidate.source? (config : Config) (candidate : Candidate) : Option (List Char) :=
  match candidate.validate 0 with
  | .ok valid => some (valid.matcher.normal config.escapeEntities.isTruthy)
  | .error _ => none

theorem Candidate.validate_elsewhere {candidate : Candidate} {place : Nat} {rule : ValidRule}
    (valid : candidate.validate place = .ok rule) (elsewhere : Nat) :
    candidate.validate elsewhere = .ok rule := by
  cases candidate with
  | other => cases valid
  | rule name pattern callback discard =>
    obtain ⟨text, named, described⟩ := bind_eq_ok_iff.mp valid
    refine bind_eq_ok_iff.mpr ⟨text, ?_, described⟩
    cases name with
    | text given =>
      simp only [checkName] at named ⊢
      split at named
      · cases named
      · next nonempty => rwa [if_neg nonempty]
    | _ => cases named

theorem Candidate.source?_of_validate {config : Config} {candidate : Candidate} {place : Nat}
    {rule : ValidRule} (valid : candidate.validate place = .ok rule) :
    candidate.source? config = some (rule.matcher.normal config.escapeEntities.isTruthy) := by
  rw [source?, validate_elsewhere valid 0]

/-- A pattern text has become a rule behind `offset` groups: by itself, with its references in the
first place, it is a pattern under the flags that were asked for, and behind the groups it has the
rule's text. -/
structure Placed (flags : Int) (offset : Nat) (source : List Char) (rule : CompiledRule) : Prop where
  alone : ∃ text pattern, renumber source (countCaptures source) (-1) = .ok text ∧
    Pattern.compile .text text flags = .ok pattern
  text : renumber source (countCaptures source) offset = .ok rule.patternText
  captures : rule.captures = countCaptures source
  groupIndex : rule.groupIndex = offset + 1

/-- Pattern texts have become rules, one after the other, between the groups `offset` and `total`;
`placed` says how a text becomes a rule. -/
inductive Places (placed : Nat → List Char → CompiledRule → Prop) :
    Nat → List (List Char) → List CompiledRule → Nat → Prop
  | nil (offset : Nat) : Places placed offset [] [] offset
  | cons {offset total : Nat} {source : List Char} {sources : List (List Char)}
    {rule : CompiledRule} {rules : List CompiledRule} (first : placed offset source rule)
    (rest : Places placed (offset + rule.captures + 1) sources rules total) :
    Places placed offset (source :: sources) (rule :: rules) total

theorem compile_of_compileText {rule : RuleRef} {compiled source : List Char} {flags : Int}
    {pattern : Pattern} (accepted : compileText rule compiled source flags = .ok pattern) :
    Pattern.compile .text compiled flags = .ok pattern := by
  unfold compileText at accepted
  split at accepted
  · next same => cases accepted; exact same
  · cases accepted
  · cases accepted

theorem renumber_of_renumberRule {name : String} {source text : List Char} {captures : Nat}
    {offset : Int} (accepted : renumberRule name source captures offset = .ok text) :
    renumber source captures offset = .ok text := by
  unfold renumberRule at accepted
  split at accepted
  · next same => cases accepted; exact same
  · cases accepted
  · cases accepted

namespace Assembly

theorem steps_of_add {config : Config} {assembly next : Assembly} {place : Nat}
    {candidate : Candidate} (added : assembly.add config place candidate = .ok next) :
    ∃ valid source flags standalone pattern defined text,
      candidate.validate place = .ok valid ∧
      source = valid.matcher.normal config.escapeEntities.isTruthy ∧
      renumber source (countCaptures source) (-1) = .ok standalone ∧
      config.flags.toInt? = some flags ∧ Pattern.compile .text standalone flags = .ok pattern ∧
      defineNames valid.name source assembly.defined (groupNames source) = .ok defined ∧
      renumber source (countCaptures source) assembly.offset = .ok text ∧
      next = ⟨⟨valid.name, text, valid.callback, valid.discard, countCaptures source,
        assembly.offset + 1⟩ :: assembly.rules, assembly.offset + countCaptures source + 1,
        defined⟩ := by
  unfold add at added
  obtain ⟨valid, validated, added⟩ := bind_eq_ok_iff.mp added
  obtain ⟨standalone, first, added⟩ := bind_eq_ok_iff.mp added
  split at added
  · next flags number =>
    obtain ⟨pattern, accepted, added⟩ := bind_eq_ok_iff.mp added
    obtain ⟨defined, entered, added⟩ := bind_eq_ok_iff.mp added
    obtain ⟨text, second, added⟩ := bind_eq_ok_iff.mp added
    cases added
    exact ⟨valid, _, flags, standalone, pattern, defined, text, mapError_eq_ok_iff.mp validated,
      rfl, renumber_of_renumberRule first, number, compile_of_compileText accepted, entered,
      renumber_of_renumberRule second, rfl⟩
  · cases added

theorem of_add {config : Config} {assembly next : Assembly} {place : Nat} {candidate : Candidate}
    (added : assembly.add config place candidate = .ok next) :
    ∃ flags source rule defined, config.flags.toInt? = some flags ∧
      candidate.source? config = some source ∧ Placed flags assembly.offset source rule ∧
      defineNames rule.name source assembly.defined (groupNames source) = .ok defined ∧
      next = ⟨rule :: assembly.rules, assembly.offset + rule.captures + 1, defined⟩ := by
  obtain ⟨valid, _, flags, standalone, pattern, defined, text, validated, rfl, first, number,
    accepted, entered, second, rfl⟩ := steps_of_add added
  refine ⟨flags, _, ⟨valid.name, text, valid.callback, valid.discard, _, _⟩, defined, number,
    Candidate.source?_of_validate validated, ?_, entered, rfl⟩
  exact {
    alone := ⟨standalone, pattern, first, accepted⟩
    text := second
    captures := rfl
    groupIndex := rfl }

theorem places_of_addAll {config : Config} {flags : Int} (number : config.flags.toInt? = some flags)
    {assembly final : Assembly} {place : Nat} {candidates : List Candidate}
    (added : assembly.addAll config place candidates = .ok final) :
    ∃ rules, final.rules.reverse = assembly.rules.reverse ++ rules ∧
      Places (Placed flags) assembly.offset (candidates.filterMap (Candidate.source? config)) rules
        final.offset := by
  induction candidates generalizing assembly place with
  | nil =>
    cases added
    exact ⟨[], by simp, .nil _⟩
  | cons candidate candidates ih =>
    obtain ⟨middle, once, rest⟩ := bind_eq_ok_iff.mp added
    obtain ⟨same, source, rule, defined, sameNumber, described, placed, -, rfl⟩ := of_add once
    cases number.symm.trans sameNumber
    obtain ⟨rules, order, places⟩ := ih rest
    refine ⟨rule :: rules, by simp [order], ?_⟩
    rw [List.filterMap_cons_some described]
    exact .cons placed places

end Assembly

/-- What an accepted table is made of. -/
structure RuleSet.Accepted (config : Config) (candidates : List Candidate) (set : RuleSet)
    (flags : Int) (rules : List CompiledRule) : Prop where
  number : config.flags.toInt? = some flags
  order : set.rules = htmlBreak :: rules
  places : Places (Placed flags) 1 (candidates.filterMap (Candidate.source? config)) rules
    set.pattern.groups
  compiled : Pattern.compile .text (Assembly.joinBars (set.rules.map CompiledRule.wrapped))
    ((Flags.ofInt flags).insert .multiLine).bits = .ok set.pattern

theorem RuleSet.accepted_of_ofTable {config : Config} {table : Option (List Candidate)}
    {set : RuleSet} (accepted : ofTable config table = .ok set) :
    ∃ candidates flags rules, table = some candidates ∧
      Accepted config candidates set flags rules := by
  obtain ⟨candidates, given, accepted⟩ : ∃ candidates, table = some candidates ∧
      (Assembly.start.addAll config 1 candidates >>= Assembly.finish config) = .ok set := by
    unfold ofTable at accepted
    split at accepted
    · cases accepted
    · cases accepted
    · exact ⟨_, rfl, accepted⟩
  obtain ⟨assembly, added, finished⟩ := bind_eq_ok_iff.mp accepted
  unfold Assembly.finish at finished
  cases number : config.flags.toInt? with
  | none =>
    rw [number] at finished
    cases finished
  | some flags =>
    rw [number] at finished
    obtain ⟨pattern, compiled, finished⟩ := bind_eq_ok_iff.mp finished
    split at finished
    · cases finished
    · next counted =>
      cases finished
      obtain ⟨rules, order, places⟩ := Assembly.places_of_addAll number added
      have counted : pattern.groups = assembly.offset := Decidable.not_not.mp counted
      exact ⟨candidates, flags, rules, given, number, order, counted ▸ places,
        compile_of_compileText compiled⟩

end RuleLexer
