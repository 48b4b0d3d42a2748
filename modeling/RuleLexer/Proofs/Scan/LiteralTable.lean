import RuleLexer.Proofs.Rule.Spelling
import RuleLexer.Proofs.Scan.LineBreak

namespace RuleLexer

structure LiteralRule where
  name : String
  text : String
  discard : Value
  named : name ≠ ""
  nonempty : text ≠ ""

namespace LiteralRule

def candidate (rule : LiteralRule) : Candidate :=
  .rule (.text rule.name) (.value (.text rule.text)) (.value .null) rule.discard

/-- The characters that the rule matches: those of its text, or of its markup. -/
def wanted (entities : Bool) (rule : LiteralRule) : List Char :=
  if entities then markup rule.text.toList else rule.text.toList

def source (entities : Bool) (rule : LiteralRule) : List Char :=
  (Matcher.literal rule.text.toList).normal entities

def compiled (entities : Bool) (offset : Nat) (rule : LiteralRule) : CompiledRule :=
  ⟨rule.name, rule.source entities, none, rule.discard.isTruthy, 0, offset + 1⟩

def compiledFrom (entities : Bool) : Nat → List LiteralRule → List CompiledRule
  | _, [] => []
  | offset, rule :: rules =>
    rule.compiled entities offset :: compiledFrom entities (offset + 1) rules

theorem spellsOut_source (entities : Bool) (rule : LiteralRule) :
    SpellsOut (rule.source entities) (rule.wanted entities) := by
  cases entities with
  | true => exact spellsOut_escapeEntities _
  | false => exact spellsOut_escapeLiteral _

theorem toList_ne_nil (rule : LiteralRule) : rule.text.toList ≠ [] := by
  intro empty
  exact rule.nonempty (String.toList_eq_nil_iff.mp empty)

theorem wanted_ne_nil (entities : Bool) (rule : LiteralRule) : rule.wanted entities ≠ [] := by
  obtain ⟨c, rest, whole⟩ := List.exists_cons_of_ne_nil rule.toList_ne_nil
  cases entities with
  | false => exact rule.toList_ne_nil
  | true =>
    have first : (entity? c).getD [c] ≠ [] := by
      unfold entity?
      split <;> nofun
    intro empty
    rw [wanted, if_pos rfl, markup, whole, List.flatMap_cons, List.append_eq_nil_iff] at empty
    exact first empty.1

section assembly

variable {config : Config} {entities : Bool} (number : config.flags.toInt? = some 0)
  (switch : config.escapeEntities.isTruthy = entities)

include number switch

theorem add_candidate (assembly : Assembly) (place : Nat) (rule : LiteralRule) :
    assembly.add config place rule.candidate = .ok
      ⟨rule.compiled entities assembly.offset :: assembly.rules, assembly.offset + 1,
        assembly.defined⟩ := by
  have spelled := rule.spellsOut_source entities
  have valid : (rule.candidate.validate place).mapError Failure.rule =
      .ok ⟨rule.name, .literal rule.text.toList, none, rule.discard.isTruthy⟩ := by
    refine mapError_eq_ok_iff.mpr ?_
    simp [candidate, Candidate.validate, Candidate.checkName, Candidate.checkPattern,
      Candidate.checkCallback, rule.named, rule.nonempty, bind, Except.bind, pure, Except.pure]
  have normal : (Matcher.literal rule.text.toList).normal entities = rule.source entities := rfl
  have renumbered (offset : Int) : renumberRule rule.name (rule.source entities) 0 offset =
      .ok (rule.source entities) := by
    rw [renumberRule, spelled.renumber_eq]
  have quiet : (Flags.ofInt 0).has .verbose = false := rfl
  obtain ⟨parser, -, -, parsed⟩ := spelled.parsed quiet rfl rfl
  have compiles := Pattern.compile_eq_ok_iff.mpr ⟨parser, parsed⟩
  -- The text has no groups, names or references, so nothing is refused and nothing rewritten.
  unfold Assembly.add
  simp only [valid, switch, normal, spelled.countCaptures_eq, renumbered, number, compileText,
    compiles, spelled.groupNames_eq, defineNames, bind, Except.bind]
  rfl

theorem addAll_candidates (assembly : Assembly) (place : Nat) (rules : List LiteralRule) :
    assembly.addAll config place (rules.map candidate) = .ok
      ⟨(compiledFrom entities assembly.offset rules).reverse ++ assembly.rules,
        assembly.offset + rules.length, assembly.defined⟩ := by
  induction rules generalizing assembly place with
  | nil => rfl
  | cons rule rules ih =>
    rw [List.map_cons, Assembly.addAll, add_candidate number switch]
    apply (ih _ _).trans
    simp [compiledFrom, Nat.add_assoc, Nat.add_comm 1]

end assembly

def choicesFrom (entities : Bool) : Nat → List LiteralRule → List Regex
  | _, [] => []
  | offset, rule :: rules =>
    .group (offset + 1) (.row (rule.wanted entities)) :: choicesFrom entities (offset + 1) rules

theorem standings (entities : Bool) (offset : Nat) (rules : List LiteralRule) :
    Places Settled offset (rules.map (source entities)) (compiledFrom entities offset rules)
        (offset + rules.length) ∧
      ∃ parsers, List.Forall₂ Standing (rules.map (source entities)) parsers ∧
        List.Forall₂ Parser.Outside.Bare (rules.map (source entities)) parsers ∧
        List.zipWith (fun rule alone => rule.around alone.level.body)
          (compiledFrom entities offset rules) parsers = choicesFrom entities offset rules := by
  induction rules generalizing offset with
  | nil => exact ⟨.nil _, [], .nil, .nil, rfl⟩
  | cons rule rules ih =>
    have spelled := rule.spellsOut_source entities
    obtain ⟨settled, parser, standing, bare, body⟩ :=
      spelled.settled (show (rule.compiled entities offset).patternText = _ from rfl) rfl rfl
    obtain ⟨places, parsers, standings, allBare, choices⟩ := ih (offset + 1)
    constructor
    · rw [List.length_cons, Nat.add_comm rules.length, ← Nat.add_assoc]
      exact .cons settled places
    · refine ⟨parser :: parsers, .cons standing standings, .cons bare allBare, ?_⟩
      rw [compiledFrom, List.zipWith_cons_cons, choices, CompiledRule.around, body,
        SpellsOut.shift_row]
      rfl

end LiteralRule

namespace Direct

/-- What stands at the start of a text for a table of literal rules: a line break, or else the text
of the first rule whose text stands there. -/
def literalSight (entities : Bool) (rules : List LiteralRule) (text : List Char) : Sight :=
  match breakLength? text with
  | some length => .lineBreak length
  | none =>
    match rules.find? fun rule => (rule.wanted entities).isPrefixOf text with
    | some rule => .lexeme rule.name (!rule.discard.isTruthy) (rule.wanted entities).length
    | none => .nothing

end Direct

def Listing.row (text rest : List Char) : List Nat :=
  if text.isPrefixOf rest then [text.length] else []

theorem Step.Lists.row {mode : Mode} (sensitive : mode.ignoreCase = false) {text : List Char}
    (some : text ≠ []) (whole : Array Char) :
    Step.Lists whole ((Regex.row text).run whole mode) (Listing.row text) := by
  have single (c : Char) : Step.Lists whole ((Regex.char c.toNat).run whole mode)
      (Listing.row [c]) := by
    rw [Regex.run, Mode.isChar_eq sensitive]
    have same : Listing.row [c] = Listing.character (c.toNat == ·) := by
      funext rest
      cases rest with
      | nil => rfl
      | cons d rest => simp [Listing.row, Listing.character, Char.toNat_inj]
    rw [same]
    exact .character whole _
  induction text with
  | nil => exact absurd rfl some
  | cons c text ih =>
    cases text with
    | nil => exact single c
    | cons d text =>
      have same : Listing.row (c :: d :: text) =
          Listing.seq (Listing.row [c]) (Listing.row (d :: text)) := by
        funext rest
        cases rest with
        | nil => rfl
        | cons e rest =>
          by_cases first : c = e
          · by_cases behind : d :: text <+: rest
            · simp [Listing.row, Listing.seq, first, behind, Nat.add_comm]
            · simp [Listing.row, Listing.seq, first, behind]
          · simp [Listing.row, Listing.seq, first]
      rw [same]
      exact (single c).seq (ih (List.cons_ne_nil d text))

namespace LiteralRule

def measure (entities : Bool) (offset : Nat) (rule : LiteralRule) : Measure where
  rule := rule.compiled entities offset
  length? rest := (Listing.row (rule.wanted entities) rest).head?

def measuresFrom (entities : Bool) : Nat → List LiteralRule → List Measure
  | _, [] => []
  | offset, rule :: rules =>
    rule.measure entities offset :: measuresFrom entities (offset + 1) rules

variable {entities : Bool}

theorem map_rule_measuresFrom (offset : Nat) (rules : List LiteralRule) :
    (measuresFrom entities offset rules).map Measure.rule = compiledFrom entities offset rules := by
  induction rules generalizing offset with
  | nil => rfl
  | cons rule rules ih => rw [measuresFrom, List.map_cons, ih, compiledFrom, measure]

theorem fits_measuresFrom {pattern : Pattern} (sensitive : pattern.mode.ignoreCase = false)
    (text : Array Char) (offset : Nat) (rules : List LiteralRule) :
    List.Forall₂ (Measure.Fits pattern text) (measuresFrom entities offset rules)
      (choicesFrom entities offset rules) := by
  induction rules generalizing offset with
  | nil => exact .nil
  | cons rule rules ih =>
    refine .cons ⟨_, _, rfl, ?_, fun rest => rfl⟩ (ih (offset + 1))
    exact .row sensitive (rule.wanted_ne_nil entities) text

theorem proper_measuresFrom (offset : Nat) (rules : List LiteralRule) :
    ∀ measure ∈ measuresFrom entities offset rules, measure.rule.callback = none ∧
      ∀ rest length, measure.length? rest = some length → 0 < length := by
  induction rules generalizing offset with
  | nil => nofun
  | cons rule rules ih =>
    intro measure member
    rcases List.mem_cons.mp member with rfl | later
    · refine ⟨rfl, fun rest length found => ?_⟩
      have only : length = (rule.wanted entities).length := by
        have tried := List.mem_of_head? found
        unfold Listing.row at tried
        split at tried
        · exact List.mem_singleton.mp tried
        · cases tried
      rw [only]
      exact List.length_pos_iff.mpr (rule.wanted_ne_nil entities)
    · exact ih (offset + 1) measure later

theorem first?_measuresFrom (entities : Bool) (offset : Nat) (rules : List LiteralRule)
    (text : List Char) :
    (Measure.first? (measuresFrom entities offset rules) text).map (fun (measure, length) =>
        Sight.lexeme measure.rule.name (!measure.rule.discard) length) =
      (rules.find? fun rule => (rule.wanted entities).isPrefixOf text).map fun rule =>
        Sight.lexeme rule.name (!rule.discard.isTruthy) (rule.wanted entities).length := by
  induction rules generalizing offset with
  | nil => rfl
  | cons rule rules ih =>
    rw [measuresFrom, Measure.first?, List.findSome?_cons, List.find?_cons, ← Measure.first?]
    cases stands : (rule.wanted entities).isPrefixOf text with
    | true => simp only [measure, Listing.row, stands, if_true]; rfl
    | false =>
      simp only [measure, Listing.row, stands, Bool.false_eq_true, if_false]
      exact ih (offset + 1)

theorem sight_measuresFrom (offset : Nat) (rules : List LiteralRule) (text : List Char) :
    Measure.sight (measuresFrom entities offset rules) text =
      Direct.literalSight entities rules text := by
  have same := first?_measuresFrom entities offset rules text
  unfold Measure.sight Direct.literalSight
  cases Direct.breakLength? text with
  | some length => rfl
  | none =>
    cases ahead : Measure.first? (measuresFrom entities offset rules) text with
    | none =>
      rw [ahead] at same
      rw [Option.map_eq_none_iff.mp same.symm]
    | some result =>
      rw [ahead] at same
      obtain ⟨rule, found, sight⟩ := Option.map_eq_some_iff.mp same.symm
      rw [found]
      exact sight.symm

def table (entities : Bool) (rules : List LiteralRule) : RuleSet where
  rules := htmlBreak :: compiledFrom entities 1 rules
  pattern :=
    { source := Assembly.joinBars
        ((htmlBreak :: compiledFrom entities 1 rules).map CompiledRule.wrapped)
      regex := .ofAlternatives (.group 1 htmlBreakTree :: choicesFrom entities 1 rules)
      groups := 1 + rules.length
      names := []
      flags := .ofList [.unicode, .multiLine] }

theorem group_of_mem_choices {offset : Nat} {rules : List LiteralRule} {choice : Regex}
    (member : choice ∈ choicesFrom entities offset rules) :
    ∃ index text, choice = .group index (.row text) := by
  induction rules generalizing offset with
  | nil => cases member
  | cons rule rules ih =>
    rcases List.mem_cons.mp member with rfl | later
    · exact ⟨_, _, rfl⟩
    · exact ih later

theorem check_table (entities : Bool) (rules : List LiteralRule) :
    (table entities rules).pattern.regex.check false = .ok () := by
  apply Regex.check_ofAlternatives_iff.mpr
  intro choice member
  rcases List.mem_cons.mp member with rfl | later
  · rfl
  · obtain ⟨index, text, rfl⟩ := group_of_mem_choices later
    exact SpellsOut.check_row false text

theorem alternatives_table (entities : Bool) (rules : List LiteralRule) :
    (table entities rules).pattern.regex.alternatives =
      .group 1 htmlBreakTree :: choicesFrom entities 1 rules := by
  refine Regex.alternatives_ofAlternatives (List.cons_ne_nil _ _) fun choice member => ?_
  rcases List.mem_cons.mp member with rfl | later
  · exact ⟨_, _, rfl⟩
  · obtain ⟨index, text, rfl⟩ := group_of_mem_choices later
    exact ⟨_, _, rfl⟩

theorem compile_table (entities : Bool) (rules : List LiteralRule) :
    Pattern.compile .text (table entities rules).pattern.source 8 =
      .ok (table entities rules).pattern := by
  obtain ⟨places, parsers, standings, bare, choices⟩ := standings entities 1 rules
  -- The line break is no literal rule; its pattern is known by computation.
  have compiled : Pattern.compile .text htmlBreak.patternText 0 =
      .ok ⟨htmlBreak.patternText, htmlBreakTree, 0, [], .ofList [.unicode]⟩ := rfl
  obtain ⟨first, parsed⟩ := Pattern.compile_eq_ok_iff.mp compiled
  have body : first.level.body = htmlBreakTree := (congrArg Pattern.regex parsed.made).symm
  have unnamed : first.names = [] :=
    List.reverse_eq_nil_iff.mp (congrArg Pattern.names parsed.made).symm
  have standing : Standing htmlBreak.patternText first := .of_renumber rfl rfl rfl parsed
  have unconditional : ∀ name, .condition name ∉ Segment.split htmlBreak.patternText := by
    have segments : Segment.split htmlBreak.patternText = [.other '<', .other 'b', .other 'r',
      .escape 's', .other '*', .other '/', .other '?', .escape 's', .other '*', .other '>'] := rfl
    simp [segments]
  have settled : Settled 0 htmlBreak.patternText htmlBreak :=
    (Placed.htmlBreak.seated rfl rfl).settled rfl
  have trees : List.zipWith (fun rule alone => rule.around alone.level.body)
      (htmlBreak :: compiledFrom entities 1 rules) (first :: parsers) =
        .group 1 htmlBreakTree :: choicesFrom entities 1 rules := by
    rw [List.zipWith_cons_cons, choices, CompiledRule.around, body]
    rfl
  have quiet : (Flags.ofInt 8).has .verbose = false := rfl
  have joined := Pattern.compile_joined (.cons settled places) (.cons standing standings)
    (List.cons_ne_nil _ _) quiet (.cons ⟨unnamed, unconditional⟩ bare) rfl
    (trees ▸ check_table entities rules) rfl
  rw [trees] at joined
  exact joined

theorem ofTable_candidates {config : Config} {entities : Bool}
    (number : config.flags.toInt? = some 0) (switch : config.escapeEntities.isTruthy = entities)
    {rules : List LiteralRule} (some : rules ≠ []) :
    RuleSet.ofTable config (.some (rules.map candidate)) = .ok (table entities rules) := by
  have order : ((compiledFrom entities 1 rules).reverse ++ [htmlBreak]).reverse =
      htmlBreak :: compiledFrom entities 1 rules := by simp
  have added := addAll_candidates number switch Assembly.start 1 rules
  have compiles : compileText .table (table entities rules).pattern.source
      (table entities rules).pattern.source 8 = .ok (table entities rules).pattern := by
    rw [compileText, compile_table]
  have finished : Assembly.finish config
      ⟨(compiledFrom entities 1 rules).reverse ++ [htmlBreak], 1 + rules.length, []⟩ =
        .ok (table entities rules) := by
    simp only [Assembly.finish, number, Assembly.source, order]
    show (compileText .table (table entities rules).pattern.source
      (table entities rules).pattern.source 8 >>= _) = _
    rw [compiles]
    simp [table, bind, Except.bind, pure, Except.pure]
  have given : RuleSet.ofTable config (.some (rules.map candidate)) =
      (Assembly.start.addAll config 1 (rules.map candidate) >>= Assembly.finish config) := by
    cases rules with
    | nil => exact absurd rfl some
    | cons rule others => rfl
  rw [given, added]
  exact finished

theorem consecutive_table (entities : Bool) (rules : List LiteralRule) :
    Consecutive 0 (table entities rules).rules (1 + rules.length) := by
  have behind (offset : Nat) (rules : List LiteralRule) :
      Consecutive offset (compiledFrom entities offset rules) (offset + rules.length) := by
    induction rules generalizing offset with
    | nil => rfl
    | cons rule rules ih =>
      rw [List.length_cons, Nat.add_comm rules.length, ← Nat.add_assoc]
      exact ⟨rfl, ih (offset + 1)⟩
  exact ⟨rfl, behind 1 rules⟩

theorem sees_table (entities : Bool) {rules : List LiteralRule} (text : Array Char) (start : Nat) :
    (table entities rules).Sees text start
      (Direct.literalSight entities rules (text.toList.drop start)) := by
  rw [← sight_measuresFrom 1]
  apply Measure.sees (consecutive_table entities rules)
  · exact congrArg _ (map_rule_measuresFrom 1 rules).symm
  · rw [alternatives_table]
    have mode : (table entities rules).pattern.mode =
        .ofFlags (.ofList [.unicode, .multiLine]) := rfl
    have sensitive : (table entities rules).pattern.mode.ignoreCase = false := by
      rw [mode]
      rfl
    have unicode : (table entities rules).pattern.mode.ascii = false := by
      rw [mode]
      rfl
    exact .cons (Measure.fits_htmlBreak sensitive unicode text)
      (fits_measuresFrom sensitive text 1 rules)
  · exact proper_measuresFrom 1 rules

end LiteralRule

/-- A table of literal rules compiles, and it scans every text as a lexer does that is written by
hand: at each place it consumes a line break, or else takes the first rule whose text, with entities
if asked, stands there, or else skips a character. -/
theorem scan_literalTable (config : Config) (number : config.flags.toInt? = some 0)
    (quiet : ∀ handler, config.onSkip = some handler → ∀ skipped, handler skipped = none)
    {rules : List LiteralRule} (nonempty : rules ≠ []) :
    ∃ set, RuleSet.ofTable config (some (rules.map LiteralRule.candidate)) = .ok set ∧
      ∀ text context, ∃ after, (set.scan config text).Returns context
        (Direct.scan (Direct.literalSight config.escapeEntities.isTruthy rules) text) after := by
  refine ⟨_, LiteralRule.ofTable_candidates number rfl nonempty, fun text context => ?_⟩
  apply RuleSet.scan_returns_direct config quiet
  intro start _
  exact LiteralRule.sees_table _ text.toList.toArray start

/-- Rules whose texts would be group syntax, a reference and an entity. -/
def markupRules : List LiteralRule :=
  [⟨"BEHIND", "(?<=", .null, by decide, by decide⟩, ⟨"ONE", "\\1", .null, by decide, by decide⟩,
    ⟨"AND", "&", .bool true, by decide, by decide⟩]

theorem scan_markupRules :
    ∃ set, RuleSet.ofTable {} (some (markupRules.map LiteralRule.candidate)) = .ok set ∧
      ∀ context, ∃ after, (set.scan {} "(?&lt;=x\\1&amp;").Returns context
        ⟨[⟨"BEHIND", .text "(?&lt;=", 1, 1⟩, ⟨"ONE", .text "\\1", 1, 9⟩], [⟨1, 8, "x"⟩]⟩ after := by
  obtain ⟨set, compiles, scans⟩ := scan_literalTable {} rfl nofun
    (show markupRules ≠ [] from nofun)
  have directly : Direct.scan (Direct.literalSight true markupRules) "(?&lt;=x\\1&amp;" =
      ⟨[⟨"BEHIND", .text "(?&lt;=", 1, 1⟩, ⟨"ONE", .text "\\1", 1, 9⟩], [⟨1, 8, "x"⟩]⟩ := by
    cbv
  exact ⟨set, compiles, fun context => directly ▸ scans _ context⟩

end RuleLexer
