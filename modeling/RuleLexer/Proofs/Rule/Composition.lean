import RuleLexer.Proofs.Rule.Dispatch
import RuleLexer.Proofs.Rule.Joining

namespace RuleLexer

theorem Places.imp {placed placed' : Nat → List Char → CompiledRule → Prop} {offset total : Nat}
    {sources : List (List Char)} {rules : List CompiledRule}
    (places : Places placed offset sources rules total)
    (implies : ∀ offset source rule, source ∈ sources → placed offset source rule →
      placed' offset source rule) : Places placed' offset sources rules total := by
  induction places with
  | nil => exact .nil _
  | cons first rest ih =>
    refine .cons (implies _ _ _ List.mem_cons_self first) (ih fun offset source rule member => ?_)
    exact implies offset source rule (List.mem_cons_of_mem _ member)

theorem Flags.has_verbose_insert {flags : Flags} (quiet : flags.has .verbose = false) :
    (ofInt (flags.insert .multiLine).bits).has .verbose = false := by
  have same : ofInt (flags.insert .multiLine).bits = flags.insert .multiLine := by simp [ofInt]
  rw [same]
  exact Lexeme.has_insert_verbose quiet nofun

namespace RuleSet.Accepted

variable {config : Config} {candidates : List Candidate} {set : RuleSet} {flags : Int}
  {rules : List CompiledRule}

theorem seated (accepted : Accepted config candidates set flags rules)
    (quiet : (Flags.ofInt flags).has .verbose = false)
    (plain : ∀ source ∈ candidates.filterMap (Candidate.source? config),
      isPlainSource source = true) :
    Places Seated 0 (htmlBreak.patternText :: candidates.filterMap (Candidate.source? config))
      set.rules set.pattern.groups := by
  rw [accepted.order]
  refine .cons (Placed.htmlBreak.seated rfl rfl) (accepted.places.imp ?_)
  exact fun offset source rule member placed => placed.seated (plain source member) quiet

theorem settled (accepted : Accepted config candidates set flags rules)
    (quiet : (Flags.ofInt flags).has .verbose = false)
    (plain : ∀ source ∈ candidates.filterMap (Candidate.source? config),
      isPlainSource source = true) :
    Places Settled 0 (htmlBreak.patternText :: candidates.filterMap (Candidate.source? config))
      set.rules set.pattern.groups := by
  have seated := accepted.seated quiet plain
  obtain ⟨marks, aligned, counted⟩ := seated.aligned
  obtain ⟨parser, parsed⟩ := Pattern.compile_eq_ok_iff.mp accepted.compiled
  -- The texts show all the groups that the parser has opened, and these were found to be the total.
  have surveyed := parsed.surveyed Renumbering.free_ends (Flags.has_verbose_insert quiet) aligned
  refine seated.settled ?_
  rw [Nat.zero_add, ← counted, ← surveyed.groups]
  exact congrArg Pattern.groups parsed.made

end RuleSet.Accepted

structure CompiledRule.Alone (flags : Flags) (rule : CompiledRule) (alone : Pattern) : Prop where
  flags : alone.flags = flags
  groups : alone.groups = rule.captures

theorem Places.alone {offset total : Nat} {sources : List (List Char)} {rules : List CompiledRule}
    (places : Places Settled offset sources rules total) {parsers : List Parser}
    (standings : List.Forall₂ Standing sources parsers) {asked : Int} {flags : Flags}
    (quiet : (Flags.ofInt asked).has .verbose = false)
    (settles : (Flags.ofInt asked).settle .text = .ok flags) (fits : Flags.fits asked = true)
    (checks : ∀ choice ∈
      List.zipWith (fun rule parser => rule.around parser.level.body) rules parsers,
      choice.check (flags.has .template) = .ok ()) :
    ∃ alone, List.Forall₂ (fun source pattern => Pattern.compile .text source asked = .ok pattern)
        sources alone ∧
      List.Forall₂ (CompiledRule.Alone flags) rules alone ∧
      List.zipWith (fun rule parser => rule.around parser.level.body) rules parsers =
        List.zipWith (fun rule pattern => rule.around pattern.regex) rules alone := by
  induction places generalizing parsers with
  | nil =>
    cases standings
    exact ⟨[], .nil, .nil, rfl⟩
  | @cons _ _ source _ rule _ first _ ih =>
    cases standings with
    | @cons _ parser _ parsers standing standings =>
      rw [List.zipWith_cons_cons, List.forall_mem_cons] at checks
      obtain ⟨check, checks⟩ := checks
      -- The checks on a pattern look at no numbers of groups.
      have check : parser.level.body.check (flags.has .template) = .ok () := by
        rw [← Regex.check_shift _ rule.groupIndex]
        exact check
      obtain ⟨names, compiled⟩ := standing.compile first.counted quiet settles check fits
      obtain ⟨alone, compiles, stands, same⟩ := ih standings checks
      have groups : parser.groups = rule.captures := by
        rw [standing.groups_eq, first.counted, first.captures]
      refine ⟨_ :: alone, .cons compiled compiles, .cons ⟨rfl, groups⟩ stands, ?_⟩
      rw [List.zipWith_cons_cons, List.zipWith_cons_cons, same]

def firstMatch? (rules : List CompiledRule) (alone : List Pattern) (text : Array Char) (start : Nat)
    (nonempty : Bool) : Option Match :=
  (rules.zip alone).findSome? fun (rule, own) =>
    (own.matchAt? text start nonempty).map (Match.embed rule.groupIndex)

/-- A pattern whose alternatives are rules in their groups matches what the first rule matches that
matches by itself. -/
theorem Pattern.matchAt?_joined {pattern : Pattern} {rules : List CompiledRule}
    {alone : List Pattern} (some : rules ≠ [])
    (stands : List.Forall₂ (CompiledRule.Alone pattern.flags) rules alone)
    (regex : pattern.regex = Regex.ofAlternatives
      (List.zipWith (fun rule own => rule.around own.regex) rules alone))
    (text : Array Char) (start : Nat) (nonempty : Bool) :
    pattern.matchAt? text start nonempty = firstMatch? rules alone text start nonempty := by
  have choices : pattern.regex.alternatives =
      List.zipWith (fun rule own => rule.around own.regex) rules alone := by
    rw [regex]
    refine Regex.alternatives_ofAlternatives ?_ fun choice member => ?_
    · cases stands with
      | nil => exact absurd rfl some
      | cons => nofun
    · obtain ⟨place, _, rfl⟩ := List.mem_iff_getElem.mp member
      rw [List.getElem_zipWith]
      exact ⟨_, _, rfl⟩
  rw [matchAt?_alternatives, choices]
  clear regex choices some
  induction stands with
  | nil => rfl
  | @cons rule own _ _ stand _ ih =>
    have here : (pattern.only (rule.around own.regex)).matchAt? text start nonempty =
        (own.matchAt? text start nonempty).map (Match.embed rule.groupIndex) :=
      matchAt?_embed rfl (by rw [mode, mode, stand.flags]; rfl) text start nonempty
    rw [firstMatch?, List.zipWith_cons_cons, List.zip_cons_cons, List.findSome?_cons,
      List.findSome?_cons, here, ih, firstMatch?]

structure Pattern.IsFirst (patterns : List Pattern) (text : Array Char) (start : Nat)
    (nonempty : Bool) (place : Nat) (pattern : Pattern) (own : Match) : Prop where
  placed : patterns[place]? = some pattern
  matched : pattern.matchAt? text start nonempty = some own
  missed : ∀ earlier other, earlier < place → patterns[earlier]? = some other →
    other.matchAt? text start nonempty = none

/-- The match of a table's pattern, made by the rule whose own pattern has the match `own`. -/
structure Match.MadeOf (found : Match) (rule : CompiledRule) (own : Match) : Prop where
  lastGroup : found.lastGroup = some rule.groupIndex
  start : found.start = own.start
  stop : found.stop = own.stop
  whole : found.capture? rule.groupIndex = some ⟨own.start, own.stop⟩
  captures : ∀ group, 0 < group → found.capture? (group + rule.groupIndex) = own.capture? group
  before : ∀ group, group < rule.groupIndex → found.capture? group = none

theorem Match.madeOf_embed (rule : CompiledRule) (own : Match) :
    (own.embed rule.groupIndex).MadeOf rule own where
  lastGroup := rfl
  start := rfl
  stop := rfl
  whole := own.capture?_embed_self rule.groupIndex
  captures _ positive := own.capture?_embed rule.groupIndex positive
  before group earlier := by
    refine List.lookup_eq_none_iff.mpr fun entry member => ?_
    have other : group ≠ entry.1 := by
      rcases List.mem_cons.mp member with rfl | inside
      · exact Nat.ne_of_lt earlier
      · obtain ⟨⟨index, span⟩, -, rfl⟩ := List.mem_map.mp inside
        show group ≠ index + rule.groupIndex
        omega
    simpa using other

section firstMatch

variable {flags : Flags} {rules : List CompiledRule} {alone : List Pattern} {text : Array Char}
  {start : Nat} {nonempty : Bool}

theorem paired_of_placed (stands : List.Forall₂ (CompiledRule.Alone flags) rules alone)
    {place : Nat} {pattern : Pattern} (placed : alone[place]? = some pattern) :
    ∃ rule, (rules.zip alone)[place]? = some (rule, pattern) := by
  have length := stands.length_eq
  obtain ⟨within, -⟩ := List.getElem?_eq_some_iff.mp placed
  refine ⟨rules[place], List.getElem?_zip_eq_some.mpr ⟨?_, placed⟩⟩
  exact List.getElem?_eq_getElem _

theorem firstMatch?_isSome_iff (stands : List.Forall₂ (CompiledRule.Alone flags) rules alone) :
    (firstMatch? rules alone text start nonempty).isSome ↔
      ∃ pattern ∈ alone, (pattern.matchAt? text start nonempty).isSome := by
  rw [firstMatch?, List.findSome?_isSome_iff]
  constructor
  · rintro ⟨⟨rule, pattern⟩, member, matched⟩
    exact ⟨pattern, (List.of_mem_zip member).2, by simpa using matched⟩
  · rintro ⟨pattern, member, matched⟩
    obtain ⟨place, placed⟩ := List.mem_iff_getElem?.mp member
    obtain ⟨rule, both⟩ := paired_of_placed stands placed
    exact ⟨(rule, pattern), List.mem_of_getElem? both, by simpa using matched⟩

theorem madeOf_of_firstMatch? (stands : List.Forall₂ (CompiledRule.Alone flags) rules alone)
    {found : Match} (matched : firstMatch? rules alone text start nonempty = some found) :
    ∃ place rule pattern own, rules[place]? = some rule ∧
      Pattern.IsFirst alone text start nonempty place pattern own ∧
      pattern.groups = rule.captures ∧ found.MadeOf rule own := by
  obtain ⟨-, pairs⟩ := List.forall₂_iff_zip.mp stands
  obtain ⟨before, ⟨rule, pattern⟩, after, order, matched, missed⟩ :=
    List.findSome?_eq_some_iff.mp matched
  obtain ⟨own, ownMatch, rfl⟩ := Option.map_eq_some_iff.mp matched
  have here : (rules.zip alone)[before.length]? = some (rule, pattern) := by simp [order]
  obtain ⟨ruleAt, patternAt⟩ := List.getElem?_zip_eq_some.mp here
  refine ⟨before.length, rule, pattern, own, ruleAt, ⟨patternAt, ownMatch, ?_⟩,
    (pairs (List.mem_of_getElem? here)).groups, Match.madeOf_embed rule own⟩
  intro earlier other earlierThan otherAt
  obtain ⟨rule, both⟩ := paired_of_placed stands otherAt
  rw [order, List.getElem?_append_left earlierThan] at both
  simpa using missed _ (List.mem_of_getElem? both)

end firstMatch

namespace RuleSet

variable {config : Config} {candidates : List Candidate} {set : RuleSet}

theorem Accepted.alone {flags : Int} {rules : List CompiledRule}
    (accepted : Accepted config candidates set flags rules)
    (quiet : (Flags.ofInt flags).has .verbose = false)
    (plain : ∀ source ∈ candidates.filterMap (Candidate.source? config),
      isPlainSource source = true) :
    ∃ alone, List.Forall₂ (fun source pattern =>
        Pattern.compile .text source ((Flags.ofInt flags).insert .multiLine).bits = .ok pattern)
        (htmlBreak.patternText :: candidates.filterMap (Candidate.source? config)) alone ∧
      List.Forall₂ (CompiledRule.Alone set.pattern.flags) set.rules alone ∧
      set.pattern.regex = Regex.ofAlternatives
        (List.zipWith (fun rule pattern => rule.around pattern.regex) set.rules alone) := by
  have places := accepted.settled quiet plain
  obtain ⟨parsers, standings⟩ := (accepted.seated quiet plain).standings
  have quiet := Flags.has_verbose_insert quiet
  have some : set.rules ≠ [] := by rw [accepted.order]; nofun
  obtain ⟨settles, regex⟩ :=
    Pattern.regex_of_joined places standings some quiet accepted.compiled
  obtain ⟨_, parsed⟩ := Pattern.compile_eq_ok_iff.mp accepted.compiled
  have checks := parsed.checks
  rw [regex] at checks
  obtain ⟨alone, compiles, stands, same⟩ := places.alone standings quiet settles parsed.fits
    (Regex.check_ofAlternatives_iff.mp checks)
  exact ⟨alone, compiles, stands, regex.trans (congrArg _ same)⟩

/-- Composition preserves the meaning of plain rules. The pattern of an accepted table matches at a
place if and only if the pattern for markup line breaks or the pattern text of a rule, compiled by
itself, does; the last group of the match is that of the first rule to do so, and the span of the
match and the groups of the rule are those of the rule's own match. -/
theorem composition_preserves_rules (accepted : ofTable config (some candidates) = .ok set)
    (quiet : ∀ flags, config.flags.toInt? = some flags → (Flags.ofInt flags).has .verbose = false)
    (plain : ∀ source ∈ candidates.filterMap (Candidate.source? config),
      isPlainSource source = true) :
    ∃ (flags : Int) (alone : List Pattern), config.flags.toInt? = some flags ∧
      List.Forall₂ (fun source pattern =>
        Pattern.compile .text source ((Flags.ofInt flags).insert .multiLine).bits = .ok pattern)
        (htmlBreak.patternText :: candidates.filterMap (Candidate.source? config)) alone ∧
      ∀ text start nonempty,
        ((set.pattern.matchAt? text start nonempty).isSome ↔
          ∃ pattern ∈ alone, (pattern.matchAt? text start nonempty).isSome) ∧
        ∀ found, set.pattern.matchAt? text start nonempty = some found →
          ∃ place rule pattern own, set.rules[place]? = some rule ∧
            Pattern.IsFirst alone text start nonempty place pattern own ∧
            pattern.groups = rule.captures ∧ found.MadeOf rule own := by
  obtain ⟨_, flags, rules, given, accepted⟩ := accepted_of_ofTable accepted
  cases given
  obtain ⟨alone, compiles, stands, regex⟩ := accepted.alone (quiet flags accepted.number) plain
  refine ⟨flags, alone, accepted.number, compiles, fun text start nonempty => ?_⟩
  have some : set.rules ≠ [] := by rw [accepted.order]; nofun
  rw [Pattern.matchAt?_joined some stands regex text start nonempty]
  exact ⟨firstMatch?_isSome_iff stands, fun found matched => madeOf_of_firstMatch? stands matched⟩

theorem composition_of_referringTable :
    (referringTable.filterMap (Candidate.source? {})).all isPlainSource = true ∧
      ∃ alone : List Pattern, alone.length = referringSet.rules.length ∧
        ∀ text start nonempty, (referringSet.pattern.matchAt? text start nonempty).isSome ↔
          ∃ pattern ∈ alone, (pattern.matchAt? text start nonempty).isSome := by
  refine ⟨rfl, ?_⟩
  obtain ⟨flags, alone, -, compiles, same⟩ := composition_preserves_rules ofTable_referringTable
    (by rintro flags ⟨⟩; rfl) (List.all_eq_true.mp rfl)
  exact ⟨alone, compiles.length_eq.symm, fun text start nonempty => (same text start nonempty).1⟩

end RuleSet

end RuleLexer
