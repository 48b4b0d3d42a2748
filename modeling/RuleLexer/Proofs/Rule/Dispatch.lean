import Mathlib.Data.List.Forall2
import RuleLexer.Proofs.Regex.Numbering
import RuleLexer.Proofs.Rule.Assembly
import RuleLexer.Proofs.Scan.Coverage

namespace RuleLexer

namespace Regex

def alternatives : Regex → List Regex
  | .alt first second => first :: second.alternatives
  | regex => [regex]

theorem flatMap_groupNumbers_alternatives (regex : Regex) :
    regex.alternatives.flatMap groupNumbers = regex.groupNumbers := by
  fun_induction alternatives regex <;> simp_all [groupNumbers]

theorem run_alternatives (text : Array Char) (regex : Regex) (mode : Mode) (cursor : Cursor)
    (next : Continuation) : regex.run text mode cursor next =
      regex.alternatives.findSome? fun choice => choice.run text mode cursor next := by
  fun_induction alternatives regex with
  | case1 first second ih =>
    simp only [run, ih, List.findSome?_cons]
    cases first.run text mode cursor next <;> rfl
  | case2 regex => simp

theorem alternatives_ofAlternatives {choices : List Regex} (some : choices ≠ [])
    (groups : ∀ choice ∈ choices, ∃ index body, choice = .group index body) :
    (ofAlternatives choices).alternatives = choices := by
  induction choices with
  | nil => exact absurd rfl some
  | cons choice choices ih =>
    obtain ⟨index, body, rfl⟩ := groups choice List.mem_cons_self
    cases choices with
    | nil => rfl
    | cons second others =>
      have rest := ih nofun fun choice member => groups choice (List.mem_cons_of_mem _ member)
      exact congrArg _ rest

end Regex

def Pattern.only (pattern : Pattern) (choice : Regex) : Pattern :=
  { pattern with regex := choice }

theorem Pattern.matchAt?_alternatives (pattern : Pattern) (text : Array Char) (start : Nat)
    (nonempty : Bool) : pattern.matchAt? text start nonempty =
      pattern.regex.alternatives.findSome? fun choice =>
        (pattern.only choice).matchAt? text start nonempty := by
  simp only [matchAt?, Regex.run_alternatives text pattern.regex, List.map_findSome?]
  rfl

theorem Pattern.lastGroup_of_group {pattern : Pattern} {index : Nat} {body : Regex}
    {text : Array Char} {start : Nat} {nonempty : Bool} {found : Match} (inside : start ≤ text.size)
    (matched : (pattern.only (.group index body)).matchAt? text start nonempty = some found) :
    found.lastGroup = some index := by
  obtain ⟨last, answered, rfl⟩ := Option.map_eq_some_iff.mp matched
  -- The last thing that the run does is to close the group.
  obtain ⟨reached, -, -, accepted⟩ := Regex.run_proceeds text body _ _ _ _ inside answered
  dsimp only at accepted
  split at accepted
  · cases accepted
  · cases accepted
    rfl

/-- The groups of the rules follow one another, from behind `offset` groups up to `total`. -/
def Consecutive : Nat → List CompiledRule → Nat → Prop
  | offset, [], total => total = offset
  | offset, rule :: rules, total =>
    rule.groupIndex = offset + 1 ∧ Consecutive (offset + rule.captures + 1) rules total

theorem Places.consecutive {flags : Int} {offset total : Nat} {sources : List (List Char)}
    {rules : List CompiledRule} (places : Places (Placed flags) offset sources rules total) :
    Consecutive offset rules total := by
  induction places with
  | nil offset => rfl
  | cons placed rest ih => exact ⟨placed.groupIndex, ih⟩

theorem RuleSet.Accepted.consecutive {config : Config} {candidates : List Candidate}
    {set : RuleSet} {flags : Int} {rules : List CompiledRule}
    (accepted : Accepted config candidates set flags rules) :
    Consecutive 0 set.rules set.pattern.groups := by
  rw [accepted.order]
  exact ⟨rfl, accepted.places.consecutive⟩

namespace CompiledRule

/-- The alternative is the rule's group, and the groups inside are those that were counted. -/
def Heads (rule : CompiledRule) (choice : Regex) : Prop :=
  ∃ body, choice = .group rule.groupIndex body ∧ body.groupCount = rule.captures

/-- The alternative is a group, and there are no fewer groups inside than were counted. -/
def NotOvercounted (rule : CompiledRule) (choice : Regex) : Prop :=
  ∃ index body, choice = .group index body ∧ rule.captures ≤ body.groupCount

end CompiledRule

variable {offset total : Nat} {rules : List CompiledRule} {choices : List Regex}

theorem Consecutive.total_le (consecutive : Consecutive offset rules total)
    (fits : List.Forall₂ CompiledRule.NotOvercounted rules choices) :
    total ≤ offset + (choices.flatMap Regex.groupNumbers).length := by
  induction fits generalizing offset with
  | nil => exact Nat.le_of_eq consecutive
  | cons fit _ ih =>
    obtain ⟨index, body, rfl, atMost⟩ := fit
    have rest := ih consecutive.2
    simp only [List.flatMap_cons, List.length_append, Regex.groupNumbers, List.length_cons,
      Regex.length_groupNumbers]
    omega

theorem Consecutive.heads (consecutive : Consecutive offset rules total)
    (fits : List.Forall₂ CompiledRule.NotOvercounted rules choices)
    (numbers : choices.flatMap Regex.groupNumbers = List.range' (offset + 1) (total - offset)) :
    List.Forall₂ CompiledRule.Heads rules choices := by
  induction fits generalizing offset with
  | nil => exact .nil
  | @cons rule choice rules choices fit fits ih =>
    obtain ⟨index, body, rfl, atMost⟩ := fit
    obtain ⟨place, consecutive⟩ := consecutive
    -- The rules behind this one take up at least their counts, so the total leaves this one no more
    -- groups than its own count, and it has no fewer.
    have enough := consecutive.total_le fits
    have length := congrArg List.length numbers
    simp only [List.flatMap_cons, List.length_append, Regex.groupNumbers, List.length_cons,
      Regex.length_groupNumbers, List.length_range'] at length
    have counted : body.groupCount = rule.captures := by omega
    have split : total - offset = rule.captures + 1 + (total - (offset + rule.captures + 1)) := by
      omega
    rw [split, ← List.range'_append_1, List.flatMap_cons] at numbers
    have own : (Regex.group index body).groupNumbers.length = rule.captures + 1 := by
      simp [Regex.groupNumbers, Regex.length_groupNumbers, counted]
    obtain ⟨here, later⟩ := List.append_inj numbers (by simp [own])
    simp only [Regex.groupNumbers, List.range'_succ, List.cons.injEq] at here
    obtain ⟨rfl, -⟩ := here
    refine .cons ⟨body, by rw [place], counted⟩ (ih consecutive ?_)
    rw [later]
    congr 1
    omega

theorem Consecutive.offset_lt (consecutive : Consecutive offset rules total)
    {rule : CompiledRule} (member : rule ∈ rules) : offset < rule.groupIndex := by
  induction rules generalizing offset with
  | nil => cases member
  | cons first rules ih =>
    rcases List.mem_cons.mp member with rfl | later
    · rw [consecutive.1]
      exact Nat.lt_succ_self _
    · have behind := ih consecutive.2 later
      omega

theorem Consecutive.groupIndex_ne (consecutive : Consecutive offset rules total)
    {before after : List CompiledRule} {rule : CompiledRule}
    (order : rules = before ++ rule :: after)
    {other : CompiledRule} (member : other ∈ before) : other.groupIndex ≠ rule.groupIndex := by
  induction before generalizing offset rules with
  | nil => cases member
  | cons first before ih =>
    rw [order] at consecutive
    rcases List.mem_cons.mp member with rfl | later
    · have behind := consecutive.2.offset_lt (show rule ∈ before ++ rule :: after by simp)
      have here := consecutive.1
      omega
    · exact ih consecutive.2 rfl later

theorem RuleSet.ruleForGroup?_groupIndex {set : RuleSet}
    (consecutive : Consecutive 0 set.rules total) {before after : List CompiledRule}
    {rule : CompiledRule} (order : set.rules = before ++ rule :: after) :
    set.ruleForGroup? (some (Int.ofNat rule.groupIndex)) = some rule := by
  have others : before.find? (fun other => (other.groupIndex : Int) == Int.ofNat rule.groupIndex)
      = none := by
    refine List.find?_eq_none.mpr fun other member same => ?_
    have same : (other.groupIndex : Int) = rule.groupIndex := by simpa using same
    exact consecutive.groupIndex_ne order member (Int.ofNat_inj.mp same)
  simp only [ruleForGroup?, Option.bind_some, order, List.find?_append, others, Option.none_or]
  exact List.find?_cons_of_pos (by simp)

namespace RuleSet

def Agrees (set : RuleSet) : Prop :=
  List.Forall₂ CompiledRule.Heads set.rules set.pattern.regex.alternatives

/-- The match at a place was made by the rule at `place` of the table, whose group has this body:
its alternative is the first one to match, and the last group of the match leads to it. -/
structure MadeBy (set : RuleSet) (text : Array Char) (start : Nat) (nonempty : Bool) (found : Match)
    (place : Nat) (rule : CompiledRule) (body : Regex) : Prop where
  placed : set.rules[place]? = some rule
  alternative : set.pattern.regex.alternatives[place]? = some (.group rule.groupIndex body)
  captures : body.groupCount = rule.captures
  matched : (set.pattern.only (.group rule.groupIndex body)).matchAt? text start nonempty = some found
  first : ∀ earlier choice, earlier < place →
    set.pattern.regex.alternatives[earlier]? = some choice →
      (set.pattern.only choice).matchAt? text start nonempty = none
  lastGroup : found.lastGroup = some rule.groupIndex
  dispatched : set.ruleForGroup? (found.lastGroup.map Int.ofNat) = some rule

theorem madeBy_of_agrees {set : RuleSet} (consecutive : Consecutive 0 set.rules total)
    (agrees : set.Agrees) {text : Array Char} {start : Nat} {nonempty : Bool} {found : Match}
    (inside : start ≤ text.size)
    (matched : set.pattern.matchAt? text start nonempty = some found) :
    ∃ place rule body, set.MadeBy text start nonempty found place rule body := by
  rw [Pattern.matchAt?_alternatives] at matched
  obtain ⟨before, choice, after, order, matched, missed⟩ := List.findSome?_eq_some_iff.mp matched
  have pairs : List.Forall₂ CompiledRule.Heads set.rules (before ++ choice :: after) :=
    order ▸ agrees
  have behind := List.forall₂_drop_append _ _ _ pairs
  cases remaining : set.rules.drop before.length with
  | nil =>
    rw [remaining] at behind
    cases behind
  | cons rule others =>
    rw [remaining] at behind
    obtain ⟨body, rfl, captures⟩ := (List.forall₂_cons.mp behind).1
    have split : set.rules = set.rules.take before.length ++ rule :: others := by
      rw [← remaining, List.take_append_drop]
    have lastGroup := Pattern.lastGroup_of_group inside matched
    have placed : set.rules[before.length]? = some rule := by
      rw [← List.head?_drop, remaining, List.head?_cons]
    refine ⟨before.length, rule, body, placed, by simp [order], captures, matched, ?_, lastGroup, ?_⟩
    · intro earlier choice earlierThan found
      rw [order, List.getElem?_append_left earlierThan] at found
      exact missed choice (List.mem_of_getElem? found)
    · rw [lastGroup]
      exact ruleForGroup?_groupIndex consecutive split

theorem agrees_iff {config : Config} {candidates : List Candidate} {set : RuleSet} {flags : Int}
    (accepted : Accepted config candidates set flags rules) : set.Agrees ↔
      List.Forall₂ CompiledRule.NotOvercounted set.rules set.pattern.regex.alternatives := by
  constructor
  · refine List.Forall₂.imp fun rule choice heads => ?_
    obtain ⟨body, same, counted⟩ := heads
    exact ⟨rule.groupIndex, body, same, Nat.le_of_eq counted.symm⟩
  · intro fits
    refine accepted.consecutive.heads fits ?_
    rw [Regex.flatMap_groupNumbers_alternatives]
    exact Pattern.groupNumbers_of_compile accepted.compiled

/-- Dispatch by the last group of a match. For an accepted table the records of the rules agree with
the pattern exactly if no rule was counted to have more groups than it has. Then every match is made
by the rule that its last group leads to, and a scan never stops for want of a rule. -/
theorem dispatch_agrees_iff {config : Config} {table : Option (List Candidate)} {set : RuleSet}
    (accepted : ofTable config table = .ok set) :
    (set.Agrees ↔
      List.Forall₂ CompiledRule.NotOvercounted set.rules set.pattern.regex.alternatives) ∧
    (set.Agrees → ∀ text start nonempty found, start ≤ text.size →
      set.pattern.matchAt? text start nonempty = some found →
        ∃ place rule body, set.MadeBy text start nonempty found place rule body) ∧
    (set.Agrees → ∀ config text context,
      (∀ rule ∈ set.rules, ∀ callback, rule.callback = some callback →
        ∀ captures state, (callback captures state).AlwaysReturns) →
      (∀ handler, config.onSkip = some handler → ∀ skipped, handler skipped = none) →
        ∃ result after, (set.scan config text).Returns context result after) := by
  obtain ⟨candidates, flags, rules, -, accepted⟩ := accepted_of_ofTable accepted
  refine ⟨agrees_iff accepted, ?_, ?_⟩
  · intro agrees text start nonempty found inside matched
    exact madeBy_of_agrees accepted.consecutive agrees inside matched
  · intro agrees config text context returning quiet
    refine scan_returns_of_dispatched context returning quiet fun found member => ?_
    obtain ⟨inside, nonempty, matched⟩ := Pattern.matchAt?_of_mem_matches member
    obtain ⟨place, rule, body, made⟩ :=
      madeBy_of_agrees accepted.consecutive agrees inside matched
    simp [made.dispatched]

end RuleSet

def Candidate.ofPattern (name source : String) (regex : Regex) (groups : Nat) : Candidate :=
  .rule (.text name) (.pattern ⟨source.toList, regex, groups, [], .ofList [.unicode]⟩)
    (.value .null) (.bool false)

def referringTable : List Candidate :=
  [.ofPattern "A" "(a)\\1" (.seq (.group 1 (.char 97)) (.backref 1)) 1,
    .ofPattern "B" "(b)?(?(1)c|d)"
      (.seq (.repeated .greedy 0 (some 1) (.group 1 (.char 98)))
        (.conditional 1 (.char 99) (.char 100))) 1]

def referringSet : RuleSet where
  rules := [htmlBreak, ⟨"A", "(a)\\3".toList, none, false, 1, 2⟩,
    ⟨"B", "(b)?(?(5)c|d)".toList, none, false, 1, 4⟩]
  pattern :=
    { source := "(<br\\s*/?\\s*>)|((a)\\3)|((b)?(?(5)c|d))".toList
      regex := .alt (.group 1 htmlBreakTree)
        (.alt (.group 2 (.seq (.group 3 (.char 97)) (.backref 3)))
          (.group 4 (.seq (.repeated .greedy 0 (some 1) (.group 5 (.char 98)))
            (.conditional 5 (.char 99) (.char 100)))))
      groups := 5
      names := []
      flags := .ofList [.unicode, .multiLine] }

theorem ofTable_referringTable : RuleSet.ofTable {} (some referringTable) = .ok referringSet := rfl

theorem referringSet_agrees : RuleSet.ofTable {} (some referringTable) = .ok referringSet ∧
    referringSet.Agrees := by
  refine ⟨rfl, (RuleSet.dispatch_agrees_iff ofTable_referringTable).1.mpr ?_⟩
  exact .cons ⟨1, _, rfl, by decide⟩
    (.cons ⟨2, _, rfl, by decide⟩ (.cons ⟨4, _, rfl, by decide⟩ .nil))

/-- Two rules whose groups are counted wrong: one too many in the first pattern, where a comment
goes on behind an escaped parenthesis, and one too few in the second. -/
def offsettingTable : List Candidate :=
  [.ofPattern "A" "(?#\\)()x" (.char 120) 0,
    .ofPattern "B" "(?#\\)[)(y)[z]" (.seq (.group 1 (.char 121)) (.set false [.char 122])) 1]

def offsettingSet : RuleSet where
  rules := [htmlBreak, ⟨"A", "(?#\\)()x".toList, none, false, 1, 2⟩,
    ⟨"B", "(?#\\)[)(y)[z]".toList, none, false, 0, 4⟩]
  pattern :=
    { source := "(<br\\s*/?\\s*>)|((?#\\)()x)|((?#\\)[)(y)[z])".toList
      regex := .alt (.group 1 htmlBreakTree) (.alt (.group 2 (.char 120))
        (.group 3 (.seq (.group 4 (.char 121)) (.set false [.char 122]))))
      groups := 4
      names := []
      flags := .ofList [.unicode, .multiLine] }

/-- Counts that are wrong in opposite directions pass the comparison of the totals: the table is
accepted, and a scan finds no rule for a match of its second one. -/
theorem offsettingTable_undispatched :
    RuleSet.ofTable {} (some offsettingTable) = .ok offsettingSet ∧ ¬offsettingSet.Agrees ∧
      ∀ context, ∃ after, (offsettingSet.scan {} "yz").run context =
        (.error (.unknownGroup (some 3)), after) := by
  refine ⟨rfl, ?_, fun context => ⟨_, rfl⟩⟩
  intro agrees
  obtain ⟨body, same, counted⟩ := (List.forall₂_cons.mp (List.forall₂_cons.mp agrees).2).1
  cases same
  cases counted

end RuleLexer
