import RuleLexer.Proofs.Scan.Coverage
import RuleLexer.Proofs.Scan.Position
import RuleLexer.Rule.Action

namespace RuleLexer

/-- The callback has left the position where it found it. -/
def Visit.Stays (visit : Visit) : Prop :=
  visit.left.position = visit.entered.position

/-- The state behind some visits: what the last callback has left, moved over its match unless the
callback says that it has moved the position itself. -/
def stateBehind (visits : List Visit) : ScanState :=
  match visits.getLast? with
  | some visit => visit.left.passMatch (visit.found.stop - visit.found.start)
  | none => {}

theorem Visit.position_of_token {visit : Visit} {token : Token} (made : visit.token = some token) :
    token.position = visit.left.position := by
  unfold Visit.token Scanner.tokenOf at made
  grind

theorem Visit.token_stands_iff {visit : Visit} {token : Token} (made : visit.token = some token) :
    token.position = visit.entered.position ↔ visit.Stays := by
  rw [position_of_token made]
  rfl

theorem Visit.tokens_stand_iff (visits : List Visit) :
    (visits.filterMap Visit.token).map Token.position =
        (visits.filter (·.token.isSome)).map (·.entered.position) ↔
      ∀ visit ∈ visits, visit.token.isSome → visit.Stays := by
  induction visits with
  | nil => exact ⟨fun _ _ member => absurd member List.not_mem_nil, fun _ => rfl⟩
  | cons visit visits ih =>
    rw [List.forall_mem_cons]
    cases made : visit.token with
    | none =>
      rw [List.filterMap_cons_none made, List.filter_cons_of_neg (by simp [made]), ih]
      simp
    | some token =>
      rw [List.filterMap_cons_some made, List.filter_cons_of_pos (by simp [made])]
      simp only [List.map_cons, List.cons.injEq, ih, token_stands_iff made]
      simp

namespace Scanner

variable {scanner last : Scanner} {visit : Visit} {visits earlier later : List Visit}
  {before after : Context}

structure Carries (scanner : Scanner) (visits : List Visit) : Prop where
  state : scanner.state = stateBehind visits
  follows : scanner.Follows visits

theorem Visits.carries (visited : scanner.Visits before visit after) (earlier : List Visit) :
    (scanner.passVisit visit).Carries (earlier ++ [visit]) where
  state := by
    simp only [stateBehind, List.getLast?_concat]
    rfl
  follows := visited.follows earlier

theorem Carries.entered (carries : scanner.Carries earlier)
    (visited : scanner.Visits before visit after) :
    visit.entered = (stateBehind earlier).skip (visit.found.start - lastStop earlier) := by
  have reached := visited.finds.reached
  rw [carries.follows.aligned, carries.follows.position] at reached
  rw [visited.entered, entering, carries.follows.position, carries.state]
  split
  · rfl
  · have same : visit.found.start - lastStop earlier = 0 := by omega
    simp [same, ScanState.skip]

structure Enters (text : Array Char) (earlier : List Visit) (visit : Visit) : Prop where
  entered : visit.entered = (stateBehind earlier).skip (visit.found.start - lastStop earlier)
  called : ∀ callback, visit.rule.callback = some callback → ∃ before after,
    (callback (capturesOf text visit.rule visit.found) visit.entered).Returns before
      (visit.content, visit.left) after
  uncalled : visit.rule.callback = none → visit.left = visit.entered

theorem Carries.enters (carries : scanner.Carries earlier)
    (visited : scanner.Visits before visit after) :
    Enters scanner.text earlier visit where
  entered := carries.entered visited
  called := by
    intro callback given
    obtain ⟨middle, -, called⟩ := visited.called
    rw [contentOf, given] at called
    exact ⟨middle, after, called⟩
  uncalled := by
    intro none
    rcases visited.called_cases with ⟨callback, _, _, given, -⟩ | ⟨-, same⟩
    · cases none.symm.trans given
    · exact same

theorem Trace.enters (trace : Trace before scanner visits after last)
    (carries : scanner.Carries earlier) {front back : List Visit}
    (split : visits = front ++ visit :: back) :
    Enters scanner.text (earlier ++ front) visit := by
  induction trace generalizing earlier front with
  | nil => simp at split
  | @cons _ _ _ scanner _ first visits visited _ ih =>
    cases front with
    | nil =>
      obtain ⟨rfl, -⟩ := List.cons.inj split
      rw [List.append_nil]
      exact carries.enters visited
    | cons head front =>
      obtain ⟨rfl, rest⟩ := List.cons.inj split
      have enters := ih (visited.carries earlier) rest
      rwa [List.append_assoc] at enters

end Scanner

namespace RuleSet

theorem scanner_carries_nil (set : RuleSet) (config : Config) (text : String) :
    (set.scanner config text).Carries [] :=
  ⟨rfl, set.scanner_follows_nil config text⟩

/-- The positions of tokens, for any callbacks. At every place that the loop reaches, the next
callback is given the state that the visits before have left behind, and a token stands where its own
callback leaves the position. So it stands where its match was reached exactly if its callback has
not moved the position, and without a callback it always does. The tokens of a scan that returns are
those of its visits. -/
theorem scan_token_positions (set : RuleSet) (config : Config) (text : String)
    (context : Context) :
    (∀ visits reached scanner,
      Scanner.Trace context (set.scanner config text) visits reached scanner →
      ∀ earlier visit later, visits = earlier ++ visit :: later →
        Scanner.Enters text.toList.toArray earlier visit ∧
        (visit.rule.callback = none → visit.Stays) ∧
        ∀ token, visit.token = some token → token.position = visit.left.position ∧
          (token.position = visit.entered.position ↔ visit.Stays)) ∧
    (∀ result after, (set.scan config text).Returns context result after →
      ∃ visits middle scanner,
        Scanner.Trace context (set.scanner config text) visits middle scanner ∧
        result.tokens = visits.filterMap Visit.token ∧
        (result.tokens.map Token.position =
            (visits.filter (·.token.isSome)).map (·.entered.position) ↔
          ∀ visit ∈ visits, visit.token.isSome → visit.Stays)) := by
  refine ⟨?_, ?_⟩
  · intro visits reached scanner trace earlier visit later split
    have enters := trace.enters (set.scanner_carries_nil config text) split
    refine ⟨enters, fun none => congrArg _ (enters.uncalled none), fun token made => ?_⟩
    exact ⟨Visit.position_of_token made, Visit.token_stands_iff made⟩
  · intro result after returned
    obtain ⟨visits, trailing, ⟨middle, stopped, _, completes, -⟩, tokens, -⟩ :=
      scan_returns_iff.mp ⟨after, returned⟩
    refine ⟨visits, middle, stopped, completes.trace, tokens, ?_⟩
    rw [tokens]
    exact Visit.tokens_stand_iff visits

end RuleSet

def movingTable : List Candidate :=
  [.rule (.text "A") (.value (.text "a"))
    (.callback (Action.callback "A" (.move none none 1 0 true (.text "x")))) (.bool false)]

def movingSet : RuleSet where
  rules := [htmlBreak,
    ⟨"A", ['a'], some (Action.callback "A" (.move none none 1 0 true (.text "x"))), false, 0, 2⟩]
  pattern :=
    { source := "(<br\\s*/?\\s*>)|(a)".toList
      regex := .alt (.group 1 htmlBreakTree) (.group 2 (.char 97))
      groups := 2
      names := []
      flags := .ofList [.unicode, .multiLine] }

def movingVisit (start : Nat) (line : Int) : Visit where
  found := ⟨start, start + 1, [(2, ⟨start, start + 1⟩)], some 2⟩
  rule :=
    ⟨"A", ['a'], some (Action.callback "A" (.move none none 1 0 true (.text "x"))), false, 0, 2⟩
  position := start
  gap := none
  entered := ⟨line, 1, false⟩
  content := .text "x"
  left := ⟨line + 1, 1, true⟩

def movingContext : Nat → Context
  | 0 => {}
  | line + 1 => (movingContext line).emit (.called "A" [] ⟨line + 1, 1, false⟩)

theorem movingSet_visits : (movingSet.scanner {} "a").Visits {} (movingVisit 0 1) (movingContext 1) :=
  ⟨rfl, rfl, rfl, rfl, rfl, _, rfl, rfl⟩

theorem movingSet_trace :
    Scanner.Trace {} (movingSet.scanner {} "aa") [movingVisit 0 1, movingVisit 1 2] (movingContext 2)
      (((movingSet.scanner {} "aa").passVisit (movingVisit 0 1)).passVisit (movingVisit 1 2)) := by
  have first : (movingSet.scanner {} "aa").Visits {} (movingVisit 0 1) (movingContext 1) :=
    ⟨rfl, rfl, rfl, rfl, rfl, _, rfl, rfl⟩
  have second : ((movingSet.scanner {} "aa").passVisit (movingVisit 0 1)).Visits (movingContext 1)
      (movingVisit 1 2) (movingContext 2) :=
    ⟨rfl, rfl, rfl, rfl, rfl, _, rfl, rfl⟩
  exact .cons first (.cons second .nil)

namespace RuleSet

theorem scan_token_positions_moving :
    Scanner.Enters "aa".toList.toArray [movingVisit 0 1] (movingVisit 1 2) ∧
      (∃ token, (movingVisit 1 2).token = some token ∧ token.position = ⟨3, 1⟩) ∧
      ¬(movingVisit 1 2).Stays ∧
      ∃ result after, ∃ visits : List Visit, (movingSet.scan {} "aa").Returns {} result after ∧
        result.tokens = visits.filterMap Visit.token := by
  obtain ⟨reached, returned⟩ := scan_token_positions movingSet {} "aa" {}
  obtain ⟨enters, -, stands⟩ := reached _ _ _ movingSet_trace [movingVisit 0 1] _ [] rfl
  obtain ⟨result, after, scanned⟩ :
      ∃ result after, (movingSet.scan {} "aa").Returns {} result after := ⟨_, _, rfl⟩
  obtain ⟨visits, _, _, -, tokens, -⟩ := returned result after scanned
  refine ⟨enters, ⟨_, rfl, rfl⟩, ?_, result, after, visits, scanned, tokens⟩
  intro stays
  have same := (stands _ rfl).2.mpr stays
  cases same

/-- The table is accepted. Its first match is reached at line 1, column 1, and the token of that
match stands on line 2. -/
theorem scan_moves_token :
    ofTable {} (some movingTable) = .ok movingSet ∧
      (∃ after last, Scanner.Trace {} (movingSet.scanner {} "a") [movingVisit 0 1] after last) ∧
      (movingVisit 0 1).entered.position = ⟨1, 1⟩ ∧
      (movingVisit 0 1).token.map Token.position = some ⟨2, 1⟩ ∧
      ∃ result after, (movingSet.scan {} "a").Returns {} result after ∧
        result.tokens.map Token.position = [⟨2, 1⟩] :=
  ⟨rfl, ⟨_, _, .cons movingSet_visits .nil⟩, rfl, rfl, _, _, rfl, rfl⟩

end RuleSet

end RuleLexer
