import RuleLexer.Proofs.Scan.Trace

namespace RuleLexer

/-- A callback that changes the line or the column marks the state as updated. -/
def Callback.MovesOpenly (callback : Callback) : Prop :=
  ∀ captures state before content left after,
    (callback captures state).Returns before (content, left) after →
      left.line ≠ state.line ∨ left.column ≠ state.column → left.updated = true

theorem lineBreak_movesOpenly : Callback.MovesOpenly lineBreak := by
  intro captures state before content left after returned _
  obtain ⟨-, rfl, -⟩ := lineBreak_returns_iff.mp returned
  rfl

def Visit.hasCallback (visit : Visit) : Bool :=
  visit.rule.callback.isSome

/-- The position that was set last, and the offset for which it was set. -/
structure Mark where
  line : Int
  column : Int
  offset : Nat
deriving DecidableEq, Repr

namespace Mark

def start : Mark := ⟨1, 1, 0⟩

def pass (mark : Mark) (visit : Visit) : Mark :=
  if visit.left.updated then ⟨visit.left.line, visit.left.column, visit.found.stop⟩ else mark

def after (visits : List Visit) : Mark :=
  visits.foldl pass start

def stateAt (mark : Mark) (offset : Nat) : ScanState :=
  ⟨mark.line, mark.column + (offset - mark.offset), false⟩

/-- The visit is reported where the mark before it says. -/
structure Places (mark : Mark) (text : Array Char) (visit : Visit) : Prop where
  entered : visit.entered = mark.stateAt visit.found.start
  token : visit.left.updated = false → ∀ token, visit.token = some token →
    token.position = (mark.stateAt visit.found.start).position
  gap : ∀ gap, visit.gap = some gap →
    gap.position = (mark.stateAt visit.position).position ∧
      gap.text = sliceText text visit.position visit.found.start

end Mark

namespace Scanner

/-- The scanner stands behind a mark, and its search where its last match ended. -/
structure Behind (scanner : Scanner) (mark : Mark) : Prop where
  aligned : scanner.search.position = scanner.position
  offset : mark.offset ≤ scanner.position
  state : scanner.state = mark.stateAt scanner.position

theorem Behind.gap {scanner : Scanner} {mark : Mark} (behind : scanner.Behind mark) {stop : Nat}
    {gap : SkippedText} (skipped : scanner.gapTo stop = some gap) :
    gap.position = (mark.stateAt scanner.position).position ∧
      gap.text = sliceText scanner.text scanner.position stop := by
  unfold gapTo at skipped
  split at skipped
  · cases skipped
    refine ⟨?_, rfl⟩
    rw [← behind.state]
    rfl
  · cases skipped

theorem Behind.entering {scanner : Scanner} {mark : Mark} (behind : scanner.Behind mark)
    {stop : Nat} (ahead : scanner.position ≤ stop) : scanner.entering stop = mark.stateAt stop := by
  unfold Scanner.entering
  split
  · rw [behind.state]
    simp only [ScanState.skip, Mark.stateAt, ScanState.mk.injEq, and_true, true_and]
    omega
  · have same : stop = scanner.position := by omega
    rw [behind.state, same]

variable {scanner last : Scanner} {mark : Mark} {visit : Visit} {visits : List Visit}
  {before after : Context}

theorem Visits.rule_mem (visited : scanner.Visits before visit after) :
    visit.rule ∈ scanner.set.rules := by
  obtain ⟨index, -, found⟩ := Option.bind_eq_some_iff.mp visited.rule
  exact List.mem_of_find?_eq_some found

theorem Visits.called_cases (visited : scanner.Visits before visit after) :
    (∃ callback captures middle, visit.rule.callback = some callback ∧
      (callback captures visit.entered).Returns middle (visit.content, visit.left) after) ∨
    (visit.rule.callback = none ∧ visit.left = visit.entered) := by
  obtain ⟨middle, -, called⟩ := visited.called
  unfold contentOf at called
  cases given : visit.rule.callback with
  | some callback =>
    rw [given] at called
    exact .inl ⟨callback, _, middle, rfl, called⟩
  | none =>
    rw [given] at called
    obtain ⟨same, -⟩ := Run.returns_pure.mp called
    exact .inr ⟨rfl, congrArg Prod.snd same⟩

theorem Visits.left_position (visited : scanner.Visits before visit after)
    (openly : ∀ rule ∈ scanner.set.rules, ∀ callback, rule.callback = some callback →
      Callback.MovesOpenly callback)
    (still : visit.left.updated = false) :
    visit.left.line = visit.entered.line ∧ visit.left.column = visit.entered.column := by
  rcases visited.called_cases with ⟨callback, captures, middle, given, called⟩ | ⟨-, same⟩
  · have moves := openly _ visited.rule_mem callback given _ _ _ _ _ _ called
    have unmoved := mt moves (by simp [still])
    simpa using unmoved
  · exact ⟨congrArg _ same, congrArg _ same⟩

theorem Behind.of_visit (behind : scanner.Behind mark) (visited : scanner.Visits before visit after)
    (openly : ∀ rule ∈ scanner.set.rules, ∀ callback, rule.callback = some callback →
      Callback.MovesOpenly callback) :
    mark.Places scanner.text visit ∧ (scanner.passVisit visit).Behind (mark.pass visit) := by
  have finds := visited.finds
  have ahead : scanner.position ≤ visit.found.start := behind.aligned ▸ finds.reached
  have forward := finds.forward
  have entered : visit.entered = mark.stateAt visit.found.start :=
    visited.entered.trans (behind.entering ahead)
  refine ⟨⟨entered, ?_, ?_⟩, rfl, ?_, ?_⟩
  · intro still token made
    obtain ⟨sameLine, sameColumn⟩ := visited.left_position openly still
    have position : token.position = visit.left.position := by
      unfold Visit.token tokenOf at made
      grind
    rw [position, ← entered]
    simp only [ScanState.position, sameLine, sameColumn]
  · intro gap skipped
    rw [visited.gap] at skipped
    rw [visited.position]
    exact behind.gap skipped
  · have offset := behind.offset
    unfold Mark.pass
    split
    · exact Nat.le_refl _
    · change mark.offset ≤ visit.found.stop
      omega
  · unfold passVisit Mark.pass ScanState.passMatch
    cases updated : visit.left.updated with
    | true => simp [Mark.stateAt]
    | false =>
      -- The loop adds the length of the match to a column that it has moved over the gap before.
      obtain ⟨sameLine, sameColumn⟩ := visited.left_position openly updated
      simp only [Bool.false_eq_true, if_false, ScanState.skip, Mark.stateAt, updated, sameLine,
        sameColumn, entered, ScanState.mk.injEq, and_true, true_and]
      omega

theorem Trace.behind (trace : Trace before scanner visits after last) (behind : scanner.Behind mark)
    (openly : ∀ rule ∈ scanner.set.rules, ∀ callback, rule.callback = some callback →
      Callback.MovesOpenly callback) :
    (∀ earlier visit later, visits = earlier ++ visit :: later →
      (earlier.foldl Mark.pass mark).Places scanner.text visit) ∧
      last.Behind (visits.foldl Mark.pass mark) := by
  induction trace generalizing mark with
  | nil => exact ⟨by simp, behind⟩
  | @cons _ _ _ scanner _ visit visits visited _ ih =>
    obtain ⟨placed, next⟩ := behind.of_visit visited openly
    obtain ⟨places, final⟩ := ih next openly
    refine ⟨?_, final⟩
    intro earlier other later split
    cases earlier with
    | nil =>
      obtain ⟨rfl, -⟩ := List.cons.inj split
      exact placed
    | cons head earlier =>
      obtain ⟨rfl, rest⟩ := List.cons.inj split
      exact places earlier other later rest

theorem Visits.left_of_lineBreak (visited : scanner.Visits before visit after)
    (breaks : visit.rule.callback = none ∨ visit.rule.callback = some lineBreak)
    (fresh : visit.entered.updated = false) :
    (visit.hasCallback = true ∧ visit.left = visit.entered.breakLine) ∨
      (visit.hasCallback = false ∧ visit.left.updated = false) := by
  rcases visited.called_cases with ⟨callback, captures, middle, given, called⟩ | ⟨none', same⟩
  · rcases breaks with none' | some'
    · rw [given] at none'
      cases none'
    · rw [given] at some'
      cases some'
      obtain ⟨-, left, -⟩ := lineBreak_returns_iff.mp called
      exact .inl ⟨by simp [Visit.hasCallback, given], left⟩
  · exact .inr ⟨by simp [Visit.hasCallback, none'], by rw [same, fresh]⟩

theorem Trace.mark_of_lineBreaks (trace : Trace before scanner visits after last)
    (behind : scanner.Behind mark)
    (breaks : ∀ rule ∈ scanner.set.rules, rule.callback = none ∨ rule.callback = some lineBreak)
    (first : mark.column = 1) :
    visits.foldl Mark.pass mark =
      ⟨mark.line + visits.countP Visit.hasCallback, 1,
        ((visits.filter Visit.hasCallback).getLast?.map (·.found.stop)).getD mark.offset⟩ := by
  -- The mark before a visit is behind the scanner, and the visit passes it on.
  induction trace generalizing mark with
  | nil =>
    cases mark
    cases first
    simp
  | @cons _ _ _ scanner _ visit visits visited _ ih =>
    have openly : ∀ rule ∈ scanner.set.rules, ∀ callback, rule.callback = some callback →
        Callback.MovesOpenly callback := by
      intro rule member callback given
      rcases breaks rule member with none' | some'
      · rw [given] at none'
        cases none'
      · rw [given] at some'
        cases some'
        exact lineBreak_movesOpenly
    obtain ⟨placed, next⟩ := behind.of_visit visited openly
    have fresh : visit.entered.updated = false := by rw [placed.entered]; rfl
    rcases visited.left_of_lineBreak (breaks _ visited.rule_mem) fresh with
      ⟨given, left⟩ | ⟨absent, still⟩
    · have passed : mark.pass visit = ⟨mark.line + 1, 1, visit.found.stop⟩ := by
        simp [Mark.pass, left, ScanState.breakLine, placed.entered, Mark.stateAt]
      rw [List.foldl_cons, ih next breaks (by rw [passed]), passed]
      rw [List.countP_cons_of_pos given, List.filter_cons_of_pos given, List.getLast?_cons]
      simp only [Mark.mk.injEq, true_and]
      refine ⟨by omega, ?_⟩
      cases (visits.filter Visit.hasCallback).getLast? <;> rfl
    · have passed : mark.pass visit = mark := by simp [Mark.pass, still]
      have skipped : ¬ visit.hasCallback = true := by simp [absent]
      rw [List.foldl_cons, ih next breaks (by rw [passed]; exact first), passed]
      rw [List.countP_cons_of_neg skipped, List.filter_cons_of_neg skipped]

end Scanner

namespace RuleSet

theorem scanner_behind_start (set : RuleSet) (config : Config) (text : String) :
    (set.scanner config text).Behind Mark.start :=
  ⟨rfl, Nat.le_refl _, rfl⟩

def breakOrB : RuleSet where
  rules := [htmlBreak, ⟨"B", ['b'], none, false, 0, 2⟩]
  pattern :=
    { source := "(<br\\s*/?\\s*>)|(b)".toList
      regex := .alt (.group 1 htmlBreakTree) (.group 2 (.char 98))
      groups := 2
      names := []
      flags := .ofList [.unicode, .multiLine] }

theorem breakOrB_callback (rule : CompiledRule) (member : rule ∈ breakOrB.rules) :
    rule.callback = none ∨ rule.callback = some lineBreak := by
  rcases List.mem_cons.mp member with rfl | member
  · exact .inr rfl
  · cases List.mem_singleton.mp member
    exact .inl rfl

/-- Position accounting of a scan. At every place that the loop reaches, the visits so far, the gap
that is reported next and the state that the next callback is given stand where the last callback
that updated the position has left it, advanced by the characters since. A scan that returns reports
exactly such visits and gaps. With line breaks as the only callbacks the line counts the breaks, and
the column the characters behind the last of them. -/
theorem scan_positions (set : RuleSet) (config : Config) (text : String) (context : Context)
    (openly : ∀ rule ∈ set.rules, ∀ callback, rule.callback = some callback →
      Callback.MovesOpenly callback) :
    (∀ visits reached scanner,
      Scanner.Trace context (set.scanner config text) visits reached scanner →
        (∀ earlier visit later, visits = earlier ++ visit :: later →
          (Mark.after earlier).Places text.toList.toArray visit) ∧
        (∀ stop gap, scanner.gapTo stop = some gap →
          gap.position = ((Mark.after visits).stateAt scanner.position).position) ∧
        (∀ start, scanner.position ≤ start →
          scanner.entering start = (Mark.after visits).stateAt start) ∧
        ((∀ rule ∈ set.rules, rule.callback = none ∨ rule.callback = some lineBreak) →
          Mark.after visits = ⟨1 + visits.countP Visit.hasCallback, 1,
            ((visits.filter Visit.hasCallback).getLast?.map (·.found.stop)).getD 0⟩)) ∧
    (∀ result after, (set.scan config text).Returns context result after →
      ∃ visits middle scanner trailing,
        Scanner.Trace context (set.scanner config text) visits middle scanner ∧
        trailing = scanner.gapTo scanner.text.size ∧
        result.tokens = visits.filterMap Visit.token ∧
        result.skipped = visits.filterMap Visit.gap ++ trailing.toList) := by
  refine ⟨?_, ?_⟩
  · intro visits reached scanner trace
    have start := set.scanner_behind_start config text
    obtain ⟨places, behind⟩ := trace.behind start openly
    refine ⟨places, fun stop gap skipped => (behind.gap skipped).1,
      fun stop ahead => behind.entering ahead, fun breaks => ?_⟩
    exact trace.mark_of_lineBreaks start breaks rfl
  · intro result after returned
    obtain ⟨visits, trailing, ⟨middle, stopped, _, completes, last⟩, tokens, skipped⟩ :=
      scan_returns_iff.mp ⟨after, returned⟩
    exact ⟨visits, middle, stopped, trailing, completes.trace, last, tokens, skipped⟩

theorem scan_positions_of_break :
    ∃ result after visits middle scanner,
      (breakOrB.scan {} "?<br>?b").Returns {} result after ∧
      Scanner.Trace {} (breakOrB.scanner {} "?<br>?b") visits middle scanner ∧
      (∀ earlier visit later, visits = earlier ++ visit :: later →
        (Mark.after earlier).Places "?<br>?b".toList.toArray visit) ∧
      result.tokens = [⟨"B", .text "b", ⟨2, 2⟩⟩] ∧
      result.tokens = visits.filterMap Visit.token ∧
      result.skipped = [⟨1, 1, "?"⟩, ⟨2, 1, "?"⟩] ∧
      result.skipped = visits.filterMap Visit.gap ++ (scanner.gapTo 7).toList ∧
      Mark.after visits = ⟨1 + visits.countP Visit.hasCallback, 1,
        ((visits.filter Visit.hasCallback).getLast?.map (·.found.stop)).getD 0⟩ := by
  obtain ⟨reached, returned⟩ := scan_positions breakOrB {} "?<br>?b" {} (by
    intro rule member callback given
    rcases breakOrB_callback rule member with none' | some'
    · rw [given] at none'
      cases none'
    · rw [given] at some'
      cases some'
      exact lineBreak_movesOpenly)
  obtain ⟨visits, middle, scanner, _, trace, rfl, tokens, skipped⟩ :=
    returned ⟨[⟨"B", .text "b", ⟨2, 2⟩⟩], [⟨1, 1, "?"⟩, ⟨2, 1, "?"⟩]⟩ _ rfl
  obtain ⟨places, -, -, mark⟩ := reached visits middle scanner trace
  rw [trace.kept.2.2] at skipped
  exact ⟨_, _, visits, middle, scanner, rfl, trace, places, rfl, tokens, rfl, skipped,
    mark breakOrB_callback⟩

end RuleSet

end RuleLexer
