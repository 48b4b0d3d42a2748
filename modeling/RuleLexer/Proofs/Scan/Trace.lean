import RuleLexer.Proofs.Regex.Search
import RuleLexer.Scan.Scanner

namespace RuleLexer

namespace Run

variable {α β : Type} {before after : Context}

def Returns (run : Run α) (before : Context) (value : α) (after : Context) : Prop :=
  run before = (.ok value, after)

def AlwaysReturns (run : Run α) : Prop :=
  ∀ before, ∃ value after, run.Returns before value after

theorem returns_pure {value result : α} :
    Returns (pure value) before result after ↔ result = value ∧ after = before := by
  constructor
  · intro returned
    cases returned
    exact ⟨rfl, rfl⟩
  · rintro ⟨rfl, rfl⟩
    rfl

theorem not_returns_throw {failure : Failure} {value : α} :
    ¬ Returns (throw failure) before value after := by
  intro returned
  cases returned

theorem returns_bind {run : Run α} {rest : α → Run β} {result : β} :
    Returns (run >>= rest) before result after ↔
      ∃ value middle, run.Returns before value middle ∧ (rest value).Returns middle result after := by
  have unfolded : (run >>= rest) before = match run before with
      | (.ok value, middle) => rest value middle
      | (.error failure, middle) => (.error failure, middle) := by
    change ExceptT.bindCont rest (run before).1 (run before).2 = _
    obtain ⟨outcome, middle⟩ := run before
    cases outcome <;> rfl
  unfold Returns
  rw [unfolded]
  constructor
  · intro returned
    split at returned
    · rename_i value middle first
      exact ⟨value, middle, first, returned⟩
    · cases returned
  · rintro ⟨value, middle, first, second⟩
    rw [first]
    exact second

end Run

/-- A match as the loop of a scan meets it. -/
structure Visit where
  found : Match
  rule : CompiledRule
  position : Nat
  gap : Option SkippedText
  entered : ScanState
  content : Value
  left : ScanState

def Visit.token (visit : Visit) : Option Token :=
  Scanner.tokenOf visit.rule visit.content visit.left

namespace Scanner

def gapTo (scanner : Scanner) (stop : Nat) : Option SkippedText :=
  if scanner.position < stop then
    some ⟨scanner.state.line, scanner.state.column, sliceText scanner.text scanner.position stop⟩
  else none

def entering (scanner : Scanner) (stop : Nat) : ScanState :=
  if scanner.position < stop then scanner.state.skip (stop - scanner.position) else scanner.state

def numbered (scanner : Scanner) (skipped : Option SkippedText) : Option Gap :=
  skipped.map fun skipped => ⟨skipped, scanner.skipped.length⟩

def reportGap (config : Config) : Option Gap → Run Unit
  | some gap => report config gap
  | none => pure ()

def passGap (scanner : Scanner) (stop : Nat) : Scanner :=
  { scanner with
    skipped := (scanner.gapTo stop).toList ++ scanner.skipped
    state := scanner.entering stop }

theorem skipTo_returns_iff {scanner next : Scanner} {stop : Nat} {before after : Context} :
    (scanner.skipTo stop).Returns before next after ↔
      (reportGap scanner.config (scanner.numbered (scanner.gapTo stop))).Returns before () after ∧
        next = scanner.passGap stop := by
  unfold skipTo passGap gapTo entering
  by_cases gap : scanner.position < stop
  · simp only [gap, if_true, numbered, Option.map_some, reportGap, Run.returns_bind, Run.returns_pure]
    constructor
    · rintro ⟨_, middle, reported, rfl, rfl⟩
      exact ⟨reported, rfl⟩
    · rintro ⟨reported, rfl⟩
      exact ⟨(), after, reported, rfl, rfl⟩
  · simp only [gap, if_false, numbered, Option.map_none, reportGap, Run.returns_pure]
    constructor
    · rintro ⟨rfl, rfl⟩
      exact ⟨⟨trivial, rfl⟩, rfl⟩
    · rintro ⟨⟨-, rfl⟩, rfl⟩
      exact ⟨rfl, rfl⟩

def passVisit (scanner : Scanner) (visit : Visit) : Scanner :=
  { scanner with
    search := ⟨visit.found.stop, visit.found.isEmpty⟩
    position := visit.found.stop
    state := visit.left.passMatch (visit.found.stop - visit.found.start)
    tokens := scanner.tokens + visit.token.toList.length
    skipped := visit.gap.toList ++ scanner.skipped }

@[simp] theorem passVisit_set (scanner : Scanner) (visit : Visit) :
    (scanner.passVisit visit).set = scanner.set := rfl

@[simp] theorem passVisit_text (scanner : Scanner) (visit : Visit) :
    (scanner.passVisit visit).text = scanner.text := rfl

/-- The visit is the next one of the scanner: its match is found next, its gap is reported, and the
callback of its rule makes its content. -/
structure Visits (before : Context) (scanner : Scanner) (visit : Visit) (after : Context) : Prop where
  next : scanner.search.next? scanner.set.pattern scanner.text =
    some (visit.found, ⟨visit.found.stop, visit.found.isEmpty⟩)
  rule : scanner.set.ruleForGroup? (visit.found.lastGroup.map Int.ofNat) = some visit.rule
  position : visit.position = scanner.position
  gap : visit.gap = scanner.gapTo visit.found.start
  entered : visit.entered = scanner.entering visit.found.start
  called : ∃ middle, (reportGap scanner.config (scanner.numbered visit.gap)).Returns before () middle ∧
    (contentOf { scanner with state := visit.entered } visit.rule visit.found).Returns middle
      (visit.content, visit.left) after

theorem take_returns_iff {scanner next : Scanner} {found : Match} {search : Search}
    {before after : Context} {token : Option Token}
    (step : scanner.search.next? scanner.set.pattern scanner.text = some (found, search)) :
    (scanner.take found search).Returns before (token, next) after ↔
      ∃ visit, scanner.Visits before visit after ∧ visit.found = found ∧ token = visit.token ∧
        next = scanner.passVisit visit := by
  obtain rfl := (Search.finds_of_next? step).next
  constructor
  · intro returned
    obtain ⟨skipped, middle, skip, rest⟩ := Run.returns_bind.mp returned
    obtain ⟨reported, rfl⟩ := skipTo_returns_iff.mp skip
    dsimp only at rest
    cases dispatched : scanner.set.ruleForGroup? (found.lastGroup.map Int.ofNat) with
    | none =>
      simp only [passGap, dispatched] at rest
      exact absurd rest Run.not_returns_throw
    | some rule =>
      simp only [passGap, dispatched] at rest
      obtain ⟨⟨content, left⟩, last, called, finished⟩ := Run.returns_bind.mp rest
      obtain ⟨same, rfl⟩ := Run.returns_pure.mp finished
      cases same
      refine ⟨⟨found, rule, scanner.position, scanner.gapTo found.start,
        scanner.entering found.start, content, left⟩, ?_, rfl, rfl, rfl⟩
      exact ⟨step, dispatched, rfl, rfl, rfl, middle, reported, called⟩
  · rintro ⟨visit, visits, rfl, rfl, rfl⟩
    obtain ⟨middle, reported, called⟩ := visits.called
    refine Run.returns_bind.mpr ⟨scanner.passGap visit.found.start, middle, ?_, ?_⟩
    · exact skipTo_returns_iff.mpr ⟨visits.gap ▸ reported, rfl⟩
    · simp only [passGap, visits.rule]
      refine Run.returns_bind.mpr ⟨(visit.content, visit.left), after, ?_, ?_⟩
      · exact visits.entered ▸ called
      · refine Run.returns_pure.mpr ⟨?_, rfl⟩
        simp only [passVisit, visits.gap]
        rfl

inductive Trace : Context → Scanner → List Visit → Context → Scanner → Prop
  | nil {context : Context} {scanner : Scanner} : Trace context scanner [] context scanner
  | cons {before middle after : Context} {scanner last : Scanner} {visit : Visit}
      {visits : List Visit} : scanner.Visits before visit middle →
      Trace middle (scanner.passVisit visit) visits after last →
      Trace before scanner (visit :: visits) after last

theorem Visits.finds {before after : Context} {scanner : Scanner} {visit : Visit}
    (visits : scanner.Visits before visit after) :
    scanner.search.Finds scanner.set.pattern scanner.text visit.found
      (scanner.passVisit visit).search :=
  Search.finds_of_next? visits.next

def bound (scanner : Scanner) : Nat :=
  scanner.search.bound scanner.text

theorem Visits.bound_lt {before after : Context} {scanner : Scanner} {visit : Visit}
    (visits : scanner.Visits before visit after) : (scanner.passVisit visit).bound < scanner.bound :=
  visits.finds.bound_lt

def atEnd (scanner : Scanner) : Scanner :=
  { scanner.passGap scanner.text.size with position := scanner.text.size }

/-- The visits of a scanner up to the end of its text, where the last gap is reported. -/
structure Completes (before : Context) (scanner : Scanner) (visits : List Visit)
    (middle : Context) (stopped : Scanner) (after : Context) : Prop where
  trace : Trace before scanner visits middle stopped
  stops : stopped.search.next? stopped.set.pattern stopped.text = none
  reported : (reportGap stopped.config (stopped.numbered (stopped.gapTo stopped.text.size))).Returns middle () after

theorem nextUpTo_succ_returns_of_stop {scanner last : Scanner} {fuel : Nat} {before after : Context}
    {token : Option Token} (stops : scanner.search.next? scanner.set.pattern scanner.text = none) :
    (nextUpTo (fuel + 1) scanner).Returns before (token, last) after ↔
      token = none ∧ last = scanner.atEnd ∧
        (reportGap scanner.config (scanner.numbered (scanner.gapTo scanner.text.size))).Returns before () after := by
  simp only [nextUpTo, stops, Run.returns_bind, Run.returns_pure, skipTo_returns_iff]
  constructor
  · rintro ⟨_, middle, ⟨reported, rfl⟩, same, rfl⟩
    cases same
    exact ⟨rfl, rfl, reported⟩
  · rintro ⟨rfl, rfl, reported⟩
    exact ⟨_, after, ⟨reported, rfl⟩, rfl, rfl⟩

theorem nextUpTo_succ_returns_iff {scanner last : Scanner} {fuel : Nat} {before after : Context}
    {token : Option Token} {found : Match} {search : Search}
    (step : scanner.search.next? scanner.set.pattern scanner.text = some (found, search)) :
    (nextUpTo (fuel + 1) scanner).Returns before (token, last) after ↔
      ∃ visit middle, scanner.Visits before visit middle ∧
        match visit.token with
        | some made => token = some made ∧ last = scanner.passVisit visit ∧ after = middle
        | none => (nextUpTo fuel (scanner.passVisit visit)).Returns middle (token, last) after := by
  simp only [nextUpTo, step, Run.returns_bind]
  constructor
  · rintro ⟨⟨made, next⟩, middle, taken, rest⟩
    obtain ⟨visit, visits, -, rfl, rfl⟩ := (take_returns_iff step).mp taken
    refine ⟨visit, middle, visits, ?_⟩
    cases made : visit.token with
    | none => simpa only [made] using rest
    | some token =>
      simp only [made, Run.returns_pure] at rest
      obtain ⟨same, rfl⟩ := rest
      cases same
      exact ⟨rfl, rfl, rfl⟩
  · rintro ⟨visit, middle, visits, rest⟩
    have same := visits.next.symm.trans step
    refine ⟨(visit.token, scanner.passVisit visit), middle, ?_, ?_⟩
    · exact (take_returns_iff step).mpr
        ⟨visit, visits, congrArg Prod.fst (Option.some.inj same), rfl, rfl⟩
    · cases made : visit.token with
      | none => simpa only [made] using rest
      | some token =>
        simp only [made] at rest
        obtain ⟨rfl, rfl, rfl⟩ := rest
        exact Run.returns_pure.mpr ⟨rfl, rfl⟩

theorem nextUpTo_returns_fuel {scanner last : Scanner} {fuel more : Nat} {before after : Context}
    {token : Option Token} (enough : scanner.bound < fuel) (also : scanner.bound < more)
    (returned : (nextUpTo fuel scanner).Returns before (token, last) after) :
    (nextUpTo more scanner).Returns before (token, last) after := by
  induction fuel generalizing scanner more before with
  | zero => omega
  | succ fuel ih =>
    obtain ⟨more, rfl⟩ : ∃ n, more = n + 1 := ⟨more - 1, by omega⟩
    cases step : scanner.search.next? scanner.set.pattern scanner.text with
    | none =>
      rw [nextUpTo_succ_returns_of_stop step] at returned ⊢
      exact returned
    | some result =>
      rw [nextUpTo_succ_returns_iff step] at returned ⊢
      obtain ⟨visit, middle, visits, rest⟩ := returned
      refine ⟨visit, middle, visits, ?_⟩
      have fewer := visits.bound_lt
      cases made : visit.token with
      | none =>
        rw [made] at rest
        exact ih (by omega) (by omega) rest
      | some token =>
        rw [made] at rest
        exact rest

theorem Trace.append {before middle after : Context} {scanner between last : Scanner}
    {front back : List Visit} (first : Trace before scanner front middle between)
    (second : Trace middle between back after last) :
    Trace before scanner (front ++ back) after last := by
  induction first with
  | nil => exact second
  | cons visits _ ih => exact .cons visits (ih second)

theorem nextUpTo_returns {scanner last : Scanner} {fuel : Nat} {before after : Context}
    {token : Option Token} (enough : scanner.bound < fuel)
    (returned : (nextUpTo fuel scanner).Returns before (token, last) after) :
    ∃ visits, visits.filterMap Visit.token = token.toList ∧
      ((token.isSome ∧ Trace before scanner visits after last ∧ last.bound < scanner.bound) ∨
        (token = none ∧ ∃ middle stopped, scanner.Completes before visits middle stopped after ∧
          last = stopped.atEnd)) := by
  induction fuel generalizing scanner before with
  | zero => omega
  | succ fuel ih =>
    cases step : scanner.search.next? scanner.set.pattern scanner.text with
    | none =>
      obtain ⟨rfl, rfl, reported⟩ := (nextUpTo_succ_returns_of_stop step).mp returned
      exact ⟨[], rfl, .inr ⟨rfl, before, scanner, ⟨.nil, step, reported⟩, rfl⟩⟩
    | some result =>
      obtain ⟨visit, middle, visits, rest⟩ := (nextUpTo_succ_returns_iff step).mp returned
      have fewer := visits.bound_lt
      cases made : visit.token with
      | some made' =>
        rw [made] at rest
        obtain ⟨rfl, rfl, rfl⟩ := rest
        exact ⟨[visit], by simp [made], .inl ⟨rfl, .cons visits .nil, fewer⟩⟩
      | none =>
        rw [made] at rest
        obtain ⟨later, tokens, outcome⟩ := ih (by omega) rest
        refine ⟨visit :: later, by simpa [made] using tokens, ?_⟩
        rcases outcome with ⟨some', trace, less⟩ | ⟨none', between, stopped, completes, end'⟩
        · exact .inl ⟨some', .cons visits trace, by omega⟩
        · exact .inr ⟨none', between, stopped,
            ⟨.cons visits completes.trace, completes.stops, completes.reported⟩, end'⟩

theorem takeUpTo_returns {scanner last : Scanner} {count : Nat} {before after : Context}
    {tokens : List Token} (enough : scanner.bound < count)
    (returned : (takeUpTo count scanner).Returns before (tokens, last) after) :
    ∃ visits middle stopped, scanner.Completes before visits middle stopped after ∧
      last = stopped.atEnd ∧ tokens = visits.filterMap Visit.token := by
  induction count generalizing scanner before tokens with
  | zero => omega
  | succ count ih =>
    obtain ⟨⟨token, next⟩, between, first, rest⟩ := Run.returns_bind.mp returned
    obtain ⟨front, made, outcome⟩ := nextUpTo_returns (Nat.lt_succ_self _) first
    rcases outcome with ⟨made', trace, fewer⟩ | ⟨rfl, middle, stopped, completes, rfl⟩
    · obtain ⟨token, rfl⟩ := Option.isSome_iff_exists.mp made'
      obtain ⟨⟨more, end'⟩, _, remaining, finished⟩ := Run.returns_bind.mp rest
      obtain ⟨same, rfl⟩ := Run.returns_pure.mp finished
      cases same
      obtain ⟨back, middle, stopped, ends, rfl, rfl⟩ := ih (by omega) remaining
      refine ⟨front ++ back, middle, stopped,
        ⟨trace.append ends.trace, ends.stops, ends.reported⟩, rfl, ?_⟩
      simp [made]
    · obtain ⟨same, rfl⟩ := Run.returns_pure.mp rest
      cases same
      exact ⟨front, middle, stopped, completes, rfl, made.symm⟩

theorem takeUpTo_returns_of_trace {scanner stopped : Scanner} {count : Nat}
    {before middle after : Context} {visits : List Visit}
    (trace : Trace before scanner visits middle stopped)
    (stops : stopped.search.next? stopped.set.pattern stopped.text = none)
    (reported : (reportGap stopped.config (stopped.numbered (stopped.gapTo stopped.text.size))).Returns middle () after)
    (enough : scanner.bound < count) :
    (takeUpTo count scanner).Returns before (visits.filterMap Visit.token, stopped.atEnd) after := by
  induction trace generalizing count with
  | nil =>
    obtain ⟨count, rfl⟩ : ∃ n, count = n + 1 := ⟨count - 1, by omega⟩
    refine Run.returns_bind.mpr ⟨_, _,
      (nextUpTo_succ_returns_of_stop stops).mpr ⟨rfl, rfl, reported⟩, ?_⟩
    exact Run.returns_pure.mpr ⟨rfl, rfl⟩
  | @cons before middle _ scanner _ visit visits first _ ih =>
    obtain ⟨count, rfl⟩ : ∃ n, count = n + 1 := ⟨count - 1, by omega⟩
    have fewer := first.bound_lt
    cases made : visit.token with
    | some token =>
      have rest := ih stops reported (show _ < count by omega)
      refine Run.returns_bind.mpr ⟨(some token, scanner.passVisit visit), middle, ?_, ?_⟩
      · exact (nextUpTo_succ_returns_iff first.next).mpr
          ⟨visit, middle, first, by simp [made]⟩
      · refine Run.returns_bind.mpr ⟨_, _, rest, Run.returns_pure.mpr ⟨?_, rfl⟩⟩
        simp [made]
    | none =>
      obtain ⟨⟨token, next⟩, between, later, rest⟩ :=
        Run.returns_bind.mp (ih stops reported (show _ < count + 1 by omega))
      rw [List.filterMap_cons_none made]
      refine Run.returns_bind.mpr ⟨(token, next), between, ?_, rest⟩
      refine (nextUpTo_succ_returns_iff first.next).mpr ⟨visit, middle, first, ?_⟩
      simp only [made]
      exact nextUpTo_returns_fuel (Nat.lt_succ_self _) fewer later

theorem drain_returns_iff {scanner last : Scanner} {before after : Context} {tokens : List Token} :
    scanner.drain.Returns before (tokens, last) after ↔
      ∃ visits middle stopped, scanner.Completes before visits middle stopped after ∧
        last = stopped.atEnd ∧ tokens = visits.filterMap Visit.token := by
  constructor
  · exact takeUpTo_returns (Nat.lt_succ_self _)
  · rintro ⟨visits, middle, stopped, completes, rfl, rfl⟩
    exact takeUpTo_returns_of_trace completes.trace completes.stops completes.reported
      (Nat.lt_succ_self _)

theorem Trace.skipped_eq {before after : Context} {scanner last : Scanner} {visits : List Visit}
    (trace : Trace before scanner visits after last) :
    last.skipped.reverse = scanner.skipped.reverse ++ visits.filterMap Visit.gap := by
  induction trace with
  | nil => simp
  | @cons _ _ _ _ _ visit _ _ _ ih =>
    rw [ih]
    cases gap : visit.gap <;> simp [passVisit, gap]

theorem Completes.skipped_eq {before middle after : Context} {scanner stopped : Scanner}
    {visits : List Visit} (completes : scanner.Completes before visits middle stopped after) :
    stopped.atEnd.skipped.reverse = scanner.skipped.reverse ++
      (visits.filterMap Visit.gap ++ (stopped.gapTo stopped.text.size).toList) := by
  have gaps := completes.trace.skipped_eq
  cases last : stopped.gapTo stopped.text.size <;> simp [atEnd, passGap, gaps, last]

theorem Trace.kept {before after : Context} {scanner last : Scanner} {visits : List Visit}
    (trace : Trace before scanner visits after last) :
    last.set = scanner.set ∧ last.config = scanner.config ∧ last.text = scanner.text := by
  induction trace with
  | nil => exact ⟨rfl, rfl, rfl⟩
  | cons _ _ ih => exact ih

end Scanner

namespace RuleSet

structure Scanned (set : RuleSet) (config : Config) (text : String) (before : Context)
    (visits : List Visit) (trailing : Option SkippedText) (result : ScanResult) : Prop where
  complete : ∃ middle stopped after,
    (set.scanner config text).Completes before visits middle stopped after ∧
      trailing = stopped.gapTo stopped.text.size
  tokens : result.tokens = visits.filterMap Visit.token
  skipped : result.skipped = visits.filterMap Visit.gap ++ trailing.toList

/-- A scan returns a result exactly when its matches can be visited up to the end of the text. -/
theorem scan_returns_iff {set : RuleSet} {config : Config} {text : String} {before : Context}
    {result : ScanResult} :
    (∃ after, (set.scan config text).Returns before result after) ↔
      ∃ visits trailing, set.Scanned config text before visits trailing result := by
  unfold scan
  simp only [Run.returns_bind, Run.returns_pure]
  constructor
  · rintro ⟨_, ⟨tokens, last⟩, after, drained, _, _, _, rfl, rfl⟩
    obtain ⟨visits, middle, stopped, completes, rfl, rfl⟩ := Scanner.drain_returns_iff.mp drained
    refine ⟨visits, _, ⟨middle, stopped, after, completes, rfl⟩, rfl, ?_⟩
    exact completes.skipped_eq
  · rintro ⟨visits, trailing, ⟨middle, stopped, after, completes, rfl⟩, tokens, skipped⟩
    have drained := Scanner.drain_returns_iff.mpr ⟨visits, middle, stopped, completes, rfl, rfl⟩
    refine ⟨_, _, after, drained, (), _, rfl, ?_, rfl⟩
    obtain ⟨resultTokens, resultSkipped⟩ := result
    cases tokens
    cases skipped
    rw [completes.skipped_eq]
    rfl

end RuleSet

def htmlBreakTree : Regex :=
  let blanks : Regex := .repeated .greedy 0 none (.set false [.category .blank false])
  .seq (.char 60) (.seq (.char 98) (.seq (.char 114) (.seq blanks
    (.seq (.repeated .greedy 0 (some 1) (.char 47)) (.seq blanks (.char 62))))))

def breakSet : RuleSet where
  rules := [htmlBreak]
  pattern :=
    { source := htmlBreak.wrapped
      regex := .group 1 htmlBreakTree
      groups := 1
      names := []
      flags := .ofList [.unicode, .multiLine] }

theorem lineBreak_returns_iff {captures : Captures} {state left : ScanState} {content : Value}
    {before after : Context} :
    (lineBreak captures state).Returns before (content, left) after ↔
      content = .null ∧ left = state.breakLine ∧ after = before := by
  unfold lineBreak
  rw [Run.returns_pure, Prod.mk.injEq, and_assoc]

theorem breakSet_callback {rule : CompiledRule} (member : rule ∈ breakSet.rules)
    {callback : Callback} (given : rule.callback = some callback) : callback = lineBreak := by
  cases List.mem_singleton.mp member
  exact (Option.some.inj given).symm

end RuleLexer
