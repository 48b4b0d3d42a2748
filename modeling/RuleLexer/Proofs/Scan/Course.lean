import RuleLexer.Proofs.Scan.Emission

namespace RuleLexer

/-- What the loop of a scan does with others. -/
inductive Deed where
  | gap (one : Gap)
  | call (rule : CompiledRule) (captures : Captures) (state : ScanState)

namespace Deed

def gap? : Deed → Option Gap
  | .gap one => some one
  | .call .. => none

def gaps (deeds : List Deed) : List Gap :=
  deeds.filterMap gap?

def skipped (deeds : List Deed) : List SkippedText :=
  (gaps deeds).map Gap.toSkippedText

def ofGap (gap : Option Gap) : List Deed :=
  gap.toList.map .gap

def ofCall (rule : CompiledRule) (captures : Captures) (state : ScanState) : List Deed :=
  if rule.callback.isSome then [.call rule captures state] else []

@[simp] theorem gaps_append (first second : List Deed) :
    gaps (first ++ second) = gaps first ++ gaps second :=
  List.filterMap_append

@[simp] theorem gaps_ofGap (gap : Option Gap) : gaps (ofGap gap) = gap.toList := by
  cases gap <;> rfl

@[simp] theorem skipped_append (first second : List Deed) :
    skipped (first ++ second) = skipped first ++ skipped second := by
  simp [skipped]

@[simp] theorem gaps_ofCall (rule : CompiledRule) (captures : Captures) (state : ScanState) :
    gaps (ofCall rule captures state) = [] := by
  unfold ofCall
  split <;> rfl

end Deed

namespace Config

def refusal? (config : Config) (gap : Gap) : Option Failure :=
  config.onSkip.bind fun handler => handler gap

def reports (config : Config) (skipped : SkippedText) : List Event :=
  (if config.logSkipped.isTruthy then [.warned skipped] else []) ++
    (if config.onSkip.isSome then [.handled skipped] else [])

def answer (config : Config) (gap : Gap) : Except Failure Unit :=
  match config.refusal? gap with
  | some failure => .error failure
  | none => .ok ()

theorem answer_eq_ok_iff {config : Config} {gap : Gap} :
    config.answer gap = .ok () ↔ config.refusal? gap = none := by
  unfold answer
  cases config.refusal? gap <;> simp

theorem answer_eq_error_iff {config : Config} {gap : Gap} {failure : Failure} :
    config.answer gap = .error failure ↔ config.refusal? gap = some failure := by
  unfold answer
  cases config.refusal? gap <;> simp

end Config

/-- What a deed makes of the context: a gap only leaves its reports there, and a call what the
callback does. -/
def Deed.pass (config : Config) (context : Context) : Deed → Context
  | .gap one => (config.reports one.toSkippedText).foldl Context.emit context
  | .call rule captures state =>
    match rule.callback with
    | some callback => (callback captures state context).2
    | none => context

theorem Context.foldl_emit (context : Context) (events : List Event) :
    events.foldl Context.emit context =
      { context with events := events.reverse ++ context.events } := by
  induction events generalizing context with
  | nil => rfl
  | cons event events ih =>
    rw [List.foldl_cons, ih]
    simp [Context.emit]

namespace Scanner

theorem report_run (config : Config) (gap : Gap) (context : Context) :
    report config gap context = (config.answer gap, (Deed.gap gap).pass config context) := by
  have passed : (Deed.gap gap).pass config context =
      (if config.onSkip.isSome then [Event.handled gap.toSkippedText] else []).foldl Context.emit
        ((if config.logSkipped.isTruthy then [Event.warned gap.toSkippedText] else []).foldl
          Context.emit context) :=
    List.foldl_append
  have logged : (if config.logSkipped.isTruthy then Run.emit (.warned gap.toSkippedText) else pure ())
      context = (.ok (), (if config.logSkipped.isTruthy then [Event.warned gap.toSkippedText]
        else []).foldl Context.emit context) := by
    split <;> rfl
  rw [report_eq, Run.run_bind, logged, passed]
  unfold hand Config.answer Config.refusal?
  cases config.onSkip with
  | none => rfl
  | some handler =>
    dsimp only [Option.bind_some]
    cases handler gap <;> rfl

def ahead (scanner : Scanner) : Nat :=
  match scanner.search.next? scanner.set.pattern scanner.text with
  | some (found, _) => found.start
  | none => scanner.text.size

def gapAhead (scanner : Scanner) : Option Gap :=
  scanner.numbered (scanner.gapTo scanner.ahead)

end Scanner

def Visit.deeds (scanner : Scanner) (visit : Visit) : List Deed :=
  Deed.ofGap (scanner.numbered visit.gap) ++
    Deed.ofCall visit.rule (Scanner.capturesOf scanner.text visit.rule visit.found) visit.entered

@[simp] theorem Visit.gaps_deeds (visit : Visit) (scanner : Scanner) :
    Deed.gaps (visit.deeds scanner) = (scanner.numbered visit.gap).toList := by
  simp [deeds]

theorem Deed.skipped_ofGap (scanner : Scanner) (gap : Option SkippedText) :
    skipped (ofGap (scanner.numbered gap)) = gap.toList := by
  cases gap <;> rfl

theorem Visit.skipped_deeds (visit : Visit) (scanner : Scanner) :
    Deed.skipped (visit.deeds scanner) = visit.gap.toList := by
  rw [← Deed.skipped_ofGap scanner]
  simp [Deed.skipped]

namespace Scanner

def behind (tokens : List Token) (outcome : Except Failure (List Token × Scanner)) :
    Except Failure (List Token × Scanner) :=
  outcome.map fun (more, last) => (tokens ++ more, last)

@[simp] theorem behind_nil (outcome : Except Failure (List Token × Scanner)) :
    behind [] outcome = outcome := by
  cases outcome <;> rfl

/-- What a scan does up to its end or its failure, with its outcome and the context that it leaves.
A scan fails when a gap is refused, when no rule belongs to a match, or when a callback fails. -/
inductive Course : Context → Scanner → List Deed → Except Failure (List Token × Scanner) → Context →
    Prop
  | visit {before middle after : Context} {scanner : Scanner} {visit : Visit} {deeds : List Deed}
    {outcome : Except Failure (List Token × Scanner)} (first : scanner.Visits before visit middle)
    (rest : Course middle (scanner.passVisit visit) deeds outcome after) :
    Course before scanner (visit.deeds scanner ++ deeds) (behind visit.token.toList outcome)
      after
  | ended {before after : Context} {scanner : Scanner}
    (stops : scanner.search.next? scanner.set.pattern scanner.text = none)
    (reported : (reportGap scanner.config scanner.gapAhead).Returns before () after) :
    Course before scanner (Deed.ofGap scanner.gapAhead) (.ok ([], scanner.atEnd)) after
  | refused {before after : Context} {scanner : Scanner} {gap : Gap} {failure : Failure}
    (found : scanner.gapAhead = some gap)
    (refused : report scanner.config gap before = (.error failure, after)) :
    Course before scanner [.gap gap] (.error failure) after
  | undispatched {before after : Context} {scanner : Scanner} {found : Match} {search : Search}
    (step : scanner.search.next? scanner.set.pattern scanner.text = some (found, search))
    (reported : (reportGap scanner.config scanner.gapAhead).Returns before () after)
    (missing : scanner.set.ruleForGroup? (found.lastGroup.map Int.ofNat) = none) :
    Course before scanner (Deed.ofGap scanner.gapAhead)
      (.error (.unknownGroup (found.lastGroup.map Int.ofNat))) after
  | raised {before middle after : Context} {scanner : Scanner} {found : Match} {search : Search}
    {rule : CompiledRule} {callback : Callback} {failure : Failure}
    (step : scanner.search.next? scanner.set.pattern scanner.text = some (found, search))
    (reported : (reportGap scanner.config scanner.gapAhead).Returns before () middle)
    (dispatched : scanner.set.ruleForGroup? (found.lastGroup.map Int.ofNat) = some rule)
    (given : rule.callback = some callback)
    (fails : callback (capturesOf scanner.text rule found) (scanner.entering found.start) middle =
      (.error failure, after)) :
    Course before scanner (Deed.ofGap scanner.gapAhead ++
      [.call rule (capturesOf scanner.text rule found) (scanner.entering found.start)])
      (.error failure) after

theorem ahead_of_next {scanner : Scanner} {found : Match} {search : Search}
    (step : scanner.search.next? scanner.set.pattern scanner.text = some (found, search)) :
    scanner.ahead = found.start := by
  unfold ahead
  rw [step]

theorem ahead_of_stop {scanner : Scanner}
    (stops : scanner.search.next? scanner.set.pattern scanner.text = none) :
    scanner.ahead = scanner.text.size := by
  unfold ahead
  rw [stops]

theorem nextUpTo_fuel {scanner : Scanner} {fuel more : Nat} (enough : scanner.bound < fuel)
    (also : scanner.bound < more) : nextUpTo fuel scanner = nextUpTo more scanner := by
  induction fuel generalizing scanner more with
  | zero => omega
  | succ fuel ih =>
    obtain ⟨more, rfl⟩ : ∃ n, more = n + 1 := ⟨more - 1, by omega⟩
    unfold nextUpTo
    split
    · rfl
    · next found search step =>
      funext context
      rw [Run.run_bind, Run.run_bind]
      rcases taken : scanner.take found search context with ⟨failure | ⟨token, next⟩, after⟩
      · rfl
      · obtain ⟨visit, visits, -, -, rfl⟩ := (take_returns_iff step).mp taken
        have fewer := visits.bound_lt
        cases token with
        | some token => rfl
        | none => exact congrFun (ih (by omega) (by omega)) after

theorem takeUpTo_eq_drain {scanner : Scanner} {count : Nat} (enough : scanner.bound < count)
    (context : Context) : takeUpTo count scanner context = scanner.drain context := by
  obtain ⟨tokens, ending, after, emits⟩ := scanner.exists_emits context
  rw [emits.drain]
  obtain ⟨stopped, middle, pulls, stops⟩ := emits
  have few := pulls.length_le
  exact takeUpTo_of_pulls pulls stops (by omega)

theorem drain_of_visit {before middle : Context} {scanner : Scanner} {visit : Visit}
    (first : scanner.Visits before visit middle) :
    scanner.drain before =
      (behind visit.token.toList ((scanner.passVisit visit).drain middle).1,
        ((scanner.passVisit visit).drain middle).2) := by
  have fewer := first.bound_lt
  have start : scanner.drain before = takeUpTo (scanner.bound + 1) scanner before := rfl
  rw [start, takeUpTo_succ]
  cases made : visit.token with
  | some token =>
    have next : scanner.next before = (.ok (some token, scanner.passVisit visit), middle) :=
      (nextUpTo_succ_returns_iff first.next).mpr ⟨visit, middle, first, by simp [made]⟩
    rw [next]
    simp only [takeUpTo_eq_drain fewer]
    rfl
  | none =>
    have next : scanner.next before = (scanner.passVisit visit).next middle := by
      have taken : scanner.take visit.found _ before = (.ok (none, scanner.passVisit visit), middle) :=
        (take_returns_iff first.next).mpr ⟨visit, first, rfl, made.symm, rfl⟩
      rw [Scanner.next, nextUpTo, first.next]
      dsimp only
      rw [Run.run_bind, taken]
      exact congrFun (nextUpTo_fuel fewer (Nat.lt_succ_self _)) middle
    have rest : (scanner.passVisit visit).drain middle =
        takeUpTo ((scanner.passVisit visit).bound + 1) (scanner.passVisit visit) middle := rfl
    rw [next, rest, takeUpTo_succ]
    rcases pulled : (scanner.passVisit visit).next middle with
      ⟨failure | ⟨_ | token, later⟩, between⟩
    · rfl
    · rfl
    · obtain ⟨-, -, -, -, less⟩ := next_returns pulled
      have less := less (Option.some_ne_none token)
      simp only [takeUpTo_eq_drain less, takeUpTo_eq_drain (Nat.lt_trans less fewer)]
      exact Prod.ext (behind_nil _).symm rfl

theorem drain_of_stop {before after : Context} {scanner : Scanner}
    (stops : scanner.search.next? scanner.set.pattern scanner.text = none)
    (reported : (reportGap scanner.config scanner.gapAhead).Returns before () after) :
    scanner.drain before = (.ok ([], scanner.atEnd), after) := by
  rw [gapAhead, ahead_of_stop stops] at reported
  exact takeUpTo_returns_of_trace .nil stops reported (Nat.lt_succ_self _)

theorem skipTo_of_refused {before after : Context} {scanner : Scanner} {stop : Nat}
    {gap : Gap} {failure : Failure} (found : scanner.numbered (scanner.gapTo stop) = some gap)
    (refused : report scanner.config gap before = (.error failure, after)) :
    scanner.skipTo stop before = (.error failure, after) := by
  unfold gapTo at found
  split at found
  · next further =>
    cases found
    rw [skipTo, if_pos further, Run.run_bind, refused]
  · cases found

theorem drain_of_failure {before after : Context} {scanner : Scanner} {failure : Failure}
    (fails : scanner.next before = (.error failure, after)) :
    scanner.drain before = (.error failure, after) := by
  have start : scanner.drain before = takeUpTo (scanner.bound + 1) scanner before := rfl
  rw [start, takeUpTo_succ, fails]

theorem drain_of_take {before after : Context} {scanner : Scanner} {found : Match} {search : Search}
    {failure : Failure}
    (step : scanner.search.next? scanner.set.pattern scanner.text = some (found, search))
    (fails : scanner.take found search before = (.error failure, after)) :
    scanner.drain before = (.error failure, after) := by
  apply drain_of_failure
  rw [Scanner.next, nextUpTo, step]
  dsimp only
  rw [Run.run_bind, fails]

theorem drain_of_refused {before after : Context} {scanner : Scanner} {gap : Gap}
    {failure : Failure} (found : scanner.gapAhead = some gap)
    (refused : report scanner.config gap before = (.error failure, after)) :
    scanner.drain before = (.error failure, after) := by
  have skips := skipTo_of_refused found refused
  cases step : scanner.search.next? scanner.set.pattern scanner.text with
  | none =>
    rw [ahead_of_stop step] at skips
    apply drain_of_failure
    rw [Scanner.next, nextUpTo, step]
    dsimp only
    rw [Run.run_bind, skips]
  | some pair =>
    rw [ahead_of_next step] at skips
    apply drain_of_take step
    rw [take, Run.run_bind, skips]

section Dispatch

variable {before middle after : Context} {scanner : Scanner} {found : Match} {search : Search}
  (step : scanner.search.next? scanner.set.pattern scanner.text = some (found, search))
  (reported : (reportGap scanner.config scanner.gapAhead).Returns before () middle)

include step reported

theorem skipTo_of_reported :
    scanner.skipTo found.start before = (.ok (scanner.passGap found.start), middle) := by
  rw [gapAhead, ahead_of_next step] at reported
  exact skipTo_returns_iff.mpr ⟨reported, rfl⟩

theorem drain_of_undispatched
    (missing : scanner.set.ruleForGroup? (found.lastGroup.map Int.ofNat) = none) :
    scanner.drain before = (.error (.unknownGroup (found.lastGroup.map Int.ofNat)), middle) := by
  apply drain_of_take step
  rw [take, Run.run_bind, skipTo_of_reported step reported]
  simp only [passGap, missing]
  rfl

theorem drain_of_raised {rule : CompiledRule} {callback : Callback} {failure : Failure}
    (dispatched : scanner.set.ruleForGroup? (found.lastGroup.map Int.ofNat) = some rule)
    (given : rule.callback = some callback)
    (fails : callback (capturesOf scanner.text rule found) (scanner.entering found.start) middle =
      (.error failure, after)) : scanner.drain before = (.error failure, after) := by
  apply drain_of_take step
  rw [take, Run.run_bind, skipTo_of_reported step reported]
  simp only [passGap, dispatched, Run.run_bind, contentOf, given, fails]

end Dispatch

theorem Course.drain {before after : Context} {scanner : Scanner} {deeds : List Deed}
    {outcome : Except Failure (List Token × Scanner)}
    (course : Course before scanner deeds outcome after) :
    scanner.drain before = (outcome, after) := by
  induction course with
  | visit first rest ih => rw [drain_of_visit first, ih]
  | ended stops reported => exact drain_of_stop stops reported
  | refused found refused => exact drain_of_refused found refused
  | undispatched step reported missing => exact drain_of_undispatched step reported missing
  | raised step reported dispatched given fails =>
    exact drain_of_raised step reported dispatched given fails

theorem exists_course (scanner : Scanner) (before : Context) :
    ∃ deeds outcome after, Course before scanner deeds outcome after := by
  -- On the matches that are left: a visit uses one up.
  induction size : scanner.bound using Nat.strongRecOn generalizing scanner before with
  | _ bound ih =>
    rcases reported : reportGap scanner.config scanner.gapAhead before with ⟨failure | ⟨⟩, middle⟩
    · cases found : scanner.gapAhead with
      | none =>
        rw [found] at reported
        cases reported
      | some gap =>
        rw [found] at reported
        exact ⟨_, _, _, .refused found reported⟩
    · cases step : scanner.search.next? scanner.set.pattern scanner.text with
      | none => exact ⟨_, _, _, .ended step reported⟩
      | some pair =>
        obtain ⟨found, search⟩ := pair
        cases dispatched : scanner.set.ruleForGroup? (found.lastGroup.map Int.ofNat) with
        | none => exact ⟨_, _, _, .undispatched step reported dispatched⟩
        | some rule =>
          rcases called : contentOf { scanner with state := scanner.entering found.start } rule found
            middle with ⟨failure | ⟨content, left⟩, later⟩
          · unfold contentOf at called
            cases given : rule.callback with
            | none =>
              rw [given] at called
              cases called
            | some callback =>
              rw [given] at called
              exact ⟨_, _, _, .raised step reported dispatched given called⟩
          · obtain rfl := (Search.finds_of_next? step).next
            rw [gapAhead, ahead_of_next step] at reported
            have first : scanner.Visits before ⟨found, rule, scanner.position,
                scanner.gapTo found.start, scanner.entering found.start, content, left⟩ later :=
              ⟨step, dispatched, rfl, rfl, rfl, middle, reported, called⟩
            obtain ⟨deeds, outcome, after, course⟩ :=
              ih _ (size ▸ first.bound_lt) (scanner.passVisit _) later rfl
            exact ⟨_, _, _, .visit first course⟩

theorem reportGap_returns_iff {config : Config} {gap : Option Gap} {before after : Context} :
    (reportGap config gap).Returns before () after ↔
      (∀ skipped ∈ gap.toList, config.refusal? skipped = none) ∧
        after = (Deed.ofGap gap).foldl (Deed.pass config) before := by
  cases gap with
  | none =>
    rw [reportGap, Run.returns_pure]
    simp [Deed.ofGap]
  | some skipped =>
    rw [reportGap, Run.Returns, report_run, Prod.mk.injEq, Config.answer_eq_ok_iff]
    simp [Deed.ofGap, eq_comm]

theorem contentOf_leaves {scanner : Scanner} {rule : CompiledRule} {found : Match}
    {content : Value} {left : ScanState} {before after : Context}
    (called : (scanner.contentOf rule found).Returns before (content, left) after)
    (config : Config) :
    after = (Deed.ofCall rule (capturesOf scanner.text rule found) scanner.state).foldl
      (Deed.pass config) before := by
  unfold contentOf at called
  cases given : rule.callback with
  | none =>
    rw [given] at called
    cases called
    simp [Deed.ofCall, given]
  | some callback =>
    rw [given] at called
    simp only [Deed.ofCall, given, Option.isSome_some, if_true, List.foldl_cons, List.foldl_nil,
      Deed.pass]
    exact (congrArg Prod.snd called).symm

theorem Visits.leaves {before after : Context} {scanner : Scanner} {visit : Visit}
    (first : scanner.Visits before visit after) :
    (∀ skipped ∈ (scanner.numbered visit.gap).toList, scanner.config.refusal? skipped = none) ∧
      after = (visit.deeds scanner).foldl (Deed.pass scanner.config) before := by
  obtain ⟨middle, reported, called⟩ := first.called
  obtain ⟨unrefused, rfl⟩ := reportGap_returns_iff.mp reported
  refine ⟨unrefused, ?_⟩
  rw [Visit.deeds, List.foldl_append]
  exact contentOf_leaves called scanner.config

namespace Course

variable {before after : Context} {scanner : Scanner} {deeds : List Deed}
  {outcome : Except Failure (List Token × Scanner)}

theorem after_eq (course : Course before scanner deeds outcome after) :
    after = deeds.foldl (Deed.pass scanner.config) before := by
  induction course with
  | visit first rest ih =>
    rw [List.foldl_append, ← first.leaves.2]
    exact ih
  | ended stops reported => exact (reportGap_returns_iff.mp reported).2
  | refused found refused =>
    rw [report_run] at refused
    exact (congrArg Prod.snd refused).symm
  | undispatched step reported missing => exact (reportGap_returns_iff.mp reported).2
  | raised step reported dispatched given fails =>
    obtain ⟨-, rfl⟩ := reportGap_returns_iff.mp reported
    rw [List.foldl_append, List.foldl_cons, List.foldl_nil, Deed.pass, given]
    exact (congrArg Prod.snd fails).symm

end Course

end Scanner

/-- Why a scan that has done these deeds stops: the last gap is refused, or no gap is and then either a
match belongs to no rule or the last callback fails. -/
inductive Deed.Stops (set : RuleSet) (config : Config) (before : Context) :
    List Deed → Failure → Prop
  | refused {earlier : List Deed} {gap : Gap} {failure : Failure}
    (unrefused : ∀ skipped ∈ gaps earlier, config.refusal? skipped = none)
    (refused : config.refusal? gap = some failure) :
    Stops set config before (earlier ++ [.gap gap]) failure
  | undispatched {deeds : List Deed} {group : Option Int}
    (unrefused : ∀ skipped ∈ gaps deeds, config.refusal? skipped = none)
    (missing : set.ruleForGroup? group = none) :
    Stops set config before deeds (.unknownGroup group)
  | raised {earlier : List Deed} {rule : CompiledRule} {captures : Captures} {state : ScanState}
    {callback : Callback} {failure : Failure}
    (unrefused : ∀ skipped ∈ gaps earlier, config.refusal? skipped = none)
    (given : rule.callback = some callback)
    (fails : (callback captures state (earlier.foldl (pass config) before)).1 = .error failure) :
    Stops set config before (earlier ++ [.call rule captures state]) failure

theorem Deed.Stops.behind {set : RuleSet} {config : Config} {before middle : Context}
    {first deeds : List Deed} {failure : Failure}
    (unrefused : ∀ skipped ∈ gaps first, config.refusal? skipped = none)
    (reached : middle = first.foldl (pass config) before)
    (stops : Stops set config middle deeds failure) :
    Stops set config before (first ++ deeds) failure := by
  have all : ∀ deeds, (∀ skipped ∈ gaps deeds, config.refusal? skipped = none) →
      ∀ skipped ∈ gaps (first ++ deeds), config.refusal? skipped = none := by
    intro deeds later skipped member
    rcases List.mem_append.mp (gaps_append first deeds ▸ member) with here | there
    · exact unrefused skipped here
    · exact later skipped there
  cases stops with
  | refused unrefused refused =>
    rw [← List.append_assoc]
    exact .refused (all _ unrefused) refused
  | undispatched unrefused missing => exact .undispatched (all _ unrefused) missing
  | raised unrefused given fails =>
    rw [← List.append_assoc]
    refine .raised (all _ unrefused) given ?_
    rw [List.foldl_append, ← reached]
    exact fails

namespace Scanner.Course

variable {before after : Context} {scanner : Scanner} {deeds : List Deed}

theorem of_ok {outcome : Except Failure (List Token × Scanner)} {tokens : List Token} {last : Scanner}
    (course : Course before scanner deeds outcome after) (ended : outcome = .ok (tokens, last)) :
    (∀ skipped ∈ Deed.gaps deeds, scanner.config.refusal? skipped = none) ∧
      last.skipped.reverse = scanner.skipped.reverse ++ Deed.skipped deeds ∧
      last.tokens = scanner.tokens + tokens.length ∧ last.text = scanner.text := by
  induction course generalizing tokens with
  | @visit _ _ _ scanner visit deeds outcome first rest ih =>
    cases outcome with
    | error failure => cases ended
    | ok pair =>
      obtain ⟨more, reached⟩ := pair
      cases ended
      obtain ⟨later, skipped, counted, text⟩ := ih rfl
      refine ⟨?_, ?_, ?_, text⟩
      · intro skipped member
        rcases List.mem_append.mp (Deed.gaps_append _ _ ▸ member) with here | there
        · exact first.leaves.1 skipped (visit.gaps_deeds scanner ▸ here)
        · exact later skipped there
      · rw [skipped, Deed.skipped_append, visit.skipped_deeds]
        cases gap : visit.gap <;> simp [passVisit, gap]
      · simp only [counted, passVisit, List.length_append]
        omega
  | @ended _ _ scanner stops reported =>
    cases ended
    obtain ⟨unrefused, -⟩ := reportGap_returns_iff.mp reported
    refine ⟨by simpa using unrefused, ?_, rfl, rfl⟩
    rw [gapAhead, Deed.skipped_ofGap, ahead_of_stop stops]
    cases gap : scanner.gapTo scanner.text.size <;> simp [atEnd, passGap, gap]
  | _ => cases ended

/-- The gaps are numbered through, from the number of those that the scan has had before. -/
theorem earlier_gaps {outcome : Except Failure (List Token × Scanner)}
    (course : Course before scanner deeds outcome after) :
    (Deed.gaps deeds).map Gap.earlier =
      List.range' scanner.skipped.length (Deed.gaps deeds).length := by
  have one (scanner : Scanner) (gap : Option SkippedText) :
      (scanner.numbered gap).toList.map Gap.earlier =
        List.range' scanner.skipped.length (scanner.numbered gap).toList.length := by
    cases gap <;> rfl
  induction course with
  | @visit _ _ _ scanner visit deeds outcome first rest ih =>
    have next : (scanner.passVisit visit).skipped.length =
        scanner.skipped.length + (scanner.numbered visit.gap).toList.length := by
      cases gap : visit.gap <;> simp [passVisit, numbered, gap]
    rw [Deed.gaps_append, List.map_append, ih, visit.gaps_deeds, one, next, List.length_append,
      List.range'_append_1]
  | ended | undispatched => rw [Deed.gaps_ofGap, gapAhead, one]
  | @refused _ _ scanner gap _ found =>
    have same : [gap] = scanner.gapAhead.toList := by rw [found, Option.toList_some]
    have last : Deed.gaps [.gap gap] = [gap] := rfl
    rw [last, same, gapAhead, one]
  | raised =>
    have last (rule : CompiledRule) (captures : Captures) (state : ScanState) :
        Deed.gaps [.call rule captures state] = [] := rfl
    rw [Deed.gaps_append, last, List.append_nil, Deed.gaps_ofGap, gapAhead, one]

theorem mem_rules {outcome : Except Failure (List Token × Scanner)}
    (course : Course before scanner deeds outcome after) {rule : CompiledRule} {captures : Captures}
    {state : ScanState} (called : .call rule captures state ∈ deeds) : rule ∈ scanner.set.rules := by
  have only : ∀ gap : Option Gap, .call rule captures state ∉ Deed.ofGap gap := by
    intro gap
    simp [Deed.ofGap]
  induction course with
  | @visit _ _ _ scanner visit deeds outcome first rest ih =>
    rcases List.mem_append.mp called with here | there
    · have dispatched := mem_of_ruleForGroup? first.rule
      have own := (List.mem_append.mp here).resolve_left (only _)
      unfold Deed.ofCall at own
      split at own
      · cases List.mem_singleton.mp own
        exact dispatched
      · cases own
    · exact ih there
  | ended | undispatched => exact absurd called (only _)
  | refused => simp at called
  | raised step reported dispatched given fails =>
    cases List.mem_singleton.mp ((List.mem_append.mp called).resolve_left (only _))
    exact mem_of_ruleForGroup? dispatched

theorem of_error {outcome : Except Failure (List Token × Scanner)} {failure : Failure}
    (course : Course before scanner deeds outcome after) (failed : outcome = .error failure) :
    Deed.Stops scanner.set scanner.config before deeds failure := by
  induction course with
  | @visit _ _ _ scanner visit deeds outcome first rest ih =>
    cases outcome with
    | ok pair => cases failed
    | error other =>
      cases failed
      obtain ⟨unrefused, reached⟩ := first.leaves
      exact .behind (by simpa [Visit.deeds] using unrefused) reached (ih rfl)
  | ended => cases failed
  | @refused _ _ scanner gap _ found refused =>
    cases failed
    rw [report_run, Prod.mk.injEq, Config.answer_eq_error_iff] at refused
    exact @Deed.Stops.refused scanner.set scanner.config _ [] gap _ nofun refused.1
  | undispatched step reported missing =>
    cases failed
    obtain ⟨unrefused, -⟩ := reportGap_returns_iff.mp reported
    exact .undispatched (by simpa using unrefused) missing
  | raised step reported dispatched given fails =>
    cases failed
    obtain ⟨unrefused, rfl⟩ := reportGap_returns_iff.mp reported
    exact .raised (by simpa using unrefused) given (congrArg Prod.fst fails)

end Scanner.Course

namespace RuleSet

def Does (set : RuleSet) (config : Config) (text : String) (before : Context) (deeds : List Deed) :
    Prop :=
  ∃ outcome after, (set.scanner config text).Course before deeds outcome after

theorem exists_does (set : RuleSet) (config : Config) (text : String) (before : Context) :
    ∃ deeds, set.Does config text before deeds :=
  (set.scanner config text).exists_course before

theorem numbered_gaps {set : RuleSet} {config : Config} {text : String} {before after : Context}
    {deeds : List Deed} {outcome : Except Failure (List Token × Scanner)}
    (course : (set.scanner config text).Course before deeds outcome after) :
    (Deed.gaps deeds).map Gap.earlier = List.range (Deed.gaps deeds).length := by
  rw [course.earlier_gaps, List.range_eq_range']
  rfl

/-- A scan gives the tokens and the gaps of its course and is counted, or it fails and leaves things
as they are. -/
theorem scan_of_course {set : RuleSet} {config : Config} {text : String} {before after : Context}
    {deeds : List Deed} {outcome : Except Failure (List Token × Scanner)}
    (course : (set.scanner config text).Course before deeds outcome after) :
    set.scan config text before =
      match outcome with
      | .ok (tokens, last) => (.ok ⟨tokens, last.skipped.reverse⟩, (last.finish after).2)
      | .error failure => (.error failure, after) := by
  rw [scan, Run.run_bind, course.drain]
  cases outcome <;> rfl

end RuleSet

end RuleLexer
