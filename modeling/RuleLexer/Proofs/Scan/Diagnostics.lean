import RuleLexer.Proofs.Scan.Accounting
import RuleLexer.Proofs.Scan.Course

namespace RuleLexer

def Event.isReport : Event → Bool
  | .warned _ | .handled _ => true
  | _ => false

/-- The configurations differ in nothing but the reporting of skipped text, and their handlers refuse
the same texts: none at all, if they never fail. -/
structure Config.Alike (one other : Config) : Prop where
  escapeEntities : one.escapeEntities = other.escapeEntities
  flags : one.flags = other.flags
  refusals : ∀ skipped, one.refusal? skipped = other.refusal? skipped

theorem Config.Alike.symm {one other : Config} (alike : one.Alike other) : other.Alike one :=
  ⟨alike.escapeEntities.symm, alike.flags.symm, fun skipped => (alike.refusals skipped).symm⟩

structure Context.Alike (one other : Context) : Prop where
  config : one.config.Alike other.config
  profiles : one.profiles = other.profiles
  activeProfile : one.activeProfile = other.activeProfile
  counters : one.counters = other.counters
  events : one.events.filter (!·.isReport) = other.events.filter (!·.isReport)

namespace Context.Alike

variable {one other : Context}

theorem symm (alike : one.Alike other) : other.Alike one :=
  ⟨alike.config.symm, alike.profiles.symm, alike.activeProfile.symm, alike.counters.symm,
    alike.events.symm⟩

theorem emit (alike : one.Alike other) (event : Event) : (one.emit event).Alike (other.emit event) where
  config := alike.config
  profiles := alike.profiles
  activeProfile := alike.activeProfile
  counters := alike.counters
  events := by
    simp only [Context.emit, List.filter_cons]
    split
    · exact congrArg _ alike.events
    · exact alike.events

theorem increment (alike : one.Alike other) (key : Nat) :
    one.count key = other.count key ∧ (one.increment key).Alike (other.increment key) := by
  have counts : one.count key = other.count key := by
    unfold Context.count
    rw [alike.counters]
  refine ⟨counts, alike.config, alike.profiles, alike.activeProfile, ?_, alike.events⟩
  simp only [Context.increment, counts, alike.counters]

theorem record (alike : one.Alike other) (sourceLength tokens skipped : Int) :
    (one.record sourceLength tokens skipped).Alike (other.record sourceLength tokens skipped) := by
  unfold Context.record
  rw [← alike.activeProfile]
  cases active : one.activeProfile with
  | none => exact alike
  | some place =>
    exact ⟨alike.config, by rw [alike.profiles], rfl, alike.counters, alike.events⟩

theorem reported {config another : Config} (alike : one.Alike other) (gap : Gap) :
    ((Deed.gap gap).pass config one).Alike ((Deed.gap gap).pass another other) := by
  have silent : ∀ config : Config,
      (config.reports gap.toSkippedText).reverse.filter (!·.isReport) = [] := by
    intro config
    rw [List.filter_reverse, List.reverse_eq_nil_iff]
    unfold Config.reports
    split <;> split <;> rfl
  simp only [Deed.pass, foldl_emit]
  refine ⟨alike.config, alike.profiles, alike.activeProfile, alike.counters, ?_⟩
  rw [List.filter_append, List.filter_append, silent, silent]
  exact alike.events

end Context.Alike

namespace Run

variable {α β : Type}

def Agree (run other : Run α) : Prop :=
  ∀ one another : Context, one.Alike another →
    (run one).1 = (other another).1 ∧ (run one).2.Alike (other another).2

theorem agree_pure (value : α) : Agree (pure value) (pure value) := fun _ _ alike => ⟨rfl, alike⟩

theorem agree_throw (failure : Failure) : Agree (throw failure : Run α) (throw failure) :=
  fun _ _ alike => ⟨rfl, alike⟩

theorem agree_emit (event : Event) : Agree (emit event) (emit event) :=
  fun _ _ alike => ⟨rfl, alike.emit event⟩

theorem Agree.bind {run other : Run α} {next following : α → Run β} (first : run.Agree other)
    (rest : ∀ value before after, run.Returns before value after →
      (next value).Agree (following value)) :
    (run >>= next).Agree (other >>= following) := by
  intro one another alike
  obtain ⟨same, left⟩ := first one another alike
  rw [run_bind, run_bind]
  rcases here : run one with ⟨outcome, middle⟩
  rcases there : other another with ⟨outcome', middle'⟩
  rw [here, there] at same left
  obtain rfl : outcome = outcome' := same
  cases outcome with
  | ok value => exact rest value one middle here middle middle' left
  | error failure => exact ⟨rfl, left⟩

theorem agree_active {next following : Config → Run β}
    (rest : ∀ one other : Config, one.Alike other → (next one).Agree (following other)) :
    (configOrActive none >>= next).Agree (configOrActive none >>= following) :=
  fun one another alike => rest one.config another.config alike.config one another alike

theorem closed_agree : Closed fun run => run.Agree run where
  pure := agree_pure
  throw := agree_throw
  warned _ := agree_emit _
  handled _ := agree_emit _
  bind first rest := first.bind rest

end Run

/-- The callback neither looks at how skipped text is reported nor depends on it. -/
def Callback.Blind (callback : Callback) : Prop :=
  ∀ captures state, (callback captures state).Agree (callback captures state)

theorem lineBreak_blind : Callback.Blind lineBreak := fun _ _ => Run.agree_pure _

namespace Scanner

def under (scanner : Scanner) (config : Config) : Scanner :=
  { scanner with config }

@[simp] theorem under_config (scanner : Scanner) (config : Config) :
    (scanner.under config).config = config := rfl

def underAll (config : Config) (outcome : Except Failure (List Token × Scanner)) :
    Except Failure (List Token × Scanner) :=
  outcome.map fun (tokens, last) => (tokens, last.under config)

theorem underAll_behind (config : Config) (tokens : List Token)
    (outcome : Except Failure (List Token × Scanner)) :
    underAll config (behind tokens outcome) = behind tokens (underAll config outcome) := by
  cases outcome <;> rfl

theorem reportGap_alike {config another : Config} {gap : Option Gap}
    {before after before' : Context} (alike : before.Alike before')
    (reported : (reportGap config gap).Returns before () after)
    (accepted : ∀ skipped ∈ gap.toList, another.refusal? skipped = none) :
    ∃ after', (reportGap another gap).Returns before' () after' ∧ after.Alike after' := by
  obtain ⟨-, rfl⟩ := reportGap_returns_iff.mp reported
  refine ⟨_, reportGap_returns_iff.mpr ⟨accepted, rfl⟩, ?_⟩
  cases gap with
  | none => exact alike
  | some skipped => exact alike.reported skipped

theorem contentOf_agree {scanner : Scanner} (blind : scanner.set.Uses Callback.Blind)
    {rule : CompiledRule} (member : rule ∈ scanner.set.rules) (found : Match) (config : Config) :
    (scanner.contentOf rule found).Agree ((scanner.under config).contentOf rule found) := by
  unfold contentOf
  cases given : rule.callback with
  | none => exact Run.agree_pure _
  | some callback => exact blind rule member callback given _ _

/-- A course is cut short by a gap that is refused, when the configuration of the course accepted
it. -/
structure Cut (config other : Config) (deeds : List Deed) (earlier : List Deed) (gap : Gap)
    (failure : Failure) : Prop where
  split : ∃ later, deeds = earlier ++ .gap gap :: later
  before : ∀ skipped ∈ Deed.gaps earlier, other.refusal? skipped = none
  accepted : config.refusal? gap = none
  refused : other.refusal? gap = some failure

theorem Cut.behind {config other : Config} {first deeds earlier : List Deed} {gap : Gap}
    {failure : Failure} (unrefused : ∀ skipped ∈ Deed.gaps first, other.refusal? skipped = none)
    (cut : Cut config other deeds earlier gap failure) :
    Cut config other (first ++ deeds) (first ++ earlier) gap failure := by
  obtain ⟨⟨later, rfl⟩, before, accepted, refused⟩ := cut
  refine ⟨⟨later, (List.append_assoc ..).symm⟩, ?_, accepted, refused⟩
  intro skipped member
  rcases List.mem_append.mp (Deed.gaps_append first earlier ▸ member) with here | there
  · exact unrefused skipped here
  · exact before skipped there

theorem Course.of_refused {scanner : Scanner} {config : Config} {gap : Gap} {failure : Failure}
    (found : scanner.gapAhead = some gap) (refused : config.refusal? gap = some failure)
    (before : Context) :
    ∃ after, Course before (scanner.under config) [.gap gap] (.error failure) after := by
  refine ⟨(Deed.gap gap).pass config before, .refused found ?_⟩
  rw [under_config, report_run, Config.answer_eq_error_iff.mpr refused]

theorem Course.cut {scanner : Scanner} {before middle : Context} {other : Config}
    (reported : (reportGap scanner.config scanner.gapAhead).Returns before () middle)
    (refused : ¬∀ skipped ∈ scanner.gapAhead.toList, other.refusal? skipped = none)
    (later : List Deed) (before' : Context) :
    ∃ earlier gap failure after',
      Cut scanner.config other (Deed.ofGap scanner.gapAhead ++ later) earlier gap failure ∧
        Course before' (scanner.under other) (earlier ++ [.gap gap]) (.error failure) after' := by
  obtain ⟨accepted, -⟩ := reportGap_returns_iff.mp reported
  cases found : scanner.gapAhead with
  | none => simp [found] at refused
  | some gap =>
    rw [found] at accepted refused
    obtain ⟨failure, refused⟩ : ∃ failure, other.refusal? gap = some failure :=
      Option.ne_none_iff_exists'.mp fun none => refused (by simpa using none)
    obtain ⟨after', course⟩ := Course.of_refused found refused before'
    exact ⟨[], gap, failure, after',
      ⟨⟨later, rfl⟩, nofun, accepted gap (List.mem_singleton_self gap), refused⟩, course⟩

def Same (config other : Config) (deeds : List Deed) : Prop :=
  ∀ skipped ∈ Deed.gaps deeds, other.refusal? skipped = config.refusal? skipped

theorem Same.append {config other : Config} {first second : List Deed} (one : Same config other first)
    (two : Same config other second) : Same config other (first ++ second) := by
  intro skipped member
  rcases List.mem_append.mp (Deed.gaps_append first second ▸ member) with here | there
  · exact one skipped here
  · exact two skipped there

theorem same_of_reported {config other : Config} {gap : Option Gap} {before after : Context}
    (reported : (reportGap config gap).Returns before () after)
    (accepted : ∀ skipped ∈ gap.toList, other.refusal? skipped = none) :
    Same config other (Deed.ofGap gap) := by
  intro skipped member
  rw [Deed.gaps_ofGap] at member
  rw [accepted skipped member, (reportGap_returns_iff.mp reported).1 skipped member]

theorem Course.report_under {scanner : Scanner} {before middle before' : Context} {other : Config}
    (alike : before.Alike before')
    (reported : (reportGap scanner.config scanner.gapAhead).Returns before () middle)
    (later : List Deed) :
    (∃ middle', (reportGap other scanner.gapAhead).Returns before' () middle' ∧
      middle.Alike middle' ∧ Same scanner.config other (Deed.ofGap scanner.gapAhead)) ∨
    ∃ earlier gap failure after',
      Cut scanner.config other (Deed.ofGap scanner.gapAhead ++ later) earlier gap failure ∧
        Course before' (scanner.under other) (earlier ++ [.gap gap]) (.error failure) after' := by
  by_cases accepted : ∀ skipped ∈ scanner.gapAhead.toList, other.refusal? skipped = none
  · obtain ⟨middle', reported', alike'⟩ := reportGap_alike alike reported accepted
    exact .inl ⟨middle', reported', alike', same_of_reported reported accepted⟩
  · exact .inr (Course.cut reported accepted later before')

/-- The other configuration leads the scan to the same course, or cuts it short at the first gap that
only it refuses. -/
def Recurs (other : Config) (before' : Context) (scanner : Scanner) (deeds : List Deed)
    (outcome : Except Failure (List Token × Scanner)) (after : Context) : Prop :=
  (Same scanner.config other deeds ∧ ∃ after',
    Course before' (scanner.under other) deeds (underAll other outcome) after' ∧
      after.Alike after') ∨
  ∃ earlier gap failure after', Cut scanner.config other deeds earlier gap failure ∧
    Course before' (scanner.under other) (earlier ++ [.gap gap]) (.error failure) after'

namespace Recurs

variable {before middle after before' : Context} {scanner : Scanner} {other : Config}

theorem visit {visit : Visit} {deeds : List Deed}
    {outcome : Except Failure (List Token × Scanner)} (first : scanner.Visits before visit middle)
    (blind : scanner.set.Uses Callback.Blind) (alike : before.Alike before')
    (rest : ∀ middle', middle.Alike middle' →
      Recurs other middle' (scanner.passVisit visit) deeds outcome after) :
    Recurs other before' scanner (visit.deeds scanner ++ deeds)
      (behind visit.token.toList outcome) after := by
  obtain ⟨between, reported, called⟩ := first.called
  have gaps : Deed.gaps (visit.deeds scanner) = (scanner.numbered visit.gap).toList := by
    simp [Visit.deeds]
  have gap : scanner.gapAhead = scanner.numbered visit.gap := by
    rw [first.gap, gapAhead, ahead_of_next first.next]
  rcases Course.report_under alike (gap ▸ reported)
    (Deed.ofCall visit.rule (capturesOf scanner.text visit.rule visit.found) visit.entered ++ deeds)
    with ⟨between', reported', alike', -⟩ | cut
  · rw [gap] at reported'
    have accepted : ∀ skipped ∈ (scanner.numbered visit.gap).toList, other.refusal? skipped = none :=
      (reportGap_returns_iff.mp reported').1
    have member := mem_of_ruleForGroup? first.rule
    obtain ⟨same, later⟩ :=
      @contentOf_agree { scanner with state := visit.entered } blind _ member visit.found other
        between between' alike'
    rw [called] at same later
    have again : (scanner.under other).Visits before' visit
        (contentOf (({ scanner with state := visit.entered } : Scanner).under other) visit.rule
          visit.found between').2 :=
      { first with called := ⟨between', reported', Prod.ext same.symm rfl⟩ }
    have here : Same scanner.config other (visit.deeds scanner) := by
      intro skipped member
      rw [gaps] at member
      rw [accepted skipped member, first.leaves.1 skipped member]
    rcases rest _ later with ⟨there, after', course, left⟩ | ⟨earlier, gap, failure, after', cut,
      course⟩
    · left
      rw [underAll_behind]
      exact ⟨here.append there, after', .visit again course, left⟩
    · right
      refine ⟨visit.deeds scanner ++ earlier, gap, failure, after',
        cut.behind (gaps ▸ accepted), ?_⟩
      rw [List.append_assoc]
      exact .visit again course
  · right
    rwa [gap, ← List.append_assoc] at cut

theorem ended (stops : scanner.search.next? scanner.set.pattern scanner.text = none)
    (reported : (reportGap scanner.config scanner.gapAhead).Returns before () after)
    (alike : before.Alike before') :
    Recurs other before' scanner (Deed.ofGap scanner.gapAhead) (.ok ([], scanner.atEnd)) after := by
  rcases Course.report_under alike reported [] with ⟨after', reported', left, same⟩ | cut
  · exact .inl ⟨same, after', .ended stops reported', left⟩
  · exact .inr (by simpa using cut)

theorem refused {gap : Gap} {failure : Failure} (found : scanner.gapAhead = some gap)
    (refused : scanner.config.refusal? gap = some failure)
    (stricter : other.refusal? gap = some failure) (alike : before.Alike before') :
    Recurs other before' scanner [.gap gap] (.error failure)
      ((Deed.gap gap).pass scanner.config before) := by
  have same : Same scanner.config other [.gap gap] := by
    intro skipped member
    cases List.mem_singleton.mp member
    rw [refused, stricter]
  refine .inl ⟨same, (Deed.gap gap).pass other before', .refused found ?_, alike.reported gap⟩
  rw [under_config, report_run, Config.answer_eq_error_iff.mpr stricter]

theorem undispatched {found : Match} {search : Search}
    (step : scanner.search.next? scanner.set.pattern scanner.text = some (found, search))
    (reported : (reportGap scanner.config scanner.gapAhead).Returns before () after)
    (missing : scanner.set.ruleForGroup? (found.lastGroup.map Int.ofNat) = none)
    (alike : before.Alike before') :
    Recurs other before' scanner (Deed.ofGap scanner.gapAhead)
      (.error (.unknownGroup (found.lastGroup.map Int.ofNat))) after := by
  rcases Course.report_under alike reported [] with ⟨after', reported', left, same⟩ | cut
  · exact .inl ⟨same, after', .undispatched step reported' missing, left⟩
  · exact .inr (by simpa using cut)

theorem raised {found : Match} {search : Search} {rule : CompiledRule} {callback : Callback}
    {failure : Failure}
    (step : scanner.search.next? scanner.set.pattern scanner.text = some (found, search))
    (reported : (reportGap scanner.config scanner.gapAhead).Returns before () middle)
    (dispatched : scanner.set.ruleForGroup? (found.lastGroup.map Int.ofNat) = some rule)
    (given : rule.callback = some callback)
    (fails : callback (capturesOf scanner.text rule found) (scanner.entering found.start) middle =
      (.error failure, after))
    (blind : scanner.set.Uses Callback.Blind) (alike : before.Alike before') :
    Recurs other before' scanner (Deed.ofGap scanner.gapAhead ++
      [.call rule (capturesOf scanner.text rule found) (scanner.entering found.start)])
      (.error failure) after := by
  rcases Course.report_under alike reported _ with ⟨middle', reported', alike', here⟩ | cut
  · obtain ⟨same, later⟩ := blind rule (mem_of_ruleForGroup? dispatched) callback given
      (capturesOf scanner.text rule found) (scanner.entering found.start) middle middle' alike'
    rw [fails] at same later
    refine .inl ⟨here.append ?_, _, ?_, later⟩
    · intro skipped member
      cases member
    · exact .raised step reported' dispatched given (Prod.ext same.symm rfl)
  · exact .inr cut

end Recurs

theorem Course.under {before after before' : Context} {scanner : Scanner} {deeds : List Deed}
    {outcome : Except Failure (List Token × Scanner)}
    (course : Course before scanner deeds outcome after) (blind : scanner.set.Uses Callback.Blind)
    {other : Config} (stricter : ∀ skipped failure, scanner.config.refusal? skipped = some failure →
      other.refusal? skipped = some failure) (alike : before.Alike before') :
    Recurs other before' scanner deeds outcome after := by
  -- The other scan follows deed by deed, until it refuses a gap that the first one accepts.
  induction course generalizing before' with
  | visit first _ ih => exact .visit first blind alike fun _ later => ih blind stricter later
  | ended stops reported => exact .ended stops reported alike
  | refused found refused =>
    rw [report_run, Prod.mk.injEq, Config.answer_eq_error_iff] at refused
    obtain ⟨refused, rfl⟩ := refused
    exact .refused found refused (stricter _ _ refused) alike
  | undispatched step reported missing => exact .undispatched step reported missing alike
  | raised step reported dispatched given fails =>
    exact .raised step reported dispatched given fails blind alike

end Scanner

namespace RuleSet

variable {set : RuleSet} {one other : Config}

theorem does_of_alike (blind : set.Uses Callback.Blind) {text : String}
    (refusals : ∀ skipped, one.refusal? skipped = other.refusal? skipped) {before before' : Context}
    (alike : before.Alike before') {deeds : List Deed} (does : set.Does one text before deeds) :
    set.Does other text before' deeds ∧
      (set.scan one text before).1 = (set.scan other text before').1 ∧
      (set.scan one text before).2.Alike (set.scan other text before').2 := by
  obtain ⟨outcome, after, course⟩ := does
  rcases course.under blind (fun skipped _ refused => (refusals skipped) ▸ refused) alike with
    ⟨-, after', same, left⟩ | ⟨earlier, gap, failure, after', cut, -⟩
  · refine ⟨⟨_, after', same⟩, ?_⟩
    have again : set.scan other text before' = _ := scan_of_course same
    rw [scan_of_course course, again]
    cases outcome with
    | error failure => exact ⟨rfl, left⟩
    | ok pair =>
      obtain ⟨tokens, last⟩ := pair
      exact ⟨rfl, (left.record _ _ _).emit _⟩
  · have refused := cut.refused
    rw [← refusals gap] at refused
    exact absurd (cut.accepted.symm.trans refused) nofun

theorem scan_agree (blind : set.Uses Callback.Blind) (alike : one.Alike other) (text : String) :
    (set.scan one text).Agree (set.scan other text) := by
  intro before before' contexts
  obtain ⟨deeds, does⟩ := set.exists_does one text before
  exact (does_of_alike blind alike.refusals contexts does).2

end RuleSet

namespace Config.Alike

variable {one other : Config}

theorem addAll_eq (alike : one.Alike other) (assembly : Assembly) (place : Nat)
    (candidates : List Candidate) :
    assembly.addAll one place candidates = assembly.addAll other place candidates := by
  induction candidates generalizing assembly place with
  | nil => rfl
  | cons candidate candidates ih =>
    have same : assembly.add one place candidate = assembly.add other place candidate := by
      unfold Assembly.add
      rw [alike.escapeEntities, alike.flags]
    unfold Assembly.addAll
    rw [same]
    exact bind_congr fun next => ih next (place + 1)

theorem ofTable_eq (alike : one.Alike other) (table : Option (List Candidate)) :
    RuleSet.ofTable one table = RuleSet.ofTable other table := by
  have same : ∀ assembly : Assembly, assembly.finish one = assembly.finish other := by
    intro assembly
    unfold Assembly.finish
    rw [alike.flags]
  unfold RuleSet.ofTable
  split
  · rfl
  · rfl
  · rw [alike.addAll_eq]
    exact bind_congr same

theorem compile_agree (alike : one.Alike other) (table : Option (List Candidate)) :
    (RuleSet.compile one table).Agree (RuleSet.compile other table) := by
  unfold RuleSet.compile
  rw [alike.ofTable_eq]
  cases RuleSet.ofTable other table with
  | error failure => exact Run.agree_throw failure
  | ok set => exact (Run.agree_emit _).bind fun _ _ _ _ => Run.agree_pure set

end Config.Alike

theorem RuleSet.uses_blind {table : Option (List Candidate)}
    (blind : ∀ candidates, table = some candidates →
      ∀ candidate ∈ candidates, candidate.Uses Callback.Blind) {config : Config} {set : RuleSet}
    (accepted : ofTable config table = .ok set) : set.Uses Callback.Blind :=
  uses_of_ofTable lineBreak_blind blind accepted

namespace Action

theorem relexed_agree (captures : Captures) (index : Int) :
    (relexed captures index).Agree (relexed captures index) := by
  refine (captureAt_closed Run.closed_agree captures index).bind fun found _ _ _ => ?_
  refine Run.agree_active fun one other alike => ?_
  refine (alike.compile_agree _).bind fun set before after returned => ?_
  have blind : set.Uses Callback.Blind :=
    RuleSet.uses_blind (by rintro _ ⟨⟩; exact defaultTable_uses)
      (RuleSet.ofTable_of_compile returned)
  split
  · exact Run.agree_throw _
  · exact (RuleSet.scan_agree blind alike _).bind fun result _ _ _ => Run.agree_pure _

theorem callback_blind (rule : String) (action : Action) : (action.callback rule).Blind := by
  refine callback_closed Run.closed_agree (fun _ _ _ => Run.agree_emit _) ?_ relexed_agree rule action
  intro counter values one other alike
  obtain ⟨counts, left⟩ := alike.increment counter
  refine ⟨?_, left⟩
  change Except.ok (values.getD (one.count counter % values.length) .null) = .ok _
  rw [counts]

end Action

namespace Context

def warnings (context : Context) : List SkippedText :=
  context.events.reverse.filterMap fun
    | .warned skipped => some skipped
    | _ => none

def handed (context : Context) : List SkippedText :=
  context.events.reverse.filterMap fun
    | .handled skipped => some skipped
    | _ => none

end Context

theorem Scanner.finish_warnings (scanner : Scanner) (context : Context) :
    (scanner.finish context).2.warnings = context.warnings := by
  have finished : (scanner.finish context).2 =
      (context.record scanner.text.size scanner.tokens scanner.skipped.length).emit
        (.lexed scanner.text.size scanner.tokens scanner.skipped.length) := rfl
  rw [finished]
  unfold Context.record
  split <;> simp [Context.warnings, Context.emit]

theorem Scanner.finish_handed (scanner : Scanner) (context : Context) :
    (scanner.finish context).2.handed = context.handed := by
  have finished : (scanner.finish context).2 =
      (context.record scanner.text.size scanner.tokens scanner.skipped.length).emit
        (.lexed scanner.text.size scanner.tokens scanner.skipped.length) := rfl
  rw [finished]
  unfold Context.record
  split <;> simp [Context.handed, Context.emit]

def Callback.Unheard (callback : Callback) : Prop :=
  ∀ captures state context,
    (callback captures state context).2.warnings = context.warnings ∧
      (callback captures state context).2.handed = context.handed ∧
      (callback captures state context).2.books = context.books

theorem Deed.foldl_pass {set : RuleSet} (unheard : set.Uses Callback.Unheard) (config : Config)
    {deeds : List Deed}
    (calls : ∀ rule captures state, .call rule captures state ∈ deeds → rule ∈ set.rules)
    (before : Context) :
    (deeds.foldl (pass config) before).warnings =
        before.warnings ++ (if config.logSkipped.isTruthy then skipped deeds else []) ∧
      (deeds.foldl (pass config) before).handed =
        before.handed ++ (if config.onSkip.isSome then skipped deeds else []) ∧
      (deeds.foldl (pass config) before).books = before.books := by
  induction deeds generalizing before with
  | nil => simp [skipped, gaps]
  | cons deed deeds ih =>
    obtain ⟨warnings, handed, books⟩ := ih
      (fun rule captures state member => calls rule captures state (List.mem_cons_of_mem _ member))
      (deed.pass config before)
    rw [List.foldl_cons, warnings, handed, books]
    cases deed with
    | gap gap =>
      simp only [pass, Context.foldl_emit, Config.reports, skipped, gaps, List.filterMap_cons, gap?,
        List.map_cons]
      refine ⟨?_, ?_, ?_⟩
      · split <;> split <;> simp [Context.warnings]
      · split <;> split <;> simp [Context.handed]
      · split <;> split <;> simp [Context.books, Event.completion?]
    | call rule captures state =>
      have member := calls rule captures state List.mem_cons_self
      simp only [pass, skipped, gaps, List.filterMap_cons, gap?]
      cases given : rule.callback with
      | none => exact ⟨rfl, rfl, rfl⟩
      | some callback =>
        obtain ⟨warnings, handed, books⟩ := unheard rule member callback given captures state before
        simp only [warnings, handed, books, and_self]

namespace RuleSet

/-- What a scan that does these deeds says of skipped text, and what it leaves behind. -/
structure Reports (set : RuleSet) (config : Config) (text : String) (before : Context)
    (deeds : List Deed) : Prop where
  returned : ∀ result, (set.scan config text before).1 = .ok result →
    result.skipped = Deed.skipped deeds ∧
      (∀ gap ∈ Deed.gaps deeds, config.refusal? gap = none) ∧
      (set.scan config text before).2 =
        ((deeds.foldl (Deed.pass config) before).record text.length result.tokens.length
          result.skipped.length).emit
          (.lexed text.length result.tokens.length result.skipped.length)
  numbered : (Deed.gaps deeds).map Gap.earlier = List.range (Deed.gaps deeds).length
  failed : ∀ failure, (set.scan config text before).1 = .error failure →
    (set.scan config text before).2 = deeds.foldl (Deed.pass config) before ∧
      Deed.Stops set config before deeds failure
  refused : ∀ earlier gap later failure, deeds = earlier ++ .gap gap :: later →
    config.refusal? gap = some failure →
      later = [] ∧ (∀ skipped ∈ Deed.gaps earlier, config.refusal? skipped = none) ∧
        set.scan config text before = (.error failure, deeds.foldl (Deed.pass config) before)
  channels : set.Uses Callback.Unheard →
    (set.scan config text before).2.warnings =
        before.warnings ++ (if config.logSkipped.isTruthy then Deed.skipped deeds else []) ∧
      (set.scan config text before).2.handed =
        before.handed ++ (if config.onSkip.isSome then Deed.skipped deeds else []) ∧
      (set.scan config text before).2.books =
        (Completion.ofScan text (set.scan config text before).1).foldl Books.enter before.books

end RuleSet

theorem Deed.Stops.last {set : RuleSet} {config : Config} {before : Context} {deeds : List Deed}
    {failure : Failure} (stops : Stops set config before deeds failure) {earlier later : List Deed}
    {gap : Gap} (split : deeds = earlier ++ .gap gap :: later) {refusal : Failure}
    (refused : config.refusal? gap = some refusal) :
    later = [] ∧ (∀ skipped ∈ gaps earlier, config.refusal? skipped = none) ∧ failure = refusal := by
  have absent : ∀ others : List Deed, (∀ skipped ∈ gaps others, config.refusal? skipped = none) →
      .gap gap ∉ others := by
    intro others unrefused member
    have gone := unrefused gap (List.mem_filterMap.mpr ⟨_, member, rfl⟩)
    rw [refused] at gone
    cases gone
  rcases List.eq_nil_or_concat later with rfl | ⟨later, last, rfl⟩
  · cases stops with
    | refused unrefused own =>
      obtain ⟨rfl, same⟩ := List.append_inj' split rfl
      cases same
      exact ⟨rfl, unrefused, Option.some.inj (own.symm.trans refused)⟩
    | undispatched unrefused => exact absurd (by simp [split]) (absent _ unrefused)
    | raised unrefused =>
      obtain ⟨-, same⟩ := List.append_inj' split rfl
      cases same
  · rw [List.concat_eq_append, ← List.cons_append, ← List.append_assoc] at split
    have within : .gap gap ∈ earlier ++ .gap gap :: later := by simp
    cases stops with
    | refused unrefused | raised unrefused =>
      obtain ⟨rfl, -⟩ := List.append_inj' split rfl
      exact absurd within (absent _ unrefused)
    | undispatched unrefused =>
      refine absurd ?_ (absent _ unrefused)
      rw [split]
      exact List.mem_append_left _ within

namespace RuleSet

variable {set : RuleSet} {config : Config}

theorem Reports.of_ok {text : String} {before : Context} {deeds : List Deed} {tokens : List Token}
    {last : Scanner} (course : (set.scanner config text).Course before deeds (.ok (tokens, last))
      (deeds.foldl (Deed.pass config) before)) : set.Reports config text before deeds := by
  have scanned := scan_of_course course
  obtain ⟨unrefused, skipped, counted, same⟩ := course.of_ok rfl
  have skipped : last.skipped.reverse = Deed.skipped deeds := skipped
  have counted : last.tokens = tokens.length := counted.trans (Nat.zero_add _)
  have size : last.text.size = text.length := by
    rw [same]
    exact String.length_toList
  exact {
    returned := by
      rw [scanned]
      rintro _ ⟨⟩
      refine ⟨skipped, unrefused, ?_⟩
      rw [List.length_reverse, ← size, ← counted]
      rfl
    numbered := numbered_gaps course
    failed := by
      rw [scanned]
      exact nofun
    refused := by
      rintro earlier gap later failure rfl refused
      have gone := unrefused gap (by simp [Deed.gaps, Deed.gap?])
      exact absurd (refused.symm.trans gone) nofun
    channels := by
      intro unheard
      obtain ⟨warnings, handed, books⟩ :=
        Deed.foldl_pass unheard config (fun _ _ _ => course.mem_rules) before
      rw [scanned]
      refine ⟨?_, ?_, ?_⟩
      · rw [← warnings, last.finish_warnings]
      · rw [← handed, last.finish_handed]
      · rw [last.finish_books, books, Scanner.completion, size, counted]
        simp [Completion.ofScan] }

theorem Reports.of_error {text : String} {before : Context} {deeds : List Deed} {failure : Failure}
    (course : (set.scanner config text).Course before deeds (.error failure)
      (deeds.foldl (Deed.pass config) before)) : set.Reports config text before deeds := by
  have scanned := scan_of_course course
  have stops : Deed.Stops set config before deeds failure := course.of_error rfl
  exact {
    returned := by
      rw [scanned]
      exact nofun
    numbered := numbered_gaps course
    failed := by
      rw [scanned]
      rintro _ ⟨⟩
      exact ⟨rfl, stops⟩
    refused := by
      intro earlier gap later refusal split refused
      obtain ⟨ended, unrefused, rfl⟩ := stops.last split refused
      exact ⟨ended, unrefused, scanned⟩
    channels := by
      intro unheard
      rw [scanned]
      exact Deed.foldl_pass unheard config (fun _ _ _ => course.mem_rules) before }

theorem Does.reports {text : String} {before : Context} {deeds : List Deed}
    (does : set.Does config text before deeds) : set.Reports config text before deeds := by
  obtain ⟨outcome, after, course⟩ := does
  obtain rfl : after = deeds.foldl (Deed.pass config) before := course.after_eq
  cases outcome with
  | ok pair => exact .of_ok course
  | error failure => exact .of_error course

theorem Does.cut {calm other : Config} (blind : set.Uses Callback.Blind) {text : String}
    (never : ∀ skipped, calm.refusal? skipped = none) {before before' : Context}
    (alike : before.Alike before') {deeds : List Deed} (does : set.Does calm text before deeds) :
    set.Does other text before' deeds ∧ (∀ skipped ∈ Deed.gaps deeds, other.refusal? skipped = none) ∨
    ∃ earlier gap later failure, deeds = earlier ++ .gap gap :: later ∧
      (∀ skipped ∈ Deed.gaps earlier, other.refusal? skipped = none) ∧
      other.refusal? gap = some failure ∧ set.Does other text before' (earlier ++ [.gap gap]) := by
  obtain ⟨outcome, after, course⟩ := does
  have stricter : ∀ skipped failure, calm.refusal? skipped = some failure →
      other.refusal? skipped = some failure :=
    fun skipped failure refused => absurd ((never skipped).symm.trans refused) nofun
  rcases course.under blind stricter alike with
    ⟨accepted, after', same, -⟩ | ⟨earlier, gap, failure, after', cut, same⟩
  · exact .inl ⟨⟨_, _, same⟩, fun skipped member => (accepted skipped member).trans (never skipped)⟩
  · obtain ⟨later, split⟩ := cut.split
    exact .inr ⟨earlier, gap, later, failure, split, cut.before, cut.refused, _, _, same⟩

end RuleSet

theorem scanText_of_ofTable {table : Option (List Candidate)} {config : Config} {set : RuleSet}
    (accepted : RuleSet.ofTable config table = .ok set) (text : String) (before : Context) :
    scanText table (some config) text before =
      set.scan config text (before.emit (.compiled set.rules.length set.pattern.groups)) := by
  have compiled : RuleSet.compile config table before =
      (.ok set, before.emit (.compiled set.rules.length set.pattern.groups)) := by
    unfold RuleSet.compile
    rw [accepted]
    rfl
  unfold scanText configOrActive
  dsimp only
  rw [pure_bind, Run.run_bind, compiled]

section Table

variable {table : Option (List Candidate)}
  (blind : ∀ candidates, table = some candidates →
    ∀ candidate ∈ candidates, candidate.Uses Callback.Blind)

include blind

theorem RuleSet.compile_scan_agree {one other : Config} (alike : one.Alike other) (text : String) :
    (compile one table >>= fun set => set.scan one text).Agree
      (compile other table >>= fun set => set.scan other text) := by
  refine (alike.compile_agree table).bind fun set before after returned => ?_
  exact scan_agree (uses_blind blind (ofTable_of_compile returned)) alike text

theorem RuleSet.does_iff_of_alike {one other : Config} (alike : one.Alike other) {set : RuleSet}
    (accepted : ofTable one table = .ok set) {text : String} {before before' : Context}
    (contexts : before.Alike before') {deeds : List Deed} :
    set.Does one text before deeds ↔ set.Does other text before' deeds := by
  have blind := uses_blind blind accepted
  exact ⟨fun does => (does_of_alike blind alike.refusals contexts does).1,
    fun does => (does_of_alike blind alike.symm.refusals contexts.symm does).1⟩

/-- Diagnostics do not influence lexing, and every channel tells of the same gaps. Configurations that
are alike lead to the same outcome, the same deeds and contexts that are alike. Whatever the
configuration is, a scan reports what it returns as skipped. A handler that refuses a gap, where
another configuration refuses none, cuts the scan short at the first gap that it refuses. -/
theorem scanText_diagnostics (text : String) :
    (∀ one other : Config, one.Alike other →
      (scanText table (some one) text).Agree (scanText table (some other) text)) ∧
    (scanText table none text).Agree (scanText table none text) ∧
    ∀ config set, RuleSet.ofTable config table = .ok set →
      (∀ before, scanText table (some config) text before =
        set.scan config text (before.emit (.compiled set.rules.length set.pattern.groups))) ∧
      (∀ before, ∃ deeds, set.Does config text before deeds) ∧
      (∀ before deeds, set.Does config text before deeds → set.Reports config text before deeds) ∧
      (∀ other : Config, config.Alike other → RuleSet.ofTable other table = .ok set ∧
        ∀ before before' : Context, before.Alike before' →
          ∀ deeds, set.Does config text before deeds ↔ set.Does other text before' deeds) ∧
      ∀ other : Config, (∀ skipped, config.refusal? skipped = none) →
        ∀ before before' : Context, before.Alike before' → ∀ deeds,
          set.Does config text before deeds →
            set.Does other text before' deeds ∧
              (∀ skipped ∈ Deed.gaps deeds, other.refusal? skipped = none) ∨
            ∃ earlier gap later failure, deeds = earlier ++ .gap gap :: later ∧
              (∀ skipped ∈ Deed.gaps earlier, other.refusal? skipped = none) ∧
              other.refusal? gap = some failure ∧
              set.Does other text before' (earlier ++ [.gap gap]) := by
  refine ⟨?_, ?_, fun config set accepted => ⟨?_, ?_, ?_, ?_, ?_⟩⟩
  · exact fun one other alike => RuleSet.compile_scan_agree blind alike text
  · exact Run.agree_active fun one other alike => RuleSet.compile_scan_agree blind alike text
  · exact scanText_of_ofTable accepted text
  · exact set.exists_does config text
  · exact fun before deeds does => does.reports
  · intro other alike
    exact ⟨alike.ofTable_eq table ▸ accepted, fun before before' contexts deeds =>
      RuleSet.does_iff_of_alike blind alike accepted contexts⟩
  · intro other never before before' contexts deeds does
    exact does.cut (RuleSet.uses_blind blind accepted) never contexts

end Table

def watchingTable : List Candidate :=
  [.rule (.text "A") (.value (.text "a")) (.callback (Action.callback "A" .whereabouts)) (.bool false)]

theorem watchingTable_blind (candidates : List Candidate) (given : some watchingTable = some candidates) :
    ∀ candidate ∈ candidates, candidate.Uses Callback.Blind := by
  cases given
  intro candidate member
  cases List.mem_singleton.mp member
  exact Action.callback_blind "A" .whereabouts

def watchingSet : RuleSet where
  rules := [htmlBreak, ⟨"A", ['a'], some (Action.callback "A" .whereabouts), false, 0, 2⟩]
  pattern :=
    { source := "(<br\\s*/?\\s*>)|(a)".toList
      regex := .alt (.group 1 htmlBreakTree) (.group 2 (.char 97))
      groups := 2
      names := []
      flags := .ofList [.unicode, .multiLine] }

/-- A handler that fails at its second call. -/
def refusingConfig : Config :=
  { onSkip := some fun gap => if gap.earlier = 1 then some (.raised "no") else none }

theorem watchingTable_diagnostics :
    (scanText (some watchingTable) (some {}) "?a!").Agree
      (scanText (some watchingTable) (some { logSkipped := .bool false }) "?a!") ∧
    (∃ deeds, watchingSet.Does refusingConfig "?a!" {} deeds ∧
      watchingSet.Reports refusingConfig "?a!" {} deeds) ∧
    (watchingSet.scan refusingConfig "?a!" {}).1 = .error (.raised "no") ∧
    (watchingSet.scan refusingConfig "?a!" {}).2.handed = [⟨1, 1, "?"⟩, ⟨1, 3, "!"⟩] := by
  obtain ⟨agree, -, accepted⟩ := scanText_diagnostics watchingTable_blind "?a!"
  obtain ⟨-, course, reports, -, -⟩ := accepted refusingConfig watchingSet rfl
  obtain ⟨deeds, does⟩ := course {}
  exact ⟨agree _ _ ⟨rfl, rfl, fun _ => rfl⟩, ⟨deeds, does, reports _ _ does⟩, rfl, rfl⟩

end RuleLexer
