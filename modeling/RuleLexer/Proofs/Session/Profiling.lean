import RuleLexer.Proofs.Session.Completion
import RuleLexer.Proofs.Session.Delivery

namespace RuleLexer

open SessionM

namespace Moment

def counted (place : Nat) (moment : Moment) : List Completion :=
  if moment.before.context.activeProfile = some place then moment.completions else []

/-- What is completed in a moment, and where it is counted. -/
structure Settled (moment : Moment) : Prop where
  completed : ∃ nested, moment.Nests nested ∧ moment.completions = nested ++ moment.own
  apart : ∀ place totals, moment.before.context.profiles[place]? = some totals →
    moment.before.context.activeProfile ≠ some place →
      moment.after.context.profiles[place]? = some totals
  failed : ∀ failure, moment.outcome = .error failure → moment.own = []
  scanned : ∀ name text result, moment.step = .scan name text →
    moment.outcome = .ok (.scanned result) →
      moment.own = [⟨text.length, result.tokens.length, result.skipped.length⟩]
  lexed : ∀ name text tokens, moment.step = .lex name text → moment.outcome = .ok (.tokens tokens) →
    ∃ result, (moment.before.moment (.scan name text)).outcome = .ok (.scanned result) ∧
      tokens = result.tokens.map some ∧
      moment.own = [⟨text.length, result.tokens.length, result.skipped.length⟩]
  paused : ∀ name, moment.Calls name → moment.fate? name ≠ some .exhausted → moment.own = []
  idle : (∀ name text, moment.step ≠ .scan name text ∧ moment.step ≠ .lex name text) →
    (∀ name, ¬ moment.Calls name) → moment.completions = []

end Moment

def Scanner.Ends (scanner : Scanner) (tokens : List Token) (last : Scanner) : Prop :=
  ∃ stopped before after, scanner.Delivers tokens stopped ∧ stopped.next.Returns before (none, last) after

/-- What a generator completes in the course of the history since it was made. -/
structure Exhaustion (name : String) (place : Nat) (config : Config) (text : String)
    (history : List Moment) : Prop where
  exhausted : ∀ past moment future, history = past ++ moment :: future → moment.Calls name →
    fateIn name past = none → moment.fate? name = some .exhausted →
      ∃ set last, published name place (past ++ [moment]) = some set ∧
        (set.scanner config text).Ends (deliveries name (past ++ [moment])) last ∧
        moment.own = [⟨text.length, (deliveries name (past ++ [moment])).length, last.skipped.length⟩] ∧
        (set.Uses Callback.Steady → ∀ context, ∃ result, (set.scan config text context).1 = .ok result ∧
          moment.own = [⟨text.length, result.tokens.length, result.skipped.length⟩])
  ceased : ∀ past moment future, history = past ++ moment :: future → moment.Calls name →
    fateIn name past ≠ none → moment.completions = []

namespace Session

variable {session : Session} {step : SessionStep} {name : String}

/-- The active profile is there, and so is every profile that can become active again. -/
structure Anchored (session : Session) : Prop where
  active : ∀ place, session.context.activeProfile = some place → place < session.context.profiles.length
  entered : ∀ id entered place, session.profiles.lookup id = some entered →
    entered.previous = some (some place) → place < session.context.profiles.length

theorem anchored_enterProfile (anchored : session.Anchored) (id : String) :
    (session.moment (.enterProfile id)).after.Anchored := by
  rw [moment_after, perform_enterProfile]
  constructor
  · intro place active
    cases active
    simp [unobserved]
  · intro other entered place found previous
    simp only [lookup_bindName] at found
    rw [List.length_append]
    split at found
    · cases found
      exact Nat.lt_add_right _ (anchored.active place (Option.some.inj previous))
    · exact Nat.lt_add_right _ (anchored.entered other entered place found previous)

theorem anchored_exitProfile (anchored : session.Anchored) (id : String) :
    (session.moment (.exitProfile id)).after.Anchored := by
  rw [moment_after, perform_exitProfile]
  split
  · exact ⟨anchored.active, anchored.entered⟩
  · next entered known =>
    constructor
    · intro place active
      cases previous : entered.previous with
      | none =>
        rw [previous] at active
        exact anchored.active place active
      | some earlier =>
        rw [previous] at active
        cases active
        exact anchored.entered id entered place known previous
    · intro other left place found previous
      simp only [lookup_bindName] at found
      split at found
      · cases found
        cases previous
      · exact anchored.entered other left place found previous

theorem length_moment (uses : session.Uses Callback.ScansOnly) (switches : ¬ step.switchesProfile)
    (unrecorded : ¬ step.recordsByHand) :
    (session.moment step).after.context.profiles.length = session.context.profiles.length := by
  obtain ⟨nested, -, books⟩ := moment_books uses switches unrecorded
  exact (congrArg (fun books => books.profiles.length) books).trans (Books.length_foldl _ _)

theorem anchored_moment (uses : session.Uses Callback.ScansOnly) (unrecorded : ¬ step.recordsByHand)
    (anchored : session.Anchored) : (session.moment step).after.Anchored := by
  by_cases switches : step.switchesProfile
  · cases step with
    | enterProfile id => exact anchored_enterProfile anchored id
    | exitProfile id => exact anchored_exitProfile anchored id
    | _ => cases switches
  · obtain ⟨nested, -, books⟩ := moment_books uses switches unrecorded
    have active : (session.moment step).after.context.activeProfile = session.context.activeProfile :=
      (congrArg Books.active books).trans (Books.active_foldl _ _)
    have length := length_moment uses switches unrecorded
    have entered : (session.moment step).after.profiles = session.profiles :=
      perform_keeps ⟨⟨fun _ _ _ _ _ _ same => same, fun _ _ _ => rfl, fun _ _ => rfl⟩, fun _ _ _ => rfl,
        fun _ _ _ => rfl, fun _ _ _ _ => rfl, fun uses => absurd uses switches, fun _ _ _ => rfl⟩
        session.unobserved
    constructor
    · rw [active, length]
      exact anchored.active
    · rw [entered, length]
      exact anchored.entered

/-- What a moment completes is added to the profile that is active, and to no other. -/
theorem profiles_moment (uses : session.Uses Callback.ScansOnly) (unrecorded : ¬ step.recordsByHand)
    {place : Nat} {totals : Totals} (there : session.context.profiles[place]? = some totals) :
    (session.moment step).after.context.profiles[place]? =
      some (((session.moment step).counted place).foldl Totals.add totals) := by
  by_cases switches : step.switchesProfile
  · have nothing : (session.moment step).counted place = [] := by
      rw [Moment.counted, completions_of_switch switches, ite_self]
    rw [nothing, List.foldl_nil, moment_after]
    cases step with
    | enterProfile id =>
      rw [perform_enterProfile]
      exact List.getElem?_append_left (List.getElem?_eq_some_iff.mp there).1 |>.trans there
    | exitProfile id =>
      rw [perform_exitProfile]
      split <;> exact there
    | _ => cases switches
  · obtain ⟨nested, -, books⟩ := moment_books uses switches unrecorded
    have profiles : (session.moment step).after.context.profiles[place]? = _ :=
      (congrArg (fun books => books.profiles[place]?) books).trans (Books.profiles_foldl _ _ place)
    have before : session.unobserved.context.books.profiles[place]? = some totals := there
    have active : session.unobserved.context.books.active = session.context.activeProfile := rfl
    rw [profiles, before, active, Moment.counted, completions_of_books books]
    change _ = some (List.foldl Totals.add totals
      (if session.context.activeProfile = some place then _ else []))
    split <;> rfl

theorem profiles_moment_new (uses : session.Uses Callback.ScansOnly) (anchored : session.Anchored)
    (unrecorded : ¬ step.recordsByHand) {place : Nat} (absent : session.context.profiles[place]? = none) :
    (session.moment step).after.context.profiles.getD place {} = {} ∧
      (session.moment step).counted place = [] := by
  have beyond : session.context.profiles.length ≤ place := List.getElem?_eq_none_iff.mp absent
  constructor
  · by_cases switches : step.switchesProfile
    · rw [moment_after]
      cases step with
      | enterProfile id =>
        rw [perform_enterProfile]
        change (session.context.profiles ++ [({} : Totals)]).getD place {} = {}
        rw [List.getD_eq_getElem?_getD, List.getElem?_append_right beyond]
        cases place - session.context.profiles.length <;> rfl
      | exitProfile id =>
        rw [perform_exitProfile]
        split <;> simp [unobserved, List.getD_eq_getElem?_getD, absent]
      | _ => cases switches
    · have length := length_moment uses switches unrecorded
      have gone := List.getElem?_eq_none (Nat.le_trans (Nat.le_of_eq length) beyond)
      rw [List.getD_eq_getElem?_getD, gone]
      rfl
  · refine if_neg fun active => ?_
    have inside := anchored.active place active
    omega

theorem totals_moment (uses : session.Uses Callback.ScansOnly) (anchored : session.Anchored)
    (unrecorded : ¬ step.recordsByHand) (place : Nat) :
    (session.moment step).after.context.profiles.getD place {} =
      ((session.moment step).counted place).foldl Totals.add (session.context.profiles.getD place {}) := by
  cases there : session.context.profiles[place]? with
  | some totals =>
    have later := profiles_moment uses unrecorded there
    rw [List.getD_eq_getElem?_getD, later, List.getD_eq_getElem?_getD, there]
    rfl
  | none =>
    obtain ⟨fresh, nothing⟩ := profiles_moment_new uses anchored unrecorded there
    rw [fresh, nothing, List.getD_eq_getElem?_getD, there]
    rfl

theorem settled_moment (uses : session.Uses Callback.ScansOnly) (unrecorded : ¬ step.recordsByHand) :
    (session.moment step).Settled where
  completed := completed_moment uses unrecorded
  apart := by
    intro place totals there inactive
    have later := profiles_moment uses unrecorded there
    have nothing : (session.moment step).counted place = [] := if_neg inactive
    rw [later, nothing]
    rfl
  failed _ := failed_moment
  scanned := by
    intro name text result stepped returned
    obtain rfl : step = .scan name text := stepped
    rcases own_scan session name text with ⟨other, same, own⟩ | ⟨failure, failed, -⟩
    · rw [returned] at same
      cases same
      exact own
    · rw [returned] at failed
      cases failed
  lexed := by
    intro name text tokens stepped returned
    obtain rfl : step = .lex name text := stepped
    rw [outcome_lex] at returned
    rcases own_scan session name text with ⟨result, same, own⟩ | ⟨failure, failed, -⟩
    · rw [same] at returned
      cases returned
      exact ⟨result, same, rfl, own⟩
    · rw [failed] at returned
      cases returned
  paused := by
    intro name calls unmet
    rcases own_call calls with ⟨stretch, own, takes⟩ | nothing
    · rw [takes.fate] at unmet
      rw [own, Stretch.own]
      cases halt : stretch.halt with
      | exhausted last =>
        rw [halt] at unmet
        exact absurd rfl unmet
      | paused stopped => rfl
      | failed failure => rfl
    · exact nothing
  idle silent quiet := completions_of_untaken uses unrecorded (untaken_of_idle silent quiet)

section Generators

variable {place : Nat} {text : String} {lexer : Lexer} {history : List Moment} {generator : Generator}

theorem taken_of_unmet (tracked : Tracked name place lexer.config text history generator)
    (known : session.generators.lookup name = some generator)
    (there : session.lexers[place]? = some lexer) (calls : (session.moment step).Calls name)
    (unmet : fateIn name history = none) (going : (session.moment step).fate? name ≠ some .failed) :
    ∃ stretch, session.unobserved.callStretch? step = some stretch := by
  rcases started : startScan name session.unobserved with ⟨failure | _ | scanner, middle⟩
  · obtain ⟨-, -, -, failed, -⟩ := moment_idle calls started nofun
    exact absurd (failed failure rfl) going
  · cases tracked with
    | fresh uncalled nothing none =>
      rw [@startScan_of_fresh session.unobserved name place text lexer known there] at started
      rcases ready : rulesFor place (session.unobserved.putGenerator name .finished) with ⟨failure | set, after⟩
      all_goals
        rw [ready] at started
        cases started
    | running rules delivers none =>
      rw [startScan_of_running (by exact known)] at started
      cases started
    | idle met different nothing =>
      rw [unmet] at met
      cases met
    | ceased met rules delivers ended =>
      rw [unmet] at met
      cases met
  · obtain ⟨stretch, taken, -⟩ := taken_of_started calls started
    exact ⟨stretch, taken⟩

theorem exhausted_moment (tracked : Tracked name place lexer.config text history generator)
    (known : session.generators.lookup name = some generator)
    (there : session.lexers[place]? = some lexer) (calls : (session.moment step).Calls name)
    (unmet : fateIn name history = none)
    (exhausted : (session.moment step).fate? name = some .exhausted) :
    ∃ set last, published name place (history ++ [session.moment step]) = some set ∧
      (set.scanner lexer.config text).Ends (deliveries name (history ++ [session.moment step])) last ∧
      (session.moment step).own =
        [⟨text.length, (deliveries name (history ++ [session.moment step])).length, last.skipped.length⟩] ∧
      (set.Uses Callback.Steady → ∀ context, ∃ result,
        (set.scan lexer.config text context).1 = .ok result ∧ (session.moment step).own =
          [⟨text.length, result.tokens.length, result.skipped.length⟩]) := by
  obtain ⟨stretch, taken⟩ := taken_of_unmet tracked known there calls unmet (by rw [exhausted]; nofun)
  obtain ⟨ready, started, -⟩ := started_of_taken calls taken
  obtain ⟨-, set, rules, delivers⟩ := tracked_started tracked known there calls started
  have takes := moment_takes calls taken
  have own := own_of_taken ((stretch?_of_calls calls).trans taken)
  have reaches := stretch.reaches
  rw [takes.fate] at exhausted
  rw [deliveries_snoc, takes.delivered, own]
  cases halt : stretch.halt with
  | paused stopped =>
    rw [halt] at exhausted
    cases exhausted
  | failed failure =>
    rw [halt] at exhausted
    cases exhausted
  | exhausted last =>
    rw [halt] at reaches
    cases reaches with
    | exhausted emits =>
      -- What was delivered before is from the same scan, so that this end is the end of the whole.
      have eager := fun steady => RuleSet.eager_of_delivers steady delivers emits
      obtain ⟨stopped, middle, pulls, stops⟩ := emits
      have whole := delivers.append pulls.delivers
      have completed : stretch.own = [last.completion] := by rw [Stretch.own, halt]
      rw [completed, whole.completion stops]
      refine ⟨set, last, rules, ⟨stopped, middle, _, whole, stops⟩, rfl, ?_⟩
      intro steady context
      refine ⟨_, (eager steady context).2, ?_⟩
      rw [List.length_reverse]

theorem exhaustion_after {steps : List SessionStep} (uses : session.Uses Callback.ScansOnly)
    (modest : ∀ step ∈ steps, step.Uses Callback.ScansOnly)
    (unrecorded : ∀ step ∈ steps, ¬ step.recordsByHand)
    (fresh : session.generators.lookup name = some (.fresh place text))
    (there : session.lexers[place]? = some lexer)
    (alive : ∀ moment ∈ session.history steps, ¬ moment.Renews name) :
    Exhaustion name place lexer.config text (session.history steps) := by
  constructor
  · intro past moment future split calls unmet exhausted
    rw [split] at alive
    obtain ⟨first, step, rest, rfl, rfl, rfl⟩ := history_at split
    obtain ⟨generator, known, tracked⟩ := tracked_after fresh there fun moment member =>
      alive moment (List.mem_append_left _ member)
    obtain ⟨later, standing, same⟩ := @lexer_after _ _ _ first there
    rw [← same] at tracked ⊢
    exact exhausted_moment tracked known standing calls unmet exhausted
  · intro past moment future split calls met
    rw [split] at alive
    obtain ⟨first, step, rest, rfl, rfl, rfl⟩ := history_at split
    obtain ⟨generator, known, tracked⟩ := tracked_after fresh there fun moment member =>
      alive moment (List.mem_append_left _ member)
    cases tracked.finished met
    have before : (session.after first).Uses Callback.ScansOnly :=
      uses.after lineBreak_scansOnly fun other member => modest other (List.mem_append_left _ member)
    have plain := unrecorded step (List.mem_append_right _ List.mem_cons_self)
    refine completions_of_untaken before plain ?_
    rw [stretch?_of_calls calls]
    cases taken : (session.after first).unobserved.callStretch? step with
    | none => rfl
    | some stretch =>
      obtain ⟨ready, started, -⟩ := started_of_taken calls taken
      rw [startScan_of_finished (by exact known)] at started
      cases started

end Generators

section Run

variable {steps : List SessionStep} (modest : ∀ step ∈ steps, step.Uses Callback.ScansOnly)
  (unrecorded : ∀ step ∈ steps, ¬ step.recordsByHand)

include modest unrecorded

theorem sound_after :
    (Session.after {} steps).Uses Callback.ScansOnly ∧ (Session.after {} steps).Anchored := by
  refine @after_induction (fun session => session.Uses Callback.ScansOnly ∧ session.Anchored) steps ?_ {}
    ⟨Uses.empty, nofun, nofun⟩
  intro session step member sound
  obtain ⟨uses, anchored⟩ := sound
  exact ⟨uses.moment lineBreak_scansOnly (modest step member),
    anchored_moment uses (unrecorded step member) anchored⟩

/-- Every profile has counted what was completed while it was active. -/
theorem totals_after (place : Nat) :
    (Session.after {} steps).context.profiles.getD place {} =
      Totals.ofCompletions ((Session.history {} steps).flatMap (Moment.counted place)) := by
  induction steps using List.reverseRecOn with
  | nil => rfl
  | append_singleton steps step ih =>
    -- The last moment starts where the others have led to, with the profile that is active there.
    have earlier : ∀ other ∈ steps, other.Uses Callback.ScansOnly :=
      fun other member => modest other (List.mem_append_left _ member)
    have others : ∀ other ∈ steps, ¬ other.recordsByHand :=
      fun other member => unrecorded other (List.mem_append_left _ member)
    obtain ⟨uses, anchored⟩ := sound_after earlier others
    have plain := unrecorded step (List.mem_append_right _ List.mem_cons_self)
    have last := totals_moment uses anchored plain place
    rw [ih earlier others, ← Totals.ofCompletions_append] at last
    rw [after_append, history_append, List.flatMap_append]
    exact last.trans (by simp [history])

end Run

end Session

structure Session.Profiled (steps : List SessionStep) : Prop where
  counted : ∀ place totals, (Session.after {} steps).context.profiles[place]? = some totals →
    totals = Totals.ofCompletions ((Session.history {} steps).flatMap (Moment.counted place))
  settled : ∀ moment ∈ Session.history {} steps, moment.Settled
  exhausted : ∀ earlier later rest lexerName name text place lexer,
    steps = earlier ++ .tokenize lexerName name text :: (later ++ rest) →
    (Session.after {} earlier).named? lexerName = some (place, lexer) →
    (∀ moment ∈ (Session.after {} (earlier ++ [.tokenize lexerName name text])).history later,
      ¬ moment.Renews name) →
    Exhaustion name place lexer.config text
      ((Session.after {} (earlier ++ [.tokenize lexerName name text])).history later)

/-- Profiles count what is completed while they are active, and nothing else: callbacks may scan other
texts, scans may fail at any place, and generators may be taken up while another profile is active. -/
theorem Session.profiles_count_completions (steps : List SessionStep)
    (modest : ∀ step ∈ steps, step.Uses Callback.ScansOnly)
    (unrecorded : ∀ step ∈ steps, ¬ step.recordsByHand) :
    Session.Profiled steps where
  counted := by
    intro place totals there
    have counts := totals_after modest unrecorded place
    rw [List.getD_eq_getElem?_getD, there] at counts
    exact counts
  settled := by
    intro moment member
    obtain ⟨past, future, split, same⟩ := mem_history member
    have before : ∀ step ∈ past, step.Uses Callback.ScansOnly :=
      fun step member => modest step (split ▸ List.mem_append_left _ member)
    rw [same]
    apply settled_moment (Uses.empty.after lineBreak_scansOnly before)
    apply unrecorded
    rw [split]
    exact List.mem_append_right _ List.mem_cons_self
  exhausted := by
    rintro earlier later rest lexerName name text place lexer rfl found alive
    obtain ⟨fresh, there⟩ := made_by_tokenize found name text
    have uses : (Session.after {} (earlier ++ [.tokenize lexerName name text])).Uses Callback.ScansOnly := by
      refine Uses.empty.after lineBreak_scansOnly fun step member => modest step ?_
      rw [List.append_cons]
      exact List.mem_append_left _ member
    have behind : ∀ step ∈ later, step ∈ earlier ++ .tokenize lexerName name text :: (later ++ rest) :=
      fun step member => List.mem_append_right _ (List.mem_cons_of_mem _ (List.mem_append_left _ member))
    exact exhaustion_after uses (fun step member => modest step (behind step member))
      (fun step member => unrecorded step (behind step member)) fresh there alive

theorem countingCallback_scansOnly : Callback.ScansOnly countingCallback := by
  intro captures state
  exact Run.closed_scansOnly.bind (scanText_scansOnly defaultTable_uses (some {}) "x y") fun _ _ _ _ =>
    .quiet (Run.quiet_pure _)

def nestingRules : List Candidate :=
  [countingRule,
    .rule (.text "B") (.value (.text "b")) (.callback (Action.callback "B" (.fail "no"))) (.bool false)]

/-- A generator is taken up under one profile and drained under another, and two scans fail after
callbacks have completed others. -/
def nestingSteps : List SessionStep :=
  [.table "T" nestingRules, .newShared "L" "T" none, .enterProfile "p", .tokenize "L" "g" "a a",
    .next "g" 1, .scan "L" "a b", .enterProfile "q", .drain "g", .exitProfile "q", .lex "L" "ab",
    .exitProfile "p"]

theorem Session.profiles_count_nested : Session.Profiled nestingSteps := by
  refine profiles_count_completions nestingSteps ?_ ?_
  · intro step member candidate listed
    simp only [nestingSteps, List.mem_cons, List.not_mem_nil, or_false] at member
    rcases member with rfl | rfl | rfl | rfl | rfl | rfl | rfl | rfl | rfl | rfl | rfl
    · rcases List.mem_cons.mp listed with rfl | rest
      · exact countingCallback_scansOnly
      · cases List.mem_singleton.mp rest
        exact Action.callback_scansOnly "B" (.fail "no")
    all_goals cases listed
  · simp [nestingSteps, SessionStep.recordsByHand]

end RuleLexer
