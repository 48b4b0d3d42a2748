import RuleLexer.Proofs.Session.Running

namespace RuleLexer

open SessionM

structure Moment where
  before : Session
  step : SessionStep
  outcome : Except Failure Answer
  events : List Event
  after : Session

namespace Session

/-- The lexer that a generator has to have compiled before its scan can start, with its place. -/
def awaited? (session : Session) (name : String) : Option (Nat × Lexer) :=
  match session.generators.lookup name with
  | some (.fresh place _) =>
    (session.lexers[place]?.filter fun lexer => lexer.compiled.isNone).map fun lexer => (place, lexer)
  | _ => none

/-- The lexer whose rules a step is about to compile, with its place. -/
def demanded? (session : Session) : SessionStep → Option (Nat × Lexer)
  | .compile name => session.named? name
  | .compiled name | .scan name _ | .lex name _ =>
    (session.named? name).filter fun found => found.2.compiled.isNone
  | .next name (_ + 1) | .drain name => session.awaited? name
  | _ => none

theorem lexer_of_demanded? {session : Session} {step : SessionStep} {place : Nat} {lexer : Lexer}
    (demanded : session.demanded? step = some (place, lexer)) :
    session.lexers[place]? = some lexer := by
  have unready : ∀ name, ((session.named? name).filter fun found => found.2.compiled.isNone) =
      some (place, lexer) → session.lexers[place]? = some lexer :=
    fun name found => lexer_of_named? (Option.filter_eq_some_iff.mp found).1
  have awaited : ∀ name, session.awaited? name = some (place, lexer) →
      session.lexers[place]? = some lexer := by
    intro name found
    unfold awaited? at found
    split at found
    · obtain ⟨other, there, same⟩ := Option.map_eq_some_iff.mp found
      cases same
      exact (Option.filter_eq_some_iff.mp there).1
    · cases found
  unfold demanded? at demanded
  split at demanded
  · exact lexer_of_named? demanded
  · exact unready _ demanded
  · exact unready _ demanded
  · exact unready _ demanded
  · exact awaited _ demanded
  · exact awaited _ demanded
  · cases demanded

def constructed? (session : Session) : SessionStep → Option Lexer
  | .newShared _ table config =>
    (session.tableNames.lookup table).map fun place =>
      ⟨.shared place, config.getD session.context.config, none⟩
  | .newOwn _ rules config => some ⟨.own rules, config.getD session.context.config, none⟩
  | _ => none

def lexersCompiling (session : Session) (place : Nat) (lexer : Lexer) : List Lexer :=
  match RuleSet.ofTable lexer.config (session.rulesOf lexer) with
  | .ok set => session.lexers.set place { lexer with compiled := some ⟨session.serial, set⟩ }
  | .error _ => session.lexers

def lexersAfter (session : Session) (step : SessionStep) : List Lexer :=
  match session.demanded? step with
  | some (place, lexer) => session.lexersCompiling place lexer
  | none => session.lexers ++ (session.constructed? step).toList

theorem lexers_compileLexer {session : Session} {place : Nat} {lexer : Lexer}
    (there : session.lexers[place]? = some lexer) :
    (compileLexer place session).2.lexers = session.lexersCompiling place lexer := by
  rw [run_compileLexer there]
  unfold lexersCompiling
  cases RuleSet.ofTable lexer.config (session.rulesOf lexer) <;> rfl

theorem plain_lexers : Plain (·.lexers) :=
  ⟨fun _ _ _ _ same _ _ => same, fun _ _ _ => rfl, fun _ _ => rfl⟩

theorem lookup_putGenerator (session : Session) (name other : String) (generator : Generator) :
    (session.putGenerator name generator).generators.lookup other =
      if other = name then some generator else session.generators.lookup other :=
  lookup_bindName _ _ _ _

theorem lookup_startScan (session : Session) (name : String) :
    (startScan name session).2.generators.lookup name =
      (session.generators.lookup name).map fun _ => .finished := by
  rw [run_startScan]
  cases found : session.generators.lookup name with
  | none => exact found
  | some generator =>
    have kept : Keeps (·.generators) (scannerOf generator) :=
      Plain.scannerOf ⟨fun _ _ _ _ _ same _ => same, fun _ _ _ => rfl, fun _ _ => rfl⟩ (fun _ _ => rfl) generator
    simp only [kept _, lookup_putGenerator, if_true, Option.map_some]

theorem advance_lexers (session : Session) (name : String) (scanner : Scanner) :
    (session.advance name scanner).2.lexers = session.lexers := by
  unfold advance
  split <;> rfl

theorem nextToken_lexers (session : Session) (name : String) :
    (nextToken name session).2.lexers = (startScan name session).2.lexers := by
  rw [run_nextToken]
  split
  · next started => rw [started]
  · next scanner after started => rw [started, advance_lexers]
  · next started => rw [started]

theorem lookup_nextToken (session : Session) (name : String) (place : Nat) (text : String) :
    (nextToken name session).2.generators.lookup name ≠ some (.fresh place text) := by
  have ceased := lookup_startScan session name
  rw [run_nextToken]
  generalize startScan name session = started at ceased ⊢
  obtain ⟨outcome, after⟩ := started
  have fresh : after.generators.lookup name ≠ some (.fresh place text) := by
    rw [show after.generators.lookup name = _ from ceased]
    cases session.generators.lookup name <;> simp
  rcases outcome with failure | _ | scanner
  · exact fresh
  · exact fresh
  · simp only [advance]
    split
    · rw [lookup_putGenerator, if_pos rfl]
      simp
    · exact fresh
    · exact fresh

theorem startScan_lexers_of_started {session : Session} {name : String}
    (started : ∀ place text, session.generators.lookup name ≠ some (.fresh place text)) :
    (startScan name session).2.lexers = session.lexers := by
  rw [run_startScan]
  cases found : session.generators.lookup name with
  | none => rfl
  | some generator =>
    cases generator with
    | fresh place text => exact absurd found (started place text)
    | running scanner => rfl
    | finished => rfl

theorem nextTokens_lexers (session : Session) (name : String) (count : Nat) :
    (nextTokens name (count + 1) session).2.lexers = (startScan name session).2.lexers := by
  induction count generalizing session with
  | zero =>
    rw [← nextToken_lexers]
    exact congrArg lexers (snd_bind_pure (nextToken name) (fun token => [token]) session)
  | succ count ih =>
    rw [nextTokens, ← nextToken_lexers, run_bind]
    have started := lookup_nextToken session name
    generalize nextToken name session = first at started ⊢
    obtain ⟨outcome, after⟩ := first
    cases outcome with
    | error failure => rfl
    | ok token =>
      simp only
      rw [snd_bind_pure, ih, startScan_lexers_of_started started]

theorem rulesFor_lexers {session : Session} {place : Nat} {lexer : Lexer}
    (there : session.lexers[place]? = some lexer) :
    (rulesFor place session).2.lexers =
      if lexer.compiled.isNone then session.lexersCompiling place lexer else session.lexers := by
  rw [run_rulesFor there]
  cases lexer.compiled with
  | some compiled => rfl
  | none => exact lexers_compileLexer there

theorem perform_lexers_of_bookkeeping {step : SessionStep} (free : ¬ step.usesLexers)
    (session : Session) : (perform step session).2.lexers = session.lexers :=
  perform_keeps ⟨plain_lexers, fun _ _ _ => rfl, fun uses => absurd uses free, fun _ _ _ _ => rfl,
    fun _ _ _ => rfl, fun _ _ _ => rfl⟩ session

theorem perform_lexers_of_rulesFor {session : Session} {step : SessionStep} {name : String}
    {next : Nat × Lexer → RuleSet → SessionM Answer}
    (opened : perform step = lexerNamed name >>= fun found => rulesFor found.1 >>= next found)
    (keeps : ∀ found set, Keeps (·.lexers) (next found set))
    (demands : session.demanded? step =
      (session.named? name).filter fun found => found.2.compiled.isNone)
    (constructs : session.constructed? step = none) :
    (perform step session).2.lexers = session.lexersAfter step := by
  rw [lexersAfter, demands, constructs, opened]
  cases found : session.named? name with
  | none =>
    obtain ⟨failure, failed⟩ := run_bind_unnamed found fun found => rulesFor found.1 >>= next found
    rw [failed]
    simp
  | some named =>
    obtain ⟨place, lexer⟩ := named
    rw [run_bind_named found, Keeps.last (keeps (place, lexer)), rulesFor_lexers (lexer_of_named? found)]
    cases has : lexer.compiled <;> simp [Option.filter, has]

theorem startScan_lexers (session : Session) (name : String) :
    (startScan name session).2.lexers = session.lexersAfter (.drain name) := by
  by_cases new : ∃ place text, session.generators.lookup name = some (.fresh place text)
  · obtain ⟨place, text, found⟩ := new
    simp only [run_startScan, lexersAfter, demanded?, awaited?, constructed?, found]
    cases there : session.lexers[place]? with
    | none =>
      rw [run_scannerOf_dangling (by exact there)]
      simp [putGenerator]
    | some lexer =>
      rw [run_scannerOf_fresh (by exact there)]
      simp only
      rw [rulesFor_lexers (by exact there)]
      cases has : lexer.compiled with
      | some compiled => simp [Option.filter, has, putGenerator]
      | none =>
        simp only [Option.filter, has, Option.isNone_none, if_true, Option.map_some]
        rfl
  · have started : ∀ place text, session.generators.lookup name ≠ some (.fresh place text) :=
      fun place text found => new ⟨place, text, found⟩
    have idle : session.awaited? name = none := by
      unfold awaited?
      split
      · next place text found => exact absurd found (started place text)
      · rfl
    rw [startScan_lexers_of_started started, lexersAfter, demanded?, idle]
    exact (List.append_nil _).symm

/-- The lexers after a step: one of them is compiled, if the step is about to do so and the rules are
valid, and one may have been added. -/
theorem perform_lexers (session : Session) (step : SessionStep) :
    (perform step session).2.lexers = session.lexersAfter step := by
  cases step with
  | newShared name table config =>
    change ((find session.tableNames table >>= fun place =>
      newLexer name (.shared place) config) session).2.lexers = _
    simp only [run_bind, run_find, lexersAfter, demanded?, constructed?]
    cases session.tableNames.lookup table with
    | none => simp
    | some place => cases config <;> rfl
  | newOwn name rules config => cases config <;> rfl
  | compile name =>
    simp only [lexersAfter, demanded?, constructed?]
    cases found : session.named? name with
    | none =>
      obtain ⟨failure, failed⟩ := run_bind_unnamed found fun found =>
        compileLexer found.1 >>= fun _ => pure .done
      rw [perform, failed]
      simp
    | some named =>
      obtain ⟨place, lexer⟩ := named
      rw [perform_compile found]
      simp only [lexersCompiling]
      cases RuleSet.ofTable lexer.config (session.rulesOf lexer) <;> rfl
  | compiled name =>
    refine perform_lexers_of_rulesFor (by rw [perform]) (fun found set => ?_) rfl rfl
    refine (keeps_lexerAt _).bind fun lexer => ?_
    split
    · exact (plain_lexers.objectNumber _).bind fun _ => keeps_pure _
    · exact keeps_throw _
  | scan name text =>
    exact perform_lexers_of_rulesFor (by rw [perform])
      (fun _ _ => (keeps_lift (fun _ _ => rfl) _).bind fun _ => keeps_pure _) rfl rfl
  | lex name text =>
    exact perform_lexers_of_rulesFor (by rw [perform])
      (fun _ _ => (keeps_lift (fun _ _ => rfl) _).bind fun _ => keeps_pure _) rfl rfl
  | next name count =>
    rw [perform, snd_bind_pure]
    cases count with
    | zero => exact (List.append_nil _).symm
    | succ count => rw [nextTokens_lexers, startScan_lexers]; rfl
  | drain name =>
    rw [perform, snd_bind_pure, ← startScan_lexers, run_drainGenerator]
    split
    · next started => rw [started]
    · next started => rw [started]; simp only; split <;> rfl
    · next started => rw [started]
  | _ =>
    refine (perform_lexers_of_bookkeeping (by exact id) session).trans ?_
    simp [lexersAfter, demanded?, constructed?]

def moment (session : Session) (step : SessionStep) : Moment :=
  ⟨session, step, (session.step step).1, (session.step step).2.1, (session.step step).2.2⟩

theorem moment_outcome (session : Session) (step : SessionStep) :
    (session.moment step).outcome = (perform step session.unobserved).1 := rfl

theorem moment_after (session : Session) (step : SessionStep) :
    (session.moment step).after = (perform step session.unobserved).2 := rfl

theorem moment_lexers (session : Session) (step : SessionStep) :
    (session.moment step).after.lexers = session.lexersAfter step := by
  rw [moment_after]
  exact perform_lexers session.unobserved step

def history : Session → List SessionStep → List Moment
  | _, [] => []
  | session, step :: steps => session.moment step :: history (session.moment step).after steps

def after : Session → List SessionStep → Session
  | session, [] => session
  | session, step :: steps => after (session.moment step).after steps

theorem history_append (session : Session) (first second : List SessionStep) :
    session.history (first ++ second) =
      session.history first ++ (session.after first).history second := by
  induction first generalizing session with
  | nil => rfl
  | cons step steps ih => exact congrArg _ (ih _)

theorem after_append (session : Session) (first second : List SessionStep) :
    session.after (first ++ second) = (session.after first).after second := by
  induction first generalizing session with
  | nil => rfl
  | cons step steps ih => exact ih _

/-- What every step preserves holds after all of them. -/
theorem after_induction {holds : Session → Prop} {steps : List SessionStep}
    (preserved : ∀ session, ∀ step ∈ steps, holds session → holds (session.moment step).after)
    {session : Session} (start : holds session) : holds (session.after steps) := by
  induction steps generalizing session with
  | nil => exact start
  | cons step steps ih =>
    refine ih (fun session step member => ?_) ?_
    · exact preserved session step (List.mem_cons_of_mem _ member)
    · exact preserved session step List.mem_cons_self start

theorem mem_history {session : Session} {steps : List SessionStep} {moment : Moment}
    (member : moment ∈ session.history steps) :
    ∃ past future, steps = past ++ moment.step :: future ∧
      moment = (session.after past).moment moment.step := by
  induction steps generalizing session with
  | nil => cases member
  | cons step steps ih =>
    rcases List.mem_cons.mp member with rfl | later
    · exact ⟨[], steps, rfl, rfl⟩
    · obtain ⟨past, future, rfl, same⟩ := ih later
      exact ⟨step :: past, future, rfl, same⟩

theorem history_split {session : Session} {steps : List SessionStep} {past future : List Moment}
    (split : session.history steps = past ++ future) :
    ∃ first second, steps = first ++ second ∧ past = session.history first ∧
      future = (session.after first).history second := by
  induction past generalizing session steps with
  | nil => exact ⟨[], steps, rfl, rfl, split.symm⟩
  | cons moment past ih =>
    cases steps with
    | nil => cases split
    | cons step steps =>
      obtain ⟨rfl, rest⟩ := List.cons.inj split
      obtain ⟨first, second, rfl, rfl, same⟩ := ih rest
      exact ⟨step :: first, second, rfl, rfl, same⟩

theorem history_at {session : Session} {steps : List SessionStep} {past future : List Moment} {moment : Moment}
    (split : session.history steps = past ++ moment :: future) :
    ∃ first step rest, steps = first ++ step :: rest ∧ past = session.history first ∧
      moment = (session.after first).moment step := by
  obtain ⟨first, second, rfl, rfl, rest⟩ := history_split split
  cases second with
  | nil => cases rest
  | cons step second => exact ⟨first, step, second, rfl, rfl, (List.cons.inj rest).1⟩

end Session

end RuleLexer
