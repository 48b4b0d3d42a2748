import RuleLexer.Proofs.Session.Calls

namespace RuleLexer

open SessionM

variable {good : Callback → Prop}

def SessionStep.candidates : SessionStep → List Candidate
  | .table _ rules => rules
  | .append _ rule | .insert _ _ rule => [rule]
  | .newOwn _ (some rules) _ => rules
  | _ => []

def SessionStep.Uses (good : Callback → Prop) (step : SessionStep) : Prop :=
  ∀ candidate ∈ step.candidates, candidate.Uses good

structure Lexer.Uses (good : Callback → Prop) (lexer : Lexer) : Prop where
  own : ∀ rules, lexer.source = .own (some rules) → ∀ candidate ∈ rules, candidate.Uses good
  compiled : ∀ compiled, lexer.compiled = some compiled → compiled.set.Uses good

/-- All callbacks that the session can call are good ones. -/
structure Session.Uses (good : Callback → Prop) (session : Session) : Prop where
  tables : ∀ rules ∈ session.tables, ∀ candidate ∈ rules, candidate.Uses good
  lexers : ∀ lexer ∈ session.lexers, lexer.Uses good
  generators : ∀ name scanner, session.generators.lookup name = some (.running scanner) →
    scanner.set.Uses good

namespace Session

theorem Uses.empty : Session.Uses good {} :=
  ⟨fun _ member => absurd member List.not_mem_nil, fun _ member => absurd member List.not_mem_nil, nofun⟩

variable {session : Session}

theorem Uses.unobserved (uses : session.Uses good) : session.unobserved.Uses good :=
  ⟨uses.tables, uses.lexers, uses.generators⟩

theorem Uses.table (uses : session.Uses good) (place : Nat) {candidate : Candidate}
    (member : candidate ∈ session.tables.getD place []) : candidate.Uses good := by
  rw [List.getD_eq_getElem?_getD] at member
  cases there : session.tables[place]? with
  | none =>
    rw [there] at member
    cases member
  | some rules =>
    rw [there] at member
    exact uses.tables rules (List.mem_of_getElem? there) candidate member

theorem Uses.ofTable (lineBreak : good lineBreak) (uses : session.Uses good) {lexer : Lexer}
    (its : lexer.Uses good) {set : RuleSet}
    (valid : RuleSet.ofTable lexer.config (session.rulesOf lexer) = .ok set) : set.Uses good := by
  refine RuleSet.uses_of_ofTable lineBreak (fun candidates given candidate member => ?_) valid
  unfold rulesOf at given
  split at given
  · cases given
    exact uses.table _ member
  · next rules source => exact its.own candidates (source.trans (congrArg _ given)) candidate member

theorem Uses.rulesFor (lineBreak : good lineBreak) (uses : session.Uses good) {place : Nat}
    {lexer : Lexer} (there : session.lexers[place]? = some lexer) {set : RuleSet} {after : Session}
    (ready : rulesFor place session = (.ok set, after)) : set.Uses good := by
  have its := uses.lexers lexer (List.mem_of_getElem? there)
  rw [run_rulesFor there] at ready
  cases has : lexer.compiled with
  | some compiled =>
    rw [has] at ready
    cases ready
    exact its.compiled compiled has
  | none =>
    rw [has] at ready
    simp only [run_compileLexer there] at ready
    cases valid : RuleSet.ofTable lexer.config (session.rulesOf lexer) with
    | error failure =>
      rw [valid] at ready
      cases ready
    | ok other =>
      rw [valid] at ready
      cases ready
      exact uses.ofTable lineBreak its valid

theorem Uses.finish (uses : session.Uses good) (name : String) :
    (session.putGenerator name .finished).Uses good := by
  refine ⟨uses.tables, uses.lexers, fun other scanner running => ?_⟩
  rw [lookup_putGenerator] at running
  split at running
  · cases running
  · exact uses.generators other scanner running

theorem Uses.startScan (lineBreak : good lineBreak) (uses : session.Uses good) {name : String}
    {scanner : Scanner} {after : Session}
    (started : startScan name session = (.ok (some scanner), after)) : scanner.set.Uses good := by
  cases found : session.generators.lookup name with
  | none =>
    rw [run_startScan, found] at started
    cases started
  | some generator =>
    cases generator with
    | finished =>
      rw [startScan_of_finished found] at started
      cases started
    | running under =>
      rw [startScan_of_running found] at started
      cases started
      exact uses.generators name scanner found
    | fresh place text =>
      cases there : session.lexers[place]? with
      | none =>
        rw [run_startScan, found] at started
        simp only [run_scannerOf_dangling (show (session.putGenerator name .finished).lexers[place]? =
          none from there)] at started
        cases started
      | some lexer =>
        rw [startScan_of_fresh found there] at started
        cases ready : Session.rulesFor place (session.putGenerator name .finished) with
        | mk outcome later =>
          rw [ready] at started
          cases outcome with
          | error failure => cases started
          | ok set =>
            cases started
            exact (uses.finish name).rulesFor lineBreak there ready

theorem Uses.lexersAfter (lineBreak : good lineBreak) (uses : session.Uses good) {step : SessionStep}
    (brings : step.Uses good) {lexer : Lexer} (member : lexer ∈ session.lexersAfter step) :
    lexer.Uses good := by
  unfold Session.lexersAfter at member
  split at member
  · next place demanding demanded =>
    have its := uses.lexers demanding (List.mem_of_getElem? (lexer_of_demanded? demanded))
    unfold lexersCompiling at member
    split at member
    · next set valid =>
      rcases List.mem_or_eq_of_mem_set member with member | rfl
      · exact uses.lexers lexer member
      · refine ⟨its.own, fun compiled has => ?_⟩
        cases has
        exact uses.ofTable lineBreak its valid
    · exact uses.lexers lexer member
  · rcases List.mem_append.mp member with member | new
    · exact uses.lexers lexer member
    · have constructed := Option.mem_toList.mp new
      unfold constructed? at constructed
      split at constructed
      · obtain ⟨place, -, rfl⟩ := Option.map_eq_some_iff.mp constructed
        exact ⟨nofun, nofun⟩
      · next name rules config =>
        cases constructed
        refine ⟨fun own source candidate listed => ?_, nofun⟩
        cases source
        exact brings candidate listed
      · cases constructed

theorem Uses.changeTable (uses : session.Uses good) {name : String}
    {change : List Candidate → SessionM (List Candidate)}
    (changed : List Candidate → Except Failure (List Candidate))
    (plain : ∀ rules session, change rules session = (changed rules, session))
    (changes : ∀ rules result, changed rules = .ok result →
      ∀ candidate ∈ result, candidate ∈ rules ∨ candidate.Uses good) :
    ∀ rules ∈ (changeTable name change session).2.tables, ∀ candidate ∈ rules, candidate.Uses good := by
  rw [run_changeTable plain]
  intro rules member candidate listed
  split at member
  · exact uses.tables rules member candidate listed
  · next place found =>
    split at member
    · next result possible =>
      rcases List.mem_or_eq_of_mem_set member with member | rfl
      · exact uses.tables rules member candidate listed
      · rcases changes _ _ possible candidate listed with old | new
        · exact uses.table place old
        · exact new
    · exact uses.tables rules member candidate listed

theorem Uses.performTables (uses : session.Uses good) {step : SessionStep} (brings : step.Uses good) :
    ∀ rules ∈ (perform step session).2.tables, ∀ candidate ∈ rules, candidate.Uses good := by
  cases makes : step.table? with
  | none =>
    have kept : Keeps (·.tables) (perform step) :=
      perform_keeps ⟨⟨fun _ _ _ same _ _ _ => same, fun _ _ _ => rfl, fun _ _ => rfl⟩,
        fun some => absurd makes some, fun _ _ _ => rfl, fun _ _ _ _ => rfl, fun _ _ _ => rfl,
        fun _ _ _ => rfl⟩
    rw [show (perform step session).2.tables = session.tables from kept session]
    exact uses.tables
  | some name =>
    cases step with
    | table name rules =>
      intro others member candidate listed
      rcases List.mem_append.mp member with member | new
      · exact uses.tables others member candidate listed
      · cases List.mem_singleton.mp new
        exact brings candidate listed
    | append name rule =>
      rw [perform]
      refine uses.changeTable (fun rules => .ok (rules ++ [rule])) (fun _ _ => rfl) ?_
      rintro rules _ ⟨⟩ candidate listed
      rcases List.mem_append.mp listed with old | new
      · exact .inl old
      · exact .inr (brings candidate new)
    | insert name index rule =>
      rw [perform]
      refine uses.changeTable (fun rules => .ok (rules.take (insertionPlace rules.length index)
        ++ rule :: rules.drop (insertionPlace rules.length index))) (fun _ _ => rfl) ?_
      rintro rules _ ⟨⟩ candidate listed
      rcases List.mem_append.mp listed with old | rest
      · exact .inl (List.mem_of_mem_take old)
      · rcases List.mem_cons.mp rest with rfl | old
        · exact .inr (brings _ List.mem_cons_self)
        · exact .inl (List.mem_of_mem_drop old)
    | pop name index =>
      rw [perform]
      refine uses.changeTable (fun rules => (itemPlace? rules.length (index.getD (-1))).elim
        (.error .noItem) fun place => .ok (rules.eraseIdx place)) (fun rules later => ?_) ?_
      · cases itemPlace? rules.length (index.getD (-1)) <;> rfl
      · intro rules result possible candidate listed
        cases found : itemPlace? rules.length (index.getD (-1)) with
        | none =>
          rw [found] at possible
          cases possible
        | some place =>
          rw [found] at possible
          cases possible
          exact .inl (List.mem_of_mem_eraseIdx listed)
    | _ => cases makes

/-- A step with good callbacks keeps a session that has good callbacks. -/
theorem Uses.moment (lineBreak : good lineBreak) (uses : session.Uses good) {step : SessionStep}
    (brings : step.Uses good) : (session.moment step).after.Uses good := by
  refine ⟨?_, ?_, ?_⟩
  · rw [moment_after]
    exact uses.unobserved.performTables brings
  · rw [moment_lexers]
    exact fun lexer member => uses.lexersAfter lineBreak brings member
  · intro name scanner running
    -- A generator runs because it was made anew, was called upon, or was left alone by the step.
    by_cases renews : (session.moment step).Renews name
    · obtain ⟨place, text, fresh⟩ := lookup_of_renews renews
      cases running.symm.trans fresh
    · by_cases calls : (session.moment step).Calls name
      · rcases started : Session.startScan name session.unobserved with ⟨failure | _ | under, middle⟩
        · obtain ⟨-, lookup, -⟩ := moment_idle calls started nofun
          have ceased := lookup_startScan session.unobserved name
          rw [started] at ceased
          rw [lookup, ceased] at running
          cases known : session.unobserved.generators.lookup name <;> simp [known] at running
        · obtain ⟨-, lookup, -⟩ := moment_idle calls started nofun
          rw [lookup, lookup_of_started started] at running
          cases running
        · obtain ⟨stretch, taken, same⟩ := taken_of_started calls started
          rw [(moment_takes calls taken).lookup] at running
          have reaches := stretch.reaches
          cases halt : stretch.halt with
          | paused stopped =>
            rw [halt] at running reaches
            cases running
            rw [reaches.pulls.delivers.kept.1, same]
            exact uses.unobserved.startScan lineBreak started
          | exhausted last =>
            rw [halt] at running
            cases running
          | failed failure =>
            rw [halt] at running
            cases running
      · by_cases closes : step = .close name
        · subst closes
          cases known : session.generators.lookup name with
          | some generator =>
            obtain ⟨-, -, lookup⟩ := moment_close known
            cases running.symm.trans lookup
          | none =>
            rw [moment_after, perform_close, show session.unobserved.generators.lookup name = none
              from known] at running
            cases known.symm.trans running
        · obtain ⟨-, -, lookup⟩ := moment_apart renews calls closes
          exact uses.generators name scanner (lookup.symm.trans running)

theorem Uses.after (lineBreak : good lineBreak) (uses : session.Uses good) {steps : List SessionStep}
    (brings : ∀ step ∈ steps, step.Uses good) : (session.after steps).Uses good :=
  after_induction (fun _ step member uses => uses.moment lineBreak (brings step member)) uses

end Session

end RuleLexer
