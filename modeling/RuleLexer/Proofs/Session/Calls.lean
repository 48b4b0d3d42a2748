import RuleLexer.Proofs.Scan.Emission
import RuleLexer.Proofs.Session.History

namespace RuleLexer

open SessionM

/-- How a generator can come to its end. -/
inductive Fate where
  | exhausted
  | closed
  | failed
deriving DecidableEq, Repr

namespace Fate

def ofNext : Except Failure Answer → Option Fate
  | .ok (.tokens answers) => if answers.any Option.isNone then some .exhausted else none
  | .ok _ => none
  | .error _ => some .failed

def ofDrain : Except Failure Answer → Option Fate
  | .ok _ => some .exhausted
  | .error _ => some .failed

def ofClose : Except Failure Answer → Option Fate
  | .ok _ => some .closed
  | .error _ => none

end Fate

/-- The tokens that a generator delivers when it is called upon `count` times, or up to its end. -/
def Session.giving (session : Session) (name : String) (count : Option Nat) : List Token :=
  match startScan name session with
  | (.ok (some scanner), after) => scanner.given (count.getD (scanner.bound + 1)) after.context
  | _ => []

namespace Moment

def Calls (moment : Moment) (name : String) : Prop :=
  (∃ count, moment.step = .next name (count + 1)) ∨ moment.step = .drain name

def calls (name : String) (moment : Moment) : Bool :=
  match moment.step with
  | .next other (_ + 1) | .drain other => other == name
  | _ => false

theorem calls_iff {name : String} {moment : Moment} : moment.calls name ↔ moment.Calls name := by
  unfold calls Calls
  split
  · next other count stepped => simp [stepped]
  · next other stepped => simp [stepped]
  · next apart drains =>
    simp only [Bool.false_eq_true, false_iff, not_or, not_exists]
    exact ⟨fun count => apart name count, drains name⟩

def delivered (name : String) (moment : Moment) : List Token :=
  match moment.step with
  | .next other count =>
    if other = name then moment.before.unobserved.giving name (some count) else []
  | .drain other => if other = name then moment.before.unobserved.giving name none else []
  | _ => []

def fate? (name : String) (moment : Moment) : Option Fate :=
  match moment.step with
  | .next other _ => if other = name then Fate.ofNext moment.outcome else none
  | .drain other => if other = name then Fate.ofDrain moment.outcome else none
  | .close other => if other = name then Fate.ofClose moment.outcome else none
  | _ => none

def Renews (moment : Moment) (name : String) : Prop :=
  (∃ lexer text, moment.step = .tokenize lexer name text) ∧ moment.outcome = .ok .done

end Moment

namespace Halt

def fate? : Halt → Option Fate
  | .paused _ => none
  | .exhausted _ => some .exhausted
  | .failed _ => some .failed

def generator : Halt → Generator
  | .paused stopped => .running stopped
  | _ => .finished

end Halt

def Session.callStretch? (session : Session) : SessionStep → Option Stretch
  | .next name (count + 1) =>
    match startScan name session with
    | (.ok (some scanner), ready) => some ⟨scanner, count + 1, ready.context⟩
    | _ => none
  | .drain name =>
    match startScan name session with
    | (.ok (some scanner), ready) => some ⟨scanner, scanner.bound + 1, ready.context⟩
    | _ => none
  | _ => none

/-- The moment takes a stretch of the scan behind a generator. -/
structure Moment.Takes (moment : Moment) (name : String) (stretch : Stretch) : Prop where
  delivered : moment.delivered name = stretch.tokens
  fate : moment.fate? name = stretch.halt.fate?
  context : moment.after.context = stretch.after
  lookup : moment.after.generators.lookup name = some stretch.halt.generator
  answers : ∀ answers, moment.outcome = .ok (.tokens answers) → answers.filterMap id = stretch.tokens
  failed : ∀ failure, moment.outcome = .error failure → stretch.halt = .failed failure

namespace Session

variable {session middle : Session} {name : String}

theorem startScan_of_finished (ceased : session.generators.lookup name = some .finished) :
    startScan name session = (.ok none, session.putGenerator name .finished) := by
  rw [run_startScan, ceased]
  rfl

theorem startScan_of_running {scanner : Scanner}
    (running : session.generators.lookup name = some (.running scanner)) :
    startScan name session = (.ok (some scanner), session.putGenerator name .finished) := by
  rw [run_startScan, running]
  rfl

theorem startScan_of_fresh {place : Nat} {text : String} {lexer : Lexer}
    (fresh : session.generators.lookup name = some (.fresh place text))
    (there : session.lexers[place]? = some lexer) :
    startScan name session =
      ((rulesFor place (session.putGenerator name .finished)).1.map fun set =>
        some (set.scanner lexer.config text),
      (rulesFor place (session.putGenerator name .finished)).2) := by
  rw [run_startScan, fresh]
  exact @run_scannerOf_fresh (session.putGenerator name .finished) place lexer there text

theorem lookup_of_started {scanner : Option Scanner}
    (started : startScan name session = (.ok scanner, middle)) :
    middle.generators.lookup name = some .finished := by
  have ceased := lookup_startScan session name
  rw [started] at ceased
  rw [show middle.generators.lookup name = _ from ceased]
  cases known : session.generators.lookup name with
  | some generator => rfl
  | none =>
    rw [run_startScan, known] at started
    cases started

theorem nextTokens_succ (session : Session) (name : String) (count : Nat) :
    nextTokens name (count + 1) session =
      match nextToken name session with
      | (.ok token, after) =>
        ((nextTokens name count after).1.map fun tokens => token :: tokens, (nextTokens name count after).2)
      | (.error failure, after) => (.error failure, after) := by
  rw [nextTokens, run_bind]
  cases nextToken name session with
  | mk outcome after =>
    cases outcome with
    | error failure => rfl
    | ok token =>
      simp only [run_bind]
      cases nextTokens name count after with
      | mk rest last => cases rest <;> rfl

theorem nextTokens_of_finished (count : Nat) (ceased : session.generators.lookup name = some .finished) :
    (nextTokens name count session).1 = .ok (List.replicate count none) ∧
      (nextTokens name count session).2.generators.lookup name = some .finished ∧
      (nextTokens name count session).2.context = session.context := by
  induction count generalizing session with
  | zero => exact ⟨rfl, ceased, rfl⟩
  | succ count ih =>
    obtain ⟨answers, lookup, context⟩ := @ih (session.putGenerator name .finished)
      (by rw [lookup_putGenerator, if_pos rfl])
    rw [nextTokens_succ, run_nextToken, startScan_of_finished ceased]
    simp only [answers]
    exact ⟨rfl, lookup, context⟩

/-- The answers to calls upon a generator are the tokens of a stretch, with none for those beyond its
end. -/
structure Answers (stretch : Stretch) (name : String)
    (run : Except Failure (List (Option Token)) × Session) : Prop where
  outcome : run.1 = stretch.outcome.map fun pulled =>
    pulled.1.map some ++ List.replicate (stretch.count - pulled.1.length) none
  context : run.2.context = stretch.after
  lookup : run.2.generators.lookup name = some stretch.halt.generator

theorem answers_succ {scanner : Scanner} {count : Nat}
    (started : startScan name session = (.ok (some scanner), middle))
    (more : ∀ {later : Session} {next : Scanner},
      later.generators.lookup name = some (.running next) →
        Answers ⟨next, count, later.context⟩ name (nextTokens name count later)) :
    Answers ⟨scanner, count + 1, middle.context⟩ name (nextTokens name (count + 1) session) := by
  have ceased := lookup_of_started started
  rw [nextTokens_succ, run_nextToken, started]
  simp only [advance]
  cases pulled : scanner.next middle.context with
  | mk outcome context =>
    rcases outcome with failure | ⟨_ | token, next⟩
    · have failed := Stretch.run_fails count pulled
      refine ⟨?_, ?_, ?_⟩
      · rw [Stretch.outcome, failed]
        rfl
      · rw [Stretch.after, Stretch.halt, Stretch.outcome, Stretch.left, failed]
      · rw [Stretch.halt, Stretch.outcome, failed]
        exact ceased
    · have ended := Stretch.run_ends count pulled
      obtain ⟨answers, lookup, same⟩ := @nextTokens_of_finished
        { middle with context := (next.finish context).2 } name count ceased
      simp only [answers]
      refine ⟨?_, ?_, ?_⟩
      · rw [Stretch.outcome, ended]
        rfl
      · rw [Stretch.after, Stretch.halt, Stretch.outcome, Stretch.left, ended]
        exact same
      · rw [Stretch.halt, Stretch.outcome, ended]
        exact lookup
    · -- The generator is running again, so that the other calls go on from the next scanner.
      have rest : Answers ⟨next, count, context⟩ name (nextTokens name count
          ({ middle with context }.putGenerator name (.running next))) :=
        @more ({ middle with context }.putGenerator name (.running next)) next
          (by rw [lookup_putGenerator, if_pos rfl])
      simp only
      generalize nextTokens name count _ = run at rest ⊢
      obtain ⟨answered, same, lookup⟩ := rest
      refine ⟨?_, ?_, ?_⟩
      · rw [Stretch.outcome, Stretch.run_goes_on count pulled, answered]
        cases Stretch.outcome ⟨next, count, context⟩ with
        | error failure => rfl
        | ok found => simp [Except.map, Nat.add_sub_add_right]
      · rw [Stretch.after_goes_on count pulled]
        exact same
      · rw [Stretch.halt_goes_on count pulled]
        exact lookup

theorem answers_of_running {scanner : Scanner} (count : Nat)
    (running : session.generators.lookup name = some (.running scanner)) :
    Answers ⟨scanner, count, session.context⟩ name (nextTokens name count session) := by
  induction count generalizing session scanner with
  | zero => exact ⟨rfl, rfl, running⟩
  | succ count ih =>
    have answers := answers_succ (startScan_of_running running) ih
    exact answers

theorem delivered_next (session : Session) (name : String) (count : Nat) :
    (session.moment (.next name count)).delivered name = session.unobserved.giving name (some count) :=
  if_pos rfl

theorem delivered_drain (session : Session) (name : String) :
    (session.moment (.drain name)).delivered name = session.unobserved.giving name none :=
  if_pos rfl

theorem fate?_next (session : Session) (name : String) (count : Nat) :
    (session.moment (.next name count)).fate? name =
      Fate.ofNext (perform (.next name count) session.unobserved).1 :=
  if_pos rfl

theorem fate?_drain (session : Session) (name : String) :
    (session.moment (.drain name)).fate? name = Fate.ofDrain (perform (.drain name) session.unobserved).1 :=
  if_pos rfl

theorem any_isNone_beyond (tokens : List Token) (beyond : Nat) :
    (tokens.map some ++ List.replicate beyond none).any Option.isNone = decide (0 < beyond) := by
  cases beyond <;> simp

/-- A call answers the tokens of its stretch, and it fails where the stretch does. -/
theorem answers_of_outcome {stretch : Stretch} {outcome : Except Failure Answer}
    (answer : List Token → List (Option Token)) (shows : ∀ found, (answer found).filterMap id = found)
    (same : outcome = stretch.outcome.map fun pulled => .tokens (answer pulled.1)) :
    (∀ answers, outcome = .ok (.tokens answers) → answers.filterMap id = stretch.tokens) ∧
      ∀ failure, outcome = .error failure → stretch.halt = .failed failure := by
  subst same
  cases pulled : stretch.outcome with
  | error failure =>
    refine ⟨?_, ?_⟩
    · intro answers answered
      cases answered
    · intro other failed
      cases failed
      rw [Stretch.halt, pulled]
  | ok found =>
    refine ⟨?_, ?_⟩
    · intro answers answered
      cases answered
      rw [Stretch.tokens_of_outcome pulled]
      exact shows found.1
    · intro failure failed
      cases failed

theorem moment_takes_next {scanner : Scanner} (count : Nat)
    (started : startScan name session.unobserved = (.ok (some scanner), middle)) :
    (session.moment (.next name (count + 1))).Takes name ⟨scanner, count + 1, middle.context⟩ := by
  obtain ⟨outcome, context, lookup⟩ := answers_succ started (answers_of_running count)
  let answer (found : List Token) : List (Option Token) :=
    found.map some ++ List.replicate (count + 1 - found.length) none
  have answered : (session.moment (.next name (count + 1))).outcome =
      (Stretch.outcome ⟨scanner, count + 1, middle.context⟩).map fun pulled =>
        .tokens (answer pulled.1) := by
    rw [moment_outcome, perform_next, outcome]
    cases Stretch.outcome ⟨scanner, count + 1, middle.context⟩ <;> rfl
  obtain ⟨answers, failed⟩ := answers_of_outcome answer (fun found => by simp [answer]) answered
  refine ⟨?_, ?_, ?_, ?_, answers, failed⟩
  · rw [delivered_next, giving, started]
    rfl
  · rw [fate?_next, perform_next, outcome, Stretch.halt]
    cases Stretch.outcome ⟨scanner, count + 1, middle.context⟩ with
    | error failure => rfl
    | ok pulled =>
      simp only [Except.map, Fate.ofNext, any_isNone_beyond, Nat.sub_pos_iff_lt, decide_eq_true_eq]
      split <;> rfl
  · rw [moment_after, perform_next]
    exact context
  · rw [moment_after, perform_next]
    exact lookup

theorem perform_drain_of_started {scanner : Scanner}
    (started : startScan name session.unobserved = (.ok (some scanner), middle)) :
    perform (.drain name) session.unobserved =
      match scanner.drain middle.context with
      | (.ok (tokens, last), context) =>
        (.ok (.tokens (tokens.map some)), { middle with context := (last.finish context).2 })
      | (.error failure, context) => (.error failure, { middle with context }) := by
  rw [perform_drain, run_drainGenerator, started]
  simp only
  rcases scanner.drain middle.context with ⟨failure | ⟨tokens, last⟩, context⟩ <;> rfl

theorem moment_takes_drain {scanner : Scanner}
    (started : startScan name session.unobserved = (.ok (some scanner), middle)) :
    (session.moment (.drain name)).Takes name ⟨scanner, scanner.bound + 1, middle.context⟩ := by
  have ceased := lookup_of_started started
  have halts := Stretch.halt_of_drain scanner middle.context
  have performed := perform_drain_of_started started
  have opened : scanner.drain middle.context =
      (Stretch.outcome ⟨scanner, scanner.bound + 1, middle.context⟩,
        Stretch.left ⟨scanner, scanner.bound + 1, middle.context⟩) := rfl
  have given : (session.moment (.drain name)).delivered name =
      Stretch.tokens ⟨scanner, scanner.bound + 1, middle.context⟩ := by
    rw [delivered_drain, giving, started]
    rfl
  rw [opened] at halts performed
  have answered : (session.moment (.drain name)).outcome =
      (Stretch.outcome ⟨scanner, scanner.bound + 1, middle.context⟩).map fun pulled =>
        .tokens (pulled.1.map some) := by
    rw [moment_outcome, performed]
    cases Stretch.outcome ⟨scanner, scanner.bound + 1, middle.context⟩ <;> rfl
  obtain ⟨answers, failed⟩ := answers_of_outcome (·.map some) (fun found => by simp) answered
  -- Draining is a stretch of more calls than there are matches, so it comes to an end or fails.
  cases pulled : Stretch.outcome ⟨scanner, scanner.bound + 1, middle.context⟩ with
  | error failure =>
    rw [pulled] at halts performed
    refine ⟨given, ?_, ?_, ?_, answers, failed⟩
    · rw [fate?_drain, performed, halts]
      rfl
    · rw [moment_after, performed, Stretch.after, halts]
    · rw [moment_after, performed, halts]
      exact ceased
  | ok found =>
    rw [pulled] at halts performed
    refine ⟨given, ?_, ?_, ?_, answers, failed⟩
    · rw [fate?_drain, performed, halts]
      rfl
    · rw [moment_after, performed, Stretch.after, halts]
    · rw [moment_after, performed, halts]
      exact ceased

theorem taken_of_started {step : SessionStep} {scanner : Scanner} (calls : (session.moment step).Calls name)
    (started : startScan name session.unobserved = (.ok (some scanner), middle)) :
    ∃ stretch, session.unobserved.callStretch? step = some stretch ∧ stretch.scanner = scanner := by
  rcases calls with ⟨count, stepped⟩ | stepped
  · obtain rfl : step = .next name (count + 1) := stepped
    exact ⟨⟨scanner, count + 1, middle.context⟩, by rw [callStretch?, started], rfl⟩
  · obtain rfl : step = .drain name := stepped
    exact ⟨⟨scanner, scanner.bound + 1, middle.context⟩, by rw [callStretch?, started], rfl⟩

theorem started_of_taken {step : SessionStep} {stretch : Stretch} (calls : (session.moment step).Calls name)
    (taken : session.unobserved.callStretch? step = some stretch) :
    ∃ ready, startScan name session.unobserved = (.ok (some stretch.scanner), ready) ∧
      stretch.context = ready.context := by
  rcases calls with ⟨count, stepped⟩ | stepped
  · obtain rfl : step = .next name (count + 1) := stepped
    rcases started : startScan name session.unobserved with ⟨failure | _ | scanner, ready⟩
    all_goals simp only [callStretch?, started] at taken
    all_goals cases taken
    exact ⟨ready, rfl, rfl⟩
  · obtain rfl : step = .drain name := stepped
    rcases started : startScan name session.unobserved with ⟨failure | _ | scanner, ready⟩
    all_goals simp only [callStretch?, started] at taken
    all_goals cases taken
    exact ⟨ready, rfl, rfl⟩

theorem moment_takes {step : SessionStep} {stretch : Stretch} (calls : (session.moment step).Calls name)
    (taken : session.unobserved.callStretch? step = some stretch) :
    (session.moment step).Takes name stretch := by
  obtain ⟨ready, started, -⟩ := started_of_taken calls taken
  rcases calls with ⟨count, stepped⟩ | stepped
  · obtain rfl : step = .next name (count + 1) := stepped
    rw [callStretch?, started] at taken
    rw [← Option.some.inj taken]
    exact moment_takes_next count started
  · obtain rfl : step = .drain name := stepped
    rw [callStretch?, started] at taken
    rw [← Option.some.inj taken]
    exact moment_takes_drain started

theorem moment_idle {step : SessionStep} {outcome : Except Failure (Option Scanner)}
    (calls : (session.moment step).Calls name)
    (started : startScan name session.unobserved = (outcome, middle))
    (idle : ∀ scanner, outcome ≠ .ok (some scanner)) :
    (session.moment step).delivered name = [] ∧
      (session.moment step).after.generators.lookup name = middle.generators.lookup name ∧
      (session.moment step).after.context = middle.context ∧
      (∀ failure, outcome = .error failure → (session.moment step).fate? name = some .failed) ∧
      (∀ answers, (session.moment step).outcome = .ok (.tokens answers) → answers.filterMap id = []) := by
  have nothing : ∀ count, session.unobserved.giving name count = [] := by
    intro count
    rw [giving, started]
    rcases outcome with failure | _ | scanner
    · rfl
    · rfl
    · exact absurd rfl (idle scanner)
  rcases calls with ⟨count, stepped⟩ | stepped
  · obtain rfl : step = .next name (count + 1) := stepped
    rw [delivered_next, nothing, fate?_next, moment_after, moment_outcome, perform_next, nextTokens_succ,
      run_nextToken, started]
    rcases outcome with failure | _ | scanner
    · exact ⟨rfl, rfl, rfl, fun _ _ => rfl, nofun⟩
    · have ceased := lookup_of_started started
      obtain ⟨answers, lookup, context⟩ := nextTokens_of_finished count ceased
      refine ⟨rfl, lookup.trans ceased.symm, context, nofun, ?_⟩
      simp only [answers]
      rintro _ ⟨⟩
      simp
    · exact absurd rfl (idle scanner)
  · obtain rfl : step = .drain name := stepped
    rw [delivered_drain, nothing, fate?_drain, moment_after, moment_outcome, perform_drain,
      run_drainGenerator, started]
    rcases outcome with failure | _ | scanner
    · exact ⟨rfl, rfl, rfl, fun _ _ => rfl, nofun⟩
    · refine ⟨rfl, rfl, rfl, nofun, ?_⟩
      rintro _ ⟨⟩
      rfl
    · exact absurd rfl (idle scanner)

theorem delivered_of_answers {step : SessionStep} {answers : List (Option Token)}
    (addressed : (∃ count, step = .next name count) ∨ step = .drain name)
    (answered : (session.moment step).outcome = .ok (.tokens answers)) :
    (session.moment step).delivered name = answers.filterMap id := by
  by_cases calls : (session.moment step).Calls name
  · rcases started : startScan name session.unobserved with ⟨failure | _ | scanner, middle⟩
    · obtain ⟨nothing, -, -, -, none⟩ := moment_idle calls started nofun
      rw [nothing, none answers answered]
    · obtain ⟨nothing, -, -, -, none⟩ := moment_idle calls started nofun
      rw [nothing, none answers answered]
    · obtain ⟨stretch, taken, -⟩ := taken_of_started calls started
      have takes := moment_takes calls taken
      rw [takes.delivered, takes.answers answers answered]
  · rcases addressed with ⟨count, rfl⟩ | rfl
    · cases count with
      | zero =>
        cases answered
        rw [delivered_next, giving]
        split <;> rfl
      | succ count => exact absurd (.inl ⟨count, rfl⟩) calls
    · exact absurd (.inr rfl) calls

theorem plain_lookup (name : String) : Plain fun session => session.generators.lookup name :=
  ⟨fun _ _ _ _ _ same _ => congrArg (List.lookup name) same, fun _ _ _ => rfl, fun _ _ => rfl⟩

theorem moment_apart {step : SessionStep} (same : ¬ (session.moment step).Renews name)
    (quiet : ¬ (session.moment step).Calls name) (open' : step ≠ .close name) :
    (session.moment step).delivered name = [] ∧ (session.moment step).fate? name = none ∧
      (session.moment step).after.generators.lookup name = session.generators.lookup name := by
  -- A step that addresses the generator can only have no effect on it: an unknown lexer, or no
  -- calls.
  by_cases addressed : step.generator? = some name
  · cases step with
    | tokenize lexer generator text =>
      cases addressed
      refine ⟨rfl, rfl, ?_⟩
      rw [moment_after]
      cases found : session.unobserved.named? lexer with
      | some named =>
        obtain ⟨place, lexer'⟩ := named
        refine absurd ⟨⟨lexer, text, rfl⟩, ?_⟩ same
        rw [moment_outcome, perform_tokenize found]
      | none =>
        obtain ⟨failure, failed⟩ := run_bind_unnamed found fun found =>
          setGenerator name (.fresh found.1 text) >>= fun _ => pure .done
        rw [perform, failed]
        rfl
    | next generator count =>
      cases addressed
      cases count with
      | zero =>
        refine ⟨?_, ?_, ?_⟩
        · rw [delivered_next, giving]
          split <;> rfl
        · rw [fate?_next]
          rfl
        · rw [moment_after]
          rfl
      | succ count => exact absurd (.inl ⟨count, rfl⟩) quiet
    | drain generator =>
      cases addressed
      exact absurd (.inr rfl) quiet
    | close generator =>
      cases addressed
      exact absurd rfl open'
    | _ => cases addressed
  · refine ⟨?_, ?_, ?_⟩
    · cases step with
      | next generator count => exact if_neg fun same => addressed (congrArg some same)
      | drain generator => exact if_neg fun same => addressed (congrArg some same)
      | _ => rfl
    · cases step with
      | next generator count => exact if_neg fun same => addressed (congrArg some same)
      | drain generator => exact if_neg fun same => addressed (congrArg some same)
      | close generator => exact if_neg fun same => addressed (congrArg some same)
      | _ => rfl
    · rw [moment_after]
      refine perform_keeps ⟨plain_lookup name, fun _ _ _ => rfl, fun _ _ _ => rfl, ?_, fun _ _ _ => rfl,
        fun _ _ _ => rfl⟩ session.unobserved
      intro generator makes later value
      have other : name ≠ generator := fun equal => addressed (equal ▸ makes)
      exact (lookup_putGenerator later generator name value).trans (if_neg other)

theorem moment_close {generator : Generator} (known : session.generators.lookup name = some generator) :
    (session.moment (.close name)).delivered name = [] ∧
      (session.moment (.close name)).fate? name = some .closed ∧
      (session.moment (.close name)).after.generators.lookup name = some .finished := by
  have closed : perform (.close name) session.unobserved =
      (.ok .done, session.unobserved.putGenerator name .finished) := by
    rw [perform_close, show session.unobserved.generators.lookup name = _ from known]
  refine ⟨rfl, ?_, ?_⟩
  · simp only [Moment.fate?, moment_outcome, closed]
    exact if_pos rfl
  · rw [moment_after, closed, lookup_putGenerator, if_pos rfl]

theorem after_tokenize {lexerName text : String} {place : Nat} {lexer : Lexer}
    (found : session.named? lexerName = some (place, lexer)) :
    (session.moment (.tokenize lexerName name text)).after =
      session.unobserved.putGenerator name (.fresh place text) := by
  rw [moment_after, perform_tokenize (by exact found)]

theorem lookup_of_renews {step : SessionStep} (renews : (session.moment step).Renews name) :
    ∃ place text, (session.moment step).after.generators.lookup name = some (.fresh place text) := by
  obtain ⟨⟨lexerName, text, stepped⟩, done⟩ := renews
  obtain rfl : step = .tokenize lexerName name text := stepped
  cases found : session.unobserved.named? lexerName with
  | some named =>
    obtain ⟨place, lexer⟩ := named
    rw [after_tokenize (by exact found), lookup_putGenerator, if_pos rfl]
    exact ⟨place, text, rfl⟩
  | none =>
    obtain ⟨failure, failed⟩ := run_bind_unnamed found fun found =>
      setGenerator name (.fresh found.1 text) >>= fun _ => pure .done
    rw [moment_outcome, perform, failed] at done
    cases done

theorem moment_finished {step : SessionStep} (same : ¬ (session.moment step).Renews name)
    (ceased : session.generators.lookup name = some .finished) :
    (session.moment step).delivered name = [] ∧
      (session.moment step).after.generators.lookup name = some .finished := by
  by_cases calls : (session.moment step).Calls name
  · have started := @startScan_of_finished session.unobserved name ceased
    obtain ⟨nothing, lookup, -⟩ := moment_idle calls started nofun
    rw [lookup_putGenerator, if_pos rfl] at lookup
    exact ⟨nothing, lookup⟩
  · by_cases closes : step = .close name
    · subst closes
      obtain ⟨nothing, -, lookup⟩ := moment_close ceased
      exact ⟨nothing, lookup⟩
    · obtain ⟨nothing, -, lookup⟩ := moment_apart same calls closes
      exact ⟨nothing, lookup.trans ceased⟩

end Session

end RuleLexer
