import RuleLexer.Proofs.Scan.Accounting
import RuleLexer.Proofs.Session.Callbacks

namespace RuleLexer

open SessionM

def Session.stretch? (session : Session) : SessionStep → Option Stretch
  | .scan name text | .lex name text =>
    (session.named? name).bind fun found =>
      match rulesFor found.1 session with
      | (.ok set, ready) => some (set.stretch found.2.config text ready.context)
      | _ => none
  | step => session.callStretch? step

namespace Moment

/-- The scans that are completed in the moment, in this order. -/
def completions (moment : Moment) : List Completion :=
  moment.events.filterMap Event.completion?

def own (moment : Moment) : List Completion :=
  match moment.before.unobserved.stretch? moment.step with
  | some stretch => stretch.own
  | none => []

/-- These are the scans that callbacks complete in the moment. -/
def Nests (moment : Moment) (nested : List Completion) : Prop :=
  match moment.before.unobserved.stretch? moment.step with
  | some stretch => stretch.run.Completes stretch.context nested
  | none => nested = []

end Moment

namespace Session

variable {session : Session} {step : SessionStep} {stretch : Stretch} {name : String}

theorem plain_books : Plain fun session => session.context.books :=
  ⟨fun _ _ same _ _ _ _ => congrArg Context.books same, fun session _ _ => session.context.books_emit rfl,
    fun _ _ => rfl⟩

theorem keeps_books_startScan (name : String) :
    Keeps (fun session => session.context.books) (startScan name) :=
  keeps_get.bind fun _ => (keeps_find _ name).bind fun generator =>
    (keeps_modify fun _ => by exact rfl).bind fun _ => plain_books.scannerOf (fun _ _ => rfl) generator

theorem perform_scan_cases (session : Session) (name text : String) :
    (∃ (set : RuleSet) (config : Config) (ready : Session),
      session.stretch? (.scan name text) = some (set.stretch config text ready.context) ∧
      ready.context.books = session.context.books ∧
      perform (.scan name text) session = ready.answering (set.scan config text) .scanned) ∨
    (session.stretch? (.scan name text) = none ∧
      (∃ failure, (perform (.scan name text) session).1 = .error failure) ∧
      (perform (.scan name text) session).2.context.books = session.context.books) := by
  cases found : session.named? name with
  | none =>
    obtain ⟨failure, failed⟩ := run_bind_unnamed found fun found => rulesFor found.1 >>= fun set =>
      lift (set.scan found.2.config text) >>= fun result => pure (.scanned result)
    have performed : perform (.scan name text) session = (.error failure, session) := failed
    rw [performed]
    exact .inr ⟨by rw [stretch?, found]; rfl, ⟨failure, rfl⟩, rfl⟩
  | some named =>
    obtain ⟨place, lexer⟩ := named
    rw [perform_scan found, stretch?, found]
    have kept := plain_books.rulesFor (fun _ _ => rfl) place session
    rcases ready : rulesFor place session with ⟨failure | set, after⟩
    · rw [ready] at kept
      refine .inr ⟨?_, ⟨failure, rfl⟩, kept⟩
      simp only [Option.bind_some, ready]
    · rw [ready] at kept
      refine .inl ⟨set, lexer.config, after, ?_, kept, rfl⟩
      simp only [Option.bind_some, ready]

theorem lex_after (session : Session) (name text : String) :
    (session.moment (.lex name text)).after = (session.moment (.scan name text)).after := by
  rw [moment_after, moment_after, perform_lex]

theorem call_of_taken (calls : (session.moment step).Calls name)
    (taken : session.unobserved.callStretch? step = some stretch) :
    (session.moment step).after.context = stretch.after ∧
      stretch.context.books = session.unobserved.context.books := by
  obtain ⟨ready, started, same⟩ := started_of_taken calls taken
  have kept := keeps_books_startScan name session.unobserved
  rw [started] at kept
  exact ⟨(moment_takes calls taken).context, same ▸ kept⟩

theorem call_of_untaken (calls : (session.moment step).Calls name)
    (untaken : session.unobserved.callStretch? step = none) :
    (session.moment step).after.context.books = session.unobserved.context.books := by
  have kept := keeps_books_startScan name session.unobserved
  rcases started : startScan name session.unobserved with ⟨failure | _ | scanner, middle⟩
  · obtain ⟨-, -, same, -⟩ := moment_idle calls started nofun
    rw [started] at kept
    rw [same]
    exact kept
  · obtain ⟨-, -, same, -⟩ := moment_idle calls started nofun
    rw [started] at kept
    rw [same]
    exact kept
  · obtain ⟨stretch, taken, -⟩ := taken_of_started calls started
    rw [untaken] at taken
    cases taken

theorem moment_of_taken (taken : session.unobserved.stretch? step = some stretch) :
    (session.moment step).after.context = stretch.after ∧
      stretch.context.books = session.unobserved.context.books := by
  have scans : ∀ name text, session.unobserved.stretch? (.scan name text) = some stretch →
      (session.moment (.scan name text)).after.context = stretch.after ∧
        stretch.context.books = session.unobserved.context.books := by
    intro name text taken
    rcases perform_scan_cases session.unobserved name text with
      ⟨set, config, ready, same, kept, performed⟩ | ⟨none, -⟩
    · rw [taken] at same
      cases same
      rw [moment_after, performed]
      exact ⟨(set.scan_stretch config text ready.context).1, kept⟩
    · rw [taken] at none
      cases none
  cases step with
  | scan name text => exact scans name text taken
  | lex name text =>
    rw [lex_after]
    exact scans name text taken
  | next name count =>
    cases count with
    | zero => cases taken
    | succ count => exact call_of_taken (.inl ⟨count, rfl⟩) taken
  | drain name => exact call_of_taken (.inr rfl) taken
  | _ => cases taken

theorem moment_of_untaken (untaken : session.unobserved.stretch? step = none)
    (same : ¬ step.switchesProfile) (unrecorded : ¬ step.recordsByHand) :
    (session.moment step).after.context.books = session.unobserved.context.books := by
  have scans : ∀ name text, session.unobserved.stretch? (.scan name text) = none →
      (session.moment (.scan name text)).after.context.books = session.unobserved.context.books := by
    intro name text untaken
    rcases perform_scan_cases session.unobserved name text with ⟨set, config, ready, taken, -⟩ | ⟨-, -, kept⟩
    · rw [untaken] at taken
      cases taken
    · exact kept
  cases step with
  | scan name text => exact scans name text untaken
  | lex name text =>
    rw [lex_after]
    exact scans name text untaken
  | next name count =>
    cases count with
    | zero => rfl
    | succ count => exact call_of_untaken (.inl ⟨count, rfl⟩) untaken
  | drain name => exact call_of_untaken (.inr rfl) untaken
  | enterProfile id => exact absurd trivial same
  | exitProfile id => exact absurd trivial same
  | record id length tokens skipped => exact absurd trivial unrecorded
  | _ =>
    rw [moment_after]
    exact perform_keeps ⟨plain_books, fun _ _ _ => rfl, fun _ _ _ => rfl, fun _ _ _ _ => rfl,
      fun _ _ _ => rfl, fun uses => absurd uses id⟩ session.unobserved

theorem Uses.callStretch? {good : Callback → Prop} (lineBreak : good lineBreak) (uses : session.Uses good)
    (taken : session.callStretch? step = some stretch) : stretch.scanner.set.Uses good := by
  unfold Session.callStretch? at taken
  split at taken
  · split at taken
    · next started =>
      cases taken
      exact uses.startScan lineBreak started
    · cases taken
  · split at taken
    · next started =>
      cases taken
      exact uses.startScan lineBreak started
    · cases taken
  · cases taken

theorem Uses.stretch? {good : Callback → Prop} (lineBreak : good lineBreak) (uses : session.Uses good)
    (taken : session.stretch? step = some stretch) : stretch.scanner.set.Uses good := by
  have scans : ∀ name text, session.stretch? (.scan name text) = some stretch →
      stretch.scanner.set.Uses good := by
    intro name text taken
    obtain ⟨⟨place, lexer⟩, found, taken⟩ := Option.bind_eq_some_iff.mp taken
    rcases ready : Session.rulesFor place session with ⟨failure | set, after⟩
    · simp only [ready] at taken
      cases taken
    · simp only [ready] at taken
      cases taken
      exact uses.rulesFor lineBreak (lexer_of_named? found) ready
  cases step with
  | scan name text => exact scans name text taken
  | lex name text => exact scans name text taken
  | next name count => exact @Uses.callStretch? session (.next name count) stretch good lineBreak uses taken
  | drain name => exact @Uses.callStretch? session (.drain name) stretch good lineBreak uses taken
  | _ => cases taken

theorem own_of_taken (taken : session.unobserved.stretch? step = some stretch) :
    (session.moment step).own = stretch.own := by
  change (match session.unobserved.stretch? step with
    | some stretch => stretch.own
    | none => []) = _
  rw [taken]

theorem own_of_untaken (untaken : session.unobserved.stretch? step = none) :
    (session.moment step).own = [] := by
  change (match session.unobserved.stretch? step with
    | some stretch => stretch.own
    | none => []) = _
  rw [untaken]

theorem nests_of_taken (taken : session.unobserved.stretch? step = some stretch)
    {nested : List Completion} :
    (session.moment step).Nests nested ↔ stretch.run.Completes stretch.context nested := by
  change (match session.unobserved.stretch? step with
    | some stretch => stretch.run.Completes stretch.context nested
    | none => nested = []) ↔ _
  rw [taken]

theorem nests_of_untaken (untaken : session.unobserved.stretch? step = none) {nested : List Completion} :
    (session.moment step).Nests nested ↔ nested = [] := by
  change (match session.unobserved.stretch? step with
    | some stretch => stretch.run.Completes stretch.context nested
    | none => nested = []) ↔ _
  rw [untaken]

/-- The books after a moment: what callbacks have completed has been entered, and then its own scan. -/
theorem moment_books (uses : session.Uses Callback.ScansOnly) (same : ¬ step.switchesProfile)
    (unrecorded : ¬ step.recordsByHand) :
    ∃ nested, (session.moment step).Nests nested ∧ (session.moment step).after.context.books =
      (nested ++ (session.moment step).own).foldl Books.enter session.unobserved.context.books := by
  cases taken : session.unobserved.stretch? step with
  | none =>
    rw [own_of_untaken taken]
    exact ⟨[], (nests_of_untaken taken).mpr rfl, moment_of_untaken taken same unrecorded⟩
  | some stretch =>
    have modest := uses.unobserved.stretch? lineBreak_scansOnly taken
    obtain ⟨nested, completes⟩ :=
      (Scanner.takeUpTo_scansOnly modest stretch.count).completes stretch.context
    obtain ⟨behind, books⟩ := moment_of_taken taken
    have left : stretch.left.books = nested.foldl Books.enter stretch.context.books := completes.books
    refine ⟨nested, (nests_of_taken taken).mpr completes, ?_⟩
    rw [own_of_taken taken, behind, stretch.after_books, left, books, List.foldl_append]

theorem completions_of_books {done : List Completion}
    (books : (session.moment step).after.context.books =
      done.foldl Books.enter session.unobserved.context.books) :
    (session.moment step).completions = done := by
  have listed : (session.moment step).completions = (session.moment step).after.context.books.completed := rfl
  rw [listed, books, Books.completed_foldl]
  rfl

theorem completions_of_switch (switches : step.switchesProfile) :
    (session.moment step).completions = [] := by
  have listed : (session.moment step).completions = (session.moment step).after.context.books.completed := rfl
  cases step with
  | enterProfile id =>
    rw [listed, moment_after, perform_enterProfile]
    rfl
  | exitProfile id =>
    rw [listed, moment_after, perform_exitProfile]
    split <;> rfl
  | _ => cases switches

theorem own_scan (session : Session) (name text : String) :
    (∃ result, (session.moment (.scan name text)).outcome = .ok (.scanned result) ∧
      (session.moment (.scan name text)).own =
        [⟨text.length, result.tokens.length, result.skipped.length⟩]) ∨
    (∃ failure, (session.moment (.scan name text)).outcome = .error failure ∧
      (session.moment (.scan name text)).own = []) := by
  rcases perform_scan_cases session.unobserved name text with
    ⟨set, config, ready, taken, -, performed⟩ | ⟨untaken, ⟨failure, failed⟩, -⟩
  · have own := (set.scan_stretch config text ready.context).2
    rw [moment_outcome, performed, own_of_taken taken, own, answering]
    cases (set.scan config text ready.context).1 with
    | error failure => exact .inr ⟨failure, rfl, rfl⟩
    | ok result => exact .inl ⟨result, rfl, rfl⟩
  · exact .inr ⟨failure, failed, own_of_untaken untaken⟩

theorem outcome_lex (session : Session) (name text : String) :
    (session.moment (.lex name text)).outcome =
      (session.moment (.scan name text)).outcome.map fun
        | .scanned result => .tokens (result.tokens.map some)
        | answer => answer :=
  congrArg Prod.fst (perform_lex session.unobserved name text)

theorem stretch?_of_calls (calls : (session.moment step).Calls name) :
    session.unobserved.stretch? step = session.unobserved.callStretch? step := by
  rcases calls with ⟨count, stepped⟩ | stepped
  · obtain rfl : step = .next name (count + 1) := stepped
    rfl
  · obtain rfl : step = .drain name := stepped
    rfl

theorem own_call (calls : (session.moment step).Calls name) :
    (∃ stretch, (session.moment step).own = stretch.own ∧ (session.moment step).Takes name stretch) ∨
      (session.moment step).own = [] := by
  have same := stretch?_of_calls calls
  cases taken : session.unobserved.callStretch? step with
  | none => exact .inr (own_of_untaken (same.trans taken))
  | some stretch => exact .inl ⟨stretch, own_of_taken (same.trans taken), moment_takes calls taken⟩

theorem untaken_of_idle (silent : ∀ name text, step ≠ .scan name text ∧ step ≠ .lex name text)
    (quiet : ∀ name, ¬ (session.moment step).Calls name) : session.unobserved.stretch? step = none := by
  cases step with
  | scan name text => exact absurd rfl (silent name text).1
  | lex name text => exact absurd rfl (silent name text).2
  | next name count =>
    cases count with
    | zero => rfl
    | succ count => exact absurd (.inl ⟨count, rfl⟩) (quiet name)
  | drain name => exact absurd (.inr rfl) (quiet name)
  | _ => rfl

theorem completed_moment (uses : session.Uses Callback.ScansOnly) (unrecorded : ¬ step.recordsByHand) :
    ∃ nested, (session.moment step).Nests nested ∧
      (session.moment step).completions = nested ++ (session.moment step).own := by
  by_cases switches : step.switchesProfile
  · rw [completions_of_switch switches]
    cases step with
    | enterProfile id => exact ⟨[], rfl, rfl⟩
    | exitProfile id => exact ⟨[], rfl, rfl⟩
    | _ => cases switches
  · obtain ⟨nested, nests, books⟩ := moment_books uses switches unrecorded
    exact ⟨nested, nests, completions_of_books books⟩

theorem completions_of_untaken (uses : session.Uses Callback.ScansOnly) (unrecorded : ¬ step.recordsByHand)
    (untaken : session.unobserved.stretch? step = none) : (session.moment step).completions = [] := by
  obtain ⟨nested, nests, completed⟩ := completed_moment uses unrecorded
  rw [completed, own_of_untaken untaken, (nests_of_untaken untaken).mp nests]
  rfl

theorem failed_moment {failure : Failure} (failed : (session.moment step).outcome = .error failure) :
    (session.moment step).own = [] := by
  cases step with
  | scan name text =>
    rcases own_scan session name text with ⟨result, returned, -⟩ | ⟨-, -, nothing⟩
    · rw [returned] at failed
      cases failed
    · exact nothing
  | lex name text =>
    rcases own_scan session name text with ⟨result, returned, -⟩ | ⟨-, -, nothing⟩
    · rw [outcome_lex, returned] at failed
      cases failed
    · exact nothing
  | next name count =>
    cases count with
    | zero => rfl
    | succ count =>
      rcases @own_call session (.next name (count + 1)) name (.inl ⟨count, rfl⟩) with
        ⟨stretch, own, takes⟩ | nothing
      · rw [own, Stretch.own, takes.failed failure failed]
      · exact nothing
  | drain name =>
    rcases @own_call session (.drain name) name (.inr rfl) with ⟨stretch, own, takes⟩ | nothing
    · rw [own, Stretch.own, takes.failed failure failed]
    · exact nothing
  | _ => rfl

end Session

end RuleLexer
