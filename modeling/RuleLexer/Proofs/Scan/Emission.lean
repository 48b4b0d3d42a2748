import RuleLexer.Proofs.Rule.Callbacks
import RuleLexer.Proofs.Scan.Trace

namespace RuleLexer

namespace Run

variable {α β : Type}

theorem run_bind (first : Run α) (next : α → Run β) (context : Context) :
    (first >>= next) context =
      match first context with
      | (.ok value, after) => next value after
      | (.error failure, after) => (.error failure, after) := by
  change ExceptT.bindCont next (first context).1 (first context).2 = _
  obtain ⟨outcome, after⟩ := first context
  cases outcome <;> rfl

def Steady (run : Run α) : Prop :=
  ∀ one other, (run one).1 = (run other).1

theorem steady_pure (value : α) : Steady (pure value) := fun _ _ => rfl

theorem steady_throw (failure : Failure) : Steady (throw failure : Run α) := fun _ _ => rfl

theorem steady_modify (change : Context → Context) : Steady (modify change : Run Unit) := fun _ _ => rfl

theorem Steady.bind {first : Run α} {next : α → Run β} (steady : first.Steady)
    (steadily : ∀ value before after, first.Returns before value after → (next value).Steady) :
    (first >>= next).Steady := by
  intro one other
  have same := steady one other
  rw [run_bind, run_bind]
  cases here : first one with
  | mk outcome after =>
    cases there : first other with
    | mk outcome' after' =>
      rw [here, there] at same
      cases same
      cases outcome with
      | ok value => exact steadily value one after here after after'
      | error failure => rfl

theorem steady_emit (event : Event) : (emit event).Steady := steady_modify _

/-- What holds of results, failures and reports of skipped text, and passes on to sequences. -/
structure Closed (holds : ∀ {α : Type}, Run α → Prop) : Prop where
  pure : ∀ {α : Type} (value : α), holds (pure value)
  throw : ∀ {α : Type} (failure : Failure), holds (throw failure : Run α)
  warned : ∀ skipped, holds (emit (.warned skipped))
  handled : ∀ skipped, holds (emit (.handled skipped))
  bind : ∀ {α β : Type} {first : Run α} {next : α → Run β}, holds first →
    (∀ value before after, first.Returns before value after → holds (next value)) →
      holds (first >>= next)

theorem closed_steady : Closed Steady where
  pure := steady_pure
  throw := steady_throw
  warned _ := steady_emit _
  handled _ := steady_emit _
  bind := Steady.bind

theorem steady_ofExcept (outcome : Except Failure α) : (ofExcept outcome).Steady := by
  cases outcome with
  | ok value => exact steady_pure value
  | error failure => exact steady_throw failure

end Run

def Callback.Steady (callback : Callback) : Prop :=
  ∀ captures state, (callback captures state).Steady

theorem lineBreak_steady : Callback.Steady lineBreak := fun _ _ => Run.steady_pure _

namespace Scanner

def hand (config : Config) (gap : Gap) : Run Unit :=
  match config.onSkip with
  | none => pure ()
  | some handler => do
    Run.emit (.handled gap.toSkippedText)
    match handler gap with
    | some failure => throw failure
    | none => pure ()

theorem report_eq (config : Config) (gap : Gap) :
    report config gap =
      ((if config.logSkipped.isTruthy then Run.emit (.warned gap.toSkippedText) else pure ()) >>=
        fun _ => hand config gap) := by
  by_cases logged : config.logSkipped.isTruthy
  · simp only [report, logged, if_true]
    rfl
  · simp only [report, logged]
    rfl

theorem mem_of_ruleForGroup? {set : RuleSet} {group : Option Int} {rule : CompiledRule}
    (found : set.ruleForGroup? group = some rule) : rule ∈ set.rules := by
  obtain ⟨index, -, found⟩ := Option.bind_eq_some_iff.mp found
  exact List.mem_of_find?_eq_some found

section Closed

variable {holds : ∀ {α : Type}, Run α → Prop} (closed : Run.Closed holds)

include closed

theorem report_closed (config : Config) (gap : Gap) : holds (report config gap) := by
  rw [report_eq]
  refine closed.bind ?_ fun _ _ _ _ => ?_
  · split
    · exact closed.warned _
    · exact closed.pure _
  · unfold hand
    split
    · exact closed.pure _
    · refine closed.bind (closed.handled _) fun _ _ _ _ => ?_
      split
      · exact closed.throw _
      · exact closed.pure _

theorem skipTo_closed (scanner : Scanner) (stop : Nat) : holds (scanner.skipTo stop) := by
  unfold skipTo
  split
  · exact closed.bind (report_closed closed _ _) fun _ _ _ _ => closed.pure _
  · exact closed.pure _

theorem take_closed {scanner : Scanner}
    (calls : scanner.set.Uses fun callback => ∀ captures state, holds (callback captures state))
    (found : Match) (search : Search) : holds (scanner.take found search) := by
  unfold take
  refine closed.bind (skipTo_closed closed scanner found.start) fun next before after skipped => ?_
  have same : next.set = scanner.set := by
    rw [(skipTo_returns_iff.mp skipped).2]
    rfl
  dsimp only
  split
  · next rule dispatched =>
    refine closed.bind ?_ fun _ _ _ _ => closed.pure _
    unfold contentOf
    split
    · next callback given =>
      exact calls rule (same ▸ mem_of_ruleForGroup? dispatched) callback given _ _
    · exact closed.pure _
  · exact closed.throw _

theorem nextUpTo_closed {scanner : Scanner}
    (calls : scanner.set.Uses fun callback => ∀ captures state, holds (callback captures state))
    (fuel : Nat) : holds (nextUpTo fuel scanner) := by
  induction fuel generalizing scanner with
  | zero => exact closed.pure _
  | succ fuel ih =>
    unfold nextUpTo
    split
    · exact closed.bind (skipTo_closed closed scanner _) fun _ _ _ _ => closed.pure _
    · next found search step =>
      refine closed.bind (take_closed closed calls found search) fun taken before after returned => ?_
      obtain ⟨token, next⟩ := taken
      obtain ⟨visit, -, -, -, rfl⟩ := (take_returns_iff step).mp returned
      cases token with
      | some token => exact closed.pure _
      | none => exact @ih (scanner.passVisit visit) calls

theorem next_closed {scanner : Scanner}
    (calls : scanner.set.Uses fun callback => ∀ captures state, holds (callback captures state)) :
    holds scanner.next :=
  nextUpTo_closed closed calls _

end Closed

theorem next_steady {scanner : Scanner} (steady : scanner.set.Uses Callback.Steady) :
    scanner.next.Steady :=
  next_closed Run.closed_steady steady

theorem Trace.tokens_eq {before after : Context} {scanner last : Scanner} {visits : List Visit}
    (trace : Trace before scanner visits after last) :
    last.tokens = scanner.tokens + (visits.filterMap Visit.token).length := by
  induction trace with
  | nil => rfl
  | @cons _ _ _ scanner _ visit visits _ _ ih =>
    rw [ih]
    cases made : visit.token <;> simp [passVisit, made]
    omega

theorem next_returns {scanner last : Scanner} {token : Option Token} {before after : Context}
    (returned : scanner.next.Returns before (token, last) after) :
    last.set = scanner.set ∧ last.config = scanner.config ∧ last.text = scanner.text ∧
      last.tokens = scanner.tokens + token.toList.length ∧
      (token ≠ none → last.bound < scanner.bound) := by
  obtain ⟨visits, tokens, outcome⟩ := nextUpTo_returns (Nat.lt_succ_self _) returned
  rcases outcome with ⟨-, trace, fewer⟩ | ⟨rfl, middle, stopped, completes, rfl⟩
  · obtain ⟨set, config, text⟩ := trace.kept
    exact ⟨set, config, text, tokens ▸ trace.tokens_eq, fun _ => fewer⟩
  · obtain ⟨set, config, text⟩ := completes.trace.kept
    exact ⟨set, config, text, tokens ▸ completes.trace.tokens_eq, fun none => absurd rfl none⟩

theorem takeUpTo_closed {holds : ∀ {α : Type}, Run α → Prop} (closed : Run.Closed holds) {scanner : Scanner}
    (calls : scanner.set.Uses fun callback => ∀ captures state, holds (callback captures state))
    (count : Nat) : holds (takeUpTo count scanner) := by
  induction count generalizing scanner with
  | zero => exact closed.pure _
  | succ count ih =>
    unfold takeUpTo
    refine closed.bind (next_closed closed calls) fun pulled before after returned => ?_
    obtain ⟨token, last⟩ := pulled
    obtain ⟨set, -⟩ := next_returns returned
    cases token with
    | none => exact closed.pure _
    | some token =>
      exact closed.bind (@ih last (set ▸ calls)) fun _ _ _ _ => closed.pure _

inductive Pulls : Scanner → Context → List Token → Scanner → Context → Prop
  | nil {scanner : Scanner} {context : Context} : Pulls scanner context [] scanner context
  | cons {scanner middle last : Scanner} {before between after : Context} {token : Token}
    {tokens : List Token} (next : scanner.next.Returns before (some token, middle) between)
    (rest : Pulls middle between tokens last after) :
    Pulls scanner before (token :: tokens) last after

/-- Tokens pulled one after the other, each in any context. -/
inductive Delivers : Scanner → List Token → Scanner → Prop
  | nil {scanner : Scanner} : Delivers scanner [] scanner
  | cons {scanner middle last : Scanner} {before between : Context} {token : Token}
    {tokens : List Token} (next : scanner.next.Returns before (some token, middle) between)
    (rest : Delivers middle tokens last) : Delivers scanner (token :: tokens) last

/-- The scan, left to itself, emits these tokens and then comes to its end or fails. -/
def Emits (scanner : Scanner) (context : Context) (tokens : List Token)
    (ending : Except Failure Scanner) (after : Context) : Prop :=
  ∃ stopped middle, Pulls scanner context tokens stopped middle ∧
    stopped.next middle = (ending.map fun last => (none, last), after)

theorem Pulls.append {scanner middle last : Scanner} {before between after : Context}
    {first second : List Token} (one : Pulls scanner before first middle between)
    (two : Pulls middle between second last after) :
    Pulls scanner before (first ++ second) last after := by
  induction one with
  | nil => exact two
  | cons next _ ih => exact .cons next (ih two)

theorem Pulls.delivers {scanner last : Scanner} {before after : Context} {tokens : List Token}
    (pulls : Pulls scanner before tokens last after) : Delivers scanner tokens last := by
  induction pulls with
  | nil => exact .nil
  | cons next _ ih => exact .cons next ih

theorem Delivers.append {scanner middle last : Scanner} {first second : List Token}
    (one : Delivers scanner first middle) (two : Delivers middle second last) :
    Delivers scanner (first ++ second) last := by
  induction one with
  | nil => exact two
  | cons next _ ih => exact .cons next (ih two)

theorem Delivers.kept {scanner last : Scanner} {tokens : List Token}
    (delivers : Delivers scanner tokens last) :
    last.set = scanner.set ∧ last.config = scanner.config ∧ last.text = scanner.text ∧
      last.tokens = scanner.tokens + tokens.length := by
  induction delivers with
  | nil => exact ⟨rfl, rfl, rfl, rfl⟩
  | cons next _ ih =>
    obtain ⟨set, config, text, tokens, -⟩ := next_returns next
    obtain ⟨set', config', text', tokens'⟩ := ih
    refine ⟨set'.trans set, config'.trans config, text'.trans text, ?_⟩
    simp only [tokens', tokens, Option.toList_some, List.length_cons, List.length_nil]
    omega

theorem exists_emits (scanner : Scanner) (context : Context) :
    ∃ tokens ending after, scanner.Emits context tokens ending after := by
  induction size : scanner.bound using Nat.strongRecOn generalizing scanner context with
  | _ bound ih =>
    cases next : scanner.next context with
    | mk outcome after =>
      rcases outcome with failure | ⟨_ | token, last⟩
      · exact ⟨[], .error failure, after, scanner, context, .nil, next⟩
      · exact ⟨[], .ok last, after, scanner, context, .nil, next⟩
      · obtain ⟨-, -, -, -, fewer⟩ := next_returns next
        obtain ⟨tokens, ending, final, stopped, middle, pulls, stops⟩ :=
          ih last.bound (size ▸ fewer (Option.some_ne_none token)) last after rfl
        exact ⟨token :: tokens, ending, final, stopped, middle, .cons next pulls, stops⟩

theorem takeUpTo_succ (scanner : Scanner) (count : Nat) (context : Context) :
    takeUpTo (count + 1) scanner context =
      match scanner.next context with
      | (.ok (some token, next), between) =>
        ((takeUpTo count next between).1.map fun pulled => (token :: pulled.1, pulled.2),
          (takeUpTo count next between).2)
      | (.ok (none, last), after) => (.ok ([], last), after)
      | (.error failure, after) => (.error failure, after) := by
  rw [takeUpTo, Run.run_bind]
  rcases scanner.next context with ⟨failure | ⟨_ | token, next⟩, between⟩
  · rfl
  · rfl
  · simp only [Run.run_bind]
    rcases takeUpTo count next between with ⟨failure | ⟨tokens, last⟩, after⟩ <;> rfl

theorem takeUpTo_of_pulls {scanner stopped : Scanner} {before middle after : Context}
    {tokens : List Token} {ending : Except Failure Scanner}
    (pulls : Pulls scanner before tokens stopped middle)
    (stops : stopped.next middle = (ending.map fun last => (none, last), after)) {count : Nat}
    (enough : tokens.length < count) :
    takeUpTo count scanner before = (ending.map fun last => (tokens, last), after) := by
  induction pulls generalizing count with
  | nil =>
    obtain ⟨count, rfl⟩ : ∃ n, count = n + 1 := ⟨count - 1, by omega⟩
    rw [takeUpTo_succ, stops]
    cases ending <;> rfl
  | @cons scanner next last before between after token tokens returned rest ih =>
    rw [List.length_cons] at enough
    obtain ⟨count, rfl⟩ : ∃ n, count = n + 1 := ⟨count - 1, by omega⟩
    rw [takeUpTo_succ, returned]
    simp only [ih stops (show tokens.length < count by omega)]
    cases ending <;> rfl

theorem Pulls.length_le {scanner stopped : Scanner} {before after : Context} {tokens : List Token}
    (pulls : Pulls scanner before tokens stopped after) :
    stopped.bound + tokens.length ≤ scanner.bound := by
  induction pulls with
  | nil => exact Nat.le_refl _
  | @cons _ _ _ _ _ _ token _ returned _ ih =>
    obtain ⟨-, -, -, -, fewer⟩ := next_returns returned
    have less := fewer (Option.some_ne_none token)
    rw [List.length_cons]
    omega

theorem Emits.drain {scanner : Scanner} {context after : Context} {tokens : List Token}
    {ending : Except Failure Scanner} (emits : scanner.Emits context tokens ending after) :
    scanner.drain context = (ending.map fun last => (tokens, last), after) := by
  obtain ⟨stopped, middle, pulls, stops⟩ := emits
  have few := pulls.length_le
  exact takeUpTo_of_pulls pulls stops (show tokens.length < scanner.bound + 1 by omega)

def given : Nat → Scanner → Context → List Token
  | 0, _, _ => []
  | count + 1, scanner, context =>
    match scanner.next context with
    | (.ok (some token, scanner), context) => token :: given count scanner context
    | _ => []

end Scanner

inductive Halt where
  | paused (stopped : Scanner)
  | exhausted (last : Scanner)
  | failed (failure : Failure)

/-- Up to `count` tokens are pulled one after the other; if there are fewer, the scan has come to its
end. -/
structure Stretch where
  scanner : Scanner
  count : Nat
  context : Context

namespace Stretch

def run (stretch : Stretch) : Run (List Token × Scanner) :=
  stretch.scanner.takeUpTo stretch.count

def outcome (stretch : Stretch) : Except Failure (List Token × Scanner) :=
  (stretch.run stretch.context).1

def left (stretch : Stretch) : Context :=
  (stretch.run stretch.context).2

def halt (stretch : Stretch) : Halt :=
  match stretch.outcome with
  | .ok (tokens, last) => if tokens.length < stretch.count then .exhausted last else .paused last
  | .error failure => .failed failure

def tokens (stretch : Stretch) : List Token :=
  stretch.scanner.given stretch.count stretch.context

def after (stretch : Stretch) : Context :=
  match stretch.halt with
  | .exhausted last => (last.finish stretch.left).2
  | _ => stretch.left

section Steps

variable {scanner next : Scanner} {context between : Context} (count : Nat)

theorem run_fails {failure : Failure} (failed : scanner.next context = (.error failure, between)) :
    Stretch.run ⟨scanner, count + 1, context⟩ context = (.error failure, between) := by
  rw [run, Scanner.takeUpTo_succ, failed]

theorem run_ends (ended : scanner.next.Returns context (none, next) between) :
    Stretch.run ⟨scanner, count + 1, context⟩ context = (.ok ([], next), between) := by
  rw [run, Scanner.takeUpTo_succ, ended]

theorem run_goes_on {token : Token} (returned : scanner.next.Returns context (some token, next) between) :
    Stretch.run ⟨scanner, count + 1, context⟩ context =
      ((Stretch.outcome ⟨next, count, between⟩).map fun pulled => (token :: pulled.1, pulled.2),
        Stretch.left ⟨next, count, between⟩) := by
  rw [run, Scanner.takeUpTo_succ, returned]
  rfl

theorem halt_goes_on {token : Token} (returned : scanner.next.Returns context (some token, next) between) :
    Stretch.halt ⟨scanner, count + 1, context⟩ = Stretch.halt ⟨next, count, between⟩ := by
  unfold halt
  rw [outcome, run_goes_on count returned]
  cases Stretch.outcome ⟨next, count, between⟩ with
  | error failure => rfl
  | ok pulled =>
    simp only [Except.map, List.length_cons, Nat.add_lt_add_iff_right]

theorem after_goes_on {token : Token} (returned : scanner.next.Returns context (some token, next) between) :
    Stretch.after ⟨scanner, count + 1, context⟩ = Stretch.after ⟨next, count, between⟩ := by
  unfold after
  rw [halt_goes_on count returned, left, run_goes_on count returned]

end Steps

end Stretch

namespace Scanner

inductive Reaches (scanner : Scanner) (context : Context) (tokens : List Token) : Halt → Context → Prop
  | paused {stopped : Scanner} {after : Context} (pulls : Pulls scanner context tokens stopped after) :
    Reaches scanner context tokens (.paused stopped) after
  | exhausted {last : Scanner} {after : Context} (emits : scanner.Emits context tokens (.ok last) after) :
    Reaches scanner context tokens (.exhausted last) after
  | failed {failure : Failure} {after : Context}
    (emits : scanner.Emits context tokens (.error failure) after) :
    Reaches scanner context tokens (.failed failure) after

theorem Emits.cons {scanner next : Scanner} {before between after : Context} {token : Token}
    {tokens : List Token} {ending : Except Failure Scanner}
    (returned : scanner.next.Returns before (some token, next) between)
    (emits : next.Emits between tokens ending after) :
    scanner.Emits before (token :: tokens) ending after := by
  obtain ⟨stopped, middle, pulls, stops⟩ := emits
  exact ⟨stopped, middle, .cons returned pulls, stops⟩

theorem Reaches.cons {scanner next : Scanner} {before between after : Context} {token : Token}
    {tokens : List Token} {halt : Halt}
    (returned : scanner.next.Returns before (some token, next) between)
    (reaches : next.Reaches between tokens halt after) :
    scanner.Reaches before (token :: tokens) halt after := by
  cases reaches with
  | paused pulls => exact .paused (.cons returned pulls)
  | exhausted emits => exact .exhausted (emits.cons returned)
  | failed emits => exact .failed (emits.cons returned)

theorem Reaches.pulls {scanner stopped : Scanner} {before after : Context} {tokens : List Token}
    (reaches : scanner.Reaches before tokens (.paused stopped) after) :
    Pulls scanner before tokens stopped after := by
  cases reaches with
  | paused pulls => exact pulls

end Scanner

theorem Scanner.length_of_drain {scanner last : Scanner} {context after : Context} {tokens : List Token}
    (drained : scanner.drain context = (.ok (tokens, last), after)) : tokens.length < scanner.bound + 1 := by
  obtain ⟨all, ending, final, emits⟩ := scanner.exists_emits context
  rw [emits.drain] at drained
  cases ending with
  | error failure => cases drained
  | ok reached =>
    cases drained
    obtain ⟨stopped, middle, pulls, -⟩ := emits
    have few := pulls.length_le
    omega

theorem Stretch.halt_of_drain (scanner : Scanner) (context : Context) :
    Stretch.halt ⟨scanner, scanner.bound + 1, context⟩ =
      match (scanner.drain context).1 with
      | .ok (_, last) => .exhausted last
      | .error failure => .failed failure := by
  have opened : Stretch.outcome ⟨scanner, scanner.bound + 1, context⟩ = (scanner.drain context).1 := rfl
  rw [halt, opened]
  rcases drained : scanner.drain context with ⟨failure | ⟨tokens, last⟩, after⟩
  · rfl
  · exact if_pos (Scanner.length_of_drain drained)

theorem Stretch.reaches (stretch : Stretch) :
    stretch.scanner.Reaches stretch.context stretch.tokens stretch.halt stretch.left := by
  obtain ⟨scanner, count, context⟩ := stretch
  induction count generalizing scanner context with
  | zero => exact .paused .nil
  | succ count ih =>
    cases pulled : scanner.next context with
    | mk outcome between =>
      rcases outcome with failure | ⟨_ | token, next⟩
      · have nothing : Stretch.tokens ⟨scanner, count + 1, context⟩ = [] := by
          rw [tokens, Scanner.given, pulled]
        rw [nothing, halt, outcome, left, run_fails count pulled]
        exact .failed ⟨scanner, context, .nil, pulled⟩
      · have nothing : Stretch.tokens ⟨scanner, count + 1, context⟩ = [] := by
          rw [tokens, Scanner.given, pulled]
        rw [nothing, halt, outcome, left, run_ends count pulled]
        exact .exhausted ⟨scanner, context, .nil, pulled⟩
      · have first : Stretch.tokens ⟨scanner, count + 1, context⟩ =
            token :: Stretch.tokens ⟨next, count, between⟩ := by
          rw [tokens, Scanner.given, pulled]
          rfl
        rw [first, halt_goes_on count pulled, left, run_goes_on count pulled]
        exact (ih next between).cons pulled

theorem Stretch.tokens_of_outcome {stretch : Stretch} {tokens : List Token} {last : Scanner}
    (pulled : stretch.outcome = .ok (tokens, last)) : stretch.tokens = tokens := by
  obtain ⟨scanner, count, context⟩ := stretch
  induction count generalizing scanner context tokens with
  | zero =>
    cases pulled
    rfl
  | succ count ih =>
    rw [outcome] at pulled
    rw [Stretch.tokens, Scanner.given]
    rcases next : scanner.next context with ⟨failure | ⟨_ | token, later⟩, between⟩
    · rw [run_fails count next] at pulled
      cases pulled
    · rw [run_ends count next] at pulled
      cases pulled
      rfl
    · rw [run_goes_on count next] at pulled
      cases rest : Stretch.outcome ⟨later, count, between⟩ with
      | error failure =>
        rw [rest] at pulled
        cases pulled
      | ok found =>
        rw [rest] at pulled
        cases pulled
        exact congrArg (token :: ·) (ih later between rest)

namespace Scanner

section Steady

variable {scanner stopped : Scanner} (steady : scanner.set.Uses Callback.Steady)

include steady

theorem returns_of_steady {token : Option Token} {last : Scanner} {before after : Context}
    (returned : scanner.next.Returns before (token, last) after) (context : Context) :
    ∃ later, scanner.next.Returns context (token, last) later := by
  have same := next_steady steady context before
  rw [returned] at same
  exact ⟨(scanner.next context).2, Prod.ext same rfl⟩

theorem Delivers.pulls {tokens : List Token} (delivers : Delivers scanner tokens stopped)
    (context : Context) : ∃ after, Pulls scanner context tokens stopped after := by
  induction delivers generalizing context with
  | nil => exact ⟨context, .nil⟩
  | cons returned _ ih =>
    obtain ⟨between, again⟩ := returns_of_steady steady returned context
    obtain ⟨set, -⟩ := next_returns returned
    obtain ⟨after, pulls⟩ := ih (set ▸ steady) between
    exact ⟨after, .cons again pulls⟩

/-- The context makes no difference to what a scan emits. -/
theorem Emits.elsewhere {before after : Context} {tokens : List Token} {ending : Except Failure Scanner}
    (emits : scanner.Emits before tokens ending after) (context : Context) :
    ∃ later, scanner.Emits context tokens ending later := by
  obtain ⟨stopped, middle, pulls, stops⟩ := emits
  obtain ⟨between, again⟩ := pulls.delivers.pulls steady context
  obtain ⟨set, -⟩ := pulls.delivers.kept
  have same := next_steady (set ▸ steady) between middle
  rw [stops] at same
  exact ⟨(stopped.next between).2, stopped, between, again, Prod.ext same rfl⟩

theorem Delivers.emits {before after : Context} {first second : List Token}
    {ending : Except Failure Scanner} (delivers : Delivers scanner first stopped)
    (emits : stopped.Emits before second ending after) (context : Context) :
    ∃ later, scanner.Emits context (first ++ second) ending later := by
  obtain ⟨between, pulls⟩ := delivers.pulls steady context
  obtain ⟨set, -⟩ := delivers.kept
  obtain ⟨later, last, middle, rest, stops⟩ := emits.elsewhere (set ▸ steady) between
  exact ⟨later, last, middle, pulls.append rest, stops⟩

end Steady

end Scanner

/-- An uninterrupted scan has as its result what its scanner emits, or the failure that stops it. -/
theorem RuleSet.scan_of_emits {set : RuleSet} {config : Config} {text : String} {context after : Context}
    {tokens : List Token} {ending : Except Failure Scanner}
    (emits : (set.scanner config text).Emits context tokens ending after) :
    set.scan config text context =
      match ending with
      | .ok last => (.ok ⟨tokens, last.skipped.reverse⟩, (last.finish after).2)
      | .error failure => (.error failure, after) := by
  rw [scan, Run.run_bind, emits.drain]
  cases ending <;> rfl

theorem RuleSet.ofTable_of_compile {config : Config} {table : Option (List Candidate)} {set : RuleSet}
    {before after : Context} (returned : (compile config table).Returns before set after) :
    ofTable config table = .ok set := by
  obtain ⟨accepted, middle, valid, last⟩ := Run.returns_bind.mp returned
  obtain ⟨_, _, -, ended⟩ := Run.returns_bind.mp last
  obtain ⟨rfl, -⟩ := Run.returns_pure.mp ended
  cases outcome : ofTable config table with
  | error failure =>
    rw [outcome] at valid
    cases valid
  | ok other =>
    rw [outcome] at valid
    cases valid
    rfl

end RuleLexer
