import Mathlib.Algebra.Ring.Int.Defs
import RuleLexer.Proofs.Scan.Emission
import RuleLexer.Rule.Action

namespace RuleLexer

/-- A scan that has come to its end: the length of its text, and how much was found and skipped. -/
structure Completion where
  characters : Nat
  tokens : Nat
  skipped : Nat
deriving DecidableEq, Repr

def Event.completion? : Event → Option Completion
  | .lexed characters tokens skipped => some ⟨characters, tokens, skipped⟩
  | _ => none

def Completion.ofScan (text : String) : Except Failure ScanResult → List Completion
  | .ok result => [⟨text.length, result.tokens.length, result.skipped.length⟩]
  | .error _ => []

namespace Totals

def ofCompletions (completions : List Completion) : Totals where
  calls := completions.length
  sourceLength := (completions.map fun completion => (completion.characters : Int)).sum
  tokens := (completions.map fun completion => (completion.tokens : Int)).sum
  skipped := (completions.map fun completion => (completion.skipped : Int)).sum

def add (totals : Totals) (completion : Completion) : Totals :=
  totals.record completion.characters completion.tokens completion.skipped

theorem ofCompletions_snoc (completions : List Completion) (completion : Completion) :
    ofCompletions (completions ++ [completion]) = (ofCompletions completions).add completion := by
  simp [ofCompletions, add, record]

theorem ofCompletions_append (first second : List Completion) :
    ofCompletions (first ++ second) = second.foldl add (ofCompletions first) := by
  induction second generalizing first with
  | nil => rw [List.append_nil, List.foldl_nil]
  | cons completion second ih =>
    rw [List.append_cons, ih, ofCompletions_snoc, List.foldl_cons]

end Totals

/-- What is known about completed scans: the profiles, the active one, and the scans themselves. -/
structure Books where
  profiles : List Totals
  active : Option Nat
  completed : List Completion

namespace Books

def enter (books : Books) (completion : Completion) : Books where
  profiles :=
    match books.active with
    | none => books.profiles
    | some place => books.profiles.modify place fun totals => totals.add completion
  active := books.active
  completed := books.completed ++ [completion]

variable (books : Books) (done : List Completion)

theorem active_foldl : (done.foldl enter books).active = books.active := by
  induction done generalizing books with
  | nil => rfl
  | cons completion done ih => exact ih (books.enter completion)

theorem completed_foldl : (done.foldl enter books).completed = books.completed ++ done := by
  induction done generalizing books with
  | nil => exact (List.append_nil _).symm
  | cons completion done ih =>
    rw [List.foldl_cons, ih, enter]
    exact List.append_cons .. |>.symm

theorem length_foldl : (done.foldl enter books).profiles.length = books.profiles.length := by
  induction done generalizing books with
  | nil => rfl
  | cons completion done ih =>
    rw [List.foldl_cons, ih, enter]
    cases books.active <;> simp

theorem profiles_enter (completion : Completion) (place : Nat) :
    (books.enter completion).profiles[place]? =
      if books.active = some place then books.profiles[place]?.map fun totals => totals.add completion
      else books.profiles[place]? := by
  unfold enter
  cases active : books.active with
  | none => rfl
  | some own =>
    by_cases same : own = place
    · simp [same]
    · simp [same]

theorem profiles_foldl (place : Nat) :
    (done.foldl enter books).profiles[place]? =
      if books.active = some place then books.profiles[place]?.map fun totals => done.foldl Totals.add totals
      else books.profiles[place]? := by
  induction done generalizing books with
  | nil => simp
  | cons completion done ih =>
    rw [List.foldl_cons, ih, profiles_enter, show (books.enter completion).active = books.active from rfl]
    by_cases active : books.active = some place
    · simp [active, Function.comp_def]
    · simp [active]

end Books

def Context.books (context : Context) : Books :=
  ⟨context.profiles, context.activeProfile, context.events.reverse.filterMap Event.completion?⟩

theorem Context.books_emit (context : Context) {event : Event} (quiet : event.completion? = none) :
    (context.emit event).books = context.books := by
  simp [books, emit, quiet]

def Scanner.completion (scanner : Scanner) : Completion :=
  ⟨scanner.text.size, scanner.tokens, scanner.skipped.length⟩

theorem Scanner.finish_books (scanner : Scanner) (context : Context) :
    (scanner.finish context).2.books = context.books.enter scanner.completion := by
  have finished : (scanner.finish context).2 =
      (context.record scanner.text.size scanner.tokens scanner.skipped.length).emit
        (.lexed scanner.text.size scanner.tokens scanner.skipped.length) := rfl
  rw [finished]
  unfold Context.record
  cases active : context.activeProfile with
  | none => simp [Context.books, Context.emit, Books.enter, Event.completion?, completion, active]
  | some place =>
    simp [Context.books, Context.emit, Books.enter, Event.completion?, completion, Totals.add, active]

def Stretch.own (stretch : Stretch) : List Completion :=
  match stretch.halt with
  | .exhausted last => [last.completion]
  | _ => []

theorem Stretch.after_books (stretch : Stretch) :
    stretch.after.books = stretch.own.foldl Books.enter stretch.left.books := by
  unfold after own
  cases stretch.halt with
  | exhausted last => exact last.finish_books stretch.left
  | paused stopped => rfl
  | failed failure => rfl

def RuleSet.stretch (set : RuleSet) (config : Config) (text : String) (context : Context) : Stretch :=
  ⟨set.scanner config text, (set.scanner config text).bound + 1, context⟩

theorem Scanner.Delivers.completion {set : RuleSet} {config : Config} {text : String} {tokens : List Token}
    {stopped last : Scanner} {before after : Context}
    (delivers : (set.scanner config text).Delivers tokens stopped)
    (ended : stopped.next.Returns before (none, last) after) :
    last.completion = ⟨text.length, tokens.length, last.skipped.length⟩ := by
  obtain ⟨-, -, sameText, sameTokens⟩ := delivers.kept
  obtain ⟨-, -, lastText, lastTokens, -⟩ := next_returns ended
  simp only [Scanner.completion, lastText, sameText, lastTokens, sameTokens]
  simp [RuleSet.scanner, String.length_toList]

theorem RuleSet.scan_stretch (set : RuleSet) (config : Config) (text : String) (context : Context) :
    (set.scan config text context).2 = (set.stretch config text context).after ∧
      (set.stretch config text context).own = Completion.ofScan text (set.scan config text context).1 := by
  obtain ⟨tokens, ending, after, emits⟩ := (set.scanner config text).exists_emits context
  have halts : (set.stretch config text context).halt = _ :=
    Stretch.halt_of_drain (set.scanner config text) context
  have left : (set.stretch config text context).left = after := by
    change ((set.scanner config text).drain context).2 = after
    rw [emits.drain]
  rw [emits.drain] at halts
  rw [scan_of_emits emits, Stretch.after, Stretch.own, halts, left]
  cases ending with
  | error failure => exact ⟨rfl, rfl⟩
  | ok last =>
    obtain ⟨stopped, middle, pulls, stops⟩ := emits
    simp [Except.map, Completion.ofScan, pulls.delivers.completion stops]

namespace Run

variable {α β : Type}

/-- The computation leaves the profiles alone and completes no scan. -/
def Quiet (run : Run α) : Prop :=
  ∀ context, (run context).2.books = context.books

theorem quiet_pure (value : α) : Quiet (pure value) := fun _ => rfl

theorem quiet_throw (failure : Failure) : Quiet (throw failure : Run α) := fun _ => rfl

theorem quiet_emit {event : Event} (quiet : event.completion? = none) : (emit event).Quiet :=
  fun context => context.books_emit quiet

def follow (first : Run α) (next : Except Failure α → Run β) : Run β :=
  ExceptT.mk fun context => next (first context).1 (first context).2

theorem bind_eq_follow (first : Run α) (next : α → Run β) :
    first >>= next = first.follow fun
      | .ok value => next value
      | .error failure => throw failure := by
  funext context
  rw [run_bind]
  change _ = (match (first context).1 with
    | .ok value => next value
    | .error failure => throw failure) (first context).2
  cases first context with
  | mk outcome after => cases outcome <;> rfl

inductive Completes : {α : Type} → Run α → Context → List Completion → Prop
  | quiet {α : Type} {run : Run α} {context : Context} (quiet : run.Quiet) : Completes run context []
  | follow {α β : Type} {first : Run α} {next : Except Failure α → Run β} {context : Context}
    {one two : List Completion} (before : Completes first context one)
    (after : Completes (next (first context).1) (first context).2 two) :
    Completes (first.follow next) context (one ++ two)
  | scan {set : RuleSet} {config : Config} {text : String} {context : Context} {nested : List Completion}
    (callbacks : Completes (set.scanner config text).drain context nested) :
    Completes (set.scan config text) context
      (nested ++ Completion.ofScan text (set.scan config text context).1)

/-- The computation may do anything but touch the profiles, except that it may scan texts with rules
whose callbacks do likewise. -/
inductive ScansOnly : {α : Type} → Run α → Prop
  | quiet {α : Type} {run : Run α} (quiet : run.Quiet) : ScansOnly run
  | follow {α β : Type} {first : Run α} {next : Except Failure α → Run β} (before : ScansOnly first)
    (after : ∀ context, ScansOnly (next (first context).1)) : ScansOnly (first.follow next)
  | scan {set : RuleSet} {config : Config} {text : String}
    (callbacks : set.Uses fun callback => ∀ captures state, ScansOnly (callback captures state)) :
    ScansOnly (set.scan config text)

theorem closed_of_follow {holds : ∀ {α : Type}, Run α → Prop}
    (quiet : ∀ {α : Type} {run : Run α}, run.Quiet → holds run)
    (follow : ∀ {α β : Type} {first : Run α} {next : Except Failure α → Run β}, holds first →
      (∀ context, holds (next (first context).1)) → holds (first.follow next)) : Closed holds where
  pure value := quiet (quiet_pure value)
  throw failure := quiet (quiet_throw failure)
  warned _ := quiet (quiet_emit rfl)
  handled _ := quiet (quiet_emit rfl)
  bind := by
    intro α β first next before after
    rw [bind_eq_follow]
    refine follow before fun context => ?_
    cases returned : first context with
    | mk outcome later =>
      cases outcome with
      | ok value => exact after value context later returned
      | error failure => exact quiet (quiet_throw failure)

theorem closed_scansOnly : Closed ScansOnly :=
  closed_of_follow .quiet .follow

theorem completes_follow {first : Run α} {next : Except Failure α → Run β}
    (before : ∀ context, ∃ done, first.Completes context done)
    (after : ∀ start context, ∃ done, (next (first start).1).Completes context done) (context : Context) :
    ∃ done, (first.follow next).Completes context done := by
  obtain ⟨one, earlier⟩ := before context
  obtain ⟨two, later⟩ := after context (first context).2
  exact ⟨one ++ two, .follow earlier later⟩

/-- In every context it is settled which scans are completed. -/
theorem ScansOnly.completes {run : Run α} (modest : run.ScansOnly) (context : Context) :
    ∃ done, run.Completes context done := by
  have closed : Closed fun run => ∀ context, ∃ done, run.Completes context done :=
    closed_of_follow (fun quiet _ => ⟨[], .quiet quiet⟩) completes_follow
  induction modest generalizing context with
  | quiet quiet => exact ⟨[], .quiet quiet⟩
  | follow _ _ before after => exact completes_follow before after context
  | @scan set config text _ ih =>
    -- Draining a scanner runs nothing but reports, which are quiet, and callbacks.
    obtain ⟨nested, drains⟩ := @Scanner.takeUpTo_closed _ closed (set.scanner config text) ih
      ((set.scanner config text).bound + 1) context
    exact ⟨_, .scan drains⟩

theorem Completes.books {run : Run α} {context : Context} {done : List Completion}
    (completes : run.Completes context done) :
    (run context).2.books = done.foldl Books.enter context.books := by
  induction completes with
  | quiet quiet => exact quiet _
  | @follow _ _ first next context one two _ _ earlier later =>
    rw [List.foldl_append, ← earlier, ← later]
    rfl
  | @scan set config text context nested _ drained =>
    -- The scans of callbacks have been entered once the scanner is drained; the scan itself comes
    -- last.
    obtain ⟨last, own⟩ := set.scan_stretch config text context
    rw [last, ← own, Stretch.after_books, List.foldl_append, ← drained]
    rfl

end Run

def Callback.ScansOnly (callback : Callback) : Prop :=
  ∀ captures state, (callback captures state).ScansOnly

theorem lineBreak_scansOnly : Callback.ScansOnly lineBreak :=
  fun _ _ => .quiet (Run.quiet_pure _)

theorem Scanner.takeUpTo_scansOnly {scanner : Scanner} (modest : scanner.set.Uses Callback.ScansOnly)
    (count : Nat) : (scanner.takeUpTo count).ScansOnly :=
  takeUpTo_closed Run.closed_scansOnly modest count

theorem RuleSet.compile_quiet (config : Config) (table : Option (List Candidate)) :
    (compile config table).Quiet := by
  intro context
  unfold compile
  cases ofTable config table with
  | error failure => rfl
  | ok set => exact context.books_emit rfl

theorem configOrActive_quiet (config : Option Config) : (configOrActive config).Quiet := by
  cases config with
  | some config => exact Run.quiet_pure config
  | none => exact fun _ => rfl

theorem RuleSet.compiled_scansOnly {table : List Candidate}
    (modest : ∀ candidate ∈ table, candidate.Uses Callback.ScansOnly) {config : Config} {set : RuleSet}
    {before after : Context} (returned : (compile config (some table)).Returns before set after)
    (text : String) : (set.scan config text).ScansOnly := by
  refine .scan (uses_of_ofTable lineBreak_scansOnly ?_ (ofTable_of_compile returned))
  rintro _ ⟨⟩
  exact modest

theorem scanText_scansOnly {table : List Candidate}
    (modest : ∀ candidate ∈ table, candidate.Uses Callback.ScansOnly) (config : Option Config)
    (text : String) : (scanText (some table) config text).ScansOnly := by
  refine Run.closed_scansOnly.bind (.quiet (configOrActive_quiet config)) fun config _ _ _ => ?_
  exact Run.closed_scansOnly.bind (.quiet (RuleSet.compile_quiet config _)) fun set _ _ returned =>
    RuleSet.compiled_scansOnly modest returned text

namespace Action

section Closed

variable {holds : ∀ {α : Type}, Run α → Prop} (closed : Run.Closed holds)

include closed

theorem captureAt_closed (captures : Captures) (index : Int) : holds (captureAt captures index) := by
  unfold captureAt
  split
  · exact closed.pure _
  · exact closed.throw _

theorem textAt_closed (captures : Captures) (index : Int) : holds (textAt captures index) := by
  refine closed.bind (captureAt_closed closed captures index) fun found _ _ _ => ?_
  split
  · exact closed.pure _
  · exact closed.throw _

theorem readInteger_closed (text : List Char) : holds (readInteger text) := by
  unfold readInteger
  split
  · exact closed.pure _
  · exact closed.throw _
  · exact closed.throw _

theorem readDecimal_closed (captures : Captures) : holds (readDecimal captures) := by
  refine closed.bind (textAt_closed closed captures 0) fun whole _ _ _ => ?_
  refine closed.bind (captureAt_closed closed captures 1) fun fraction _ _ _ => ?_
  dsimp only
  split
  · exact closed.pure _
  · exact closed.throw _

theorem callback_closed (called : ∀ rule captures state, holds (Run.emit (.called rule captures state)))
    (cycle : ∀ counter values, holds (nextOf counter values))
    (relex : ∀ captures index, holds (relexed captures index)) (rule : String) (action : Action)
    (captures : Captures) (state : ScanState) : holds (action.callback rule captures state) := by
  have carry : ∀ {α : Type} {first : Run α} (result : α → Value × ScanState), holds first →
      holds (first >>= fun value => pure (result value)) := fun _ first =>
    closed.bind first fun _ _ _ _ => closed.pure _
  have runs : holds (action.run captures state) := by
    cases action with
    | capture index => exact carry _ (captureAt_closed closed captures index)
    | integer index =>
      exact closed.bind (textAt_closed closed captures index) fun text _ _ _ =>
        carry _ (readInteger_closed closed text.toList)
    | decimal => exact carry _ (readDecimal_closed closed captures)
    | relex index => exact carry _ (relex captures index)
    | cycle counter values => exact carry _ (cycle counter values)
    | fail message => exact closed.throw _
    | _ => exact closed.pure _
  unfold callback
  split
  · exact runs
  · exact closed.bind (called rule captures state) fun _ _ _ _ => runs

end Closed

theorem relexed_scansOnly (captures : Captures) (index : Int) : (relexed captures index).ScansOnly := by
  refine Run.closed_scansOnly.bind (captureAt_closed Run.closed_scansOnly captures index)
    fun found _ _ _ => ?_
  refine Run.closed_scansOnly.bind (.quiet (configOrActive_quiet none)) fun config _ _ _ => ?_
  refine Run.closed_scansOnly.bind (.quiet (RuleSet.compile_quiet config _)) fun set _ _ returned => ?_
  split
  · exact .quiet (Run.quiet_throw _)
  · exact Run.closed_scansOnly.bind (RuleSet.compiled_scansOnly defaultTable_uses returned _)
      fun _ _ _ _ => .quiet (Run.quiet_pure _)

theorem callback_scansOnly (rule : String) (action : Action) : (action.callback rule).ScansOnly :=
  callback_closed Run.closed_scansOnly (fun _ _ _ => .quiet (Run.quiet_emit rfl))
    (fun _ _ => .quiet fun _ => rfl) relexed_scansOnly rule action

end Action

end RuleLexer
