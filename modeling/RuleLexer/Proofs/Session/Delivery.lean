import Mathlib.Data.List.Induction
import RuleLexer.Proofs.Session.Callbacks
import RuleLexer.Proofs.Session.Lifecycle

namespace RuleLexer

/-- The rules that the lexer at a place has right after the first call upon a generator. -/
def published (name : String) (place : Nat) (history : List Moment) : Option RuleSet :=
  (history.find? (Moment.calls name)).bind fun moment =>
    (moment.after.lexers[place]?.bind Lexer.compiled).map Compiled.set

def deliveries (name : String) (history : List Moment) : List Token :=
  history.flatMap (Moment.delivered name)

def fateIn (name : String) (history : List Moment) : Option Fate :=
  history.findSome? (Moment.fate? name)

/-- What has become of a generator in the course of the history since it was made. -/
inductive Tracked (name : String) (place : Nat) (config : Config) (text : String)
    (history : List Moment) : Generator → Prop
  | fresh (uncalled : ∀ moment ∈ history, ¬ moment.Calls name)
    (nothing : deliveries name history = []) (unmet : fateIn name history = none) :
    Tracked name place config text history (.fresh place text)
  | running {set : RuleSet} {scanner : Scanner} (rules : published name place history = some set)
    (delivers : (set.scanner config text).Delivers (deliveries name history) scanner)
    (unmet : fateIn name history = none) :
    Tracked name place config text history (.running scanner)
  | idle {fate : Fate} (met : fateIn name history = some fate) (different : fate ≠ .exhausted)
    (nothing : deliveries name history = []) : Tracked name place config text history .finished
  | ceased {set : RuleSet} {stopped : Scanner} {fate : Fate} (met : fateIn name history = some fate)
    (rules : published name place history = some set)
    (delivers : (set.scanner config text).Delivers (deliveries name history) stopped)
    (ended : fate = .exhausted → ∃ before last after, stopped.next.Returns before (none, last) after) :
    Tracked name place config text history .finished

def RuleSet.Eager (set : RuleSet) (config : Config) (text : String) (tokens : List Token)
    (ending : Except Failure Scanner) : Prop :=
  ∀ context, (∃ after, (set.scanner config text).Emits context tokens ending after) ∧
    (set.scan config text context).1 = ending.map fun last => ⟨tokens, last.skipped.reverse⟩

/-- These tokens are the first that an uninterrupted scan emits, and all of them once it has ended. -/
def RuleSet.Foretells (set : RuleSet) (config : Config) (text : String) (delivered : List Token)
    (fate : Option Fate) : Prop :=
  ∃ tokens ending, set.Eager config text tokens ending ∧ delivered <+: tokens ∧
    (fate = some .exhausted → (∃ last, ending = .ok last) ∧ delivered = tokens)

/-- The tokens of a generator in the course of the history since it was made. -/
structure Delivery (name : String) (place : Nat) (config : Config) (text : String)
    (history : List Moment) : Prop where
  unpublished : published name place history = none → deliveries name history = []
  foretold : ∀ set, published name place history = some set →
    set.Foretells config text (deliveries name history) (fateIn name history)
  ceased : ∀ past future, history = past ++ future → fateIn name past ≠ none →
    deliveries name future = []
  answered : ∀ moment ∈ history, ∀ answers,
    (∃ count, moment.step = .next name count) ∨ moment.step = .drain name →
      moment.outcome = .ok (.tokens answers) → moment.delivered name = answers.filterMap id

namespace Session

variable {name text : String} {place : Nat} {config : Config} {history : List Moment} {session : Session}
  {lexer : Lexer} {generator : Generator}

theorem lexer_after {steps : List SessionStep} (there : session.lexers[place]? = some lexer) :
    ∃ later, (session.after steps).lexers[place]? = some later ∧ later.config = lexer.config := by
  induction steps generalizing session lexer with
  | nil => exact ⟨lexer, there, rfl⟩
  | cons step steps ih =>
    rcases lexer_moment there step with ⟨set, -, -, changed⟩ | ⟨-, kept⟩
    · exact @ih _ { lexer with compiled := some ⟨session.serial, set⟩ } changed
    · exact ih kept

theorem lexers_of_calls {step : SessionStep} (calls : (session.moment step).Calls name) :
    (session.moment step).after.lexers = (startScan name session.unobserved).2.lexers := by
  rw [moment_lexers, startScan_lexers]
  rcases calls with ⟨count, stepped⟩ | stepped
  · obtain rfl : step = .next name (count + 1) := stepped
    rfl
  · obtain rfl : step = .drain name := stepped
    rfl

theorem deliveries_snoc (name : String) (history : List Moment) (moment : Moment) :
    deliveries name (history ++ [moment]) = deliveries name history ++ moment.delivered name := by
  simp [deliveries]

theorem fateIn_snoc (name : String) (history : List Moment) (moment : Moment) :
    fateIn name (history ++ [moment]) = (fateIn name history).or (moment.fate? name) := by
  simp [fateIn, List.findSome?_append]

theorem published_snoc_of_some {set : RuleSet} {moment : Moment}
    (rules : published name place history = some set) :
    published name place (history ++ [moment]) = some set := by
  unfold published at rules ⊢
  obtain ⟨first, found, compiled⟩ := Option.bind_eq_some_iff.mp rules
  rw [List.find?_append, found]
  exact compiled

theorem published_first {moment : Moment} (uncalled : ∀ moment ∈ history, ¬ moment.Calls name)
    (calls : moment.Calls name) :
    published name place (history ++ [moment]) =
      (moment.after.lexers[place]?.bind Lexer.compiled).map Compiled.set := by
  have none : history.find? (Moment.calls name) = none :=
    List.find?_eq_none.mpr fun other member called => uncalled other member (Moment.calls_iff.mp called)
  simp [published, List.find?_append, none, Moment.calls_iff.mpr calls]

theorem tracked_reaches {moment : Moment} {set : RuleSet} {scanner : Scanner} {context after : Context}
    {halt : Halt} (rules : published name place (history ++ [moment]) = some set)
    (delivers : (set.scanner config text).Delivers (deliveries name history) scanner)
    (unmet : fateIn name history = none)
    (reaches : scanner.Reaches context (moment.delivered name) halt after)
    (met : moment.fate? name = halt.fate?) :
    Tracked name place config text (history ++ [moment]) halt.generator := by
  have fate : fateIn name (history ++ [moment]) = halt.fate? := by
    rw [fateIn_snoc, unmet, Option.none_or, met]
  cases reaches with
  | paused pulls =>
    refine .running rules ?_ fate
    rw [deliveries_snoc]
    exact delivers.append pulls.delivers
  | exhausted emits =>
    obtain ⟨stopped, middle, pulls, stops⟩ := emits
    refine .ceased fate rules ?_ fun _ => ⟨middle, _, _, stops⟩
    rw [deliveries_snoc]
    exact delivers.append pulls.delivers
  | failed emits =>
    obtain ⟨stopped, middle, pulls, -⟩ := emits
    have more : (set.scanner config text).Delivers (deliveries name (history ++ [moment])) stopped := by
      rw [deliveries_snoc]
      exact delivers.append pulls.delivers
    exact .ceased fate rules more nofun

theorem tracked_finished {moment : Moment} (tracked : Tracked name place config text history .finished)
    (nothing : moment.delivered name = []) :
    Tracked name place config text (history ++ [moment]) .finished := by
  have same : deliveries name (history ++ [moment]) = deliveries name history := by
    rw [deliveries_snoc, nothing, List.append_nil]
  cases tracked with
  | idle met different none =>
    refine .idle ?_ different (same.trans none)
    rw [fateIn_snoc, met, Option.some_or]
  | ceased met rules delivers ended =>
    refine .ceased ?_ (published_snoc_of_some rules) (same ▸ delivers) ended
    rw [fateIn_snoc, met, Option.some_or]

theorem tracked_apart {moment : Moment} (tracked : Tracked name place config text history generator)
    (quiet : ¬ moment.Calls name) (nothing : moment.delivered name = [])
    (spared : moment.fate? name = none) :
    Tracked name place config text (history ++ [moment]) generator := by
  have same : deliveries name (history ++ [moment]) = deliveries name history := by
    rw [deliveries_snoc, nothing, List.append_nil]
  have fate : fateIn name (history ++ [moment]) = fateIn name history := by
    rw [fateIn_snoc, spared, Option.or_none]
  cases tracked with
  | fresh uncalled none unmet =>
    refine .fresh ?_ (same.trans none) (fate.trans unmet)
    intro other member
    rcases List.mem_append.mp member with member | last
    · exact uncalled other member
    · exact List.mem_singleton.mp last ▸ quiet
  | running rules delivers unmet =>
    exact .running (published_snoc_of_some rules) (same ▸ delivers) (fate.trans unmet)
  | idle met different none => exact .idle (fate.trans met) different (same.trans none)
  | ceased met rules delivers ended =>
    exact .ceased (fate.trans met) (published_snoc_of_some rules) (same ▸ delivers) ended

theorem tracked_closed {moment : Moment} (tracked : Tracked name place config text history generator)
    (nothing : moment.delivered name = []) (closed : moment.fate? name = some .closed) :
    Tracked name place config text (history ++ [moment]) .finished := by
  have same : deliveries name (history ++ [moment]) = deliveries name history := by
    rw [deliveries_snoc, nothing, List.append_nil]
  have fate : fateIn name history = none → fateIn name (history ++ [moment]) = some .closed := by
    intro unmet
    rw [fateIn_snoc, unmet, closed, Option.none_or]
  cases tracked with
  | fresh uncalled none unmet => exact .idle (fate unmet) nofun (same.trans none)
  | running rules delivers unmet =>
    exact .ceased (fate unmet) (published_snoc_of_some rules) (same ▸ delivers) nofun
  | idle met different none => exact tracked_finished (.idle met different none) nothing
  | ceased met rules delivers ended => exact tracked_finished (.ceased met rules delivers ended) nothing

theorem tracked_started {step : SessionStep} {scanner : Scanner} {middle : Session}
    (tracked : Tracked name place lexer.config text history generator)
    (known : session.generators.lookup name = some generator)
    (there : session.lexers[place]? = some lexer) (calls : (session.moment step).Calls name)
    (started : startScan name session.unobserved = (.ok (some scanner), middle)) :
    fateIn name history = none ∧ ∃ set,
      published name place (history ++ [session.moment step]) = some set ∧
        (set.scanner lexer.config text).Delivers (deliveries name history) scanner := by
  -- A scan starts with the rules that are published now, or goes on with those it has.
  cases tracked with
  | fresh uncalled nothing unmet =>
    have lexers := lexers_of_calls calls
    rw [started] at lexers
    rw [@startScan_of_fresh session.unobserved name place text lexer known there] at started
    cases ready : rulesFor place (session.unobserved.putGenerator name .finished) with
    | mk outcome later =>
      rw [ready] at started
      cases outcome with
      | error failure => cases started
      | ok set =>
        cases started
        obtain ⟨serial, has⟩ := lexer_of_rulesFor (by exact there) ready
        refine ⟨unmet, set, ?_, ?_⟩
        · rw [published_first uncalled calls, lexers, show later.lexers[place]? = _ from has]
          rfl
        · rw [nothing]
          exact .nil
  | running rules delivers unmet =>
    rw [startScan_of_running (by exact known)] at started
    cases started
    exact ⟨unmet, _, published_snoc_of_some rules, delivers⟩
  | idle =>
    rw [startScan_of_finished (by exact known)] at started
    cases started
  | ceased =>
    rw [startScan_of_finished (by exact known)] at started
    cases started

theorem tracked_called {step : SessionStep} {scanner : Scanner} {middle : Session}
    (tracked : Tracked name place lexer.config text history generator)
    (known : session.generators.lookup name = some generator)
    (there : session.lexers[place]? = some lexer) (calls : (session.moment step).Calls name)
    (started : startScan name session.unobserved = (.ok (some scanner), middle)) :
    ∃ next, (session.moment step).after.generators.lookup name = some next ∧
      Tracked name place lexer.config text (history ++ [session.moment step]) next := by
  obtain ⟨unmet, set, rules, delivers⟩ := tracked_started tracked known there calls started
  obtain ⟨stretch, taken, rfl⟩ := taken_of_started calls started
  have takes := moment_takes calls taken
  have reaches := stretch.reaches
  rw [← takes.delivered] at reaches
  exact ⟨_, takes.lookup, tracked_reaches rules delivers unmet reaches takes.fate⟩

theorem tracked_first {step : SessionStep} (uncalled : ∀ moment ∈ history, ¬ moment.Calls name)
    (nothing : deliveries name history = []) (unmet : fateIn name history = none)
    (fresh : session.generators.lookup name = some (.fresh place text))
    (there : session.lexers[place]? = some lexer) (calls : (session.moment step).Calls name) :
    ∃ next, (session.moment step).after.generators.lookup name = some next ∧
      Tracked name place lexer.config text (history ++ [session.moment step]) next := by
  have started := @startScan_of_fresh session.unobserved name place text lexer fresh there
  have ceased := lookup_startScan session.unobserved name
  rw [show session.unobserved.generators.lookup name = _ from fresh, started] at ceased
  cases ready : rulesFor place (session.unobserved.putGenerator name .finished) with
  | mk outcome middle =>
    rw [ready] at started ceased
    cases outcome with
    | ok set => exact tracked_called (.fresh uncalled nothing unmet) fresh there calls started
    | error failure =>
      obtain ⟨none, lookup, -, failed, -⟩ := moment_idle calls started nofun
      have fate : fateIn name (history ++ [session.moment step]) = some .failed := by
        rw [fateIn_snoc, unmet, Option.none_or]
        exact failed failure rfl
      have empty : deliveries name (history ++ [session.moment step]) = [] := by
        rw [deliveries_snoc, nothing, none, List.append_nil]
      exact ⟨.finished, lookup.trans ceased, .idle fate nofun empty⟩

theorem tracked_moment {step : SessionStep}
    (tracked : Tracked name place lexer.config text history generator)
    (known : session.generators.lookup name = some generator)
    (there : session.lexers[place]? = some lexer) (alive : ¬ (session.moment step).Renews name) :
    ∃ next, (session.moment step).after.generators.lookup name = some next ∧
      Tracked name place lexer.config text (history ++ [session.moment step]) next := by
  by_cases calls : (session.moment step).Calls name
  · cases tracked with
    | fresh uncalled nothing unmet => exact tracked_first uncalled nothing unmet known there calls
    | running rules delivers unmet =>
      have started := @startScan_of_running session.unobserved name _ known
      exact tracked_called (.running rules delivers unmet) known there calls started
    | idle met different none =>
      obtain ⟨nothing, lookup⟩ := moment_finished alive known
      exact ⟨.finished, lookup, tracked_finished (.idle met different none) nothing⟩
    | ceased met rules delivers ended =>
      obtain ⟨nothing, lookup⟩ := moment_finished alive known
      exact ⟨.finished, lookup, tracked_finished (.ceased met rules delivers ended) nothing⟩
  · by_cases closes : step = .close name
    · subst closes
      obtain ⟨nothing, closed, lookup⟩ := moment_close known
      exact ⟨.finished, lookup, tracked_closed tracked nothing closed⟩
    · obtain ⟨nothing, unmet, lookup⟩ := moment_apart alive calls closes
      exact ⟨generator, lookup.trans known, tracked_apart tracked calls nothing unmet⟩

/-- A generator is tracked from its making on, as long as its name is not used for another one. -/
theorem tracked_after {steps : List SessionStep}
    (fresh : session.generators.lookup name = some (.fresh place text))
    (there : session.lexers[place]? = some lexer)
    (alive : ∀ moment ∈ session.history steps, ¬ moment.Renews name) :
    ∃ generator, (session.after steps).generators.lookup name = some generator ∧
      Tracked name place lexer.config text (session.history steps) generator := by
  induction steps using List.reverseRecOn with
  | nil => exact ⟨_, fresh, .fresh (fun _ none => absurd none List.not_mem_nil) rfl rfl⟩
  | append_singleton steps step ih =>
    rw [history_append] at alive ⊢
    rw [after_append]
    obtain ⟨generator, known, tracked⟩ := ih fun moment member => alive moment (List.mem_append_left _ member)
    obtain ⟨later, standing, same⟩ := @lexer_after _ _ _ steps there
    rw [← same] at tracked ⊢
    exact tracked_moment tracked known standing
      (alive _ (List.mem_append_right _ List.mem_cons_self))

theorem deliveries_of_finished {steps : List SessionStep}
    (ceased : session.generators.lookup name = some .finished)
    (alive : ∀ moment ∈ session.history steps, ¬ moment.Renews name) :
    deliveries name (session.history steps) = [] := by
  induction steps generalizing session with
  | nil => rfl
  | cons step steps ih =>
    obtain ⟨nothing, lookup⟩ := moment_finished (alive _ List.mem_cons_self) ceased
    have later := ih lookup fun moment member => alive moment (List.mem_cons_of_mem _ member)
    rw [history, deliveries, List.flatMap_cons, nothing]
    exact later

theorem uses_published {good : Callback → Prop} (lineBreak : good lineBreak) (uses : session.Uses good)
    {steps : List SessionStep} (brings : ∀ step ∈ steps, step.Uses good) {set : RuleSet}
    (rules : published name place (session.history steps) = some set) : set.Uses good := by
  obtain ⟨moment, found, compiled⟩ := Option.bind_eq_some_iff.mp rules
  obtain ⟨past, future, split, same⟩ := mem_history (List.mem_of_find?_eq_some found)
  have before : (session.after past).Uses good := uses.after lineBreak fun step member =>
    brings step (split ▸ List.mem_append_left _ member)
  have after : moment.after.Uses good := by
    rw [same]
    exact before.moment lineBreak
      (brings _ (split ▸ List.mem_append_right _ List.mem_cons_self))
  obtain ⟨result, has, rfl⟩ := Option.map_eq_some_iff.mp compiled
  obtain ⟨lexer, there, own⟩ := Option.bind_eq_some_iff.mp has
  exact (after.lexers lexer (List.mem_of_getElem? there)).compiled result own

end Session

theorem RuleSet.eager_of_delivers {set : RuleSet} (steady : set.Uses Callback.Steady) {config : Config}
    {text : String} {first second : List Token} {stopped : Scanner} {ending : Except Failure Scanner}
    {before after : Context} (delivers : (set.scanner config text).Delivers first stopped)
    (emits : stopped.Emits before second ending after) :
    set.Eager config text (first ++ second) ending := by
  intro context
  obtain ⟨later, whole⟩ := Scanner.Delivers.emits (by exact steady) delivers emits context
  refine ⟨⟨later, whole⟩, ?_⟩
  rw [scan_of_emits whole]
  cases ending <;> rfl

theorem RuleSet.foretells_of_delivers {set : RuleSet} (steady : set.Uses Callback.Steady)
    {config : Config} {text : String} {delivered : List Token} {stopped : Scanner} {fate : Option Fate}
    (delivers : (set.scanner config text).Delivers delivered stopped) (unmet : fate ≠ some .exhausted) :
    set.Foretells config text delivered fate := by
  obtain ⟨more, ending, after, emits⟩ := stopped.exists_emits {}
  exact ⟨delivered ++ more, ending, eager_of_delivers steady delivers emits, List.prefix_append _ _,
    fun met => absurd met unmet⟩

/-- A generator that is tracked delivers what an uninterrupted scan emits. -/
theorem Tracked.foretold {name text : String} {place : Nat} {config : Config} {history : List Moment}
    {generator : Generator} (tracked : Tracked name place config text history generator) {set : RuleSet}
    (steady : set.Uses Callback.Steady) (rules : published name place history = some set) :
    set.Foretells config text (deliveries name history) (fateIn name history) := by
  cases tracked with
  | fresh uncalled nothing unmet =>
    rw [nothing, unmet]
    exact RuleSet.foretells_of_delivers steady .nil nofun
  | running same delivers unmet =>
    cases rules.symm.trans same
    rw [unmet]
    exact RuleSet.foretells_of_delivers steady delivers nofun
  | @idle fate met different nothing =>
    rw [nothing, met]
    exact RuleSet.foretells_of_delivers steady .nil fun same => different (Option.some.inj same)
  | @ceased _ stopped fate met same delivers ended =>
    cases rules.symm.trans same
    rw [met]
    by_cases whole : fate = .exhausted
    · obtain ⟨before, last, after, stops⟩ := ended whole
      have emits : stopped.Emits before [] (.ok last) after := ⟨stopped, before, .nil, stops⟩
      have eager := RuleSet.eager_of_delivers steady delivers emits
      rw [List.append_nil] at eager
      exact ⟨_, .ok last, eager, List.prefix_refl _, fun _ => ⟨⟨last, rfl⟩, rfl⟩⟩
    · exact RuleSet.foretells_of_delivers steady delivers fun same => whole (Option.some.inj same)

theorem Tracked.unpublished {name text : String} {place : Nat} {config : Config} {history : List Moment}
    {generator : Generator} (tracked : Tracked name place config text history generator)
    (none : published name place history = none) : deliveries name history = [] := by
  cases tracked with
  | fresh uncalled nothing unmet => exact nothing
  | running same delivers unmet => cases none.symm.trans same
  | idle met different nothing => exact nothing
  | ceased met same delivers ended => cases none.symm.trans same

theorem Tracked.finished {name text : String} {place : Nat} {config : Config} {history : List Moment}
    {generator : Generator} (tracked : Tracked name place config text history generator)
    (fate : fateIn name history ≠ none) : generator = .finished := by
  cases tracked with
  | fresh uncalled nothing unmet => exact absurd unmet fate
  | running same delivers unmet => exact absurd unmet fate
  | idle met different nothing => rfl
  | ceased met same delivers ended => rfl

theorem Session.made_by_tokenize {earlier : List SessionStep} {lexerName : String} {place : Nat}
    {lexer : Lexer} (found : (Session.after {} earlier).named? lexerName = some (place, lexer))
    (name text : String) :
    (Session.after {} (earlier ++ [.tokenize lexerName name text])).generators.lookup name =
        some (.fresh place text) ∧
      (Session.after {} (earlier ++ [.tokenize lexerName name text])).lexers[place]? = some lexer := by
  have born : Session.after {} (earlier ++ [.tokenize lexerName name text]) =
      (Session.after {} earlier).unobserved.putGenerator name (.fresh place text) := by
    rw [after_append]
    exact after_tokenize found
  rw [born]
  exact ⟨(lookup_putGenerator ..).trans (if_pos rfl), lexer_of_named? found⟩

/-- A generator delivers what an uninterrupted scan of its text emits with the rules that its lexer
had right after the first call, whatever steps come between. -/
theorem Session.generator_agrees_with_scan (earlier later : List SessionStep)
    {lexerName name text : String} {place : Nat} {lexer : Lexer}
    (steady : ∀ step ∈ earlier ++ later, step.Uses Callback.Steady)
    (found : (Session.after {} earlier).named? lexerName = some (place, lexer))
    (alive : ∀ moment ∈ (Session.after {} (earlier ++ [.tokenize lexerName name text])).history later,
      ¬ moment.Renews name) :
    Delivery name place lexer.config text
      ((Session.after {} (earlier ++ [.tokenize lexerName name text])).history later) := by
  obtain ⟨fresh, standing⟩ := made_by_tokenize found name text
  have uses : (Session.after {} (earlier ++ [.tokenize lexerName name text])).Uses Callback.Steady := by
    refine Uses.empty.after lineBreak_steady fun step member => ?_
    rcases List.mem_append.mp member with member | last
    · exact steady step (List.mem_append_left _ member)
    · cases List.mem_singleton.mp last
      exact fun _ none => absurd none List.not_mem_nil
  generalize Session.after {} (earlier ++ [.tokenize lexerName name text]) = session
    at fresh standing uses alive ⊢
  obtain ⟨generator, -, tracked⟩ := tracked_after fresh standing alive
  constructor
  · exact tracked.unpublished
  · intro set rules
    exact tracked.foretold (uses_published lineBreak_steady uses
      (fun step member => steady step (List.mem_append_right _ member)) rules) rules
  · intro past future split fate
    obtain ⟨first, second, rfl, rfl, rfl⟩ := history_split split
    rw [split] at alive
    obtain ⟨left, known, followed⟩ := tracked_after fresh standing fun moment member =>
      alive moment (List.mem_append_left _ member)
    cases followed.finished fate
    exact deliveries_of_finished known fun moment member =>
      alive moment (List.mem_append_right _ member)
  · intro moment member answers addressed answered
    obtain ⟨past, future, -, same⟩ := mem_history member
    rw [same] at answered ⊢
    exact delivered_of_answers addressed answered

theorem RuleSet.scan_steady {set : RuleSet} (steady : set.Uses Callback.Steady) (config : Config)
    (text : String) : (set.scan config text).Steady := by
  intro one other
  obtain ⟨tokens, ending, after, emits⟩ := (set.scanner config text).exists_emits {}
  have eager := eager_of_delivers steady .nil emits
  rw [(eager one).2, (eager other).2]

theorem scanText_steady {table : List Candidate}
    (steady : ∀ candidate ∈ table, candidate.Uses Callback.Steady) (config : Config) (text : String) :
    (scanText (some table) (some config) text).Steady := by
  have compiled : (RuleSet.compile config (some table)).Steady :=
    (Run.steady_ofExcept _).bind fun _ _ _ _ =>
      (Run.steady_emit _).bind fun _ _ _ _ => Run.steady_pure _
  refine (Run.steady_pure config).bind fun given _ _ same => ?_
  obtain ⟨rfl, -⟩ := Run.returns_pure.mp same
  refine compiled.bind fun set before after returned => ?_
  refine RuleSet.scan_steady (RuleSet.uses_of_ofTable lineBreak_steady ?_
    (RuleSet.ofTable_of_compile returned)) given text
  rintro _ ⟨⟩
  exact steady

def countingCallback : Callback := fun _ state => do
  let result ← scanText (some defaultTable) (some {}) "x y"
  return (.int result.tokens.length, state)

theorem countingCallback_steady : Callback.Steady countingCallback := by
  intro captures state
  exact Run.Steady.bind (scanText_steady defaultTable_uses {} "x y") fun _ _ _ _ => Run.steady_pure _

def countingRule : Candidate :=
  .rule (.text "A") (.value (.text "a")) (.callback countingCallback) (.bool false)

/-- The rule is taken away, and an attempt to compile what is left fails, between two calls. -/
theorem Session.generator_agrees_when_interrupted :
    Delivery "g" 0 {} "a a"
      ((Session.after {} ([.table "T" [countingRule], .newShared "L" "T" none] ++
        [.tokenize "L" "g" "a a"])).history
        [.next "g" 1, .pop "T" none, .compile "L", .drain "g"]) := by
  have found : (Session.after {} [.table "T" [countingRule], .newShared "L" "T" none]).named? "L" =
      some (0, ⟨.shared 0, {}, none⟩) := rfl
  refine generator_agrees_with_scan [.table "T" [countingRule], .newShared "L" "T" none]
    [.next "g" 1, .pop "T" none, .compile "L", .drain "g"] ?_ found ?_
  · intro step member candidate listed
    simp only [List.cons_append, List.nil_append, List.mem_cons, List.not_mem_nil, or_false] at member
    rcases member with rfl | rfl | rfl | rfl | rfl | rfl
    · cases List.mem_singleton.mp listed
      exact countingCallback_steady
    all_goals cases listed
  · rintro moment member ⟨⟨lexer, text, stepped⟩, -⟩
    obtain ⟨past, future, split, -⟩ := mem_history member
    have listed : moment.step ∈ past ++ moment.step :: future :=
      List.mem_append_right _ List.mem_cons_self
    rw [← split, stepped] at listed
    simp at listed

end RuleLexer
