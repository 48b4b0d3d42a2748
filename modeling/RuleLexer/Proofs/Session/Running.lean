import RuleLexer.Session.Step

namespace RuleLexer

namespace SessionM

variable {α β : Type}

theorem run_bind (first : SessionM α) (next : α → SessionM β) (session : Session) :
    (first >>= next) session =
      match first session with
      | (.ok value, after) => next value after
      | (.error failure, after) => (.error failure, after) := by
  change ExceptT.bindCont next (first session).1 (first session).2 = _
  obtain ⟨outcome, after⟩ := first session
  cases outcome <;> rfl

theorem run_find (entries : List (String × α)) (name : String) (session : Session) :
    find entries name session =
      match entries.lookup name with
      | some value => (.ok value, session)
      | none => (.error (.unknownName name), session) := by
  unfold find
  cases entries.lookup name <;> rfl

theorem run_lift (run : Run α) (session : Session) :
    lift run session = ((run session.context).1, { session with context := (run session.context).2 }) :=
  rfl

theorem run_bind_pure (first : SessionM α) (value : α → β) (session : Session) :
    (first >>= fun result => pure (value result)) session =
      ((first session).1.map value, (first session).2) := by
  rw [run_bind]
  cases first session with
  | mk outcome after => cases outcome <;> rfl

theorem snd_bind_pure (first : SessionM α) (value : α → β) (session : Session) :
    ((first >>= fun result => pure (value result)) session).2 = (first session).2 :=
  congrArg Prod.snd (run_bind_pure first value session)

/-- The computation leaves this part of the session as it is, whether or not it fails. -/
def Keeps {γ : Type} (part : Session → γ) (run : SessionM α) : Prop :=
  ∀ session, part (run session).2 = part session

section Keeps

variable {γ : Type} {part : Session → γ}

theorem keeps_pure (value : α) : Keeps part (pure value) := fun _ => rfl

theorem keeps_throw (failure : Failure) : Keeps part (throw failure : SessionM α) := fun _ => rfl

theorem keeps_get : Keeps part (get : SessionM Session) := fun _ => rfl

theorem keeps_modify {change : Session → Session} (same : ∀ session, part (change session) = part session) :
    Keeps part (modify change : SessionM Unit) := same

theorem Keeps.bind {first : SessionM α} {next : α → SessionM β} (one : Keeps part first)
    (two : ∀ value, Keeps part (next value)) : Keeps part (first >>= next) := by
  intro session
  have before := one session
  rw [run_bind]
  split
  · next after ended =>
    rw [ended] at before
    rw [two, before]
  · next after ended =>
    rw [ended] at before
    exact before

theorem Keeps.last {next : α → SessionM β} (keeps : ∀ value, Keeps part (next value))
    (first : SessionM α) (session : Session) :
    part ((first >>= next) session).2 = part (first session).2 := by
  rw [run_bind]
  split
  · next after ended => rw [ended, keeps]
  · next after ended => rw [ended]

theorem keeps_find (entries : List (String × α)) (name : String) :
    Keeps part (find entries name) := by
  intro session
  rw [run_find]
  split <;> rfl

theorem keeps_lift (free : ∀ session context, part { session with context := context } = part session)
    (run : Run α) : Keeps part (lift run) := fun session => free session _

end Keeps

end SessionM

open SessionM

theorem lookup_bindName {α : Type} (entries : List (String × α)) (name other : String) (value : α) :
    (bindName entries name value).lookup other =
      if other = name then some value else entries.lookup other := by
  unfold bindName
  by_cases same : other = name
  · rw [if_pos same, same, List.lookup_cons_self]
  · rw [if_neg same, List.lookup_cons, beq_false_of_ne same]
    induction entries with
    | nil => rfl
    | cons entry entries ih =>
      by_cases forgotten : entry.1 = name
      · have different : (other == entry.1) = false := by
          rw [forgotten]
          exact beq_false_of_ne same
        rw [List.filter_cons_of_neg (by simp [forgotten]), List.lookup_cons, different]
        exact ih
      · rw [List.filter_cons_of_pos (by simp [forgotten]), List.lookup_cons, List.lookup_cons]
        cases other == entry.1 with
        | true => rfl
        | false => exact ih

def SessionStep.table? : SessionStep → Option String
  | .table name _ | .append name _ | .insert name _ _ | .pop name _ => some name
  | _ => none

def SessionStep.usesLexers : SessionStep → Prop
  | .newShared .. | .newOwn .. | .compile _ | .compiled _ | .scan .. | .lex .. | .next .. | .drain _ => True
  | _ => False

def SessionStep.generator? : SessionStep → Option String
  | .tokenize _ name _ | .next name _ | .drain name | .close name => some name
  | _ => none

def SessionStep.switchesProfile : SessionStep → Prop
  | .enterProfile _ | .exitProfile _ => True
  | _ => False

def SessionStep.recordsByHand : SessionStep → Prop
  | .record .. => True
  | _ => False

def SessionStep.usesContext : SessionStep → Prop
  | .scan .. | .lex .. | .next .. | .drain _ | .enterProfile _ | .exitProfile _ | .record .. => True
  | _ => False

namespace Session

def unobserved (session : Session) : Session :=
  { session with context := { session.context with events := [] } }

def putGenerator (session : Session) (name : String) (generator : Generator) : Session :=
  { session with generators := bindName session.generators name generator }

section Frames

variable {γ : Type} {part : Session → γ}

theorem keeps_lexerAt (place : Nat) : Keeps part (lexerAt place) := by
  refine keeps_get.bind fun session => ?_
  split
  · exact keeps_pure _
  · exact keeps_throw _

theorem keeps_lexerNamed (name : String) : Keeps part (lexerNamed name) :=
  keeps_get.bind fun _ => (keeps_find _ name).bind fun place =>
    (keeps_lexerAt place).bind fun _ => keeps_pure _

theorem keeps_changeTable {name : String} {change : List Candidate → SessionM (List Candidate)}
    (free : ∀ session tables, part { session with tables := tables } = part session)
    (changes : ∀ rules, Keeps part (change rules)) : Keeps part (changeTable name change) :=
  keeps_get.bind fun _ => (keeps_find _ name).bind fun _ => keeps_get.bind fun _ =>
    (changes _).bind fun _ => (keeps_modify fun _ => free _ _).bind fun _ => keeps_pure _

theorem keeps_showProfile (id : String) : Keeps part (showProfile id) :=
  keeps_get.bind fun _ => (keeps_find _ id).bind fun _ => keeps_get.bind fun _ => keeps_pure _

theorem keeps_activeConfig : Keeps part activeConfig :=
  keeps_get.bind fun _ => keeps_pure _

structure Plain (part : Session → γ) : Prop where
  sundry : ∀ one other : Session, one.context = other.context → one.tables = other.tables →
    one.lexers = other.lexers → one.generators = other.generators → one.profiles = other.profiles →
      part one = part other
  reports : ∀ session rules groups,
    part { session with context := session.context.emit (.compiled rules groups) } = part session
  configures : ∀ session config,
    part { session with context := { session.context with config := config } } = part session

section Plain

variable (plain : Plain part)

include plain

theorem Plain.objectNumber (serial : Nat) : Keeps part (objectNumber serial) := by
  refine keeps_get.bind fun session => ?_
  dsimp only
  split
  · exact keeps_pure _
  · exact (keeps_modify fun _ => by exact plain.sundry _ _ rfl rfl rfl rfl rfl).bind fun _ => keeps_pure _

theorem Plain.setConfig (config : Config) : Keeps part (setConfig config) :=
  keeps_modify fun _ => plain.configures _ _

theorem Plain.lift_compile (config : Config) (table : Option (List Candidate)) :
    Keeps part (lift (RuleSet.compile config table)) := by
  intro session
  rw [run_lift]
  unfold RuleSet.compile
  cases RuleSet.ofTable config table with
  | error failure => rfl
  | ok set => exact plain.reports session _ _

variable (lexers : ∀ session lexers, part { session with lexers := lexers } = part session)

include lexers

theorem Plain.newLexer (name : String) (source : TableSource) (config : Option Config) :
    Keeps part (newLexer name source config) := by
  have given : Keeps part (lift (configOrActive config)) := by
    intro session
    cases config <;> rfl
  refine given.bind fun config => (keeps_modify fun session => ?_).bind fun _ => keeps_pure _
  rw [← lexers session (session.lexers ++ [⟨source, config, none⟩])]
  exact plain.sundry _ _ rfl rfl rfl rfl rfl

theorem Plain.compileLexer (place : Nat) : Keeps part (compileLexer place) := by
  refine (keeps_lexerAt place).bind fun lexer => keeps_get.bind fun _ =>
    (plain.lift_compile _ _).bind fun set => (keeps_modify fun session => ?_).bind fun _ => keeps_pure _
  rw [← lexers session (session.lexers.set place { lexer with compiled := some ⟨session.serial, set⟩ })]
  exact plain.sundry _ _ rfl rfl rfl rfl rfl

theorem Plain.rulesFor (place : Nat) : Keeps part (rulesFor place) := by
  refine (keeps_lexerAt place).bind fun lexer => ?_
  split
  · exact keeps_pure _
  · exact plain.compileLexer lexers place

theorem Plain.scannerOf (generator : Generator) : Keeps part (scannerOf generator) := by
  cases generator with
  | fresh place text =>
    exact (plain.rulesFor lexers place).bind fun _ =>
      (keeps_lexerAt place).bind fun _ => keeps_pure _
  | running scanner => exact keeps_pure _
  | finished => exact keeps_pure _

variable {name : String}
  (generators : ∀ session generator, part (putGenerator session name generator) = part session)
  (context : ∀ session context, part { session with context := context } = part session)

include generators context

theorem Plain.nextToken : Keeps part (nextToken name) := by
  refine keeps_get.bind fun _ => (keeps_find _ name).bind fun generator =>
    (keeps_modify fun _ => generators _ _).bind fun _ => (plain.scannerOf lexers generator).bind fun started => ?_
  split
  · exact keeps_pure _
  · refine (keeps_lift context _).bind fun ended => ?_
    split
    split
    · exact (keeps_modify fun _ => generators _ _).bind fun _ => keeps_pure _
    · exact (keeps_lift context _).bind fun _ => keeps_pure _

theorem Plain.nextTokens (count : Nat) : Keeps part (nextTokens name count) := by
  induction count with
  | zero => exact keeps_pure _
  | succ count ih =>
    exact (plain.nextToken lexers generators context).bind fun _ => ih.bind fun _ => keeps_pure _

theorem Plain.drainGenerator : Keeps part (drainGenerator name) := by
  refine keeps_get.bind fun _ => (keeps_find _ name).bind fun generator =>
    (keeps_modify fun _ => generators _ _).bind fun _ => (plain.scannerOf lexers generator).bind fun started => ?_
  split
  · exact keeps_pure _
  · exact (keeps_lift context _).bind fun _ => (keeps_lift context _).bind fun _ => keeps_pure _

end Plain

/-- The things that a step uses have no say in this part of a session. -/
structure Frame (part : Session → γ) (step : SessionStep) : Prop extends Plain part where
  tables : step.table? ≠ none → ∀ session tables, part { session with tables := tables } = part session
  lexers : step.usesLexers → ∀ session lexers, part { session with lexers := lexers } = part session
  generators : ∀ name, step.generator? = some name →
    ∀ session generator, part (putGenerator session name generator) = part session
  profiles : step.switchesProfile →
    ∀ session profiles, part { session with profiles := profiles } = part session
  context : step.usesContext → ∀ session context, part { session with context := context } = part session

namespace Frame

variable {name generator id text : String}

theorem table {rules : List Candidate} (frame : Frame part (.table name rules)) :
    Keeps part (perform (.table name rules)) := by
  have free := frame.tables (Option.some_ne_none name)
  refine Keeps.bind (keeps_modify fun session => ?_) fun _ => keeps_pure _
  rw [← free session (session.tables ++ [rules])]
  exact frame.sundry _ _ rfl rfl rfl rfl rfl

theorem append {rule : Candidate} (frame : Frame part (.append name rule)) :
    Keeps part (perform (.append name rule)) := by
  rw [perform]
  exact keeps_changeTable (frame.tables (Option.some_ne_none name)) fun _ => keeps_pure _

theorem insert {place : Int} {rule : Candidate} (frame : Frame part (.insert name place rule)) :
    Keeps part (perform (.insert name place rule)) := by
  rw [perform]
  exact keeps_changeTable (frame.tables (Option.some_ne_none name)) fun _ => keeps_pure _

theorem pop {place : Option Int} (frame : Frame part (.pop name place)) :
    Keeps part (perform (.pop name place)) := by
  rw [perform]
  refine keeps_changeTable (frame.tables (Option.some_ne_none name)) fun rules => ?_
  split
  · exact keeps_pure _
  · exact keeps_throw _

theorem newShared {table : String} {config : Option Config}
    (frame : Frame part (.newShared name table config)) :
    Keeps part (perform (.newShared name table config)) :=
  keeps_get.bind fun _ => (keeps_find _ table).bind fun _ =>
    frame.newLexer (frame.lexers trivial) _ _ _

theorem compile (frame : Frame part (.compile name)) : Keeps part (perform (.compile name)) :=
  (keeps_lexerNamed name).bind fun _ =>
    (frame.compileLexer (frame.lexers trivial) _).bind fun _ => keeps_pure _

theorem compiled (frame : Frame part (.compiled name)) : Keeps part (perform (.compiled name)) := by
  refine (keeps_lexerNamed name).bind fun _ =>
    (frame.rulesFor (frame.lexers trivial) _).bind fun _ => (keeps_lexerAt _).bind fun _ => ?_
  split
  · exact (frame.objectNumber _).bind fun _ => keeps_pure _
  · exact keeps_throw _

theorem scan (frame : Frame part (.scan name text)) : Keeps part (perform (.scan name text)) :=
  (keeps_lexerNamed name).bind fun _ => (frame.rulesFor (frame.lexers trivial) _).bind fun _ =>
    (keeps_lift (frame.context trivial) _).bind fun _ => keeps_pure _

theorem lex (frame : Frame part (.lex name text)) : Keeps part (perform (.lex name text)) :=
  (keeps_lexerNamed name).bind fun _ => (frame.rulesFor (frame.lexers trivial) _).bind fun _ =>
    (keeps_lift (frame.context trivial) _).bind fun _ => keeps_pure _

theorem tokenize (frame : Frame part (.tokenize name generator text)) :
    Keeps part (perform (.tokenize name generator text)) :=
  (keeps_lexerNamed name).bind fun _ =>
    (keeps_modify fun _ => frame.generators generator rfl _ _).bind fun _ => keeps_pure _

theorem next {count : Nat} (frame : Frame part (.next generator count)) :
    Keeps part (perform (.next generator count)) :=
  (frame.nextTokens (frame.lexers trivial) (frame.generators generator rfl)
    (frame.context trivial) count).bind fun _ => keeps_pure _

theorem drain (frame : Frame part (.drain generator)) : Keeps part (perform (.drain generator)) :=
  (frame.drainGenerator (frame.lexers trivial) (frame.generators generator rfl)
    (frame.context trivial)).bind fun _ => keeps_pure _

theorem close (frame : Frame part (.close generator)) : Keeps part (perform (.close generator)) :=
  keeps_get.bind fun _ => (keeps_find _ generator).bind fun _ =>
    (keeps_modify fun _ => frame.generators generator rfl _ _).bind fun _ => keeps_pure _

theorem enterConfig {config : Config} (frame : Frame part (.enterConfig id config)) :
    Keeps part (perform (.enterConfig id config)) :=
  keeps_get.bind fun _ =>
    (keeps_modify fun _ => by exact frame.sundry _ _ rfl rfl rfl rfl rfl).bind fun _ =>
      (frame.setConfig config).bind fun _ => keeps_activeConfig

theorem exitConfig (frame : Frame part (.exitConfig id)) :
    Keeps part (perform (.exitConfig id)) := by
  refine keeps_get.bind fun _ => (keeps_find _ id).bind fun entered => ?_
  have left : Keeps part (do
      modify fun session => { session with configs := bindName session.configs id ⟨none⟩ }
      activeConfig) :=
    (keeps_modify fun _ => by exact frame.sundry _ _ rfl rfl rfl rfl rfl).bind fun _ =>
      keeps_activeConfig
  split
  · exact (frame.setConfig _).bind fun _ => left
  · exact left

theorem enterProfile (frame : Frame part (.enterProfile id)) :
    Keeps part (perform (.enterProfile id)) := by
  refine keeps_get.bind fun start => (keeps_modify fun session => ?_).bind fun _ =>
    keeps_showProfile id
  exact (frame.context trivial { session with
    profiles := bindName session.profiles id
      ⟨start.context.profiles.length, some start.context.activeProfile⟩ } _).trans
    (frame.profiles trivial session _)

theorem exitProfile (frame : Frame part (.exitProfile id)) :
    Keeps part (perform (.exitProfile id)) := by
  refine keeps_get.bind fun _ => (keeps_find _ id).bind fun entered => ?_
  have left : Keeps part (do
      modify fun session =>
        { session with profiles := bindName session.profiles id { entered with previous := none } }
      showProfile id) :=
    (keeps_modify fun _ => frame.profiles trivial _ _).bind fun _ => keeps_showProfile id
  split
  · exact (keeps_modify fun _ => frame.context trivial _ _).bind fun _ => left
  · exact left

theorem record {sourceLength tokens skipped : Int}
    (frame : Frame part (.record id sourceLength tokens skipped)) :
    Keeps part (perform (.record id sourceLength tokens skipped)) :=
  keeps_get.bind fun _ => (keeps_find _ id).bind fun _ =>
    (keeps_modify fun _ => frame.context trivial _ _).bind fun _ => keeps_showProfile id

end Frame

/-- A step leaves alone what the things that it uses have no say in. -/
theorem perform_keeps {step : SessionStep} (frame : Frame part step) :
    Keeps part (perform step) := by
  cases step with
  | table => exact frame.table
  | append => exact frame.append
  | insert => exact frame.insert
  | pop => exact frame.pop
  | newShared => exact frame.newShared
  | newOwn => exact frame.newLexer (frame.lexers trivial) _ _ _
  | compile => exact frame.compile
  | isCompiled name => exact (keeps_lexerNamed name).bind fun _ => keeps_pure _
  | compiled => exact frame.compiled
  | scan => exact frame.scan
  | lex => exact frame.lex
  | tokenize => exact frame.tokenize
  | next => exact frame.next
  | drain => exact frame.drain
  | close => exact frame.close
  | setConfig config => exact (frame.setConfig config).bind fun _ => keeps_activeConfig
  | resetConfig => exact (frame.setConfig {}).bind fun _ => keeps_activeConfig
  | getConfig => exact keeps_activeConfig
  | enterConfig => exact frame.enterConfig
  | exitConfig => exact frame.exitConfig
  | enterProfile => exact frame.enterProfile
  | exitProfile => exact frame.exitProfile
  | profile id => exact keeps_showProfile id
  | record => exact frame.record

end Frames

theorem run_changeTable {name : String} {change : List Candidate → SessionM (List Candidate)}
    {changed : List Candidate → Except Failure (List Candidate)}
    (plain : ∀ rules session, change rules session = (changed rules, session)) (session : Session) :
    changeTable name change session =
      match session.tableNames.lookup name with
      | none => (.error (.unknownName name), session)
      | some place =>
        match changed (session.tables.getD place []) with
        | .ok rules => (.ok (.length rules.length),
          { session with tables := session.tables.set place rules })
        | .error failure => (.error failure, session) := by
  have opened : changeTable name change session =
      (find session.tableNames name >>= fun place => get >>= fun session =>
        change (session.tables.getD place []) >>= fun rules => do
          modify fun session => { session with tables := session.tables.set place rules }
          return .length rules.length) session := rfl
  rw [opened, run_bind, run_find]
  cases session.tableNames.lookup name with
  | none => rfl
  | some place =>
    simp only
    change (change (session.tables.getD place []) >>= _) session = _
    rw [run_bind, plain]
    cases changed (session.tables.getD place []) <;> rfl

def named? (session : Session) (name : String) : Option (Nat × Lexer) :=
  (session.lexerNames.lookup name).bind fun place =>
    session.lexers[place]?.map fun lexer => (place, lexer)

theorem lexer_of_named? {session : Session} {name : String} {place : Nat} {lexer : Lexer}
    (found : session.named? name = some (place, lexer)) : session.lexers[place]? = some lexer := by
  simp only [named?, Option.bind_eq_some_iff, Option.map_eq_some_iff] at found
  obtain ⟨_, -, _, there, same⟩ := found
  cases same
  exact there

theorem run_lexerAt (session : Session) (place : Nat) :
    lexerAt place session =
      match session.lexers[place]? with
      | some lexer => (.ok lexer, session)
      | none => (.error .noItem, session) := by
  change (match session.lexers[place]? with
    | some lexer => (pure lexer : SessionM Lexer)
    | none => throw Failure.noItem) session = _
  cases session.lexers[place]? <;> rfl

theorem run_lexerNamed (session : Session) (name : String) :
    (∃ place lexer, session.named? name = some (place, lexer) ∧
      lexerNamed name session = (.ok (place, lexer), session)) ∨
    (session.named? name = none ∧ ∃ failure, lexerNamed name session = (.error failure, session)) := by
  have opened : lexerNamed name session =
      (find session.lexerNames name >>= fun place =>
        lexerAt place >>= fun lexer => pure (place, lexer)) session := rfl
  rw [opened, run_bind, run_find]
  unfold named?
  cases session.lexerNames.lookup name with
  | none => exact .inr ⟨rfl, _, rfl⟩
  | some place =>
    simp only [run_bind, run_lexerAt, Option.bind_some]
    cases session.lexers[place]? with
    | none => exact .inr ⟨rfl, _, rfl⟩
    | some lexer => exact .inl ⟨place, lexer, rfl, rfl⟩

theorem run_bind_unnamed {session : Session} {name : String} (unknown : session.named? name = none)
    (next : Nat × Lexer → SessionM Answer) :
    ∃ failure, (lexerNamed name >>= next) session = (.error failure, session) := by
  rcases session.run_lexerNamed name with ⟨place, lexer, found, -⟩ | ⟨-, failure, failed⟩
  · rw [unknown] at found
    cases found
  · exact ⟨failure, by rw [run_bind, failed]⟩

theorem run_bind_named {session : Session} {name : String} {place : Nat} {lexer : Lexer}
    (found : session.named? name = some (place, lexer)) (next : Nat × Lexer → SessionM Answer) :
    (lexerNamed name >>= next) session = next (place, lexer) session := by
  rcases session.run_lexerNamed name with ⟨_, _, same, run⟩ | ⟨unknown, -⟩
  · rw [found] at same
    cases same
    rw [run_bind, run]
  · rw [found] at unknown
    cases unknown

def publish (session : Session) (place : Nat) (lexer : Lexer) (set : RuleSet) : Session :=
  { session with
    context := session.context.emit (.compiled set.rules.length set.pattern.groups)
    lexers := session.lexers.set place { lexer with compiled := some ⟨session.serial, set⟩ }
    serial := session.serial + 1 }

theorem run_compileLexer {session : Session} {place : Nat} {lexer : Lexer}
    (there : session.lexers[place]? = some lexer) :
    compileLexer place session =
      match RuleSet.ofTable lexer.config (session.rulesOf lexer) with
      | .ok set => (.ok set, session.publish place lexer set)
      | .error failure => (.error failure, session) := by
  have opened : compileLexer place session =
      (lexerAt place >>= fun lexer => get >>= fun session =>
        lift (RuleSet.compile lexer.config (session.rulesOf lexer)) >>= fun set => do
          modify fun session =>
            { session with
              lexers := session.lexers.set place { lexer with compiled := some ⟨session.serial, set⟩ }
              serial := session.serial + 1 }
          return set) session := rfl
  rw [opened, run_bind, run_lexerAt, there]
  change (lift (RuleSet.compile lexer.config (session.rulesOf lexer)) >>= _) session = _
  rw [run_bind, run_lift]
  unfold RuleSet.compile
  cases RuleSet.ofTable lexer.config (session.rulesOf lexer) <;> rfl

theorem run_rulesFor {session : Session} {place : Nat} {lexer : Lexer}
    (there : session.lexers[place]? = some lexer) :
    rulesFor place session =
      match lexer.compiled with
      | some compiled => (.ok compiled.set, session)
      | none => compileLexer place session := by
  have opened : rulesFor place session =
      (lexerAt place >>= fun lexer =>
        match lexer.compiled with
        | some compiled => pure compiled.set
        | none => compileLexer place) session := rfl
  rw [opened, run_bind, run_lexerAt, there]
  simp only
  cases lexer.compiled <;> rfl

theorem lexer_of_rulesFor {session after : Session} {place : Nat} {lexer : Lexer} {set : RuleSet}
    (there : session.lexers[place]? = some lexer) (ready : rulesFor place session = (.ok set, after)) :
    ∃ serial, after.lexers[place]? = some { lexer with compiled := some ⟨serial, set⟩ } := by
  rw [run_rulesFor there] at ready
  cases has : lexer.compiled with
  | some compiled =>
    rw [has] at ready
    cases ready
    refine ⟨compiled.serial, ?_⟩
    rw [there]
    cases lexer
    cases has
    rfl
  | none =>
    rw [has] at ready
    simp only [run_compileLexer there] at ready
    split at ready
    · cases ready
      obtain ⟨bound, -⟩ := List.getElem?_eq_some_iff.mp there
      exact ⟨session.serial, by simp [publish, bound]⟩
    · cases ready

theorem perform_compile {session : Session} {name : String} {place : Nat} {lexer : Lexer}
    (found : session.named? name = some (place, lexer)) :
    perform (.compile name) session =
      match RuleSet.ofTable lexer.config (session.rulesOf lexer) with
      | .ok set => (.ok .done, session.publish place lexer set)
      | .error failure => (.error failure, session) := by
  rw [perform, run_bind_named found]
  change (compileLexer place >>= fun _ => pure Answer.done) session = _
  rw [run_bind, run_compileLexer (lexer_of_named? found)]
  cases RuleSet.ofTable lexer.config (session.rulesOf lexer) <;> rfl

def answering {α : Type} (session : Session) (run : Run α) (answer : α → Answer) :
    Except Failure Answer × Session :=
  ((run session.context).1.map answer, { session with context := (run session.context).2 })

theorem run_lift_answer {α : Type} (run : Run α) (answer : α → Answer) (session : Session) :
    (lift run >>= fun value => pure (answer value)) session = session.answering run answer := by
  rw [run_bind_pure, run_lift]
  rfl

theorem perform_scan {session : Session} {name : String} {place : Nat} {lexer : Lexer}
    (found : session.named? name = some (place, lexer)) (text : String) :
    perform (.scan name text) session =
      match rulesFor place session with
      | (.ok set, after) => after.answering (set.scan lexer.config text) .scanned
      | (.error failure, after) => (.error failure, after) := by
  rw [perform, run_bind_named found]
  change (rulesFor place >>= fun set => lift (set.scan lexer.config text) >>= fun result =>
    pure (Answer.scanned result)) session = _
  rw [run_bind]
  cases rulesFor place session with
  | mk ready after =>
    cases ready with
    | error failure => rfl
    | ok set => exact run_lift_answer _ _ after

theorem perform_lex (session : Session) (name text : String) :
    perform (.lex name text) session =
      ((perform (.scan name text) session).1.map fun
        | .scanned result => .tokens (result.tokens.map some)
        | answer => answer,
      (perform (.scan name text) session).2) := by
  cases found : session.named? name with
  | none =>
    rw [perform, perform]
    rcases session.run_lexerNamed name with ⟨place, lexer, named, -⟩ | ⟨-, failure, failed⟩
    · rw [found] at named
      cases named
    · simp only [run_bind, failed]
      rfl
  | some named =>
    obtain ⟨place, lexer⟩ := named
    rw [perform_scan found, perform, run_bind_named found]
    change (rulesFor place >>= fun set => lift (set.scan lexer.config text) >>= fun result =>
      pure (Answer.tokens (result.tokens.map some))) session = _
    rw [run_bind]
    cases rulesFor place session with
    | mk ready after =>
      cases ready with
      | error failure => rfl
      | ok set =>
        refine (run_lift_answer _ (fun (result : ScanResult) => .tokens (result.tokens.map some)) after).trans ?_
        simp only [answering]
        cases (set.scan lexer.config text after.context).1 <;> rfl

theorem perform_tokenize {session : Session} {name : String} {place : Nat} {lexer : Lexer}
    (found : session.named? name = some (place, lexer)) (generator text : String) :
    perform (.tokenize name generator text) session =
      (.ok .done, session.putGenerator generator (.fresh place text)) := by
  rw [perform, run_bind_named found]
  rfl

theorem perform_close (session : Session) (name : String) :
    perform (.close name) session =
      match session.generators.lookup name with
      | some _ => (.ok .done, session.putGenerator name .finished)
      | none => (.error (.unknownName name), session) := by
  change (find session.generators name >>= fun _ =>
    setGenerator name .finished >>= fun _ => pure Answer.done) session = _
  rw [run_bind, run_find]
  cases session.generators.lookup name <;> rfl

theorem perform_enterProfile (session : Session) (id : String) :
    (perform (.enterProfile id) session).2 =
      { session with
        profiles := bindName session.profiles id
          ⟨session.context.profiles.length, some session.context.activeProfile⟩
        context := { session.context with
          profiles := session.context.profiles ++ [{}]
          activeProfile := some session.context.profiles.length } } := by
  have shown : Keeps (fun session => session) (showProfile id) := keeps_showProfile id
  exact shown _

theorem perform_exitProfile (session : Session) (id : String) :
    (perform (.exitProfile id) session).2 =
      match session.profiles.lookup id with
      | none => session
      | some entered =>
        { session with
          profiles := bindName session.profiles id { entered with previous := none }
          context := { session.context with
            activeProfile := entered.previous.getD session.context.activeProfile } } := by
  have shown : Keeps (fun session => session) (showProfile id) := keeps_showProfile id
  change ((find session.profiles id >>= fun entered => _) session).2 = _
  rw [run_bind, run_find]
  cases session.profiles.lookup id with
  | none => rfl
  | some entered =>
    cases previous : entered.previous with
    | none =>
      simp only [previous]
      exact shown _
    | some active =>
      simp only [previous]
      exact shown _

/-- What going on with a generator and draining it have in common: it is over unless it turns out
otherwise, and its scan is there or starts with the rules of its lexer. -/
def startScan (name : String) : SessionM (Option Scanner) := do
  let generator ← find (← get).generators name
  setGenerator name .finished
  scannerOf generator

theorem run_startScan (session : Session) (name : String) :
    startScan name session =
      match session.generators.lookup name with
      | none => (.error (.unknownName name), session)
      | some generator => scannerOf generator (session.putGenerator name .finished) := by
  have opened : startScan name session =
      (find session.generators name >>= fun generator =>
        setGenerator name .finished >>= fun _ => scannerOf generator) session := rfl
  rw [opened, run_bind, run_find]
  cases session.generators.lookup name <;> rfl

theorem run_scannerOf_fresh {session : Session} {place : Nat} {lexer : Lexer}
    (there : session.lexers[place]? = some lexer) (text : String) :
    scannerOf (.fresh place text) session =
      ((rulesFor place session).1.map fun set => some (set.scanner lexer.config text),
        (rulesFor place session).2) := by
  have opened : scannerOf (.fresh place text) session =
      (rulesFor place >>= fun set => lexerAt place >>= fun lexer =>
        pure (some (set.scanner lexer.config text))) session := rfl
  rw [opened, run_bind]
  cases ready : rulesFor place session with
  | mk outcome after =>
    cases outcome with
    | error failure => rfl
    | ok set =>
      obtain ⟨serial, has⟩ := lexer_of_rulesFor there ready
      simp only [run_bind, run_lexerAt, has]
      rfl

theorem run_scannerOf_dangling {session : Session} {place : Nat}
    (gone : session.lexers[place]? = none) (text : String) :
    scannerOf (.fresh place text) session = (.error .noItem, session) := by
  change (rulesFor place >>= _) session = _
  have absent : rulesFor place session = (.error .noItem, session) := by
    change (lexerAt place >>= _) session = _
    rw [run_bind, run_lexerAt, gone]
  rw [run_bind, absent]

def advance (session : Session) (name : String) (scanner : Scanner) :
    Except Failure (Option Token) × Session :=
  match scanner.next session.context with
  | (.ok (some token, scanner), context) =>
    (.ok (some token), { session with context }.putGenerator name (.running scanner))
  | (.ok (none, scanner), context) =>
    (.ok none, { session with context := (scanner.finish context).2 })
  | (.error failure, context) => (.error failure, { session with context })

theorem nextToken_eq (session : Session) (name : String) :
    nextToken name session =
      (startScan name >>= fun started =>
        match started with
        | none => pure none
        | some scanner => lift scanner.next >>= fun (token, scanner) =>
          match token with
          | some token => setGenerator name (.running scanner) >>= fun _ => pure (some token)
          | none => lift scanner.finish >>= fun _ => pure none) session := by
  simp only [startScan, bind_assoc]
  rfl

theorem run_nextToken (session : Session) (name : String) :
    nextToken name session =
      match startScan name session with
      | (.ok none, after) => (.ok none, after)
      | (.ok (some scanner), after) => after.advance name scanner
      | (.error failure, after) => (.error failure, after) := by
  rw [nextToken_eq, run_bind]
  cases startScan name session with
  | mk outcome after =>
    cases outcome with
    | error failure => rfl
    | ok started =>
      cases started with
      | none => rfl
      | some scanner =>
        simp only [run_bind, run_lift, advance]
        cases scanner.next after.context with
        | mk result context =>
          cases result with
          | error failure => rfl
          | ok next =>
            obtain ⟨token, last⟩ := next
            cases token <;> rfl

theorem drainGenerator_eq (session : Session) (name : String) :
    drainGenerator name session =
      (startScan name >>= fun started =>
        match started with
        | none => pure []
        | some scanner => lift scanner.drain >>= fun (tokens, scanner) =>
          lift scanner.finish >>= fun _ => pure tokens) session := by
  simp only [startScan, bind_assoc]
  rfl

theorem run_drainGenerator (session : Session) (name : String) :
    drainGenerator name session =
      match startScan name session with
      | (.ok none, after) => (.ok [], after)
      | (.ok (some scanner), after) =>
        match scanner.drain after.context with
        | (.ok (tokens, last), context) =>
          (.ok tokens, { after with context := (last.finish context).2 })
        | (.error failure, context) => (.error failure, { after with context })
      | (.error failure, after) => (.error failure, after) := by
  rw [drainGenerator_eq, run_bind]
  cases startScan name session with
  | mk outcome after =>
    cases outcome with
    | error failure => rfl
    | ok started =>
      cases started with
      | none => rfl
      | some scanner =>
        simp only [run_bind, run_lift]
        cases scanner.drain after.context with
        | mk result context =>
          cases result with
          | error failure => rfl
          | ok next => rfl

theorem perform_next (session : Session) (name : String) (count : Nat) :
    perform (.next name count) session =
      ((nextTokens name count session).1.map .tokens, (nextTokens name count session).2) := by
  rw [perform, run_bind_pure]

theorem perform_drain (session : Session) (name : String) :
    perform (.drain name) session =
      ((drainGenerator name session).1.map fun tokens => .tokens (tokens.map some),
        (drainGenerator name session).2) := by
  rw [perform]
  exact run_bind_pure (drainGenerator name) (fun tokens => Answer.tokens (tokens.map some)) session

end Session

end RuleLexer
