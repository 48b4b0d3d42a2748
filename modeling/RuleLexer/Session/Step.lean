import RuleLexer.Session.Basic

namespace RuleLexer

namespace SessionM

def lift {α : Type} (run : Run α) : SessionM α :=
  ExceptT.mk fun session =>
    let (result, context) := run.run.run session.context
    (result, { session with context })

def find {α : Type} (entries : List (String × α)) (name : String) : SessionM α :=
  match entries.lookup name with
  | some value => pure value
  | none => throw (.unknownName name)

end SessionM

open SessionM (lift find)

def bindName {α : Type} (entries : List (String × α)) (name : String) (value : α) :
    List (String × α) :=
  (name, value) :: entries.filter (·.1 != name)

/-- The place that an index means in a list to be inserted into: negative ones count from the end,
and what lies outside is moved to the nearer end. -/
def insertionPlace (length : Nat) (index : Int) : Nat :=
  if index < 0 then (index + length).toNat else min index.toNat length

def itemPlace? (length : Nat) (index : Int) : Option Nat :=
  let place := if index < 0 then index + length else index
  if 0 ≤ place && place < length then some place.toNat else none

namespace Session

def lexerAt (place : Nat) : SessionM Lexer := do
  match (← get).lexers[place]? with
  | some lexer => pure lexer
  | none => throw .noItem

def lexerNamed (name : String) : SessionM (Nat × Lexer) := do
  let place ← find (← get).lexerNames name
  return (place, ← lexerAt place)

def rulesOf (session : Session) (lexer : Lexer) : Option (List Candidate) :=
  match lexer.source with
  | .shared place => some (session.tables.getD place [])
  | .own rules => rules

/-- Compiles a lexer's rules as they are now. A failure leaves the lexer as it was. -/
def compileLexer (place : Nat) : SessionM RuleSet := do
  let lexer ← lexerAt place
  let rules := (← get).rulesOf lexer
  let set ← lift (RuleSet.compile lexer.config rules)
  modify fun session =>
    { session with
      lexers := session.lexers.set place { lexer with compiled := some ⟨session.serial, set⟩ }
      serial := session.serial + 1 }
  return set

def rulesFor (place : Nat) : SessionM RuleSet := do
  match (← lexerAt place).compiled with
  | some compiled => pure compiled.set
  | none => compileLexer place

def changeTable (name : String) (change : List Candidate → SessionM (List Candidate)) :
    SessionM Answer := do
  let place ← find (← get).tableNames name
  let rules ← change ((← get).tables.getD place [])
  modify fun session => { session with tables := session.tables.set place rules }
  return .length rules.length

def newLexer (name : String) (source : TableSource) (config : Option Config) :
    SessionM Answer := do
  let config ← lift (configOrActive config)
  modify fun session =>
    { session with
      lexers := session.lexers ++ [⟨source, config, none⟩]
      lexerNames := bindName session.lexerNames name session.lexers.length }
  return .created false config

def setGenerator (name : String) (generator : Generator) : SessionM Unit :=
  modify fun session => { session with generators := bindName session.generators name generator }

def scannerOf : Generator → SessionM (Option Scanner)
  | .fresh place text => do
    let set ← rulesFor place
    let lexer ← lexerAt place
    return some (set.scanner lexer.config text)
  | .running scanner => return some scanner
  | .finished => return none

/-- The next token of a generator, or none if it is over. A failure ends the generator. -/
def nextToken (name : String) : SessionM (Option Token) := do
  let generator ← find (← get).generators name
  setGenerator name .finished
  match ← scannerOf generator with
  | none => return none
  | some scanner =>
    let (token, scanner) ← lift scanner.next
    match token with
    | some token =>
      setGenerator name (.running scanner)
      return some token
    | none =>
      lift scanner.finish
      return none

def nextTokens (name : String) : Nat → SessionM (List (Option Token))
  | 0 => return []
  | count + 1 => do
    let token ← nextToken name
    let tokens ← nextTokens name count
    return token :: tokens

def drainGenerator (name : String) : SessionM (List Token) := do
  let generator ← find (← get).generators name
  setGenerator name .finished
  match ← scannerOf generator with
  | none => return []
  | some scanner =>
    let (tokens, scanner) ← lift scanner.drain
    lift scanner.finish
    return tokens

def activeConfig : SessionM Answer := do
  return .config (← get).context.config

def setConfig (config : Config) : SessionM Unit :=
  modify fun session => { session with context := { session.context with config } }

def activeName (session : Session) : Option String :=
  session.context.activeProfile.bind fun place =>
    (session.profiles.find? fun entry => entry.2.place = place).map Prod.fst

def showProfile (id : String) : SessionM Answer := do
  let entered ← find (← get).profiles id
  let session ← get
  return .profile session.activeName (session.context.profiles.getD entered.place {})

def setActiveProfile (active : Option Nat) : SessionM Unit :=
  modify fun session =>
    { session with context := { session.context with activeProfile := active } }

def objectNumber (serial : Nat) : SessionM Nat := do
  let seen := (← get).seen
  match seen.idxOf? serial with
  | some number => return number
  | none =>
    modify fun session => { session with seen := seen ++ [serial] }
    return seen.length

def perform : SessionStep → SessionM Answer
  | .table name rules => do
    modify fun session =>
      { session with
        tables := session.tables ++ [rules]
        tableNames := bindName session.tableNames name session.tables.length }
    return .length rules.length
  | .append name rule => changeTable name fun rules => return rules ++ [rule]
  | .insert name index rule => changeTable name fun rules =>
    let place := insertionPlace rules.length index
    return rules.take place ++ rule :: rules.drop place
  | .pop name index => changeTable name fun rules =>
    match itemPlace? rules.length (index.getD (-1)) with
    | some place => return rules.eraseIdx place
    | none => throw .noItem
  | .newShared name table config => do
    let place ← find (← get).tableNames table
    newLexer name (.shared place) config
  | .newOwn name rules config => newLexer name (.own rules) config
  | .compile name => do
    let (place, _) ← lexerNamed name
    let _ ← compileLexer place
    return .done
  | .isCompiled name => do
    let (_, lexer) ← lexerNamed name
    return .isCompiled lexer.compiled.isSome
  | .compiled name => do
    let (place, _) ← lexerNamed name
    let set ← rulesFor place
    let some compiled := (← lexerAt place).compiled | throw .noItem
    return .ruleSet (← objectNumber compiled.serial) set
  | .scan name text => do
    let (place, lexer) ← lexerNamed name
    let set ← rulesFor place
    return .scanned (← lift (set.scan lexer.config text))
  | .lex name text => do
    let (place, lexer) ← lexerNamed name
    let set ← rulesFor place
    let result ← lift (set.scan lexer.config text)
    return .tokens (result.tokens.map some)
  | .tokenize name generator text => do
    let (place, _) ← lexerNamed name
    setGenerator generator (.fresh place text)
    return .done
  | .next generator count => return .tokens (← nextTokens generator count)
  | .drain generator => return .tokens ((← drainGenerator generator).map some)
  | .close generator => do
    let _ ← find (← get).generators generator
    setGenerator generator .finished
    return .done
  | .setConfig config => do
    setConfig config
    activeConfig
  | .resetConfig => do
    setConfig {}
    activeConfig
  | .getConfig => activeConfig
  | .enterConfig id config => do
    let previous := (← get).context.config
    modify fun session => { session with configs := bindName session.configs id ⟨some previous⟩ }
    setConfig config
    activeConfig
  | .exitConfig id => do
    let entered ← find (← get).configs id
    if let some previous := entered.previous then setConfig previous
    modify fun session => { session with configs := bindName session.configs id ⟨none⟩ }
    activeConfig
  | .enterProfile id => do
    let context := (← get).context
    let place := context.profiles.length
    modify fun session =>
      { session with
        profiles := bindName session.profiles id ⟨place, some context.activeProfile⟩
        context := { context with
          profiles := context.profiles ++ [{}]
          activeProfile := some place } }
    showProfile id
  | .exitProfile id => do
    let entered ← find (← get).profiles id
    if let some previous := entered.previous then setActiveProfile previous
    modify fun session =>
      { session with profiles := bindName session.profiles id { entered with previous := none } }
    showProfile id
  | .profile id => showProfile id
  | .record id sourceLength tokens skipped => do
    let entered ← find (← get).profiles id
    modify fun session =>
      { session with
        context := { session.context with
          profiles := session.context.profiles.modify entered.place fun totals =>
            totals.record sourceLength tokens skipped } }
    showProfile id

def step (session : Session) (step : SessionStep) :
    Except Failure Answer × List Event × Session :=
  let start := { session with context := { session.context with events := [] } }
  let (outcome, after) := (perform step).run.run start
  (outcome, after.context.events.reverse, after)

end Session

end RuleLexer
