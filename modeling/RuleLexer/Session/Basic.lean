import RuleLexer.Scan.Scanner

namespace RuleLexer

inductive TableSource where
  | shared (place : Nat)
  | own (rules : Option (List Candidate))

structure Compiled where
  serial : Nat
  set : RuleSet

/-- A lexer has the configuration it was made with, and the rules as they were when it was last
compiled. -/
structure Lexer where
  source : TableSource
  config : Config
  compiled : Option Compiled

inductive Generator where
  | fresh (lexer : Nat) (text : String)
  | running (scanner : Scanner)
  | finished

structure EnteredConfig where
  previous : Option Config

/-- A profile that was entered: its place among the totals and the profile that was active before,
until it is left. -/
structure EnteredProfile where
  place : Nat
  previous : Option (Option Nat)

/-- Names refer to what was last made under them; what has lost its name lives on where it is used. -/
structure Session where
  context : Context := {}
  tables : List (List Candidate) := []
  tableNames : List (String × Nat) := []
  lexers : List Lexer := []
  lexerNames : List (String × Nat) := []
  generators : List (String × Generator) := []
  configs : List (String × EnteredConfig) := []
  profiles : List (String × EnteredProfile) := []
  serial : Nat := 0
  seen : List Nat := []

abbrev SessionM (α : Type) := ExceptT Failure (StateM Session) α

inductive Answer where
  | length (length : Nat)
  | created (isCompiled : Bool) (config : Config)
  | done
  | isCompiled (isCompiled : Bool)
  | ruleSet (object : Nat) (set : RuleSet)
  | scanned (result : ScanResult)
  | tokens (tokens : List (Option Token))
  | config (config : Config)
  | profile (active : Option String) (totals : Totals)

inductive SessionStep where
  | table (table : String) (rules : List Candidate)
  | append (table : String) (rule : Candidate)
  | insert (table : String) (place : Int) (rule : Candidate)
  | pop (table : String) (place : Option Int)
  | newShared (lexer table : String) (config : Option Config)
  | newOwn (lexer : String) (rules : Option (List Candidate)) (config : Option Config)
  | compile (lexer : String)
  | isCompiled (lexer : String)
  | compiled (lexer : String)
  | scan (lexer text : String)
  | lex (lexer text : String)
  | tokenize (lexer generator text : String)
  | next (generator : String) (count : Nat)
  | drain (generator : String)
  | close (generator : String)
  | setConfig (config : Config)
  | resetConfig
  | getConfig
  | enterConfig (id : String) (config : Config)
  | exitConfig (id : String)
  | enterProfile (id : String)
  | exitProfile (id : String)
  | profile (id : String)
  | record (id : String) (sourceLength tokens skipped : Int)

end RuleLexer
