namespace RuleLexer.Log

def root : String := "rulex"

def channel (name : String) : String :=
  if name = root || name.startsWith (root ++ ".") then name else root ++ "." ++ name

def compiler : String := "rulex.compiler.core"

def scanner : String := "rulex.lexer.core"

inductive Level where
  | debug
  | warning
deriving DecidableEq, Repr

def Level.text : Level → String
  | .debug => "DEBUG"
  | .warning => "WARNING"

def line (level : Level) (channel message : String) : String :=
  level.text ++ " " ++ channel ++ " " ++ message

end RuleLexer.Log
