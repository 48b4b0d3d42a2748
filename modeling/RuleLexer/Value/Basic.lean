import RuleLexer.Number.Binary64

namespace RuleLexer

inductive Value where
  | null
  | bool (value : Bool)
  | int (value : Int)
  | float (value : Binary64)
  | text (value : String)
  | bytes (value : List UInt8)
  | list (items : List Value)
  | tuple (items : List Value)
  | dict (entries : List (String × Value))
deriving Repr

namespace Value

instance : Inhabited Value := ⟨.null⟩

def insert (entries : List (String × Value)) (key : String) (value : Value) :
    List (String × Value) :=
  match entries with
  | [] => [(key, value)]
  | (k, v) :: rest => if k = key then (key, value) :: rest else (k, v) :: insert rest key value

def dictOf (entries : List (String × Value)) : Value :=
  .dict (entries.foldl (fun done entry => insert done entry.1 entry.2) [])

def lookup (entries : List (String × Value)) (key : String) : Option Value :=
  entries.lookup key

def isTruthy : Value → Bool
  | .null => false
  | .bool value => value
  | .int value => value != 0
  | .float value => !value.isZero
  | .text value => value != ""
  | .bytes value => !value.isEmpty
  | .list items | .tuple items => !items.isEmpty
  | .dict entries => !entries.isEmpty

def toInt? : Value → Option Int
  | .bool true => some 1
  | .bool false => some 0
  | .int value => some value
  | _ => none

mutual

/-- Equality of values. Truth values, integers and floating-point numbers are compared as numbers,
and the order of a dictionary's entries does not count. -/
def same : Value → Value → Bool
  | .null, .null => true
  | .float a, .float b => a.same b
  | .float a, .int b => a.isInt b
  | .float a, .bool b => a.isInt (if b then 1 else 0)
  | .int a, .float b => b.isInt a
  | .bool a, .float b => b.isInt (if a then 1 else 0)
  | .int a, .int b => a == b
  | .int a, .bool b => a == if b then 1 else 0
  | .bool a, .int b => (if a then 1 else 0) == b
  | .bool a, .bool b => a == b
  | .text a, .text b => a == b
  | .bytes a, .bytes b => a == b
  | .list as, .list bs => sameItems as bs
  | .tuple as, .tuple bs => sameItems as bs
  | .dict as, .dict bs => as.length == bs.length && sameEntries as bs
  | _, _ => false

def sameItems : List Value → List Value → Bool
  | [], [] => true
  | a :: as, b :: bs => same a b && sameItems as bs
  | _, _ => false

def sameEntries : List (String × Value) → List (String × Value) → Bool
  | [], _ => true
  | (key, a) :: as, bs =>
    (match lookup bs key with
    | some b => same a b
    | none => false) && sameEntries as bs

end

end Value

end RuleLexer
