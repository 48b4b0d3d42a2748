import RuleLexer.Proofs.Regex.Parsing
import RuleLexer.Proofs.Source.Rendering

namespace RuleLexer

variable {ε α β : Type}

def FailsOnly (kind : ε → Prop) (computed : Except ε α) : Prop :=
  ∀ failure, computed = .error failure → kind failure

namespace FailsOnly

variable {kind : ε → Prop}

@[simp] theorem ok (value : α) : FailsOnly kind (.ok value) := nofun

@[simp] theorem pure (value : α) : FailsOnly kind (Pure.pure value) := nofun

@[simp] theorem error_iff {failure : ε} :
    FailsOnly kind (.error failure : Except ε α) ↔ kind failure := by
  simp [FailsOnly]

@[simp] theorem throw_iff {failure : ε} :
    FailsOnly kind (MonadExcept.throw failure : Except ε α) ↔ kind failure :=
  error_iff

@[simp] theorem bind_iff {computed : Except ε α} {next : α → Except ε β} :
    FailsOnly kind (computed >>= next) ↔
      FailsOnly kind computed ∧ ∀ value, computed = .ok value → FailsOnly kind (next value) := by
  cases computed <;> simp [FailsOnly, Bind.bind, Except.bind]

theorem bind {computed : Except ε α} {next : α → Except ε β} (first : FailsOnly kind computed)
    (rest : ∀ value, computed = .ok value → FailsOnly kind (next value)) :
    FailsOnly kind (computed >>= next) :=
  bind_iff.mpr ⟨first, rest⟩

theorem branch {test : Prop} [Decidable test] {one other : Except ε α} {next : α → Except ε β}
    {middle : α → Prop} (first : FailsOnly kind (if test then one else other))
    (ensures : Ensures (if test then one else other) middle)
    (rest : ∀ value, middle value → FailsOnly kind (next value)) :
    FailsOnly kind (if test then one >>= next else other >>= next) := by
  have same : (if test then one >>= next else other >>= next) =
      (if test then one else other) >>= next := by
    split <;> rfl
  rw [same]
  exact first.bind fun value returned => rest value (ensures value returned)

@[simp] theorem map_iff {computed : Except ε α} {change : α → β} :
    FailsOnly kind (change <$> computed) ↔ FailsOnly kind computed := by
  cases computed <;> simp [FailsOnly, Functor.map, Except.map]

@[simp] theorem ite_iff {test : Prop} [Decidable test] {one other : Except ε α} :
    FailsOnly kind (if test then one else other) ↔
      (test → FailsOnly kind one) ∧ (¬test → FailsOnly kind other) := by
  split <;> simp_all

theorem mapM {change : α → Except ε β} {values : List α}
    (each : ∀ value ∈ values, FailsOnly kind (change value)) :
    FailsOnly kind (values.mapM change) := by
  induction values with
  | nil => simp
  | cons value values ih =>
    rw [List.mapM_cons]
    refine .bind (each value List.mem_cons_self) fun _ _ => .bind ?_ fun _ _ => by simp
    exact ih fun other member => each other (List.mem_cons_of_mem _ member)

end FailsOnly

def Rejection.IsFormal : Rejection → Prop
  | .malformed _ => True
  | _ => False

@[simp] theorem Fault.isFormal_at (fault : Fault) (position : Nat) :
    (fault.at position).IsFormal := .intro

abbrev FailsFormally (computed : Except Rejection α) : Prop :=
  FailsOnly Rejection.IsFormal computed

namespace Input

@[simp] theorem goTo_formally (position : Nat) (rest : List Piece) :
    FailsFormally (goTo position rest) := by
  simp [goTo]

@[simp] theorem take_formally (input : Input) : FailsFormally input.take := by
  unfold take
  split <;> simp

@[simp] theorem accept_formally (c : Char) (input : Input) : FailsFormally (input.accept c) := by
  unfold accept
  split <;> simp

@[simp] theorem takeSome_formally (kind : Char → Bool) (count : Nat) (input : Input) :
    FailsFormally (input.takeSome kind count) := by
  induction count generalizing input with
  | zero => simp [takeSome]
  | succ count ih =>
    unfold takeSome
    split <;> simp [ih]

@[simp] theorem takeUntil_formally (terminator : Char) (what : String) (input : Input) :
    FailsFormally (input.takeUntil terminator what) := by
  have reads (taken : List Char) (position : Nat) (rest : List Piece) :
      FailsFormally (readUntil terminator what taken position rest) := by
    induction rest generalizing taken position with
    | nil => simp [readUntil]
    | cons piece rest ih => simp [readUntil, ih]
  exact reads [] input.position input.rest

@[simp] theorem skipPast_formally (last : Char) (position : Nat) (rest : List Piece) :
    FailsFormally (skipPast last position rest) := by
  induction rest generalizing position with
  | nil => simp [skipPast]
  | cons piece rest ih => simp [skipPast, ih]

end Input

namespace Escape

@[simp] theorem readHex_formally (letter : Char) (count start : Nat) (input : Input) :
    FailsFormally (readHex letter count start input) := by
  simp [readHex]

@[simp] theorem readName_formally (start : Nat) (input : Input) :
    FailsFormally (readName start input) := by
  refine .bind (by simp) ?_
  rintro ⟨braced, middle⟩ -
  dsimp only
  split
  · simp
  refine .bind (by simp) ?_
  rintro ⟨name, after⟩ -
  dsimp only
  split <;> simp

@[simp] theorem readCode?_formally (alphabet : Alphabet) (letter : Char) (start : Nat)
    (input : Input) : FailsFormally (readCode? alphabet letter start input) := by
  unfold readCode?
  split <;> simp

@[simp] theorem octal_formally (digits : List Char) (start : Nat) :
    FailsFormally (octal digits start) := by
  simp [octal]

@[simp] theorem readLiteral_formally (c : Char) (start : Nat) :
    FailsFormally (readLiteral c start) := by
  simp [readLiteral]

@[simp] theorem readInSet_formally (alphabet : Alphabet) (c : Char) (start : Nat) (input : Input) :
    FailsFormally (readInSet alphabet c start input) := by
  unfold readInSet
  split
  · simp
  split
  · simp
  split
  · simp
  refine .bind (by simp) fun read? _ => ?_
  split <;> simp

@[simp] theorem readNumber_formally (c : Char) (start : Nat) (input : Input) :
    FailsFormally (readNumber c start input) := by
  refine .bind (by simp) ?_
  rintro ⟨second, middle⟩ -
  dsimp only
  split <;> simp

@[simp] theorem readOutside_formally (alphabet : Alphabet) (c : Char) (start : Nat)
    (input : Input) : FailsFormally (readOutside alphabet c start input) := by
  unfold readOutside
  split
  · simp
  split
  · simp
  split
  · simp
  refine .bind (by simp) fun read? _ => ?_
  split <;> simp

end Escape

namespace SetItem

@[simp] theorem readMember_formally (alphabet : Alphabet) (start : Nat) (piece : Piece)
    (input : Input) : FailsFormally (readMember alphabet start piece input) := by
  unfold readMember
  split <;> simp

@[simp] theorem ofEnds_formally (low high : SetItem) (lowPiece highPiece : Piece) (input : Input) :
    FailsFormally (ofEnds low high lowPiece highPiece input) := by
  unfold ofEnds
  dsimp only
  split <;> simp

@[simp] theorem readAll_formally (alphabet : Alphabet) (start fuel : Nat) (items : List SetItem)
    (input : Input) : FailsFormally (readAll alphabet start fuel items input) := by
  induction fuel generalizing items input with
  | zero => simp [readAll]
  | succ fuel ih =>
    refine .bind (by simp) ?_
    rintro ⟨piece?, opened⟩ -
    cases piece? with
    | none => simp
    | some piece =>
      dsimp only
      split
      · simp
      refine .bind (by simp) ?_
      rintro ⟨low, lower⟩ -
      refine .bind (by simp) ?_
      rintro ⟨dash, dashed⟩ -
      dsimp only
      split
      · simp [ih]
      refine .bind (by simp) ?_
      rintro ⟨piece?, reopened⟩ -
      cases piece? with
      | none => simp
      | some highPiece => simp [ih]

end SetItem

namespace Lexeme

def countFits (digits : List Char) : Bool :=
  digits.length ≤ Number.digitLimit && Escape.number 10 digits < repeatLimit

/-- The counts of the braces that a text closes, if it does, are in range. -/
def countsFit (text : List Char) : Bool :=
  match text.dropWhile Char.isDigit with
  | '\x7d' :: _ => countFits (text.takeWhile Char.isDigit)
  | ',' :: rest =>
    match rest.dropWhile Char.isDigit with
    | '\x7d' :: _ =>
      countFits (text.takeWhile Char.isDigit) && countFits (rest.takeWhile Char.isDigit)
    | _ => true
  | _ => true

@[simp] theorem readFlagsOn_formally (alphabet : Alphabet) (fuel : Nat) (flag : Flag)
    (flags : Flags) (input : Input) :
    FailsFormally (readFlagsOn alphabet fuel flag flags input) := by
  induction fuel generalizing flag flags input with
  | zero => simp [readFlagsOn]
  | succ fuel ih =>
    unfold readFlagsOn
    dsimp only
    split
    · simp
    split
    · simp
    split
    · simp
    refine .bind (by simp) ?_
    rintro ⟨piece?, middle⟩ -
    cases piece? with
    | none => simp
    | some piece =>
      dsimp only
      split
      · simp
      · simp
      · simp
      · split <;> simp [ih]

@[simp] theorem readFlagsOff_formally (fuel : Nat) (flag : Flag) (flags : Flags) (input : Input) :
    FailsFormally (readFlagsOff fuel flag flags input) := by
  induction fuel generalizing flag flags input with
  | zero => simp [readFlagsOff]
  | succ fuel ih =>
    unfold readFlagsOff
    dsimp only
    split
    · simp
    refine .bind (by simp) ?_
    rintro ⟨piece?, middle⟩ -
    cases piece? with
    | none => simp
    | some piece =>
      dsimp only
      split
      · simp
      · split <;> simp [ih]

@[simp] theorem readOff_formally (input : Input) : FailsFormally (readOff input) := by
  refine .bind (by simp) ?_
  rintro ⟨piece?, middle⟩ -
  cases piece? with
  | none => simp
  | some piece =>
    dsimp only
    split <;> simp

@[simp] theorem scopedFlags_formally (on off : Flags) (input : Input) :
    FailsFormally (scopedFlags on off input) := by
  simp [scopedFlags]

@[simp] theorem readFlags_formally (alphabet : Alphabet) (first : Option Flag) (input : Input) :
    FailsFormally (readFlags alphabet first input) := by
  rw [readFlags_eq]
  refine .bind ?_ ?_
  · cases first <;> simp [flagsOn]
  · rintro ⟨on, stop, middle⟩ -
    unfold flagGroup
    dsimp only
    split
    · simp
    split
    · simp
    · simp

@[simp] theorem readNamed_formally (input : Input) : FailsFormally (readNamed input) := by
  have checked (name : List Char) (input : Input) : FailsFormally (checkName name input) := by
    simp [checkName]
  refine .bind (by simp) ?_
  rintro ⟨angle, named⟩ -
  dsimp only
  split
  · simp [checked]
  refine .bind (by simp) ?_
  rintro ⟨equals, referring⟩ -
  dsimp only
  split
  · simp [checked]
  refine .bind (by simp) ?_
  rintro ⟨piece?, after⟩ -
  cases piece? <;> simp

@[simp] theorem readBehind_formally (input : Input) : FailsFormally (readBehind input) := by
  refine .bind (by simp) ?_
  rintro ⟨piece?, after⟩ -
  cases piece? with
  | none => simp
  | some piece =>
    dsimp only
    split <;> simp

@[simp] theorem readOpening_formally (alphabet : Alphabet) (start : Nat) (input : Input) :
    FailsFormally (readOpening alphabet start input) := by
  refine .bind (by simp) ?_
  rintro ⟨question, opened⟩ -
  dsimp only
  split
  · simp
  refine .bind (by simp) ?_
  rintro ⟨piece?, middle⟩ -
  cases piece? with
  | none => simp
  | some piece =>
    dsimp only
    split <;> first | simp | (split <;> simp)

@[simp] theorem readSet_formally (alphabet : Alphabet) (start : Nat) (input : Input) :
    FailsFormally (readSet alphabet start input) := by
  simp [readSet]

/-- All braces of a text have counts in range. -/
def bracesFit : List Char → Bool
  | [] => true
  | c :: rest => (c != '\x7b' || countsFit rest) && bracesFit rest

def asksHere (flag : Flag) : List Char → Bool
  | '?' :: rest =>
    (rest.takeWhile Segment.isFlagLetter).any (fun c => Flag.ofLetter? c == some flag) &&
      (rest.dropWhile Segment.isFlagLetter).head? == some ')'
  | _ => false

/-- Some group of the text, if it is read as one, turns on the flag for the whole pattern. -/
def asksFor (flag : Flag) : List Char → Bool
  | [] => false
  | c :: rest => c == '(' && asksHere flag rest || asksFor flag rest

theorem Opens.simple {alphabet : Alphabet} {input after : Input} {lexeme : Lexeme}
    (opens : Opens alphabet input lexeme after) (simple : input.rest.head? ≠ some (.plain '?')) :
    lexeme = .opening (.capture none) := by
  cases opens <;> first | rfl | simp_all

end Lexeme

namespace Parser

@[simp] theorem checkLookbehind_formally (parser : Parser) (group : Nat) :
    FailsFormally (parser.checkLookbehind group) := by
  unfold checkLookbehind
  split <;> simp

@[simp] theorem condition_formally (parser : Parser) (name : List Char) :
    FailsFormally (parser.condition name) := by
  unfold condition
  dsimp only
  split
  · split <;> simp
  · split <;> simp

@[simp] theorem openGroup_formally (parser : Parser) (name : Option (List Char)) :
    FailsFormally (parser.openGroup name) := by
  unfold openGroup
  split
  · simp
  · split <;> simp

@[simp] theorem pushOpening_formally (parser : Parser) (opening : Opening) (start : Nat) :
    FailsFormally (parser.pushOpening opening start) := by
  cases opening <;> simp [pushOpening]

@[simp] theorem pushQuantifier_formally (parser : Parser) (least : Nat) (most : Option Nat)
    (start : Nat) : FailsFormally (parser.pushQuantifier least most start) := by
  unfold pushQuantifier
  split <;> simp

@[simp] theorem pushLexeme_formally (parser : Parser) (start : Nat) (lexeme : Lexeme) :
    FailsFormally (parser.pushLexeme start lexeme) := by
  cases lexeme with
  | reference group => simp [pushLexeme, pushReference]
  | namedReference name =>
    unfold pushLexeme pushNamedReference
    dsimp only
    split <;> simp
  | _ => simp [pushLexeme, pushGlobalFlags]

@[simp] theorem pushBar_formally (parser : Parser) (rest : List Piece) :
    FailsFormally (parser.pushBar rest) := by
  unfold pushBar
  dsimp only
  split <;> simp

@[simp] theorem pushClose_formally (parser : Parser) (next : Level) (outer : List Level)
    (rest : List Piece) : FailsFormally (parser.pushClose next outer rest) := by
  simp [pushClose]

def Begun (parser : Parser) : Prop :=
  parser.level.kind = .whole → parser.level.finished ≠ [] ∨ parser.level.items ≠ []

structure Follows (parser next : Parser) : Prop where
  flags : next.flags = parser.flags
  begun : parser.Begun → next.Begun

theorem Follows.push (parser : Parser) (item : Regex) : parser.Follows (parser.push item) :=
  ⟨rfl, fun _ _ => .inr (List.cons_ne_nil _ _)⟩

theorem pushQuantifier_follows (parser : Parser) (least : Nat) (most : Option Nat) (start : Nat) :
    Ensures (parser.pushQuantifier least most start) parser.Follows := by
  unfold pushQuantifier
  split
  · exact .error
  · exact .error
  · exact .error
  · refine (Ensures.trivial _).bind fun (lazy, _) _ => ?_
    refine Ensures.branch (Ensures.trivial _) fun _ _ => .ok ⟨rfl, fun _ _ => ?_⟩
    exact .inr (List.cons_ne_nil _ _)

theorem pushOpening_begins (parser : Parser) (opening : Opening) (start : Nat) :
    Ensures (parser.pushOpening opening start) fun next =>
      next.flags = parser.flags ∧ next.Begun := by
  cases opening with
  | capture name =>
    refine (parser.openGroup_opens name).bind ?_
    rintro _ ⟨names, rfl⟩
    exact .ok ⟨rfl, nofun⟩
  | behind negated =>
    refine .ok ⟨?_, nofun⟩
    dsimp only [openLevel]
    split <;> rfl
  | condition name =>
    refine (parser.condition_notes name).bind fun (next, group) ⟨⟨conditions, same⟩, _⟩ => ?_
    subst same
    exact (Ensures.trivial _).bind fun _ _ => .ok ⟨rfl, nofun⟩
  | _ => exact .ok ⟨rfl, nofun⟩

theorem pushLexeme_follows (parser : Parser) (start : Nat) (lexeme : Lexeme) :
    Ensures (parser.pushLexeme start lexeme) fun next => parser.Follows next ∨
      ∃ on, lexeme = .globalFlags on ∧ next.flags = parser.flags.union on ∧ ¬parser.Begun := by
  have here {computed : Except Rejection Parser} (follows : Ensures computed parser.Follows) :
      Ensures computed fun next => parser.Follows next ∨
        ∃ on, lexeme = .globalFlags on ∧ next.flags = parser.flags.union on ∧ ¬parser.Begun :=
    follows.mono fun _ => .inl
  cases lexeme with
  | blank => exact .ok (.inl ⟨rfl, id⟩)
  | item item => exact .ok (.inl (.push parser item))
  | quantifier least most => exact here (parser.pushQuantifier_follows least most start)
  | opening opening =>
    refine here ((parser.pushOpening_begins opening start).mono fun next begins => ?_)
    exact ⟨begins.1, fun _ => begins.2⟩
  | reference group =>
    refine (parser.pushReference_pushes group start).mono ?_
    rintro _ rfl
    exact .inl (.push parser _)
  | namedReference name =>
    refine (parser.pushNamedReference_pushes name).mono ?_
    rintro _ ⟨group, rfl⟩
    exact .inl (.push parser _)
  | globalFlags on =>
    unfold pushLexeme pushGlobalFlags
    dsimp only
    split
    · next first =>
      refine .ok (.inr ⟨on, rfl, rfl, fun begun => ?_⟩)
      simp only [Bool.and_eq_true, decide_eq_true_eq, List.isEmpty_iff] at first
      rcases begun first.1.1 with finished | items
      · exact finished first.1.2
      · exact items first.2
    · exact .error

theorem pushBar_follows (parser : Parser) (rest : List Piece) :
    Ensures (parser.pushBar rest) parser.Follows := by
  have barred (input : Input) : parser.Follows { parser with
      input
      level := { parser.level with
        finished := parser.level.current :: parser.level.finished, items := [] } } :=
    ⟨rfl, fun _ _ => .inl (List.cons_ne_nil _ _)⟩
  unfold pushBar
  dsimp only
  split
  · split
    · exact .error
    · exact (Ensures.trivial _).bind fun input _ => .ok (barred input)
  · exact (Ensures.trivial _).bind fun input _ => .ok (barred input)

theorem pushClose_follows (parser : Parser) (next : Level) (outer : List Level)
    (rest : List Piece) : Ensures (parser.pushClose next outer rest) parser.Follows :=
  (Ensures.trivial _).bind fun _ _ => .ok ⟨rfl, fun _ _ => .inr (List.cons_ne_nil _ _)⟩

theorem step_turns {alphabet : Alphabet} {parser next : Parser}
    (taken : parser.step alphabet = .ok (some next)) : parser.Follows next ∨
    ∃ on after, parser.Reads alphabet (.globalFlags on) after ∧
      next.flags = parser.flags.union on ∧ ¬parser.Begun := by
  cases advances_of_step taken with
  | close _ _ pushed => exact .inl (pushClose_follows _ _ _ _ _ pushed)
  | bar _ pushed => exact .inl (pushBar_follows _ _ _ pushed)
  | @lexeme lexeme after reads pushed =>
    rcases pushLexeme_follows { parser with input := after } _ lexeme _ pushed with
      follows | ⟨on, rfl, turned, first⟩
    · exact .inl ⟨follows.flags, follows.begun⟩
    · exact .inr ⟨on, after, reads, turned, first⟩

theorem has_union {flags on : Flags} {flag : Flag} :
    (flags.union on).has flag = true ↔ flags.has flag = true ∨ on.has flag = true := by
  simp [Flags.has, Flags.union]

end Parser

namespace Regex

@[simp] theorem check_formally (template : Bool) (regex : Regex) :
    FailsFormally (regex.check template) := by
  induction regex with
  | repeated greed least most body ih =>
    unfold check
    dsimp only
    split
    · simp [Rejection.IsFormal]
    · exact ih
  | _ => simp_all [check, Rejection.IsFormal]

end Regex

namespace Pattern

@[simp] theorem checkConditions_formally (groups : Nat) (conditions : List (Nat × Nat)) :
    FailsFormally (checkConditions groups conditions) := by
  induction conditions with
  | nil => simp [checkConditions]
  | cons condition conditions ih => simp [checkConditions, ih]

end Pattern

end RuleLexer
