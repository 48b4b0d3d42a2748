import RuleLexer.Proofs.Regex.Reading
import RuleLexer.Regex.Pattern

namespace RuleLexer

namespace Parser

/-- One step; none where the parser stops, at the end of the pattern or at a parenthesis that closes
nothing. -/
def step (alphabet : Alphabet) (parser : Parser) : Except Rejection (Option Parser) :=
  match parser.input.rest with
  | [] =>
    match parser.outer with
    | [] => .ok none
    | _ :: _ => .error (Fault.unterminatedGroup.at parser.level.start)
  | .plain ')' :: rest =>
    match parser.outer with
    | [] => .ok none
    | next :: outer => do return some (← parser.pushClose next outer rest)
  | .plain '|' :: rest => do return some (← parser.pushBar rest)
  | piece :: rest => do
    let input ← Input.goTo (parser.input.position + piece.length) rest
    let (lexeme, input) ←
      Lexeme.read alphabet parser.level.verbose piece parser.input.position input
    return some (← { parser with input }.pushLexeme parser.input.position lexeme)

theorem step_close (alphabet : Alphabet) {parser : Parser} {next : Level} {outer : List Level}
    {rest : List Piece} (head : parser.input.rest = .plain ')' :: rest)
    (stack : parser.outer = next :: outer) : parser.step alphabet =
      parser.pushClose next outer rest >>= fun next => .ok (some next) := by
  simp only [step, head, stack]
  rfl

theorem step_bar (alphabet : Alphabet) {parser : Parser} {rest : List Piece}
    (head : parser.input.rest = .plain '|' :: rest) : parser.step alphabet =
      parser.pushBar rest >>= fun next => .ok (some next) := by
  simp only [step, head]
  rfl

theorem step_lexeme (alphabet : Alphabet) {parser : Parser} {piece : Piece} {rest : List Piece}
    (head : parser.input.rest = piece :: rest) (closing : piece ≠ .plain ')')
    (bar : piece ≠ .plain '|') : parser.step alphabet = (do
      let input ← Input.goTo (parser.input.position + piece.length) rest
      let (lexeme, input) ←
        Lexeme.read alphabet parser.level.verbose piece parser.input.position input
      { parser with input }.pushLexeme parser.input.position lexeme) >>=
        fun next => .ok (some next) := by
  rw [step, head]
  split
  · simp_all
  · simp_all
  · simp_all
  · next same =>
    cases same
    simp only [bind_assoc]
    rfl

/-- The parser reads this lexeme next, up to where it goes on. -/
def Reads (alphabet : Alphabet) (parser : Parser) (lexeme : Lexeme) (after : Input) : Prop :=
  ∃ piece rest input, parser.input.rest = piece :: rest ∧ piece ≠ .plain ')' ∧ piece ≠ .plain '|' ∧
    Input.goTo (parser.input.position + piece.length) rest = .ok input ∧
    Lexeme.read alphabet parser.level.verbose piece parser.input.position input = .ok (lexeme, after)

section

variable {alphabet : Alphabet} {parser next : Parser}

theorem Reads.step_eq {lexeme : Lexeme} {after : Input} (reads : parser.Reads alphabet lexeme after) :
    parser.step alphabet =
      { parser with input := after }.pushLexeme parser.input.position lexeme >>= fun next =>
        .ok (some next) := by
  obtain ⟨piece, rest, input, head, closing, bar, moved, read⟩ := reads
  rw [step_lexeme alphabet head closing bar, moved, ok_bind, read]
  rfl

inductive Advances (alphabet : Alphabet) (parser next : Parser) : Prop
  | close {level : Level} {outer : List Level} {rest : List Piece}
    (head : parser.input.rest = .plain ')' :: rest) (stack : parser.outer = level :: outer)
    (pushed : parser.pushClose level outer rest = .ok next)
  | bar {rest : List Piece} (head : parser.input.rest = .plain '|' :: rest)
    (pushed : parser.pushBar rest = .ok next)
  | lexeme {lexeme : Lexeme} {after : Input} (reads : parser.Reads alphabet lexeme after)
    (pushed : { parser with input := after }.pushLexeme parser.input.position lexeme = .ok next)

theorem advances_of_step (taken : parser.step alphabet = .ok (some next)) :
    parser.Advances alphabet next := by
  have some {computed : Except Rejection Parser}
      (taken : (computed >>= fun next => .ok (some next)) = .ok (some next)) :
      computed = .ok next := by
    obtain ⟨_, pushed, same⟩ := bind_eq_ok_iff.mp taken
    cases same
    exact pushed
  cases head : parser.input.rest with
  | nil => cases stack : parser.outer <;> simp [step, head, stack] at taken
  | cons piece rest =>
    by_cases closing : piece = .plain ')'
    · subst closing
      cases stack : parser.outer with
      | nil => simp [step, head, stack] at taken
      | cons level outer =>
        rw [step_close alphabet head stack] at taken
        exact .close head stack (some taken)
    by_cases bar : piece = .plain '|'
    · subst bar
      rw [step_bar alphabet head] at taken
      exact .bar head (some taken)
    · rw [step_lexeme alphabet head closing bar] at taken
      obtain ⟨input, moved, later⟩ := bind_eq_ok_iff.mp (some taken)
      obtain ⟨⟨lexeme, after⟩, read, pushed⟩ := bind_eq_ok_iff.mp later
      exact .lexeme ⟨piece, rest, input, head, closing, bar, moved, read⟩ pushed

end

def parse (alphabet : Alphabet) (parser : Parser) : Except Rejection Parser :=
  parser.run alphabet (parser.input.rest.length + 1)

theorem run_succ (alphabet : Alphabet) (fuel : Nat) (parser : Parser) :
    run alphabet (fuel + 1) parser = parser.step alphabet >>= fun next? =>
      match next? with
      | none => .ok parser
      | some next => next.run alphabet fuel := by
  unfold step
  split
  · next empty =>
    simp only [run, empty]
    cases parser.outer <;> rfl
  · next closing =>
    simp only [run, closing]
    cases parser.outer with
    | nil => rfl
    | cons next outer =>
      dsimp only
      cases parser.pushClose _ _ _ <;> rfl
  · next bar =>
    simp only [run, bar]
    cases parser.pushBar _ <;> rfl
  · next piece rest noClosing noBar head =>
    have here : run alphabet (fuel + 1) parser = (do
        let input ← Input.goTo (parser.input.position + piece.length) rest
        let (lexeme, input) ←
          Lexeme.read alphabet parser.level.verbose piece parser.input.position input
        run alphabet fuel
          (← { parser with input }.pushLexeme parser.input.position lexeme)) := by
      rw [run, head]
      split <;> simp_all
    rw [here]
    cases Input.goTo (parser.input.position + piece.length) rest with
    | error failure => rfl
    | ok input =>
      cases read : Lexeme.read alphabet parser.level.verbose piece parser.input.position input with
      | error failure => simp [read, bind, Except.bind]
      | ok pair =>
        obtain ⟨lexeme, after⟩ := pair
        simp only [bind, Except.bind, read]
        cases pushLexeme _ _ lexeme <;> rfl

theorem pushQuantifier_skips (parser : Parser) (least : Nat) (most : Option Nat) (start : Nat) :
    Ensures (parser.pushQuantifier least most start) fun next =>
      ∃ input level, next = { parser with input, level } ∧ parser.input.Skips input ∧
        level.verbose = parser.level.verbose := by
  have mute : (Piece.plain '?').isMute = true ∧ (Piece.plain '+').isMute = true := by decide
  unfold pushQuantifier
  split
  · exact .error
  · exact .error
  · exact .error
  · refine (parser.input.accept_skips mute.1).bind ?_
    rintro ⟨lazy, middle⟩ first
    have second : Ensures (if lazy then .ok (false, middle) else middle.accept '+')
        fun result => middle.Skips result.2 := by
      split
      · exact .ok (.refl middle)
      · exact middle.accept_skips mute.2
    exact second.branch fun _ second => .ok ⟨_, _, rfl, first.trans second, rfl⟩

theorem openGroup_opens (parser : Parser) (name : Option (List Char)) :
    Ensures (parser.openGroup name) fun next =>
      ∃ names, next = { parser with groups := parser.groups + 1, names } := by
  unfold openGroup
  split
  · exact .ok ⟨_, rfl⟩
  · split
    · exact .error
    · exact .ok ⟨_, rfl⟩

theorem pushReference_pushes (parser : Parser) (group start : Nat) :
    Ensures (parser.pushReference group start) fun next => next = parser.push (.backref group) := by
  unfold pushReference
  dsimp only
  split
  · exact .error
  split
  · exact .error
  · exact (Ensures.trivial _).bind fun _ _ => .ok rfl

theorem pushNamedReference_pushes (parser : Parser) (name : List Char) :
    Ensures (parser.pushNamedReference name) fun next =>
      ∃ group, next = parser.push (.backref group) := by
  unfold pushNamedReference
  dsimp only
  split
  · split
    · exact .error
    · exact (Ensures.trivial _).bind fun _ _ => .ok ⟨_, rfl⟩
  · exact .error

theorem condition_notes (parser : Parser) (name : List Char) :
    Ensures (parser.condition name) fun (next, _) =>
      (∃ conditions, next = { parser with conditions }) ∧
        (Text.isIdentifier name = true ∨ ∃ value, Number.readInt name = .ok value) := by
  unfold condition
  dsimp only
  split
  · next identifier =>
    split
    · exact .ok ⟨⟨_, rfl⟩, .inl identifier⟩
    · exact .error
  · split
    · exact .error
    · next read =>
      split
      · exact .error
      split
      · exact .ok ⟨⟨_, rfl⟩, .inr ⟨_, read⟩⟩
      · exact .ok ⟨⟨_, rfl⟩, .inr ⟨_, read⟩⟩
    · exact .error

theorem pushOpening_input (parser : Parser) (opening : Opening) (start : Nat) :
    Ensures (parser.pushOpening opening start) fun next => next.input = parser.input := by
  cases opening with
  | capture name =>
    refine (parser.openGroup_opens name).bind ?_
    rintro _ ⟨names, rfl⟩
    exact .ok rfl
  | «scoped» on off => exact .ok rfl
  | atomic => exact .ok rfl
  | ahead negated => exact .ok rfl
  | behind negated =>
    refine .ok ?_
    dsimp only [openLevel]
    split <;> rfl
  | condition name =>
    refine (parser.condition_notes name).bind fun (next, group) ⟨⟨conditions, same⟩, _⟩ => ?_
    subst same
    exact (Ensures.trivial _).bind fun _ _ => .ok rfl

theorem pushLexeme_leaves (parser : Parser) (start : Nat) (lexeme : Lexeme) :
    Ensures (parser.pushLexeme start lexeme) fun next => parser.input.Leaves next.input := by
  have here {computed : Except Rejection Parser}
      (same : Ensures computed fun next => next.input = parser.input) :
      Ensures computed fun next => parser.input.Leaves next.input :=
    same.mono fun next same => same ▸ .refl _
  cases lexeme with
  | blank => exact .ok (.refl _)
  | item item => exact .ok (.refl _)
  | quantifier least most =>
    refine (parser.pushQuantifier_skips least most start).mono ?_
    rintro _ ⟨input, level, rfl, skips, -⟩
    exact skips.leaves
  | reference group =>
    exact here ((parser.pushReference_pushes group start).mono fun next same => by rw [same]; rfl)
  | namedReference name =>
    refine here ((parser.pushNamedReference_pushes name).mono fun next pushed => ?_)
    obtain ⟨group, rfl⟩ := pushed
    rfl
  | opening opening => exact here (parser.pushOpening_input opening start)
  | globalFlags on =>
    apply here
    unfold pushLexeme pushGlobalFlags
    dsimp only
    split
    · exact .ok rfl
    · exact .error

theorem pushBar_rest (parser : Parser) (rest : List Piece) :
    Ensures (parser.pushBar rest) fun next => next.input.rest = rest := by
  unfold pushBar
  dsimp only
  split
  · split
    · exact .error
    · exact (Input.goTo_rest _ rest).bind fun input same => .ok same
  · exact (Input.goTo_rest _ rest).bind fun input same => .ok same

theorem pushClose_rest (parser : Parser) (next : Level) (outer : List Level) (rest : List Piece) :
    Ensures (parser.pushClose next outer rest) fun next => next.input.rest = rest :=
  (Input.goTo_rest _ rest).bind fun _ same => .ok same

theorem step_takes {alphabet : Alphabet} {parser next : Parser}
    (taken : parser.step alphabet = .ok (some next)) :
    ∃ piece rest, parser.input.rest = piece :: rest ∧ next.input.rest <:+ rest := by
  cases advances_of_step taken with
  | close head _ pushed =>
    exact ⟨_, _, head, pushClose_rest _ _ _ _ _ pushed ▸ List.suffix_rfl⟩
  | bar head pushed => exact ⟨_, _, head, pushBar_rest _ _ _ pushed ▸ List.suffix_rfl⟩
  | @lexeme lexeme after reads pushed =>
    obtain ⟨piece, rest, input, head, -, -, moved, read⟩ := reads
    have first := (Lexeme.read_leaves _ _ _ _ input _ read).2
    have second := pushLexeme_leaves { parser with input := after } _ lexeme _ pushed
    exact ⟨piece, rest, head, Input.goTo_rest _ _ _ moved ▸ first.trans second⟩

theorem step_leaves {alphabet : Alphabet} {parser next : Parser}
    (taken : parser.step alphabet = .ok (some next)) : parser.input.Leaves next.input := by
  obtain ⟨piece, rest, head, ends⟩ := step_takes taken
  show next.input.rest <:+ parser.input.rest
  rw [head]
  exact ends.trans (List.suffix_cons piece rest)

theorem step_shorter {alphabet : Alphabet} {parser next : Parser}
    (taken : parser.step alphabet = .ok (some next)) :
    next.input.rest.length < parser.input.rest.length := by
  obtain ⟨piece, rest, head, ends⟩ := step_takes taken
  rw [head]
  exact Nat.lt_succ_of_le ends.length_le

/-- Fuel beyond the length of the input makes no difference. -/
theorem run_congr (alphabet : Alphabet) {fuel other : Nat} {parser : Parser}
    (enough : parser.input.rest.length < fuel) (alsoEnough : parser.input.rest.length < other) :
    run alphabet fuel parser = run alphabet other parser := by
  induction fuel generalizing other parser with
  | zero => omega
  | succ fuel ih =>
    cases other with
    | zero => omega
    | succ other =>
      rw [run_succ, run_succ]
      cases taken : parser.step alphabet with
      | error failure => rfl
      | ok next? =>
        cases next? with
        | none => rfl
        | some next =>
          have shorter := step_shorter taken
          exact ih (by omega) (by omega)

theorem parse_eq (alphabet : Alphabet) (parser : Parser) :
    parser.parse alphabet = parser.step alphabet >>= fun next? =>
      match next? with
      | none => .ok parser
      | some next => next.parse alphabet := by
  rw [parse, run_succ]
  cases taken : parser.step alphabet with
  | error failure => rfl
  | ok next? =>
    cases next? with
    | none => rfl
    | some next =>
      have shorter := step_shorter taken
      exact run_congr alphabet shorter (Nat.lt_succ_self _)

theorem parse_step {alphabet : Alphabet} {parser next : Parser}
    {computed : Except Rejection Parser}
    (steps : parser.step alphabet = computed >>= fun next => .ok (some next))
    (taken : computed = .ok next) : parser.parse alphabet = next.parse alphabet := by
  rw [parse_eq, steps, taken]
  rfl

theorem parse_close (alphabet : Alphabet) {parser : Parser} {level : Level} {outer : List Level}
    {rest : List Piece} (head : parser.input.rest = .plain ')' :: rest)
    (stack : parser.outer = level :: outer) (onward : rest ≠ [.dangling]) :
    ∃ widths lookbehind, parser.parse alphabet = Parser.parse alphabet { parser with
      input := ⟨parser.input.position + 1, rest⟩
      level := level.push parser.closedItem
      outer, widths, lookbehind } := by
  have closed : ∃ widths lookbehind, parser.pushClose level outer rest = .ok { parser with
      input := ⟨parser.input.position + 1, rest⟩
      level := level.push parser.closedItem
      outer, widths, lookbehind } := by
    unfold pushClose
    rw [Input.goTo, if_neg onward]
    exact ⟨_, _, rfl⟩
  obtain ⟨widths, lookbehind, closed⟩ := closed
  exact ⟨widths, lookbehind, parse_step (step_close alphabet head stack) closed⟩

theorem parse_induction (alphabet : Alphabet) {motive : Parser → Prop}
    (step : ∀ parser : Parser,
      (∀ next, parser.step alphabet = .ok (some next) → motive next) → motive parser)
    (parser : Parser) : motive parser := by
  obtain ⟨size, bound⟩ : ∃ size, parser.input.rest.length < size := ⟨_, Nat.lt_succ_self _⟩
  induction size generalizing parser with
  | zero => omega
  | succ size ih =>
    refine step parser fun next taken => ih next ?_
    have shorter := step_shorter taken
    omega

/-- What holds at the start and is preserved by every step holds where the parser stops. -/
theorem parse_invariant {alphabet : Alphabet} {invariant : Parser → Prop}
    (preserved : ∀ parser next, invariant parser → parser.step alphabet = .ok (some next) →
      invariant next) {parser stopped : Parser} (initially : invariant parser)
    (parsed : parser.parse alphabet = .ok stopped) :
    invariant stopped ∧ stopped.step alphabet = .ok none := by
  induction parser using parse_induction alphabet with
  | step parser ih =>
    rw [parse_eq] at parsed
    obtain ⟨next?, taken, parsed⟩ := bind_eq_ok_iff.mp parsed
    cases next? with
    | none =>
      cases parsed
      exact ⟨initially, taken⟩
    | some next => exact ih next taken (preserved parser next initially taken) parsed

theorem outer_of_stopped {alphabet : Alphabet} {parser : Parser}
    (stopped : parser.step alphabet = .ok none) : parser.outer = [] := by
  have outside : Ensures (parser.step alphabet) fun next? => next? = none → parser.outer = [] := by
    unfold step
    split
    · split
      · next none => exact .ok fun _ => none
      · exact .error
    · split
      · next none => exact .ok fun _ => none
      · exact (Ensures.trivial _).bind fun _ _ => .ok nofun
    · exact (Ensures.trivial _).bind fun _ _ => .ok nofun
    · refine (Ensures.trivial _).bind fun _ _ => (Ensures.trivial _).bind fun _ _ => ?_
      exact (Ensures.trivial _).bind fun _ _ => .ok nofun
  exact outside none stopped rfl

end Parser

namespace Regex

theorem check_seq {template : Bool} {first second : Regex} :
    (seq first second).check template = .ok () ↔
      first.check template = .ok () ∧ second.check template = .ok () := by
  constructor
  · intro passed
    obtain ⟨_, one, other⟩ := bind_eq_ok_iff.mp passed
    exact ⟨one, other⟩
  · rintro ⟨one, other⟩
    exact bind_eq_ok_iff.mpr ⟨(), one, other⟩

theorem check_ofItems_iff {template : Bool} {items : List Regex} :
    (ofItems items).check template = .ok () ↔ ∀ item ∈ items, item.check template = .ok () := by
  induction items with
  | nil => exact ⟨fun _ _ member => absurd member List.not_mem_nil, fun _ => rfl⟩
  | cons item items ih =>
    cases items with
    | nil => simp [ofItems]
    | cons second others =>
      rw [List.forall_mem_cons, ← ih]
      exact check_seq

theorem check_ofAlternatives_iff {template : Bool} {choices : List Regex} :
    (ofAlternatives choices).check template = .ok () ↔
      ∀ choice ∈ choices, choice.check template = .ok () := by
  induction choices with
  | nil => exact ⟨fun _ _ member => absurd member List.not_mem_nil, fun _ => rfl⟩
  | cons choice choices ih =>
    cases choices with
    | nil => simp [ofAlternatives]
    | cons second others =>
      rw [List.forall_mem_cons, ← ih]
      exact check_seq

theorem check_repeated {template : Bool} {greed : Greed} {least : Nat} {most : Option Nat}
    {body : Regex} : (repeated greed least most body).check template = .ok () ↔
      template = false ∧ body.check template = .ok () := by
  cases template with
  | false => exact ⟨fun passed => ⟨rfl, passed⟩, And.right⟩
  | true => exact ⟨nofun, nofun⟩

end Regex

namespace Pattern

/-- How a source becomes a pattern: it is parsed to its end by `parser`, the flags can be settled,
and the checks on the whole pattern pass. -/
structure Parsed (alphabet : Alphabet) (source : List Char) (asked : Int) (pattern : Pattern)
    (parser : Parser) : Prop where
  parses : ∃ input, Input.ofSource source = .ok input ∧
    (Parser.start input (.ofInt asked)).parse alphabet = .ok parser
  ends : parser.input.rest = []
  settles : parser.flags.settle alphabet = .ok pattern.flags
  conditions : checkConditions parser.groups parser.conditions.reverse = .ok ()
  checks : pattern.regex.check (pattern.flags.has .template) = .ok ()
  fits : Flags.fits asked = true
  made : pattern = ⟨source, parser.level.body, parser.groups, parser.names.reverse, pattern.flags⟩

theorem compile_eq_ok_iff {alphabet : Alphabet} {source : List Char} {asked : Int}
    {pattern : Pattern} : compile alphabet source asked = .ok pattern ↔
      ∃ parser, Parsed alphabet source asked pattern parser := by
  unfold compile
  constructor
  · intro compiled
    obtain ⟨input, read, compiled⟩ := bind_eq_ok_iff.mp compiled
    obtain ⟨parser, parses, compiled⟩ := bind_eq_ok_iff.mp compiled
    obtain ⟨flags, settles, compiled⟩ := bind_eq_ok_iff.mp compiled
    dsimp only at compiled
    split at compiled
    · cases compiled
    · next ends =>
      obtain ⟨_, conditions, compiled⟩ := bind_eq_ok_iff.mp compiled
      obtain ⟨_, checks, compiled⟩ := bind_eq_ok_iff.mp compiled
      split at compiled
      · cases compiled
      · next fits =>
        cases compiled
        exact ⟨parser, ⟨input, read, parses⟩, by simpa using ends, settles, conditions, checks,
          by simpa using fits, rfl⟩
  · rintro ⟨parser, ⟨input, read, parses⟩, ends, settles, conditions, checks, fits, made⟩
    refine bind_eq_ok_iff.mpr ⟨input, read, bind_eq_ok_iff.mpr ⟨parser, parses, ?_⟩⟩
    refine bind_eq_ok_iff.mpr ⟨pattern.flags, settles, ?_⟩
    have same : parser.level.body = pattern.regex := (congrArg Pattern.regex made).symm
    rw [if_neg (by simp [ends])]
    refine bind_eq_ok_iff.mpr ⟨(), conditions, bind_eq_ok_iff.mpr ⟨(), same ▸ checks, ?_⟩⟩
    rw [if_neg (by simp [fits])]
    exact congrArg Except.ok made.symm

end Pattern

end RuleLexer
