import Mathlib.Logic.Relation
import RuleLexer.Proofs.Regex.Rejection
import RuleLexer.Proofs.Regex.Shadowing

namespace RuleLexer

def Input.Clears (input after : Input) : Prop :=
  Sound after.rest ∧ ∃ chunk, input.rest = chunk ++ after.rest ∧ .dangling ∉ chunk

namespace Input.Clears

variable {input middle after : Input}

theorem refl (sound : Sound input.rest) : input.Clears input :=
  ⟨sound, [], rfl, List.not_mem_nil⟩

theorem trans (first : input.Clears middle) (second : middle.Clears after) :
    input.Clears after := by
  obtain ⟨-, chunk, split, closed⟩ := first
  obtain ⟨sound, chunk', split', closed'⟩ := second
  refine ⟨sound, chunk ++ chunk', by rw [split, split', List.append_assoc], fun member => ?_⟩
  exact (List.mem_append.mp member).elim closed closed'

theorem closed (clears : input.Clears after) (closed : .dangling ∉ after.rest) :
    .dangling ∉ input.rest := by
  obtain ⟨-, chunk, split, closed'⟩ := clears
  rw [split]
  exact fun member => (List.mem_append.mp member).elim closed' closed

end Input.Clears

theorem Local.clears {α : Type} {kind : Piece → Bool} {input : Input}
    {computed : Except Rejection (α × Input)} {again : Nat → Input → Except Rejection (α × Input)}
    (reads : Local kind input computed again) (sound : Sound input.rest) :
    Ensures computed fun (_, after) => input.Clears after :=
  (reads sound).mono fun _ ⟨sound, chunk, split, closed, _⟩ => ⟨sound, chunk, split, closed⟩

namespace Parser

/-- One parser comes to the state of the other. -/
def Comes (alphabet : Alphabet) : Parser → Parser → Prop :=
  Relation.ReflTransGen fun parser next => parser.step alphabet = .ok (some next)

variable {alphabet : Alphabet} {parser next stopped : Parser}

theorem Reads.of_comment {lexeme : Lexeme} {after : Input} {rest : List Piece}
    (reads : parser.Reads alphabet lexeme after) (verbose : parser.level.verbose = true)
    (head : parser.input.rest = .plain '#' :: rest) :
    lexeme = .blank ∧ ((∃ body, rest = body ++ .plain '\n' :: after.rest ∧ .plain '\n' ∉ body) ∨
      .plain '\n' ∉ rest ∧ after.rest = []) := by
  obtain ⟨_, _, input, head', -, -, moved, read⟩ := reads
  rw [head] at head'
  cases head'
  rw [verbose] at read
  obtain ⟨⟨found, left⟩, skipped, same⟩ := bind_eq_ok_iff.mp read
  cases same
  rw [Input.goTo_rest _ _ input moved] at skipped
  have spot := Input.skipPast_reads _ _ _ _ skipped
  cases found with
  | true => exact ⟨rfl, .inl spot⟩
  | false => exact ⟨rfl, .inr ⟨Input.skipPast_missing _ _ _ _ skipped rfl, spot⟩⟩

theorem reads_comment {after : Input} {rest : List Piece} {found : Bool}
    (verbose : parser.level.verbose = true) (head : parser.input.rest = .plain '#' :: rest)
    (more : rest ≠ [.dangling])
    (skipped : Input.skipPast '\n' (parser.input.position + 1) rest = .ok (found, after)) :
    parser.Reads alphabet .blank after := by
  refine ⟨_, _, ⟨parser.input.position + 1, rest⟩, head, by decide, by decide, if_neg more, ?_⟩
  rw [verbose]
  show (Input.skipPast '\n' (parser.input.position + 1) rest >>= _) = _
  rw [skipped]
  rfl

theorem Comes.parse_eq (comes : parser.Comes alphabet next) :
    parser.parse alphabet = next.parse alphabet := by
  induction comes with
  | refl => rfl
  | tail _ taken same =>
    rw [same, Parser.parse_eq, taken]
    rfl

theorem Comes.of_stopped (comes : parser.Comes alphabet next)
    (stopped : parser.step alphabet = .ok none) : next = parser := by
  cases comes.cases_head with
  | inl same => exact same.symm
  | inr taken =>
    obtain ⟨_, taken, -⟩ := taken
    cases stopped.symm.trans taken

theorem Comes.uncons (comes : parser.Comes alphabet stopped)
    (taken : parser.step alphabet = .ok (some next)) :
    stopped = parser ∨ next.Comes alphabet stopped := by
  refine comes.cases_head.imp Eq.symm ?_
  rintro ⟨_, taken', comes⟩
  cases taken.symm.trans taken'
  exact comes

theorem Comes.leaves (comes : parser.Comes alphabet next) : parser.input.Leaves next.input := by
  induction comes with
  | refl => exact .refl _
  | tail _ taken leaves => exact leaves.trans (step_leaves taken)

theorem Comes.eq_of_length_le (comes : parser.Comes alphabet next)
    (longer : parser.input.rest.length ≤ next.input.rest.length) : next = parser := by
  rcases comes.cases_head with same | ⟨middle, taken, comes⟩
  · exact same.symm
  · have shorter := step_shorter taken
    have onward := (Comes.leaves comes).length_le
    omega

theorem Comes.total {other : Parser} (comes : parser.Comes alphabet next)
    (comes' : parser.Comes alphabet other) : next.Comes alphabet other ∨ other.Comes alphabet next := by
  refine Relation.ReflTransGen.total_of_right_unique ?_ comes comes'
  intro one first second taken taken'
  cases taken.symm.trans taken'
  rfl

theorem step_of_parse (parsed : parser.parse alphabet = .ok stopped) :
    stopped.step alphabet = .ok none := by
  have kept (one other : Parser) (_ : True) (_ : one.step alphabet = .ok (some other)) : True :=
    trivial
  exact (parse_invariant kept trivial parsed).2

theorem comes_of_parse (parsed : parser.parse alphabet = .ok stopped) :
    parser.Comes alphabet stopped := by
  have kept (one other : Parser) (comes : parser.Comes alphabet one)
      (taken : one.step alphabet = .ok (some other)) : parser.Comes alphabet other := .tail comes taken
  exact (parse_invariant kept .refl parsed).1

theorem lexeme_of_parse {piece : Piece} {rest : List Piece}
    (head : parser.input.rest = piece :: rest) (closing : piece ≠ .plain ')')
    (bar : piece ≠ .plain '|') (parsed : parser.parse alphabet = .ok stopped) :
    ∃ next lexeme after, parser.step alphabet = .ok (some next) ∧ parser.Reads alphabet lexeme after ∧
      { parser with input := after }.pushLexeme parser.input.position lexeme = .ok next := by
  rw [Parser.parse_eq] at parsed
  obtain ⟨next?, taken, -⟩ := bind_eq_ok_iff.mp parsed
  have goes {computed : Except Rejection Parser}
      (same : (computed >>= fun next => .ok (some next)) = .ok next?) : ∃ next, next? = some next := by
    obtain ⟨next, -, same⟩ := bind_eq_ok_iff.mp same
    exact ⟨next, (Except.ok.inj same).symm⟩
  obtain ⟨next, rfl⟩ := goes ((step_lexeme alphabet head closing bar).symm.trans taken)
  refine ⟨next, ?_⟩
  cases advances_of_step taken with
  | close other => exact absurd (List.cons.inj (head.symm.trans other)).1 closing
  | bar other => exact absurd (List.cons.inj (head.symm.trans other)).1 bar
  | lexeme reads pushed => exact ⟨_, _, taken, reads, pushed⟩

theorem parse_of_nil (rest : parser.input.rest = []) (parsed : parser.parse alphabet = .ok stopped) :
    parser.outer = [] ∧ stopped = parser := by
  rw [Parser.parse_eq, step, rest] at parsed
  cases stack : parser.outer with
  | nil =>
    simp only [stack] at parsed
    exact ⟨rfl, (Except.ok.inj parsed).symm⟩
  | cons level outer =>
    simp only [stack] at parsed
    cases parsed

theorem Reads.not_stopped {lexeme : Lexeme} {after : Input}
    (reads : parser.Reads alphabet lexeme after) : parser.step alphabet ≠ .ok none := by
  rw [reads.step_eq]
  intro same
  obtain ⟨_, -, some⟩ := bind_eq_ok_iff.mp same
  cases some

theorem Reads.clears {lexeme : Lexeme} {after : Input} (reads : parser.Reads alphabet lexeme after)
    (sound : Sound parser.input.rest) : parser.input.Clears after := by
  obtain ⟨piece, rest, input, head, -, -, moved, read⟩ := reads
  rw [head] at sound
  obtain ⟨same, closed, onward⟩ := sound.goTo moved
  rw [← same] at onward
  have first : parser.input.Clears input :=
    ⟨onward, [piece], by rw [head, same]; rfl, by simpa using closed.symm⟩
  refine first.trans ?_
  by_cases comment : parser.level.verbose = true ∧ piece = .plain '#'
  · obtain ⟨verbose, rfl⟩ := comment
    rw [verbose] at read
    obtain ⟨⟨_, left⟩, skipped, same⟩ := bind_eq_ok_iff.mp read
    cases same
    exact Local.skipPast_closed onward _ _ skipped
  · exact (Lexeme.read_local alphabet _ 0 comment).clears onward _ read

theorem accept_clears {input : Input} (sound : Sound input.rest) {d : Char} (mark : d = '?' ∨ d = '+') :
    Ensures (input.accept d) fun (_, after) => input.Clears after := by
  have busy : (Piece.plain d).isIdle = false := by rcases mark with rfl | rfl <;> decide
  have accepts : Local (fun _ => true) input (input.accept d) fun _ twin => twin.accept d :=
    .accept rfl busy
  exact accepts.clears sound

theorem pushQuantifier_clears (parser : Parser) (sound : Sound parser.input.rest) (least : Nat)
    (most : Option Nat) (start : Nat) : Ensures (parser.pushQuantifier least most start)
      fun next => parser.input.Clears next.input := by
  unfold pushQuantifier
  split
  · exact .error
  · exact .error
  · exact .error
  · refine (accept_clears sound (.inl rfl)).bind ?_
    rintro ⟨lazy, middle⟩ first
    have second : Ensures (if lazy then .ok (false, middle) else middle.accept '+')
        fun (_, after) => middle.Clears after := by
      split
      · exact .ok (.refl first.1)
      · exact accept_clears first.1 (.inr rfl)
    exact second.branch fun _ second => .ok (first.trans second)

theorem pushLexeme_clears (parser : Parser) (sound : Sound parser.input.rest) (start : Nat)
    (lexeme : Lexeme) : Ensures (parser.pushLexeme start lexeme) fun next =>
      parser.input.Clears next.input := by
  have here {computed : Except Rejection Parser}
      (same : Ensures computed fun next => next.input = parser.input) :
      Ensures computed fun next => parser.input.Clears next.input :=
    same.mono fun next same => by
      rw [same]
      exact .refl sound
  cases lexeme with
  | blank => exact .ok (.refl sound)
  | item item => exact .ok (.refl sound)
  | quantifier least most => exact parser.pushQuantifier_clears sound least most start
  | reference group =>
    exact here ((parser.pushReference_pushes group start).mono fun next same => by rw [same]; rfl)
  | namedReference name =>
    refine here ((parser.pushNamedReference_pushes name).mono fun next pushed => ?_)
    obtain ⟨group, rfl⟩ := pushed
    rfl
  | opening opening => exact here (parser.pushOpening_input opening start)
  | globalFlags on =>
    apply here
    unfold pushLexeme pushGlobalFlags
    dsimp only
    split
    · exact .ok rfl
    · exact .error

theorem step_clears (sound : Sound parser.input.rest)
    (taken : parser.step alphabet = .ok (some next)) : parser.input.Clears next.input := by
  cases advances_of_step taken with
  | close head _ pushed =>
    obtain ⟨input, moved, same⟩ := bind_eq_ok_iff.mp pushed
    cases same
    rw [head] at sound
    obtain ⟨same, closed, sound⟩ := sound.goTo moved
    exact ⟨same ▸ sound, [.plain ')'], by rw [head, same]; rfl, by simp⟩
  | bar head pushed =>
    rw [pushBar_eq] at pushed
    split at pushed
    · cases pushed
    · obtain ⟨input, moved, same⟩ := bind_eq_ok_iff.mp pushed
      cases same
      rw [head] at sound
      obtain ⟨same, closed, sound⟩ := sound.goTo moved
      exact ⟨same ▸ sound, [.plain '|'], by rw [head, same]; rfl, by simp⟩
  | lexeme reads pushed =>
    have first := reads.clears sound
    exact first.trans (pushLexeme_clears { parser with input := _ } first.1 _ _ _ pushed)

theorem Comes.flags_eq (comes : parser.Comes alphabet next)
    (modest : ∀ met on after, parser.Comes alphabet met → ¬met.Reads alphabet (.globalFlags on) after) :
    next.flags = parser.flags := by
  induction comes with
  | refl => rfl
  | tail before taken same =>
    rcases step_turns taken with follows | ⟨on, after, reads, -⟩
    · exact follows.flags.trans same
    · exact absurd reads (modest _ on after before)

theorem Comes.has_of_has (comes : parser.Comes alphabet next) {flag : Flag}
    (has : parser.flags.has flag = true) : next.flags.has flag = true := by
  induction comes with
  | refl => exact has
  | tail _ taken kept =>
    rcases step_turns taken with follows | ⟨on, _, -, turned, -⟩
    · exact follows.flags ▸ kept
    · exact turned ▸ has_union.mpr (.inl kept)

theorem closed_of_parse (sound : Sound parser.input.rest)
    (parsed : parser.parse alphabet = .ok stopped) (ends : stopped.input.rest = []) :
    .dangling ∉ parser.input.rest := by
  induction parser using parse_induction alphabet with
  | step parser ih =>
    rw [parse_eq] at parsed
    obtain ⟨next?, taken, parsed⟩ := bind_eq_ok_iff.mp parsed
    cases next? with
    | none =>
      cases parsed
      rw [ends]
      exact List.not_mem_nil
    | some next =>
      have clears := step_clears sound taken
      exact clears.closed (ih next taken clears.1 parsed)

/-- The lexeme is read again by a parser whose text starts with the same pieces and goes on in a
similar way. -/
theorem Reads.again {kind : Piece → Bool} {lexeme : Lexeme} {after : Input}
    (reads : parser.Reads alphabet lexeme after) (sound : Sound parser.input.rest)
    (locally : ∀ piece start start' input, parser.input.rest.head? = some piece →
      Local kind input (Lexeme.read alphabet parser.level.verbose piece start input)
        fun _ twin => Lexeme.read alphabet parser.level.verbose piece start' twin) :
    ∃ piece pieces, parser.input.rest = piece :: (pieces ++ after.rest) ∧
      .dangling ∉ piece :: pieces ∧ (∀ other ∈ pieces, kind other = true) ∧
      ∀ (other : Parser) (rest : List Piece), other.level.verbose = parser.level.verbose →
        other.input.rest = piece :: (pieces ++ rest) → Resembles after.rest rest →
          ∃ left, other.Reads alphabet lexeme left ∧ left.rest = rest := by
  obtain ⟨piece, rest, input, head, closing, bar, moved, read⟩ := reads
  rw [head] at sound
  obtain ⟨same, closed, onward⟩ := sound.goTo moved
  rw [← same] at onward
  have starts : parser.input.rest.head? = some piece := by rw [head]; rfl
  have reader (start' : Nat) := locally piece parser.input.position start' input starts
  obtain ⟨-, pieces, split, closed', own, -⟩ := reader 0 onward _ read
  refine ⟨piece, pieces, by rw [head, ← same, split], ?_, own, ?_⟩
  · simp [closed.symm, closed']
  intro other rest mode text resembles
  obtain ⟨-, pieces', split', -, -, repeats⟩ := reader other.input.position onward _ read
  cases List.append_cancel_right (split.symm.trans split')
  have more : pieces ++ rest ≠ [.dangling] := (resembles.append closed').ne_dangling
  obtain ⟨left, again, there⟩ := repeats (pieces.length + 1)
    ⟨other.input.position + piece.length, pieces ++ rest⟩ rest (Nat.lt_succ_self _) rfl resembles
  refine ⟨left, ⟨piece, pieces ++ rest, _, text, closing, bar, if_neg more, ?_⟩, there⟩
  rw [mode]
  exact again

namespace Shadows

variable {c : Comparison} {p q : Parser}

theorem step_of_mirrors {one other : Except Rejection Parser} (pushed : one = .ok next)
    (mirrors : Mirrors c.excused (Shadows c) one other)
    (there : q.step alphabet = other >>= fun next => .ok (some next)) :
    (c.excused ∧ ∃ failure, q.step alphabet = .error failure) ∨
      ∃ next', q.step alphabet = .ok (some next') ∧ Shadows c next next' := by
  rw [there]
  rcases mirrors next pushed with ⟨excuse, failure, failed⟩ | ⟨next', returned, shadows⟩
  · exact .inl ⟨excuse, failure, by rw [failed]; rfl⟩
  · exact .inr ⟨next', by rw [returned]; rfl, shadows⟩

/-- Where the second parser meets what the first one meets, it takes the same step. -/
theorem advance (fair : c.Fair) (shadows : Shadows c p q)
    (taken : p.step alphabet = .ok (some next))
    (marks : ∀ d rest, p.input.rest = .plain d :: rest → d = ')' ∨ d = '|' →
      ∃ rest', q.input.rest = .plain d :: rest' ∧ rest' ≠ [.dangling] ∧
        ∀ x y : Input, x.rest = rest → y.rest = rest' → c.text x y)
    (lexemes : ∀ lexeme after, p.Reads alphabet lexeme after → ∃ lexeme' after',
      q.Reads alphabet lexeme' after' ∧ c.text after after' ∧
        lexeme.Shadows c { p with input := after } lexeme') :
    (c.excused ∧ ∃ failure, q.step alphabet = .error failure) ∨
      ∃ next', q.step alphabet = .ok (some next') ∧ Shadows c next next' := by
  cases advances_of_step taken with
  | close head stack pushed =>
    obtain ⟨rest', head', more, texts⟩ := marks ')' _ head (.inl rfl)
    obtain ⟨level', outer', stack', mirrors⟩ := shadows.pushClose fair stack more texts
    exact step_of_mirrors pushed mirrors (step_close alphabet head' stack')
  | bar head pushed =>
    obtain ⟨rest', head', more, texts⟩ := marks '|' _ head (.inr rfl)
    exact step_of_mirrors pushed (shadows.pushBar fair more texts) (step_bar alphabet head')
  | lexeme reads pushed =>
    obtain ⟨lexeme', after', reads', texts, same⟩ := lexemes _ _ reads
    exact step_of_mirrors pushed ((shadows.onward texts).pushLexeme fair same _ _) reads'.step_eq

theorem advance_flags (shadows : Shadows c p q) (whole : c.bottom = .whole) {on : Flags}
    {after after' : Input} (reads : p.Reads alphabet (.globalFlags on) after)
    (reads' : q.Reads alphabet (.globalFlags on) after') (text : c.text after after')
    (same : q.flags = p.flags) (turned : c.flags (p.flags.union on) (q.flags.union on))
    (mode : c.modes ((p.flags.union on).has .verbose))
    (taken : p.step alphabet = .ok (some next)) :
    (c.excused ∧ ∃ failure, q.step alphabet = .error failure) ∨
      ∃ next', q.step alphabet = .ok (some next') ∧ Shadows c next next' := by
  rw [reads.step_eq] at taken
  obtain ⟨_, pushed, ended⟩ := bind_eq_ok_iff.mp taken
  cases ended
  have mirrors := (shadows.onward text).pushGlobalFlags whole turned (by rw [same]) mode
    p.input.position q.input.position
  exact step_of_mirrors pushed mirrors reads'.step_eq

/-- A parser that follows another one all the way, unless it is stopped by what the other one meets
somewhere. -/
theorem along {invariant fatal harmless : Parser → Prop}
    (steps : ∀ p next q, invariant p → Shadows c p q → p.step alphabet = .ok (some next) →
      next.parse alphabet = .ok stopped → invariant next ∧
        ((fatal p ∧ ∃ failure, q.parse alphabet = .error failure) ∨
          harmless p ∧ ∃ next', q.parse alphabet = next'.parse alphabet ∧ Shadows c next next'))
    (initially : invariant p) (shadows : Shadows c p q)
    (parsed : p.parse alphabet = .ok stopped) :
    ((∃ met, p.Comes alphabet met ∧ fatal met) ∧ ∃ failure, q.parse alphabet = .error failure) ∨
      (∀ met, p.Comes alphabet met → met = stopped ∨ harmless met) ∧ invariant stopped ∧
        ∃ reached, q.parse alphabet = reached.parse alphabet ∧ Shadows c stopped reached := by
  induction p using parse_induction alphabet generalizing q with
  | step p ih =>
    rw [Parser.parse_eq] at parsed
    obtain ⟨next?, taken, parsed⟩ := bind_eq_ok_iff.mp parsed
    cases next? with
    | none =>
      cases parsed
      exact .inr ⟨fun met comes => .inl (comes.of_stopped taken), initially, q, rfl, shadows⟩
    | some next =>
      obtain ⟨onward, ⟨fatal, failed⟩ | ⟨fine, next', same, shadows⟩⟩ :=
        steps p next q initially shadows taken parsed
      · exact .inl ⟨⟨p, .refl, fatal⟩, failed⟩
      rw [same]
      rcases ih next taken onward shadows parsed with
        ⟨⟨met, comes, fatal⟩, failed⟩ | ⟨fine', reached⟩
      · exact .inl ⟨⟨met, .head taken comes, fatal⟩, failed⟩
      · refine .inr ⟨fun met comes => ?_, reached⟩
        rcases comes.uncons taken with rfl | comes
        · exact .inr fine
        · exact fine' met comes

end Shadows

end Parser

namespace Parser

def lexeme? (alphabet : Alphabet) (parser : Parser) : Option (Lexeme × Input) :=
  match parser.input.rest with
  | [] | .plain ')' :: _ | .plain '|' :: _ => none
  | piece :: rest =>
    match Input.goTo (parser.input.position + piece.length) rest with
    | .ok input =>
      (Lexeme.read alphabet parser.level.verbose piece parser.input.position input).toOption
    | .error _ => none

def trail (alphabet : Alphabet) : Nat → Parser → List Parser
  | 0, parser => [parser]
  | fuel + 1, parser =>
    parser :: match parser.step alphabet with
      | .ok (some next) => next.trail alphabet fuel
      | _ => []

variable {alphabet : Alphabet} {parser met : Parser}

theorem Reads.lexeme?_eq {lexeme : Lexeme} {after : Input}
    (reads : parser.Reads alphabet lexeme after) : parser.lexeme? alphabet = some (lexeme, after) := by
  obtain ⟨piece, rest, input, head, closing, bar, moved, read⟩ := reads
  unfold lexeme?
  split
  · next empty => cases head.symm.trans empty
  · next same => exact absurd (List.cons.inj (head.symm.trans same)).1 closing
  · next same => exact absurd (List.cons.inj (head.symm.trans same)).1 bar
  · next same =>
    cases head.symm.trans same
    simp only [moved, read]
    rfl

theorem Comes.mem_trail (comes : parser.Comes alphabet met) {fuel : Nat}
    (enough : parser.input.rest.length ≤ fuel) : met ∈ parser.trail alphabet fuel := by
  induction fuel generalizing parser with
  | zero =>
    have longer : parser.input.rest.length ≤ met.input.rest.length := by omega
    rw [comes.eq_of_length_le longer]
    exact List.mem_singleton_self _
  | succ fuel ih =>
    rcases comes.cases_head with rfl | ⟨next, taken, comes⟩
    · exact List.mem_cons_self
    · have shorter := step_shorter taken
      rw [trail, taken]
      exact List.mem_cons_of_mem _ (ih comes (by omega))

end Parser

def Pattern.Meets (source : List Char) (asked : Int) (met : Parser) : Prop :=
  ∃ input, Input.ofSource source = .ok input ∧
    (Parser.start input (.ofInt asked)).Comes .text met

/-- What is computed to hold of all the states that a parser comes to holds of each. -/
theorem Pattern.forall_meets {source : List Char} {asked : Int} {input : Input}
    (opens : Input.ofSource source = .ok input) {holds : Parser → Prop}
    (all : ∀ met ∈ (Parser.start input (.ofInt asked)).trail .text input.rest.length, holds met) :
    ∀ met, Meets source asked met → holds met := by
  rintro met ⟨input', opens', comes⟩
  cases opens.symm.trans opens'
  exact all met (comes.mem_trail (Nat.le_refl _))

theorem Pattern.forall_reads {source : List Char} {asked : Int} {input : Input}
    (opens : Input.ofSource source = .ok input) {holds : Parser → Lexeme → Input → Prop}
    (all : ∀ met ∈ (Parser.start input (.ofInt asked)).trail .text input.rest.length,
      ∀ found ∈ met.lexeme? .text, holds met found.1 found.2) :
    ∀ met lexeme after, Meets source asked met → met.Reads .text lexeme after →
      holds met lexeme after :=
  fun met lexeme after meets reads =>
    forall_meets opens all met meets (lexeme, after) reads.lexeme?_eq

end RuleLexer
