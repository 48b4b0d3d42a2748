import RuleLexer.Proofs.Regex.Lockstep

namespace RuleLexer

/-- Something that may follow a text without being mistaken for a part of it. A line break in front
of it may end a comment. -/
structure Trails (tail : List Piece) : Prop where
  closed : .dangling ∉ tail
  idle : ∀ piece ∈ tail.head?, piece.isIdle = true
  behind : ∀ rest, tail = .plain '\n' :: rest → ∀ piece ∈ rest.head?, piece.isIdle = true

/-- The second input goes on with the tail where the first one ends. A comment that runs up to that
end has taken a line break in front of the tail. -/
structure Input.Beside (tail : List Piece) (x y : Input) : Prop where
  closed : .dangling ∉ x.rest
  goesOn : y.rest = x.rest ++ tail ∨ x.rest = [] ∧ tail = .plain '\n' :: y.rest

namespace Input.Beside

variable {tail : List Piece} {x y : Input}

theorem resembles (trails : Trails tail) (closed : .dangling ∉ x.rest) :
    Resembles x.rest (x.rest ++ tail) where
  closed := fun member => (List.mem_append.mp member).elim closed trails.closed
  agrees := ⟨x.rest, [], tail, (List.append_nil _).symm, rfl, trails.idle⟩

theorem of_cons {piece : Piece} {rest : List Piece} (beside : Beside tail x y)
    (head : x.rest = piece :: rest) : y.rest = piece :: (rest ++ tail) := by
  rcases beside.goesOn with same | ⟨none, -⟩
  · rw [same, head]
    rfl
  · cases none.symm.trans head

theorem closed_of_cons {piece : Piece} {rest : List Piece} (beside : Beside tail x y)
    (head : x.rest = piece :: rest) : .dangling ∉ rest := fun member =>
  beside.closed (head ▸ List.mem_cons_of_mem _ member)

theorem ahead {piece : Piece} {rest : List Piece} (trails : Trails tail)
    (beside : Beside tail x y) (head : x.rest = piece :: rest) :
    ∃ rest', y.rest = piece :: rest' ∧ rest' ≠ [.dangling] ∧
      ∀ x y : Input, x.rest = rest → y.rest = rest' → Beside tail x y := by
  have closed := beside.closed_of_cons head
  refine ⟨rest ++ tail, beside.of_cons head, ?_, fun x y here there => ?_⟩
  · exact (resembles (x := ⟨0, rest⟩) trails closed).ne_dangling
  · exact ⟨here ▸ closed, .inl (by rw [here, there])⟩

theorem head?_ne (trails : Trails tail) (beside : Beside tail x y) {c : Char}
    (busy : (Piece.plain c).isIdle = false) (other : x.rest.head? ≠ some (.plain c)) :
    y.rest.head? ≠ some (.plain c) := by
  have late {rest : List Piece} (idle : ∀ piece ∈ rest.head?, piece.isIdle = true) :
      rest.head? ≠ some (.plain c) := fun same => by cases busy.symm.trans (idle _ same)
  rcases beside.goesOn with same | ⟨-, same⟩
  · cases split : x.rest with
    | nil =>
      rw [same, split]
      exact late trails.idle
    | cons piece rest =>
      rw [same, split]
      rw [split] at other
      exact other
  · exact late (trails.behind _ same)

theorem accept (trails : Trails tail) (beside : Beside tail x y) {c : Char}
    (busy : (Piece.plain c).isIdle = false) :
    Mirrors False (fun a b => a.1 = b.1 ∧ Beside tail a.2 b.2) (x.accept c) (y.accept c) := by
  by_cases head : x.rest.head? = some (.plain c)
  · obtain ⟨rest, here⟩ := List.head?_eq_some_iff.mp head
    have there := beside.of_cons here
    have closed : .dangling ∉ rest := fun member =>
      beside.closed (here ▸ List.mem_cons_of_mem _ member)
    have more : rest ++ tail ≠ [.dangling] :=
      (resembles (x := ⟨0, rest⟩) trails closed).ne_dangling
    rw [accept_of_head here, accept_of_head there]
    refine (goTo_mirrors more _ _).bind fun a b same => .ok ⟨rfl, ?_, .inl ?_⟩
    · exact same.1 ▸ closed
    · rw [same.1, same.2]
  · rw [accept_of_other head, accept_of_other (beside.head?_ne trails busy head)]
    exact .ok ⟨rfl, beside⟩

end Input.Beside

def Lexeme.isNumbered : Lexeme → Bool
  | .reference _ => true
  | .opening (.condition name) => !Text.isIdentifier name
  | _ => false

theorem Lexeme.read_adds (alphabet : Alphabet) {piece : Piece} (other : piece ≠ .plain '(')
    (start : Nat) (input : Input) : Ensures (read alphabet false piece start input)
      fun (lexeme, _) => lexeme ≠ .blank ∧ ∀ on, lexeme ≠ .globalFlags on := by
  cases piece with
  | plain c =>
    show Ensures (readPlain alphabet false c start input) _
    unfold readPlain
    simp only [Bool.false_and, Bool.false_eq_true, if_false]
    split
    · exact (Ensures.trivial _).bind fun _ _ => (Ensures.trivial _).bind fun _ _ => .ok ⟨nofun, nofun⟩
    · exact .ok ⟨nofun, nofun⟩
    · exact .ok ⟨nofun, nofun⟩
    · exact .ok ⟨nofun, nofun⟩
    · unfold readBraces
      dsimp only
      split
      · exact .ok ⟨nofun, nofun⟩
      refine (Ensures.trivial _).bind fun _ _ => (Ensures.trivial _).bind fun _ _ => ?_
      refine Ensures.branch (Ensures.trivial _) fun _ _ => (Ensures.trivial _).bind fun _ _ => ?_
      split
      · exact .ok ⟨nofun, nofun⟩
      refine (Ensures.trivial _).bind fun _ _ => (Ensures.trivial _).bind fun _ _ => ?_
      split
      · split
        · exact .error
        · exact .ok ⟨nofun, nofun⟩
      · exact .ok ⟨nofun, nofun⟩
    · exact .ok ⟨nofun, nofun⟩
    · exact absurd rfl other
    · exact .ok ⟨nofun, nofun⟩
    · exact .ok ⟨nofun, nofun⟩
    · exact .ok ⟨nofun, nofun⟩
  | escaped c =>
    refine (Ensures.trivial _).bind fun (meaning, _) _ => ?_
    cases meaning with
    | item regex => exact .ok ⟨nofun, nofun⟩
    | reference group => exact .ok ⟨nofun, nofun⟩
  | dangling => exact .error

namespace Parser

def Rooted (verbose : Bool) : Level → List Level → Prop
  | level, [] => level.kind = .whole ∧ level.verbose = verbose
  | level, next :: outer => level.kind ≠ .whole ∧ Rooted verbose next outer

theorem Rooted.replace {verbose : Bool} {level other : Level} {outer : List Level}
    (rooted : Rooted verbose level outer) (kind : other.kind = level.kind)
    (mode : other.verbose = level.verbose) : Rooted verbose other outer := by
  cases outer with
  | nil => exact ⟨kind.trans rooted.1, mode.trans rooted.2⟩
  | cons next outer => exact ⟨kind ▸ rooted.1, rooted.2⟩

theorem Rooted.outside {verbose : Bool} {level : Level} {outer : List Level}
    (rooted : Rooted verbose level outer) (whole : level.kind = .whole) : outer = [] := by
  cases outer with
  | nil => rfl
  | cons next outer => exact absurd whole rooted.1

def Orderly (parser : Parser) : Prop :=
  Rooted (parser.flags.has .verbose) parser.level parser.outer

theorem start_orderly (input : Input) (flags : Flags) : (start input flags).Orderly :=
  ⟨rfl, rfl⟩

variable {alphabet : Alphabet} {parser next : Parser}

theorem pushOpening_orderly (orderly : parser.Orderly) (opening : Opening) (start : Nat) :
    Ensures (parser.pushOpening opening start) Orderly := by
  cases opening with
  | capture name =>
    refine (parser.openGroup_opens name).bind ?_
    rintro _ ⟨names, rfl⟩
    exact .ok ⟨nofun, orderly⟩
  | «scoped» on off => exact .ok ⟨nofun, orderly⟩
  | atomic => exact .ok ⟨nofun, orderly⟩
  | ahead negated => exact .ok ⟨nofun, orderly⟩
  | behind negated =>
    refine .ok ?_
    dsimp only [openLevel, Orderly]
    split
    · exact ⟨nofun, orderly⟩
    · exact ⟨nofun, orderly⟩
  | condition name =>
    refine (parser.condition_notes name).bind fun (next, group) ⟨⟨conditions, same⟩, _⟩ => ?_
    subst same
    exact (Ensures.trivial _).bind fun _ _ => .ok ⟨nofun, orderly⟩

theorem pushLexeme_orderly (parser : Parser) (orderly : parser.Orderly) (start : Nat) (lexeme : Lexeme) :
    Ensures (parser.pushLexeme start lexeme) Orderly := by
  cases lexeme with
  | blank => exact .ok orderly
  | item item => exact .ok (orderly.replace rfl rfl)
  | quantifier least most =>
    unfold pushLexeme pushQuantifier
    dsimp only
    split
    · exact .error
    · exact .error
    · exact .error
    · refine (Ensures.trivial _).bind fun _ _ => ?_
      exact Ensures.branch (Ensures.trivial _) fun _ _ => .ok (orderly.replace rfl rfl)
  | reference group =>
    refine (parser.pushReference_pushes group start).mono ?_
    rintro _ rfl
    exact orderly.replace rfl rfl
  | namedReference name =>
    refine (parser.pushNamedReference_pushes name).mono ?_
    rintro _ ⟨group, rfl⟩
    exact orderly.replace rfl rfl
  | opening opening => exact pushOpening_orderly orderly opening start
  | globalFlags on =>
    unfold pushLexeme pushGlobalFlags
    dsimp only
    split
    · next first =>
      simp only [Bool.and_eq_true, decide_eq_true_eq] at first
      have outside := orderly.outside first.1.1
      refine .ok ?_
      show Rooted _ _ parser.outer
      rw [outside]
      exact ⟨first.1.1, rfl⟩
    · exact .error

theorem step_orderly (orderly : parser.Orderly)
    (taken : parser.step alphabet = .ok (some next)) : next.Orderly := by
  cases advances_of_step taken with
  | close _ stack pushed =>
    obtain ⟨input, -, same⟩ := bind_eq_ok_iff.mp pushed
    cases same
    have inner : Rooted (parser.flags.has .verbose) parser.level parser.outer := orderly
    rw [stack] at inner
    exact inner.2.replace rfl rfl
  | bar _ pushed =>
    rw [pushBar_eq] at pushed
    split at pushed
    · cases pushed
    · obtain ⟨input, -, same⟩ := bind_eq_ok_iff.mp pushed
      cases same
      exact orderly.replace rfl rfl
  | @lexeme _ after _ pushed =>
    have onward : Orderly { parser with input := after } := orderly
    exact pushLexeme_orderly _ onward _ _ _ pushed

/-- A comment of verbose mode ends at its line break. If it goes to the end of the first parser's
text, the line break is that of the tail. -/
theorem Reads.comment_beside {p q : Parser} {tail : List Piece} (trails : Trails tail)
    (texts : Input.Beside tail p.input q.input) (mode : q.level.verbose = p.level.verbose)
    {lexeme : Lexeme} {after : Input} (reads : p.Reads alphabet lexeme after)
    (verbose : p.level.verbose = true) (starts : p.input.rest.head? = some (.plain '#'))
    (closed : .dangling ∉ after.rest)
    (ends : lexeme = .blank → after.rest = [] → tail.head? = some (.plain '\n')) :
    ∃ after', q.Reads alphabet lexeme after' ∧ Input.Beside tail after after' := by
  obtain ⟨rest, head⟩ := List.head?_eq_some_iff.mp starts
  obtain ⟨rfl, spot⟩ := reads.of_comment verbose head
  have there := texts.of_cons head
  have more : rest ++ tail ≠ [.dangling] :=
    (Input.Beside.resembles (x := ⟨0, rest⟩) trails (texts.closed_of_cons head)).ne_dangling
  rw [verbose] at mode
  rcases spot with ⟨body, split, absent⟩ | ⟨absent, none⟩
  · have onward : after.rest ++ tail ≠ [.dangling] :=
      (Input.Beside.resembles trails closed).ne_dangling
    obtain ⟨place, again⟩ := Input.skipPast_body absent onward (q.input.position + 1)
    rw [← List.cons_append, ← List.append_assoc, ← split] at again
    exact ⟨⟨place, after.rest ++ tail⟩, reads_comment mode there more again, closed, .inl rfl⟩
  · obtain ⟨rest', same⟩ := List.head?_eq_some_iff.mp (ends rfl none)
    have onward : rest' ≠ [.dangling] := by
      rintro rfl
      exact trails.closed (same ▸ by simp)
    obtain ⟨place, again⟩ := Input.skipPast_body absent onward (q.input.position + 1)
    rw [← same] at again
    exact ⟨⟨place, rest'⟩, reads_comment mode there more again, closed, .inr ⟨none, same⟩⟩

theorem Reads.beside {p q : Parser} {tail : List Piece} (trails : Trails tail)
    (texts : Input.Beside tail p.input q.input) (mode : q.level.verbose = p.level.verbose)
    {lexeme : Lexeme} {after : Input} (reads : p.Reads alphabet lexeme after)
    (ends : lexeme = .blank → p.level.verbose = true → after.rest = [] →
      tail.head? = some (.plain '\n')) :
    ∃ after', q.Reads alphabet lexeme after' ∧ Input.Beside tail after after' := by
  have sound : Sound p.input.rest := .of_not_mem texts.closed
  obtain ⟨-, chunk, split, -⟩ := reads.clears sound
  have closed : .dangling ∉ after.rest := fun member =>
    texts.closed (split ▸ List.mem_append_right chunk member)
  by_cases comment : p.level.verbose = true ∧ p.input.rest.head? = some (.plain '#')
  · obtain ⟨verbose, starts⟩ := comment
    exact reads.comment_beside trails texts mode verbose starts closed fun blank => ends blank verbose
  · have locally (piece : Piece) (start start' : Nat) (input : Input)
        (head : p.input.rest.head? = some piece) : Local (fun _ => true) input
          (Lexeme.read alphabet p.level.verbose piece start input)
          fun _ twin => Lexeme.read alphabet p.level.verbose piece start' twin :=
      Lexeme.read_local alphabet start start' fun ⟨verbose, same⟩ => comment ⟨verbose, same ▸ head⟩
    obtain ⟨piece, pieces, split, -, -, again⟩ := reads.again sound locally
    have there := texts.of_cons split
    rw [List.append_assoc] at there
    obtain ⟨after', reads', rest⟩ :=
      again q (after.rest ++ tail) mode there (Input.Beside.resembles trails closed)
    exact ⟨after', reads', closed, .inl rest⟩

theorem Reads.beside_quietly {p q : Parser} {tail : List Piece} (trails : Trails tail)
    (texts : Input.Beside tail p.input q.input) (quiet : p.level.verbose = false) {lexeme : Lexeme}
    {after : Input} (reads : p.Reads alphabet lexeme after)
    (traceless : lexeme = .blank ∨ ∃ on, lexeme = .globalFlags on) :
    ∃ after', q.Reads alphabet lexeme after' ∧ Input.Beside tail after after' := by
  have opens : ∃ rest, p.input.rest = .plain '(' :: rest := by
    obtain ⟨piece, rest, input, head, -, -, -, read⟩ := reads
    by_cases parenthesis : piece = .plain '('
    · exact ⟨rest, parenthesis ▸ head⟩
    · rw [quiet] at read
      obtain ⟨adds, turns⟩ := Lexeme.read_adds alphabet parenthesis _ _ _ read
      rcases traceless with blank | ⟨on, flags⟩
      · exact absurd blank adds
      · exact absurd flags (turns on)
  obtain ⟨rest, opens⟩ := opens
  let quieter : Parser := { q with level := { q.level with verbose := false } }
  obtain ⟨after', reads', text⟩ := reads.beside (q := quieter) trails texts quiet.symm
    fun _ verbose => by cases quiet.symm.trans verbose
  refine ⟨after', ?_, text⟩
  obtain ⟨piece, _, input, head, closing, bar, moved, read⟩ := reads'
  have same : piece = .plain '(' := (List.cons.inj (head.symm.trans (texts.of_cons opens))).1
  subst same
  rw [Lexeme.read_parenthesis] at read
  exact ⟨_, _, input, head, closing, bar, moved, by rw [Lexeme.read_parenthesis]; exact read⟩

theorem pushLexeme_begins (parser : Parser) (start : Nat) (lexeme : Lexeme) :
    Ensures (parser.pushLexeme start lexeme) fun next =>
      next.Begun ∨ lexeme = .blank ∧ next = parser ∨ ∃ on, lexeme = .globalFlags on := by
  have pushed (item : Regex) : (parser.push item).Begun := fun _ => .inr (List.cons_ne_nil _ _)
  cases lexeme with
  | blank => exact .ok (.inr (.inl ⟨rfl, rfl⟩))
  | globalFlags on => exact fun _ _ => .inr (.inr ⟨on, rfl⟩)
  | item item => exact .ok (.inl (pushed item))
  | quantifier least most =>
    unfold pushLexeme pushQuantifier
    dsimp only
    split
    · exact .error
    · exact .error
    · exact .error
    · refine (Ensures.trivial _).bind fun _ _ => ?_
      refine Ensures.branch (Ensures.trivial _) fun _ _ => .ok (.inl fun _ => ?_)
      exact .inr (List.cons_ne_nil _ _)
  | reference group =>
    exact (parser.pushReference_pushes group start).mono fun _ same => .inl (same ▸ pushed _)
  | namedReference name =>
    exact (parser.pushNamedReference_pushes name).mono fun _ ⟨_, same⟩ => .inl (same ▸ pushed _)
  | opening opening =>
    exact (parser.pushOpening_begins opening start).mono fun _ begins => .inl begins.2

theorem Comes.begun (comes : parser.Comes alphabet next) (begun : parser.Begun) : next.Begun := by
  induction comes with
  | refl => exact begun
  | tail _ taken kept =>
    rcases step_turns taken with follows | ⟨_, _, _, _, first⟩
    · exact follows.begun kept
    · exact absurd kept first

theorem step_traceless (taken : parser.step alphabet = .ok (some next)) (first : ¬next.Begun) :
    ∃ lexeme after, parser.Reads alphabet lexeme after ∧
      ((∃ on, lexeme = .globalFlags on) ∨ lexeme = .blank ∧ next = { parser with input := after }) := by
  cases advances_of_step taken with
  | close _ _ pushed =>
    obtain ⟨input, -, same⟩ := bind_eq_ok_iff.mp pushed
    cases same
    exact absurd (fun _ => .inr (List.cons_ne_nil _ _)) first
  | bar _ pushed =>
    rw [pushBar_eq] at pushed
    split at pushed
    · cases pushed
    · obtain ⟨input, -, same⟩ := bind_eq_ok_iff.mp pushed
      cases same
      exact absurd (fun _ => .inl (List.cons_ne_nil _ _)) first
  | @lexeme lexeme after reads pushed =>
    refine ⟨lexeme, after, reads, ?_⟩
    rcases pushLexeme_begins { parser with input := after } _ _ _ pushed with begun | same | flags
    · exact absurd begun first
    · exact .inr same
    · exact .inl flags

theorem Reads.misplaced {on : Flags} {after : Input}
    (reads : parser.Reads alphabet (.globalFlags on) after) (begun : parser.Begun) :
    ∃ failure, parser.step alphabet = .error failure := by
  have misplaced : { parser with input := after }.pushLexeme parser.input.position (.globalFlags on) =
      .error (Fault.misplacedFlags.at parser.input.position) := by
    refine if_neg fun first => ?_
    simp only [Bool.and_eq_true, decide_eq_true_eq, List.isEmpty_iff] at first
    rcases begun first.1.1 with finished | items
    · exact finished first.1.2
    · exact items first.2
  exact ⟨_, by rw [reads.step_eq, misplaced]; rfl⟩

theorem begun_of_inside (inside : parser.level.kind ≠ .whole) : parser.Begun :=
  fun whole => absurd whole inside

/-- A group of flags for the whole pattern stops a parser that does not read a whole pattern, even
if that one is in verbose mode from the start. -/
theorem Comes.stops {p met q : Parser} {tail : List Piece} (trails : Trails tail) {on : Flags}
    {after : Input} (first : ¬met.Begun) (reads : met.Reads alphabet (.globalFlags on) after)
    (comes : p.Comes alphabet met) (quiet : p.level.verbose = false)
    (texts : Input.Beside tail p.input q.input) (inside : q.level.kind ≠ .whole) :
    ∃ failure, q.parse alphabet = .error failure := by
  have stops {p q : Parser} {on : Flags} {after : Input} (quiet : p.level.verbose = false)
      (texts : Input.Beside tail p.input q.input) (inside : q.level.kind ≠ .whole)
      (reads : p.Reads alphabet (.globalFlags on) after) :
      ∃ failure, q.parse alphabet = .error failure := by
    obtain ⟨after', reads', -⟩ := reads.beside_quietly trails texts quiet (.inr ⟨on, rfl⟩)
    obtain ⟨failure, failed⟩ := reads'.misplaced (begun_of_inside inside)
    refine ⟨failure, ?_⟩
    rw [Parser.parse_eq, failed]
    rfl
  induction comes using Relation.ReflTransGen.head_induction_on generalizing q with
  | refl => exact stops quiet texts inside reads
  | head taken comes ih =>
    have earlier := fun begun => first (Comes.begun comes begun)
    obtain ⟨lexeme, after, reads, ⟨on, rfl⟩ | ⟨rfl, rfl⟩⟩ := step_traceless taken earlier
    · exact stops quiet texts inside reads
    · obtain ⟨after', reads', text⟩ := reads.beside_quietly trails texts quiet (.inl rfl)
      obtain ⟨failure, failed⟩ := ih (q := { q with input := after' }) quiet text inside
      refine ⟨failure, ?_⟩
      rw [Parser.parse_eq, reads'.step_eq]
      exact failed

def beside (parser : Parser) (tail : List Piece) : Comparison where
  text := Input.Beside tail
  offset := parser.groups
  loose _ := False
  exact _ := True
  modes _ := True
  excused := False
  bottom := parser.level.kind
  base := parser.outer
  names := parser.names
  widths := parser.widths
  flags own flags :=
    (parser.level.kind = .whole → flags = own) ∧ (parser.level.kind ≠ .whole → flags = parser.flags)

structure Ready (parser : Parser) : Prop where
  finished : parser.level.finished = []
  items : parser.level.items = []
  kind : ∀ group, parser.level.kind ≠ .conditional group
  names : parser.names = []
  widths : ∀ entry ∈ parser.widths, entry.1 < parser.groups
  conditions : ∀ number ∈ parser.conditionNumbers, number ≤ parser.groups
  lookbehind : parser.lookbehind = none

theorem Ready.fair {tail : List Piece} (ready : parser.Ready) (trails : Trails tail) :
    (parser.beside tail).Fair where
  bottom := ready.kind
  widths := ready.widths
  strict := .inr ready.names
  inside := fun _ _ => id
  behind := fun _ _ _ => trivial
  capture := fun _ _ _ => trivial
  suffix := by
    intro x y beside d mark
    have busy : (Piece.plain d).isIdle = false := by rcases mark with rfl | rfl <;> decide
    exact beside.accept trails busy

theorem Ready.shadows_start {tail : List Piece} (ready : parser.Ready) {input : Input}
    {flags : Flags} (text : Input.Beside tail input parser.input)
    (mode : parser.level.verbose = flags.has .verbose)
    (whole : parser.level.kind = .whole → parser.flags = flags) :
    Shadows (parser.beside tail) (start input flags) parser where
  text := text
  stack := .bottom ⟨mode, trivial, ready.finished ▸ .nil, by rw [ready.items]; rfl,
    fun _ _ => by rw [ready.items]; nofun, fun _ => ⟨ready.items, nofun⟩⟩ rfl rfl
  groups := (Nat.zero_add _).symm
  names := rfl
  widths := ⟨[], rfl, .nil⟩
  lookbehind := ready.lookbehind
  conditions := .inr fun number member => .inl (ready.conditions number member)
  flags := ⟨whole, fun _ => rfl⟩

namespace Shadows

variable {reader p q stopped : Parser} {tail : List Piece}

theorem lexeme_beside {lexeme : Lexeme} (leafy : lexeme.Leafy)
    (modest : ∀ on, lexeme ≠ .globalFlags on)
    (plain : reader.groups = 0 ∨ lexeme.isNumbered = false) :
    lexeme.Shadows (reader.beside tail) p lexeme := by
  cases lexeme with
  | blank => exact .blank
  | item regex => exact .item (Regex.shift_of_isLeaf (leafy regex rfl))
  | quantifier least most => exact .quantifier
  | reference group =>
    rcases plain with zero | unnumbered
    · have same : Lexeme.Shadows (reader.beside tail) p (.reference group)
          (.reference (group + reader.groups)) := .reference fun _ => id
      rwa [zero] at same
    · cases unnumbered
  | namedReference name => exact .namedReference fun _ _ _ => id
  | opening opening =>
    cases opening with
    | condition name =>
      rcases plain with zero | unnumbered
      · exact .sameCondition zero
      · exact .namedCondition (by simpa [Lexeme.isNumbered] using unnumbered)
    | _ => exact .opening nofun fun _ _ _ _ _ => trivial
  | globalFlags on => exact absurd rfl (modest on)

theorem kind_ne_whole {c : Comparison} {level level' : Level} {outer outer' : List Level}
    (stack : Stack c (level :: outer) (level' :: outer')) (inside : c.bottom ≠ .whole) :
    level'.kind ≠ .whole := by
  cases stack with
  | bottom _ _ kind => exact kind ▸ inside
  | inner _ other kind _ =>
    rw [kind]
    cases shape : level.kind <;> simp_all [LevelKind.shift]

/-- A group of flags for the whole pattern is taken by the second parser too if it reads a whole
pattern, and stops it if not. -/
theorem flags_beside (shadows : Shadows (reader.beside tail) p q) {on : Flags} {after after' : Input}
    (reads : p.Reads alphabet (.globalFlags on) after)
    (reads' : q.Reads alphabet (.globalFlags on) after') (text : Input.Beside tail after after')
    (taken : p.step alphabet = .ok (some next)) :
    (reader.level.kind ≠ .whole ∧ ∃ failure, q.step alphabet = .error failure) ∨
      reader.level.kind = .whole ∧
        ∃ next', q.step alphabet = .ok (some next') ∧ Shadows (reader.beside tail) next next' := by
  by_cases whole : reader.level.kind = .whole
  · refine .inr ⟨whole, ?_⟩
    have same : q.flags = p.flags := shadows.flags.1 whole
    have turned : (reader.beside tail).flags (p.flags.union on) (q.flags.union on) :=
      ⟨fun _ => by rw [same], fun inside => absurd whole inside⟩
    rcases shadows.advance_flags whole reads reads' text same turned trivial taken with
      ⟨⟨⟩, _⟩ | advanced
    exact advanced
  · exact .inl ⟨whole, reads'.misplaced (begun_of_inside (kind_ne_whole shadows.stack whole))⟩

theorem step_beside (ready : reader.Ready) (trails : Trails tail) {start : Parser}
    (numberless : reader.groups = 0 ∨ ∀ met lexeme after, start.Comes alphabet met →
      met.Reads alphabet lexeme after → lexeme.isNumbered = false)
    (ends : stopped.flags.has .verbose = true → tail.head? = some (.plain '\n'))
    (orderly : p.Orderly) (comes : start.Comes alphabet p)
    (shadows : Shadows (reader.beside tail) p q) (taken : p.step alphabet = .ok (some next))
    (parsed : next.parse alphabet = .ok stopped) :
    ((reader.level.kind ≠ .whole ∧ ∃ on after, p.Reads alphabet (.globalFlags on) after) ∧
        ∃ failure, q.step alphabet = .error failure) ∨
      (reader.level.kind = .whole ∨ ∀ on after, ¬p.Reads alphabet (.globalFlags on) after) ∧
        ∃ next', q.step alphabet = .ok (some next') ∧ Shadows (reader.beside tail) next next' := by
  have texts : Input.Beside tail p.input q.input := shadows.text
  have lexemes (lexeme : Lexeme) (after : Input) (reads : p.Reads alphabet lexeme after) :
      ∃ after', q.Reads alphabet lexeme after' ∧ Input.Beside tail after after' := by
    refine reads.beside trails texts shadows.stack.top.verbose fun blank verbose none => ends ?_
    -- A comment at the end of the text stands outside all groups, because the parser stops there.
    subst blank
    rw [reads.step_eq] at taken
    cases taken
    have rest : after.rest = [] := none
    obtain ⟨outer, rfl⟩ := parse_of_nil rest parsed
    have outer : p.outer = [] := outer
    have rooted : Rooted (p.flags.has .verbose) p.level p.outer := orderly
    rw [outer] at rooted
    exact rooted.2 ▸ verbose
  by_cases flags : ∃ on after, p.Reads alphabet (.globalFlags on) after
  · obtain ⟨on, after, reads⟩ := flags
    obtain ⟨after', reads', text⟩ := lexemes _ _ reads
    refine (shadows.flags_beside reads reads' text taken).imp ?_ fun ⟨whole, next'⟩ =>
      ⟨.inl whole, next'⟩
    exact fun ⟨inside, failed⟩ => ⟨⟨inside, on, after, reads⟩, failed⟩
  · have modest (on : Flags) (after : Input) : ¬p.Reads alphabet (.globalFlags on) after :=
      fun reads => flags ⟨on, after, reads⟩
    have twins (lexeme : Lexeme) (after : Input) (reads : p.Reads alphabet lexeme after) :
        ∃ lexeme' after', q.Reads alphabet lexeme' after' ∧ Input.Beside tail after after' ∧
          lexeme.Shadows (reader.beside tail) { p with input := after } lexeme' := by
      obtain ⟨after', reads', text⟩ := lexemes lexeme after reads
      have plain := numberless.imp_right fun plain => plain p lexeme after comes reads
      have other (on : Flags) : lexeme ≠ .globalFlags on := by
        rintro rfl
        exact modest on after reads
      obtain ⟨_, _, _, -, -, -, -, read⟩ := reads
      have leafy := Lexeme.read_leafy _ _ _ _ _ _ read
      exact ⟨lexeme, after', reads', text, lexeme_beside leafy other plain⟩
    rcases shadows.advance (ready.fair trails) taken
      (fun _ _ head _ => texts.ahead trails head) twins with ⟨⟨⟩, _⟩ | advanced
    exact .inr ⟨.inr modest, advanced⟩

theorem ended_beside (shadows : Shadows (reader.beside tail) stopped q)
    (ends : stopped.input.rest = []) (outside : stopped.outer = []) :
    (q.input.rest = tail ∨ tail = .plain '\n' :: q.input.rest) ∧ q.outer = reader.outer ∧
      q.level.kind = reader.level.kind ∧
      q.level.body = stopped.level.body.shift reader.groups := by
  have texts : Input.Beside tail stopped.input q.input := shadows.text
  refine ⟨?_, shadows.outermost outside trivial⟩
  rcases texts.goesOn with same | ⟨-, same⟩
  · exact .inl (by rw [same, ends, List.nil_append])
  · exact .inr same

theorem conditions_beside (shadows : Shadows (reader.beside tail) stopped q)
    (own : ∀ number ∈ stopped.conditionNumbers, number ≤ stopped.groups) :
    ∀ number ∈ q.conditionNumbers, number ≤ q.groups := by
  have groups : q.groups = stopped.groups + reader.groups := shadows.groups
  rcases shadows.conditions with ⟨⟨⟩⟩ | numbers
  intro number member
  rcases numbers number member with before | ⟨inner, known, same⟩
  · exact Nat.le_trans before (Nat.le.intro (by rw [groups, Nat.add_comm]; rfl))
  · have bound := own inner known
    have same : number = inner + reader.groups := same
    omega

end Shadows

/-- A parser that comes upon a text reads what is read by a parser that has the text to itself. If it
does not read a whole pattern, a group of flags for the whole pattern stops it. -/
theorem Ready.parse_beside {reader stopped : Parser} {tail : List Piece} (ready : reader.Ready)
    (trails : Trails tail) {input : Input} {flags : Flags}
    (text : Input.Beside tail input reader.input)
    (mode : reader.level.verbose = flags.has .verbose)
    (whole : reader.level.kind = .whole → reader.flags = flags)
    (numberless : reader.groups = 0 ∨ ∀ met lexeme after,
      (start input flags).Comes alphabet met → met.Reads alphabet lexeme after →
        lexeme.isNumbered = false)
    (parsed : (start input flags).parse alphabet = .ok stopped)
    (ends : stopped.flags.has .verbose = true → tail.head? = some (.plain '\n')) :
    ((reader.level.kind ≠ .whole ∧ ∃ met on after, (start input flags).Comes alphabet met ∧
        met.Reads alphabet (.globalFlags on) after) ∧
        ∃ failure, reader.parse alphabet = .error failure) ∨
      (reader.level.kind = .whole ∨ ∀ met on after, (start input flags).Comes alphabet met →
        ¬met.Reads alphabet (.globalFlags on) after) ∧
        ∃ reached, reader.parse alphabet = reached.parse alphabet ∧
          Shadows (reader.beside tail) stopped reached ∧ stopped.Orderly := by
  have steps (p next q : Parser) (known : p.Orderly ∧ (start input flags).Comes alphabet p)
      (shadows : Shadows (reader.beside tail) p q) (taken : p.step alphabet = .ok (some next))
      (parsed : next.parse alphabet = .ok stopped) :
      (next.Orderly ∧ (start input flags).Comes alphabet next) ∧
        (((reader.level.kind ≠ .whole ∧ ∃ on after, p.Reads alphabet (.globalFlags on) after) ∧
            ∃ failure, q.parse alphabet = .error failure) ∨
          (reader.level.kind = .whole ∨ ∀ on after, ¬p.Reads alphabet (.globalFlags on) after) ∧
            ∃ next', q.parse alphabet = next'.parse alphabet ∧
              Shadows (reader.beside tail) next next') := by
    obtain ⟨orderly, comes⟩ := known
    refine ⟨⟨step_orderly orderly taken, comes.tail taken⟩, ?_⟩
    refine (shadows.step_beside ready trails numberless ends orderly comes taken parsed).imp ?_ ?_
    · rintro ⟨stops, failure, failed⟩
      exact ⟨stops, failure, by rw [Parser.parse_eq, failed]; rfl⟩
    · rintro ⟨fine, next', taken', shadows⟩
      exact ⟨fine, next', by rw [Parser.parse_eq, taken']; rfl, shadows⟩
  have initially : (start input flags).Orderly ∧ (start input flags).Comes alphabet
      (start input flags) := ⟨start_orderly input flags, .refl⟩
  rcases Shadows.along steps initially (ready.shadows_start text mode whole) parsed with
    ⟨⟨met, comes, inside, on, after, reads⟩, failed⟩ | ⟨fine, ⟨orderly, -⟩, reached, same, shadows⟩
  · exact .inl ⟨⟨inside, met, on, after, comes, reads⟩, failed⟩
  · refine .inr ⟨?_, reached, same, shadows, orderly⟩
    by_cases outermost : reader.level.kind = .whole
    · exact .inl outermost
    refine .inr fun met on after comes reads => ?_
    rcases fine met comes with rfl | whole | none
    · exact reads.not_stopped (step_of_parse parsed)
    · exact outermost whole
    · exact none on after reads

end Parser

end RuleLexer
