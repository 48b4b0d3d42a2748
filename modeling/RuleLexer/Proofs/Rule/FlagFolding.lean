import RuleLexer.Proofs.Regex.Beside
import RuleLexer.Proofs.Rule.Embedding
import RuleLexer.Proofs.Rule.FlagGroups
import RuleLexer.Proofs.Source.Tally

namespace RuleLexer

theorem Piece.eq_nil_of_split {source : List Char} {front back : List Piece}
    (split : Piece.split source = front ++ .dangling :: back) : back = [] := by
  cases back with
  | nil => rfl
  | cons piece back =>
    have later : Piece.split source = (front ++ [.dangling]) ++ piece :: back := by
      rw [split, List.append_assoc]
      rfl
    exact absurd (by simp) (dangling_not_mem_front later)

theorem Piece.dangling_not_mem_split {c : Char} (other : c ≠ '\\') (text : List Char) :
    .dangling ∉ Piece.split (text ++ [c]) := by
  intro member
  obtain ⟨front, back, split⟩ := List.append_of_mem member
  rw [eq_nil_of_split split] at split
  have whole := flatMap_text_split (text ++ [c])
  rw [split, List.flatMap_append] at whole
  exact other (List.singleton_inj.mp (List.append_inj' whole rfl).2).symm

theorem Sound.of_split {source : List Char} (more : Piece.split source ≠ [.dangling]) :
    Sound (Piece.split source) := by
  intro front back split
  have last := Piece.eq_nil_of_split split
  refine ⟨?_, last⟩
  rintro rfl
  exact more (by rw [split, last]; rfl)

theorem Flags.settle_has {flags settled : Flags} (settles : flags.settle .text = .ok settled)
    {flag : Flag} (other : flag ≠ .unicode) : settled.has flag = flags.has flag := by
  unfold settle at settles
  dsimp only at settles
  split at settles
  · cases settles
  split at settles
  · cases settles
    refine Bool.eq_iff_iff.mpr (Lexeme.has_insert.trans ?_)
    simp [other.symm]
  split at settles
  · cases settles
  · cases settles
    rfl

namespace Pattern

/-- Nothing in the pattern refers to a group by its number. -/
def Numberless (source : List Char) (asked : Int) : Prop :=
  ∀ met lexeme after, Meets source asked met → met.Reads .text lexeme after →
    lexeme.isNumbered = false

/-- The text that is left without the groups of flags at its start has more such groups. -/
def LeavesFlags (source : List Char) (asked : Int) : Prop :=
  ∃ met on after, Meets source asked met ∧ met.Reads .text (.globalFlags on) after ∧
    met.input.rest.length ≤ (Piece.split (Normal.dropFlagGroups source)).length

structure Stripped (source : List Char) (asked : Int) (pattern : Pattern) (stopped : Parser)
    (body : Input) (flags : Flags) : Prop where
  parsed : Parsed .text source asked pattern stopped
  rest : body.rest = Piece.split (Normal.dropFlagGroups source)
  meets : Meets source asked (.start body flags)
  parses : (Parser.start body flags).parse .text = .ok stopped
  closed : .dangling ∉ body.rest

variable {source : List Char} {asked : Int} {pattern : Pattern} {stopped : Parser}

theorem Parsed.whole (parsed : Parsed .text source asked pattern stopped) :
    Input.ofSource source = .ok ⟨0, Piece.split source⟩ ∧
      (Parser.start ⟨0, Piece.split source⟩ (.ofInt asked)).parse .text = .ok stopped ∧
      .dangling ∉ Piece.split source := by
  obtain ⟨input, read, parses⟩ := parsed.parses
  by_cases dangling : Piece.split source = [.dangling]
  · rw [Input.ofSource, Input.goTo, if_pos dangling] at read
    cases read
  · have start : Input.ofSource source = .ok ⟨0, Piece.split source⟩ := if_neg dangling
    cases start.symm.trans read
    exact ⟨start, parses, Parser.closed_of_parse (.of_split dangling) parses parsed.ends⟩

theorem Parsed.stripped (parsed : Parsed .text source asked pattern stopped) :
    ∃ body flags, Stripped source asked pattern stopped body flags := by
  obtain ⟨read, parses, closed⟩ := parsed.whole
  obtain ⟨position, flags, comes⟩ := Normal.comes_dropFlagGroupsUpTo source.length parses
  refine ⟨_, flags, parsed, rfl, ⟨_, read, comes⟩, comes.parse_eq.symm.trans parses, fun member => ?_⟩
  exact closed (List.IsSuffix.subset comes.leaves member)

structure Filled (pattern : Pattern) (reader : Parser) (tail : List Piece) (reached : Parser) :
    Prop where
  text : reached.input.rest = tail ∨ tail = .plain '\n' :: reached.input.rest
  outer : reached.outer = reader.outer
  kind : reached.level.kind = reader.level.kind
  body : reached.level.body = pattern.regex.shift reader.groups
  groups : reached.groups = pattern.groups + reader.groups
  conditions : ∀ number ∈ reached.conditionNumbers, number ≤ reached.groups
  flags : reached.flags = reader.flags
  verbose : reached.level.verbose = pattern.flags.has .verbose

namespace Stripped

variable {body : Input} {flags : Flags} (stripped : Stripped source asked pattern stopped body flags)

include stripped

theorem leavesFlags_iff : LeavesFlags source asked ↔ ∃ met on after,
    (Parser.start body flags).Comes .text met ∧ met.Reads .text (.globalFlags on) after := by
  obtain ⟨input, read, start⟩ := stripped.meets
  constructor
  · rintro ⟨met, on, after, ⟨input', read', comes⟩, reads, short⟩
    cases read.symm.trans read'
    refine ⟨met, on, after, ?_, reads⟩
    rcases start.total comes with onward | back
    · exact onward
    · have bound : met.input.rest.length ≤ (Parser.start body flags).input.rest.length := by
        rw [show (Parser.start body flags).input.rest = _ from stripped.rest]
        exact short
      rw [back.eq_of_length_le bound]
      exact .refl
  · rintro ⟨met, on, after, comes, reads⟩
    refine ⟨met, on, after, ⟨input, read, start.trans comes⟩, reads, ?_⟩
    rw [← stripped.rest]
    exact comes.leaves.length_le

theorem verbose_eq : pattern.flags.has .verbose = stopped.flags.has .verbose :=
  Flags.settle_has stripped.parsed.settles nofun

theorem filled {reader reached : Parser} {tail : List Piece} (inside : reader.level.kind ≠ .whole)
    (shadows : Parser.Shadows (reader.beside tail) stopped reached) (orderly : stopped.Orderly) :
    pattern.Filled reader tail reached := by
  obtain ⟨-, outside, -⟩ := stripped.parsed.numbered
  obtain ⟨text, outer, kind, body⟩ := shadows.ended_beside stripped.parsed.ends outside
  have made := stripped.parsed.made
  have rooted : Parser.Rooted (stopped.flags.has .verbose) stopped.level stopped.outer := orderly
  rw [outside] at rooted
  exact {
    text := text
    outer := outer
    kind := kind
    body := by
      rw [body, congrArg Pattern.regex made]
    groups := by
      rw [congrArg Pattern.groups made]
      exact shadows.groups
    conditions := shadows.conditions_beside stripped.parsed.conditionNumbers_le
    flags := shadows.flags.2 inside
    verbose := by
      rw [stripped.verbose_eq, ← rooted.2]
      exact shadows.stack.top.verbose }

theorem start_quiet (quiet : pattern.flags.has .verbose = false) : flags.has .verbose = false := by
  refine Bool.eq_false_iff.mpr fun has => ?_
  have kept := (Parser.comes_of_parse stripped.parses).has_of_has has
  rw [← stripped.verbose_eq, quiet] at kept
  cases kept

theorem head?_ne (quiet : pattern.flags.has .verbose = false) :
    body.rest.head? ≠ some (.plain '?') := by
  intro head
  obtain ⟨rest, same⟩ := List.head?_eq_some_iff.mp head
  have same : (Parser.start body flags).input.rest = .plain '?' :: rest := same
  exact Parser.parse_question same (stripped.start_quiet quiet) rfl _ stripped.parses

/-- A parser in the pattern's mode that comes upon the text in a group reads what the pattern's
parser reads, unless the text has flags for the whole pattern. -/
theorem parse_beside (numberless : Numberless source asked) {reader : Parser} (ready : reader.Ready)
    {tail : List Piece} (trails : Trails tail)
    (text : reader.input.rest = Piece.split (Normal.dropFlagGroups source) ++ tail)
    (inside : reader.level.kind ≠ .whole)
    (mode : reader.level.verbose = pattern.flags.has .verbose)
    (ends : pattern.flags.has .verbose = true → tail.head? = some (.plain '\n')) :
    (LeavesFlags source asked ∧ ∃ failure, reader.parse .text = .error failure) ∨
      ¬LeavesFlags source asked ∧ ∃ reached, reader.parse .text = reached.parse .text ∧
        pattern.Filled reader tail reached := by
  have texts : Input.Beside tail body reader.input :=
    ⟨stripped.closed, .inl (by rw [text, stripped.rest])⟩
  have plain (met : Parser) (lexeme : Lexeme) (after : Input)
      (comes : (Parser.start body flags).Comes .text met) (reads : met.Reads .text lexeme after) :
      lexeme.isNumbered = false := by
    obtain ⟨input, read, start⟩ := stripped.meets
    exact numberless met lexeme after ⟨input, read, start.trans comes⟩ reads
  rw [stripped.verbose_eq] at mode ends
  rw [stripped.leavesFlags_iff]
  have comes := Parser.comes_of_parse stripped.parses
  have beside (same : reader.level.verbose = flags.has .verbose) :=
    ready.parse_beside trails texts same (fun whole => absurd whole inside) (.inr plain)
      stripped.parses ends
  by_cases leaves : ∃ met on after, (Parser.start body flags).Comes .text met ∧
      met.Reads .text (.globalFlags on) after
  · refine .inl ⟨leaves, ?_⟩
    obtain ⟨met, on, after, meets, reads⟩ := leaves
    by_cases same : reader.level.verbose = flags.has .verbose
    · rcases beside same with ⟨-, failed⟩ | ⟨whole | none, -⟩
      · exact failed
      · exact absurd whole inside
      · exact absurd reads (none met on after meets)
    · -- Verbose mode is turned on later only, so the parsers differ up to the flags.
      have quiet : flags.has .verbose = false := by
        refine Bool.eq_false_iff.mpr fun has => same ?_
        rw [mode, has, comes.has_of_has has]
      refine meets.stops trails (fun begun => ?_) reads quiet texts inside
      obtain ⟨failure, failed⟩ := reads.misplaced begun
      have parses := meets.parse_eq.symm.trans stripped.parses
      rw [Parser.parse_eq, failed] at parses
      cases parses
  · refine .inr ⟨leaves, ?_⟩
    have kept : stopped.flags = flags := comes.flags_eq fun met on after comes reads =>
      leaves ⟨met, on, after, comes, reads⟩
    rcases beside (by rw [mode, kept]) with ⟨⟨-, leaving⟩, -⟩ | ⟨-, reached, same, shadows, orderly⟩
    · exact absurd leaving leaves
    · exact ⟨reached, same, stripped.filled inside shadows orderly⟩

end Stripped

end Pattern

namespace Parser

theorem outside_of_compile {before : List Char} {first : Pattern}
    (compiled : Pattern.compile .text before 0 = .ok first) (none : first.groups = 0)
    (flagless : first.flags = .ofList [.unicode]) {more : List Char}
    (closed : .dangling ∉ Piece.split more) :
    ∃ flags finished items reached,
      (start ⟨0, Piece.split (before ++ '|' :: more)⟩ (.ofInt 0)).parse .text =
        Parser.parse .text reached ∧
      Outside flags 0 ('|' :: more) finished items reached ∧ reached.Clean ∧
      flags.settle .text = .ok first.flags ∧
      first.regex = .ofAlternatives (finished.reverse ++ [Regex.ofItems items.reverse]) := by
  obtain ⟨parser, parsed⟩ := Pattern.compile_eq_ok_iff.mp compiled
  obtain ⟨-, parses, own⟩ := parsed.whole
  obtain ⟨tidy, lookbehind⟩ := parsed.tidy
  obtain ⟨-, outside, -⟩ := parsed.numbered
  have groups : parser.groups = 0 := (congrArg Pattern.groups parsed.made).symm.trans none
  have same : first.flags.has .verbose = parser.flags.has .verbose :=
    Flags.settle_has parsed.settles nofun
  have quiet : parser.flags.has .verbose = false := by
    rw [← same, flagless]
    decide
  have there : Piece.split (before ++ '|' :: more) =
      Piece.split before ++ .plain '|' :: Piece.split more := by
    rw [Piece.split_append_of_not_dangling own, Piece.split_cons (by decide)]
  have idle : ∀ piece ∈ (Piece.plain '|' :: Piece.split more).head?, piece.isIdle = true := by
    rintro piece ⟨⟩
    rfl
  have trails : Trails (.plain '|' :: Piece.split more) := ⟨by simpa using closed, idle, nofun⟩
  let reader := start ⟨0, Piece.split (before ++ '|' :: more)⟩ (.ofInt 0)
  have ready : reader.Ready := ⟨rfl, rfl, nofun, rfl, nofun, nofun, rfl⟩
  have texts : Input.Beside (.plain '|' :: Piece.split more) ⟨0, Piece.split before⟩ reader.input :=
    ⟨own, .inl there⟩
  have ends : parser.flags.has .verbose = true →
      (Piece.plain '|' :: Piece.split more).head? = some (.plain '\n') := fun verbose => by
    cases quiet.symm.trans verbose
  have mode : reader.level.verbose = (Flags.ofInt 0).has .verbose := rfl
  rcases ready.parse_beside trails texts mode (fun _ => rfl) (.inl rfl) parses ends with
    ⟨⟨inside, -⟩, -⟩ | ⟨-, reached, same, shadows, orderly⟩
  · exact absurd rfl inside
  obtain ⟨rest, outer, kind, body⟩ := shadows.ended_beside parsed.ends outside
  have rest : reached.input.rest = .plain '|' :: Piece.split more := by
    rcases rest with same | other
    · exact same
    · cases other
  have flags : reached.flags = parser.flags := shadows.flags.1 rfl
  have rooted : Rooted (parser.flags.has .verbose) parser.level parser.outer := orderly
  rw [outside] at rooted
  refine ⟨reached.flags, reached.level.finished, reached.level.items, reached, same, ?_, ⟨?_, ?_⟩,
    flags ▸ parsed.settles, ?_⟩
  · exact {
      text := rest
      outer := outer
      whole := kind
      quiet := shadows.stack.top.verbose.trans (rooted.2.trans quiet)
      finished := rfl
      items := rfl
      groups := shadows.groups.trans (by rw [groups]; rfl)
      widths := by
        intro entry member
        rcases shadows.widths_le tidy.widths entry member with bound | before
        · exact groups ▸ bound
        · cases before
      lookbehind := shadows.lookbehind.trans (by rw [lookbehind]; rfl)
      flags := rfl }
  · rw [shadows.names, tidy.names_eq_nil groups]
    rfl
  · exact shadows.conditions_beside parsed.conditionNumbers_le
  · rw [congrArg Pattern.regex parsed.made]
    exact ((Regex.shift_zero _).symm.trans body.symm)

variable {alphabet : Alphabet} {parser : Parser} {level : Level} {outer : List Level}
  {rest : List Piece}

theorem parse_lineBreak (head : parser.input.rest = .plain '\n' :: rest)
    (verbose : parser.level.verbose = true) (onward : rest ≠ [.dangling]) :
    parser.parse alphabet =
      Parser.parse alphabet { parser with input := ⟨parser.input.position + 1, rest⟩ } := by
  have reads : parser.Reads alphabet .blank ⟨parser.input.position + 1, rest⟩ := by
    refine ⟨_, _, _, head, by decide, by decide, if_neg onward, ?_⟩
    rw [verbose]
    rfl
  exact parse_step reads.step_eq rfl

structure Done (flags : Flags) (groups : Nat) (finished : List Regex) (item : Regex)
    (parser : Parser) : Prop where
  text : parser.input.rest = []
  groups : parser.groups = groups
  body : parser.level.body = .ofAlternatives (finished.reverse ++ [item])
  conditions : ∀ number ∈ parser.conditionNumbers, number ≤ parser.groups
  flags : parser.flags = flags

theorem parse_last (alphabet : Alphabet) (head : parser.input.rest = [.plain ')'])
    (stack : parser.outer = [level]) (items : level.items = []) (conditions : ∀ number ∈ parser.conditionNumbers,
      number ≤ parser.groups) :
    ∃ next, parser.parse alphabet = .ok next ∧
      next.Done parser.flags parser.groups level.finished parser.closedItem := by
  obtain ⟨widths, lookbehind, closed⟩ := parse_close alphabet head stack nofun
  rw [closed]
  refine ⟨_, rfl, rfl, rfl, ?_, conditions, rfl⟩
  rw [Level.body, Level.current, Level.push, items]
  rfl

end Parser

namespace Regex

theorem check_untemplated {template : Bool} {regex : Regex} (passed : regex.check template = .ok ()) :
    regex.check false = .ok () := by
  induction regex with
  | seq first second ih ih' =>
    obtain ⟨one, other⟩ := check_seq.mp passed
    exact check_seq.mpr ⟨ih one, ih' other⟩
  | alt first second ih ih' =>
    obtain ⟨one, other⟩ := check_seq.mp passed
    exact check_seq.mpr ⟨ih one, ih' other⟩
  | conditional group first second ih ih' =>
    obtain ⟨one, other⟩ := check_seq.mp passed
    exact check_seq.mpr ⟨ih one, ih' other⟩
  | repeated greed least most body ih =>
    exact check_repeated.mpr ⟨rfl, ih (check_repeated.mp passed).2⟩
  | behind negated width body ih =>
    unfold check at passed ⊢
    dsimp only at passed ⊢
    split at passed
    · cases passed
    split at passed
    · cases passed
    · next near fixed =>
      rw [if_neg near, if_neg fixed]
      exact ih passed
  | group index body ih => exact ih passed
  | «scoped» on off body ih => exact ih passed
  | atomic body ih => exact ih passed
  | ahead negated body ih => exact ih passed
  | _ => rfl

end Regex

namespace Pattern

/-- In a pattern without flags this tree matches what the pattern's own tree matches behind one
group. -/
structure Folds (alone : Pattern) (inner : Regex) : Prop where
  checks : inner.check false = .ok ()
  runs : ∀ text, inner.run text (.ofFlags (.ofList [.unicode])) =
    (alone.regex.shift 1).run text alone.mode

variable {alone : Pattern}

theorem check_shifted (passed : alone.regex.check (alone.flags.has .template) = .ok ()) :
    (alone.regex.shift 1).check false = .ok () := by
  rw [Regex.check_shift]
  exact Regex.check_untemplated passed

theorem mode_eq_change {on : Flags} (turned : ∀ flag, on.has flag = true ↔
    flag ∈ Normal.scopedFlags.map Prod.fst ∧ alone.flags.has flag = true) :
    (Mode.ofFlags (.ofList [.unicode])).change on .none = alone.mode := by
  have same (flag : Flag) (lettered : flag ∈ Normal.scopedFlags.map Prod.fst) :
      on.has flag = alone.flags.has flag :=
    Bool.eq_iff_iff.mpr ((turned flag).trans (and_iff_right lettered))
  have none (flag : Flag) : Flags.none.has flag = false := by cases flag <;> rfl
  have plain : Mode.ofFlags (.ofList [.unicode]) = ⟨false, false, false, false⟩ := by decide
  simp only [plain, Mode.change, none, Bool.false_or, Bool.false_and, Bool.or_false, Bool.not_false,
    Bool.and_true]
  rw [same _ (by decide), same _ (by decide), same _ (by decide), same _ (by decide)]
  rfl

theorem folds_scoped {on : Flags} (turned : ∀ flag, on.has flag = true ↔
      flag ∈ Normal.scopedFlags.map Prod.fst ∧ alone.flags.has flag = true)
    (passed : alone.regex.check (alone.flags.has .template) = .ok ()) :
    alone.Folds (.scoped on .none (alone.regex.shift 1)) where
  checks := check_shifted passed
  runs text := by
    rw [← mode_eq_change turned]
    rfl

theorem not_has_of_flagLetters (none : Normal.flagLetters alone.flags = []) (flag : Flag)
    (lettered : flag ∈ Normal.scopedFlags.map Prod.fst) : alone.flags.has flag = false := by
  obtain ⟨entry, member, rfl⟩ := List.mem_map.mp lettered
  have empty := List.filter_eq_nil_iff.mp (List.map_eq_nil_iff.mp none)
  exact Bool.eq_false_iff.mpr (empty entry member)

theorem folds_bare (none : Normal.flagLetters alone.flags = [])
    (passed : alone.regex.check (alone.flags.has .template) = .ok ()) :
    alone.Folds (alone.regex.shift 1) where
  checks := check_shifted passed
  runs text := by
    have off := not_has_of_flagLetters none
    have plain : Mode.ofFlags (.ofList [.unicode]) = ⟨false, false, false, false⟩ := by decide
    rw [plain, Pattern.mode, Mode.ofFlags, off _ (by decide), off _ (by decide), off _ (by decide),
      off _ (by decide)]

end Pattern

namespace Parser

/-- The parser rejects the text that it is at, if it has flags left; if not, it reads the text to its
end, and the last alternative is a group that matches what the pattern matches. -/
def Takes (parser : Parser) (source : List Char) (asked : Int) (alone : Pattern) (flags : Flags)
    (finished : List Regex) : Prop :=
  (Pattern.LeavesFlags source asked ∧ ∃ failure, parser.parse .text = .error failure) ∨
    ¬Pattern.LeavesFlags source asked ∧ ∃ next inner, parser.parse .text = .ok next ∧
      next.Done flags (alone.groups + 1) finished (.group 1 inner) ∧ alone.Folds inner

namespace Outside

variable {source : List Char} {asked : Int} {alone : Pattern} {stopped parser : Parser}
  {body : Input} {turned flags : Flags} {finished : List Regex}
  (stripped : Pattern.Stripped source asked alone stopped body turned)
  (numberless : Pattern.Numberless source asked)

theorem ready_opened {offset : Nat} {after : List Char} {items : List Regex}
    (outside : Outside flags offset ('(' :: after) finished items parser) (clean : parser.Clean)
    (input : Input) : (opened parser offset input).Ready where
  finished := rfl
  items := rfl
  kind := nofun
  names := clean.names
  widths entry member := Nat.lt_succ_of_le (outside.widths entry member)
  conditions := (outside.clean_opened clean input).conditions
  lookbehind := outside.lookbehind

def closers : Bool → List Char
  | true => ['\n', ')', ')']
  | false => [')', ')']

theorem trails_closers (verbose : Bool) : Trails (Piece.split (closers verbose)) := by
  have mark : ∀ rest, Piece.split [')', ')'] ≠ .plain '\n' :: rest := fun rest same => by
    have first := congrArg List.head? same
    simp [Piece.split] at first
  cases verbose with
  | true =>
    refine ⟨by decide, ?_, ?_⟩
    · rintro piece ⟨⟩
      rfl
    · rintro rest ⟨⟩ piece ⟨⟩
      rfl
  | false =>
    refine ⟨by decide, ?_, fun rest same => absurd same (mark rest)⟩
    rintro piece ⟨⟩
    rfl

def scopedReader (parser : Parser) (on : Flags) (input after : Input) : Parser :=
  openLevel { opened parser 0 input with input := after } (.scoped on .none) input.position
    ((false || on.has .verbose) && !Flags.none.has .verbose)

theorem parse_scopedOpening (some : Normal.flagLetters alone.flags ≠ []) {body tail : List Piece}
    (more : body ++ tail ≠ [.dangling]) {after : List Char}
    (text : Piece.split after = .plain '(' :: .plain '?' ::
      ((Normal.flagLetters alone.flags).map .plain ++ .plain ':' :: (body ++ tail)))
    (outside : Outside flags 0 ('(' :: after) finished [] parser) :
    ∃ on input behind, parser.parse .text = Parser.parse .text (scopedReader parser on input behind) ∧
      behind.rest = body ++ tail ∧ ∀ flag, on.has flag = true ↔
        flag ∈ Normal.scopedFlags.map Prod.fst ∧ alone.flags.has flag = true := by
  let input : Input := ⟨parser.input.position + 1, Piece.split after⟩
  let inner : Input := ⟨input.position + 1, .plain '?' ::
    ((Normal.flagLetters alone.flags).map .plain ++ .plain ':' :: (body ++ tail))⟩
  obtain ⟨on, behind, read, rest, turned⟩ :=
    Lexeme.read_scoped alone.flags some more input.position (show inner.rest = _ from rfl)
  have reads : (opened parser 0 input).Reads .text (.opening (.scoped on .none)) behind :=
    ⟨_, _, inner, text, by decide, by decide, if_neg nofun, read⟩
  have simple : (Piece.split after).head? ≠ Option.some (.plain '?') := by
    rw [text]
    nofun
  have onward : Piece.split after ≠ [.dangling] := by
    rw [text]
    nofun
  refine ⟨on, input, behind, ?_, rest, turned⟩
  rw [outside.parse_opening simple onward]
  exact parse_step reads.step_eq rfl

theorem ready_scopedReader {after : List Char} (outside : Outside flags 0 ('(' :: after) finished []
      parser) (clean : parser.Clean) (on : Flags) (input behind : Input) :
    (scopedReader parser on input behind).Ready := by
  have ready := outside.ready_opened clean input
  exact ⟨rfl, rfl, nofun, ready.names, ready.widths, ready.conditions, ready.lookbehind⟩

theorem parse_scopedClosing {after : List Char} (outside : Outside flags 0 ('(' :: after) finished []
      parser) {on : Flags} {input behind : Input} {reached : Parser}
    (filled : alone.Filled (scopedReader parser on input behind)
      (Piece.split (closers (alone.flags.has .verbose))) reached) :
    ∃ next, reached.parse .text = .ok next ∧ next.Done flags (alone.groups + 1) finished
      (.group 1 (.scoped on .none (alone.regex.shift 1))) := by
  have start : ∃ place, reached.parse .text =
      Parser.parse .text { reached with input := ⟨place, [.plain ')', .plain ')']⟩ } := by
    have here (rest : reached.input.rest = [.plain ')', .plain ')']) : ∃ place,
        reached.parse .text =
          Parser.parse .text { reached with input := ⟨place, [.plain ')', .plain ')']⟩ } := by
      refine ⟨reached.input.position, ?_⟩
      rw [← rest]
    have mode := filled.verbose
    have text := filled.text
    cases verbose : alone.flags.has .verbose with
    | true =>
      rw [verbose] at mode text
      rcases text with rest | same
      · exact ⟨_, parse_lineBreak rest mode (by decide)⟩
      · exact here (List.cons.inj same).2.symm
    | false =>
      rw [verbose] at text
      rcases text with rest | other
      · exact here rest
      · cases other
  obtain ⟨place, start⟩ := start
  let closing : Parser := { reached with input := ⟨place, [.plain ')', .plain ')']⟩ }
  have stack : closing.outer = (opened parser 0 input).level :: [parser.level] := by
    show reached.outer = _
    rw [filled.outer, ← outside.outer]
    rfl
  have item : closing.closedItem = .scoped on .none (alone.regex.shift 1) := by
    have kind : closing.level.kind = .scoped on .none := filled.kind
    simp only [closedItem, kind]
    exact congrArg _ filled.body
  obtain ⟨widths, lookbehind, closed⟩ := parse_close .text rfl stack (by decide)
  let shut : Parser := { closing with
    input := ⟨closing.input.position + 1, [.plain ')']⟩
    level := (opened parser 0 input).level.push closing.closedItem
    outer := [parser.level], widths, lookbehind }
  have last : shut.input.rest = [.plain ')'] := rfl
  have around : shut.closedItem = .group 1 (.scoped on .none (alone.regex.shift 1)) := by
    rw [← item]
    rfl
  obtain ⟨next, parses, done⟩ := parse_last .text last rfl outside.items filled.conditions
  have flags : shut.flags = flags := filled.flags.trans outside.flags
  have groups : shut.groups = alone.groups + 1 := filled.groups
  rw [around, flags, groups, outside.finished] at done
  exact ⟨next, start.trans (closed.trans parses), done⟩

include stripped numberless

theorem takes_bare (none : Normal.flagLetters alone.flags = []) (outside : Outside flags 0
      ('(' :: (Normal.dropFlagGroups source ++ [')'])) finished [] parser)
    (clean : parser.Clean) : parser.Takes source asked alone flags finished := by
  have quiet : alone.flags.has .verbose = false :=
    Pattern.not_has_of_flagLetters none .verbose (by decide)
  have closed := stripped.closed
  rw [stripped.rest] at closed
  have split : Piece.split (Normal.dropFlagGroups source ++ [')']) =
      Piece.split (Normal.dropFlagGroups source) ++ [.plain ')'] :=
    Piece.split_append_of_not_dangling closed [')']
  have simple : (Piece.split (Normal.dropFlagGroups source ++ [')'])).head? ≠ some (.plain '?') := by
    have first := stripped.head?_ne quiet
    rw [split, ← stripped.rest]
    cases rest : body.rest with
    | nil => nofun
    | cons piece rest =>
      rw [rest] at first
      exact first
  have onward : Piece.split (Normal.dropFlagGroups source ++ [')']) ≠ [.dangling] :=
    Piece.split_ne_dangling (List.mem_append_right _ List.mem_cons_self) (by decide)
  have trails : Trails [.plain ')'] := ⟨by decide, by rintro piece ⟨⟩; rfl, nofun⟩
  let input : Input := ⟨parser.input.position + 1, Piece.split (Normal.dropFlagGroups source ++ [')'])⟩
  have mode : (opened parser 0 input).level.verbose = alone.flags.has .verbose := quiet.symm
  rw [Takes, outside.parse_opening simple onward]
  refine (stripped.parse_beside numberless (outside.ready_opened clean input) trails split nofun mode
    fun verbose => ?_).imp_right ?_
  · cases quiet.symm.trans verbose
  -- The text's parser has stopped at the parenthesis of the group, which is the last piece.
  rintro ⟨complete, reached, same, filled⟩
  have last : reached.input.rest = [.plain ')'] := by
    rcases filled.text with same | other
    · exact same
    · cases other
  have stack : reached.outer = [parser.level] := by
    rw [filled.outer, ← outside.outer]
    rfl
  have item : reached.closedItem = .group 1 (alone.regex.shift 1) := by
    have kind : reached.level.kind = .capture 1 := filled.kind
    simp only [closedItem, kind]
    exact congrArg _ filled.body
  obtain ⟨next, parses, done⟩ :=
    parse_last .text last stack outside.items filled.conditions
  have flags : reached.flags = flags := filled.flags.trans outside.flags
  have groups : reached.groups = alone.groups + 1 := filled.groups
  rw [item, flags, groups, outside.finished] at done
  exact ⟨complete, next, _, same.trans parses, done, Pattern.folds_bare none stripped.parsed.checks⟩

theorem takes_scoped (some : Normal.flagLetters alone.flags ≠ []) (outside : Outside flags 0
      ('(' :: '(' :: '?' :: (Normal.flagLetters alone.flags ++
        ':' :: (Normal.dropFlagGroups source ++ closers (alone.flags.has .verbose)))) finished []
      parser)
    (clean : parser.Clean) : parser.Takes source asked alone flags finished := by
  let tail : List Piece := Piece.split (closers (alone.flags.has .verbose))
  have letters : '\\' ∉ Normal.flagLetters alone.flags := by
    intro member
    obtain ⟨entry, known, letter⟩ := List.mem_map.mp member
    have other : ∀ entry ∈ Normal.scopedFlags, entry.2 ≠ '\\' := by decide
    exact other entry (List.mem_filter.mp known).1 letter
  have closed := stripped.closed
  rw [stripped.rest] at closed
  have split : Piece.split ('(' :: '?' :: (Normal.flagLetters alone.flags ++
      ':' :: (Normal.dropFlagGroups source ++ closers (alone.flags.has .verbose)))) =
      .plain '(' :: .plain '?' :: ((Normal.flagLetters alone.flags).map .plain ++
        .plain ':' :: (Piece.split (Normal.dropFlagGroups source) ++ tail)) := by
    rw [Piece.split_cons (by decide), Piece.split_cons (by decide), Piece.split_append letters,
      Piece.split_cons (by decide), Piece.split_append_of_not_dangling closed]
  have trails : Trails tail := trails_closers _
  have more : Piece.split (Normal.dropFlagGroups source) ++ tail ≠ [.dangling] := by
    intro dangling
    have member : .dangling ∈ Piece.split (Normal.dropFlagGroups source) ++ tail :=
      dangling ▸ List.mem_singleton_self _
    exact (List.mem_append.mp member).elim closed trails.closed
  obtain ⟨on, input, behind, opens, rest, turned⟩ := parse_scopedOpening some more split outside
  have mode : (scopedReader parser on input behind).level.verbose = alone.flags.has .verbose := by
    have same : on.has .verbose = alone.flags.has .verbose :=
      Bool.eq_iff_iff.mpr ((turned .verbose).trans (and_iff_right (by decide)))
    rw [← same]
    show ((false || on.has .verbose) && !Flags.none.has .verbose) = _
    simp [Flags.none, Flags.has]
  have lineBreak (verbose : alone.flags.has .verbose = true) :
      tail.head? = Option.some (.plain '\n') := by
    simp only [tail, verbose]
    rfl
  have inside : (scopedReader parser on input behind).level.kind ≠ .whole := by
    simp [scopedReader, openLevel]
  rw [Takes, opens]
  refine (stripped.parse_beside numberless (ready_scopedReader outside clean on input behind) trails
    rest inside mode lineBreak).imp_right ?_
  rintro ⟨complete, reached, same, filled⟩
  obtain ⟨next, parses, done⟩ := parse_scopedClosing outside filled
  exact ⟨complete, next, _, same.trans parses, done,
    Pattern.folds_scoped turned stripped.parsed.checks⟩

theorem takes_source (outside : Outside flags 0
      (CompiledRule.wrap (Matcher.source (.pattern alone))) finished [] parser)
    (clean : parser.Clean) : parser.Takes source asked alone flags finished := by
  have same : alone.source = source := congrArg Pattern.source stripped.parsed.made
  have text (inner : List Char) (written : Matcher.source (.pattern alone) = inner) :
      Outside flags 0 ('(' :: (inner ++ [')'])) finished [] parser := by
    rw [← written]
    exact outside
  by_cases none : Normal.flagLetters alone.flags = []
  · refine takes_bare stripped numberless none (text _ ?_) clean
    simp only [Matcher.source, same, none]
    rfl
  · refine takes_scoped stripped numberless none ?_ clean
    have written : Matcher.source (.pattern alone) ++ [')'] =
        '(' :: '?' :: (Normal.flagLetters alone.flags ++
          ':' :: (Normal.dropFlagGroups source ++ closers (alone.flags.has .verbose))) := by
      simp only [Matcher.source, same]
      rw [if_neg (by simpa using none)]
      cases alone.flags.has .verbose <;> simp [closers]
    rw [← written]
    exact text _ rfl

end Outside

end Parser

namespace Regex

theorem getLast?_alternatives (choices : List Regex) (index : Nat) (body : Regex) :
    (ofAlternatives (choices ++ [.group index body])).alternatives.getLast? =
      some (.group index body) := by
  induction choices with
  | nil => rfl
  | cons choice choices ih =>
    have more : ofAlternatives (choice :: (choices ++ [.group index body])) =
        .alt choice (ofAlternatives (choices ++ [.group index body])) := by
      cases choices <;> rfl
    rw [List.cons_append, more, alternatives, List.getLast?_cons, ih]
    rfl

end Regex

namespace Pattern

/-- The pattern is the first one with one more alternative, a group that matches what the second
one matches. -/
structure Adds (first alone whole : Pattern) : Prop where
  groups : whole.groups = alone.groups + 1
  flags : whole.flags = first.flags
  tree : ∃ choices inner, choices ≠ [] ∧ first.regex = .ofAlternatives choices ∧
    whole.regex = .ofAlternatives (choices ++ [.group 1 inner]) ∧ alone.Folds inner

variable {first alone whole : Pattern}

theorem Folds.matchAt?_eq {inner : Regex} (folds : alone.Folds inner)
    (plain : whole.flags = .ofList [.unicode]) (text : Array Char) (start : Nat) (nonempty : Bool) :
    (whole.only (.group 1 inner)).matchAt? text start nonempty =
      (alone.matchAt? text start nonempty).map (Match.embed 1) := by
  let embedded : Pattern := alone.only (.group 1 (alone.regex.shift 1))
  have own : embedded.mode = alone.mode := rfl
  rw [← matchAt?_embed (show embedded.regex = _ from rfl) own]
  have mode : (whole.only (.group 1 inner)).mode = .ofFlags (.ofList [.unicode]) :=
    congrArg Mode.ofFlags plain
  simp only [matchAt?, mode]
  simp only [only, Regex.run, folds.runs]
  rfl

theorem Adds.matchAt?_eq (adds : first.Adds alone whole) (plain : first.flags = .ofList [.unicode]) :
    ∃ inner, whole.regex.alternatives.getLast? = some inner ∧ ∀ text start nonempty,
      (whole.only inner).matchAt? text start nonempty =
          (alone.matchAt? text start nonempty).map (Match.embed 1) ∧
        whole.matchAt? text start nonempty = (first.matchAt? text start nonempty).or
          ((alone.matchAt? text start nonempty).map (Match.embed 1)) := by
  obtain ⟨choices, inner, some, body, tree, folds⟩ := adds.tree
  refine ⟨.group 1 inner, by rw [tree, Regex.getLast?_alternatives], fun text start nonempty => ?_⟩
  have inside := folds.matchAt?_eq (adds.flags.trans plain) text start nonempty
  refine ⟨inside, ?_⟩
  have mode : first.mode = whole.mode := congrArg Mode.ofFlags adds.flags.symm
  rw [← inside]
  simp only [matchAt?, body, tree, mode, Regex.run_ofAlternatives_append some, Option.map_or]
  rfl

variable {source before : List Char} {asked : Int}
  (compiled : compile .text source asked = .ok alone) (numberless : Numberless source asked)
  (alternative : compile .text before 0 = .ok first) (none : first.groups = 0)
  (flagless : first.flags = .ofList [.unicode])

def composed (before : List Char) (alone : Pattern) : List Char :=
  before ++ '|' :: CompiledRule.wrap (Matcher.source (.pattern alone))

include compiled numberless alternative none flagless

theorem compile_composed :
    (LeavesFlags source asked ∧ ∀ whole, compile .text (composed before alone) 0 ≠ .ok whole) ∨
      ¬LeavesFlags source asked ∧
        ∃ whole, compile .text (composed before alone) 0 = .ok whole ∧ first.Adds alone whole := by
  obtain ⟨stopped, parsed⟩ := compile_eq_ok_iff.mp compiled
  obtain ⟨earlier, parsed'⟩ := compile_eq_ok_iff.mp alternative
  obtain ⟨body, turned, stripped⟩ := parsed.stripped
  let wrapped := CompiledRule.wrap (Matcher.source (.pattern alone))
  have closed : .dangling ∉ Piece.split wrapped :=
    Piece.dangling_not_mem_split (by decide) ('(' :: Matcher.source (.pattern alone))
  obtain ⟨flags, finished, items, reached, start, outside, clean, settles, tree⟩ :=
    Parser.outside_of_compile alternative none flagless closed
  have onward : Piece.split wrapped ≠ [.dangling] :=
    Piece.split_ne_dangling (show '(' ∈ wrapped from List.mem_cons_self) (by decide)
  obtain ⟨behind, barred, still, outside⟩ := outside.parse_bar onward
  have opens : Input.ofSource (composed before alone) =
      .ok ⟨0, Piece.split (composed before alone)⟩ :=
    if_neg (Piece.split_ne_dangling (List.mem_append_right _ List.mem_cons_self) (by decide))
  -- The first pattern has been read up to the bar, and the rule stands behind it in a group.
  rcases outside.takes_source stripped numberless (still clean) with
    ⟨leaves, failure, failed⟩ | ⟨complete, next, inner, parses, done, folds⟩
  · refine .inl ⟨leaves, fun whole composed => ?_⟩
    obtain ⟨_, ⟨input, read, accepted⟩, -⟩ := compile_eq_ok_iff.mp composed
    cases opens.symm.trans read
    cases (start.trans (barred.trans failed)).symm.trans accepted
  · let whole : Pattern :=
      ⟨composed before alone, next.level.body, next.groups, next.names.reverse, first.flags⟩
    have body : next.level.body = .ofAlternatives
        ((finished.reverse ++ [.ofItems items.reverse]) ++ [.group 1 inner]) := by
      rw [done.body, List.reverse_cons]
    have plain : first.flags.has .template = false := by
      rw [flagless]
      decide
    have checks : next.level.body.check (first.flags.has .template) = .ok () := by
      rw [body]
      refine Regex.check_ofAlternatives_iff.mpr (List.forall_mem_append.mpr ⟨?_, ?_⟩)
      · exact Regex.check_ofAlternatives_iff.mp (tree ▸ parsed'.checks)
      · rw [List.forall_mem_singleton, plain]
        exact folds.checks
    refine .inr ⟨complete, whole, compile_eq_ok_iff.mpr ⟨next, ?_⟩, done.groups, rfl, _, inner,
      by simp, tree, body, folds⟩
    exact {
      parses := ⟨_, opens, start.trans (barred.trans parses)⟩
      ends := done.text
      settles := done.flags ▸ settles
      conditions := checkConditions_eq_ok_iff.mpr fun entry member =>
        done.conditions _ (List.mem_map_of_mem (List.mem_reverse.mp member))
      checks := checks
      fits := rfl
      made := rfl }

/-- A pattern's text with its flags, in a group behind an alternative without groups. It is accepted
there exactly if no group of flags is left in it. Then the whole has the pattern's groups and one
more, and that group, its last alternative, matches what the pattern matches by itself, with the
same captures. -/
theorem composed_preserves_matches :
    ((∃ whole, compile .text (composed before alone) 0 = .ok whole) ↔ ¬LeavesFlags source asked) ∧
    ∀ whole, compile .text (composed before alone) 0 = .ok whole →
      whole.groups = alone.groups + 1 ∧
      ∃ inner, whole.regex.alternatives.getLast? = some inner ∧ ∀ text start nonempty,
        (whole.only inner).matchAt? text start nonempty =
            (alone.matchAt? text start nonempty).map (Match.embed 1) ∧
          whole.matchAt? text start nonempty = (first.matchAt? text start nonempty).or
            ((alone.matchAt? text start nonempty).map (Match.embed 1)) := by
  rcases compile_composed compiled numberless alternative none flagless with
    ⟨leaves, rejected⟩ | ⟨complete, whole, accepted, adds⟩
  · refine ⟨⟨fun ⟨whole, accepted⟩ => absurd accepted (rejected whole), fun none => absurd leaves none⟩, ?_⟩
    exact fun whole accepted => absurd accepted (rejected whole)
  · refine ⟨⟨fun _ => complete, fun _ => ⟨whole, accepted⟩⟩, fun other accepted' => ?_⟩
    cases accepted.symm.trans accepted'
    exact ⟨adds.groups, adds.matchAt?_eq flagless⟩

omit compiled numberless alternative none flagless

def shoutedPattern : Pattern where
  source := "(?i)(?P<n>a).".toList
  regex := .seq (.group 1 (.char 'a'.toNat)) .any
  groups := 1
  names := [("n".toList, 1)]
  flags := .ofList [.ignoreCase, .dotAll, .unicode]

def letterPattern : Pattern where
  source := "x".toList
  regex := .char 'x'.toNat
  groups := 0
  names := []
  flags := .ofList [.unicode]

theorem composed_preserves_shoutedPattern :
    composed "x".toList shoutedPattern = "x|((?is:(?P<n>a).))".toList ∧
    ∃ whole, compile .text (composed "x".toList shoutedPattern) 0 = .ok whole ∧ whole.groups = 2 ∧
      ∃ inner, whole.regex.alternatives.getLast? = some inner ∧ ∀ text start nonempty,
        (whole.only inner).matchAt? text start nonempty =
            (shoutedPattern.matchAt? text start nonempty).map (Match.embed 1) ∧
          whole.matchAt? text start nonempty = (letterPattern.matchAt? text start nonempty).or
            ((shoutedPattern.matchAt? text start nonempty).map (Match.embed 1)) := by
  have compiled : compile .text "(?i)(?P<n>a).".toList 16 = .ok shoutedPattern := rfl
  have numberless : Numberless "(?i)(?P<n>a).".toList 16 := forall_reads rfl (by decide)
  have alternative : compile .text "x".toList 0 = .ok letterPattern := rfl
  exact ⟨rfl, _, rfl,
    (composed_preserves_matches compiled numberless alternative rfl rfl).2 _ rfl⟩

def commentedPattern : Pattern where
  source := "(?#c)(?i)a".toList
  regex := .char 'a'.toNat
  groups := 0
  names := []
  flags := .ofList [.ignoreCase, .unicode]

/-- Flags behind a comment are accepted at the start of a pattern, but they stay in its text, and are
misplaced in the group around it. -/
theorem composed_rejects_commentedPattern :
    compile .text "(?#c)(?i)a".toList 0 = .ok commentedPattern ∧
      Numberless "(?#c)(?i)a".toList 0 ∧
      composed "x".toList commentedPattern = "x|((?i:(?#c)(?i)a))".toList ∧
      compile .text (composed "x".toList commentedPattern) 0 =
        .error (Fault.misplacedFlags.at 12) :=
  ⟨rfl, forall_reads rfl (by decide), rfl, rfl⟩

end Pattern

end RuleLexer
