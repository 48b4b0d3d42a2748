import RuleLexer.Proofs.Regex.AlignedParsing
import RuleLexer.Proofs.Rule.Assembly
import RuleLexer.Proofs.Source.Renumbering

namespace RuleLexer

namespace Renumbering

def free : Renumbering := ⟨fun _ _ => True, fun _ _ => True, []⟩

theorem free_ends : free.Ends := nofun

def shifted (excused : Prop) (shift : Nat) (tail : List Char) : Renumbering where
  reference n n' := n' = n + shift
  condition ds ds' := Number.valueOf ds' = Number.valueOf ds + shift ∧
    (excused ∨ Parser.InRange ds')
  tail := Piece.split tail

theorem shifted_ends {excused : Prop} {shift : Nat} {tail : List Char}
    (closes : Segment.Closes tail) :
    (shifted excused shift tail).Ends := by
  intro piece rest same
  cases tail with
  | nil => cases same
  | cons c tail =>
    rcases closes c rfl with rfl | rfl
    · cases same
      exact .inl rfl
    · cases same
      exact .inr rfl

end Renumbering

theorem Parser.parse_question {alphabet : Alphabet} {parser : Parser} {rest : List Piece}
    (head : parser.input.rest = .plain '?' :: rest) (quiet : parser.level.verbose = false)
    (first : parser.level.items = []) : Ensures (parser.parse alphabet) fun _ => False := by
  rw [parse_eq, step_lexeme alphabet head (by decide) (by decide), quiet]
  intro stopped returned
  obtain ⟨next?, taken, -⟩ := bind_eq_ok_iff.mp returned
  obtain ⟨next, taken, -⟩ := bind_eq_ok_iff.mp taken
  obtain ⟨input, -, taken⟩ := bind_eq_ok_iff.mp taken
  obtain ⟨item, items, last, -⟩ := pushQuantifier_item { parser with input } 0 (some 1) _ next taken
  rw [show parser.level.items = item :: items from last] at first
  cases first

namespace Parser

structure Fresh (parser : Parser) : Prop where
  quiet : parser.level.verbose = false
  finished : parser.level.finished = []
  items : parser.level.items = []
  kind : ∀ group, parser.level.kind ≠ .conditional group
  widths : ∀ entry ∈ parser.widths, entry.1 < parser.groups
  lookbehind : parser.lookbehind = none

/-- The parser has met no names, and no conditions on groups that it has not opened. -/
structure Clean (parser : Parser) : Prop where
  names : parser.names = []
  conditions : ∀ number ∈ parser.conditionNumbers, number ≤ parser.groups

def comparison (parser : Parser) (excused : Prop) (tail : List Char) : Comparison where
  text x y := ∃ marks, Aligned (.shifted excused parser.groups tail) marks false x.rest y.rest
  offset := parser.groups
  loose _ := False
  exact _ := True
  modes verbose := verbose = false
  excused := excused
  bottom := parser.level.kind
  base := parser.outer
  names := parser.names
  widths := parser.widths
  flags _ flags := flags = parser.flags

variable {parser : Parser} {excused : Prop} {tail : List Char}

theorem Fresh.aligns (fresh : parser.Fresh) (closes : Segment.Closes tail)
    (strict : excused ∨ parser.Clean) :
    (parser.comparison excused tail).Aligns (.shifted excused parser.groups tail) where
  fair := {
    bottom := fresh.kind
    widths := fresh.widths
    strict := strict.imp_right Clean.names
    inside := fun _ _ => id
    behind := fun _ _ _ => trivial
    capture := fun _ _ _ => trivial
    suffix := by
      rintro x y ⟨marks, texts⟩ d possible
      have ordinary : isBracket d = false := by rcases possible with rfl | rfl <;> decide
      have steady : isSteady d = true := by rcases possible with rfl | rfl <;> decide
      refine (Input.accept_mirrors (Renumbering.shifted_ends closes) texts ordinary steady).excuse.mono ?_
      exact fun _ _ ⟨same, texts⟩ => ⟨same, marks, texts⟩ }
  text _ _ := Iff.rfl
  exact _ := trivial
  tight _ := id
  modes _ := Iff.rfl
  ends := Renumbering.shifted_ends closes
  reference _ _ related := related
  condition _ _ related := related

theorem Fresh.shadows_start (fresh : parser.Fresh) (strict : excused ∨ parser.Clean)
    {input : Input} {flags : Flags} (quiet : flags.has .verbose = false)
    (texts : ∃ marks, Aligned (.shifted excused parser.groups tail) marks false input.rest
      parser.input.rest) :
    Shadows (parser.comparison excused tail) (.start input flags) parser where
  text := texts
  stack := .bottom ⟨fresh.quiet.trans quiet.symm, quiet, fresh.finished ▸ .nil, by rw [fresh.items]; rfl,
    fun _ _ => by rw [fresh.items]; nofun, fun _ => ⟨fresh.items, nofun⟩⟩ rfl rfl
  groups := (Nat.zero_add _).symm
  names := rfl
  widths := ⟨[], rfl, .nil⟩
  lookbehind := fresh.lookbehind
  conditions := strict.imp_right fun clean number member => .inl (clean.conditions number member)
  flags := rfl

theorem Shadows.ended {alone reached : Parser}
    (shadows : Shadows (parser.comparison excused tail) alone reached)
    (ends : alone.input.rest = []) (outside : alone.outer = []) :
    reached.input.rest = Piece.split tail ∧ reached.outer = parser.outer ∧
      reached.level.kind = parser.level.kind ∧
      reached.level.body = alone.level.body.shift parser.groups := by
  obtain ⟨marks, texts⟩ := shadows.text
  rw [ends] at texts
  exact ⟨texts.of_nil.2, shadows.outermost outside trivial⟩

end Parser

/-- A clear pattern text, and the parser that has read it by itself to its end, however its numbers
were written. -/
structure Standing (source : List Char) (parser : Parser) : Prop where
  clear : Segment.areClear (Segment.split source) = true
  told : ∃ render asked pattern, (∀ segment ∈ Segment.split source,
      Segment.Written (Segment.Stands (countCaptures source) 0) 0 segment (render segment)) ∧
    (Flags.ofInt asked).has .verbose = false ∧
    Pattern.Parsed .text ((Segment.split source).flatMap render) asked pattern parser

theorem Standing.of_renumber {source text : List Char} {asked : Int} {pattern : Pattern}
    {parser : Parser} (plain : isPlainSource source = true)
    (renumbered : renumber source (countCaptures source) (-1) = .ok text)
    (quiet : (Flags.ofInt asked).has .verbose = false)
    (parsed : Pattern.Parsed .text text asked pattern parser) : Standing source parser := by
  have place : ((0 : Nat) : Int) = -1 + 1 := by decide
  obtain ⟨rfl, written⟩ := written_of_renumber place plain renumbered
  exact ⟨Segment.areClear_of_arePlain plain, _, asked, pattern, written, quiet, parsed⟩

theorem Placed.standing {flags : Int} {offset : Nat} {source : List Char} {rule : CompiledRule}
    (placed : Placed flags offset source rule) (plain : isPlainSource source = true)
    (quiet : (Flags.ofInt flags).has .verbose = false) : ∃ parser, Standing source parser := by
  obtain ⟨text, pattern, renumbered, compiled⟩ := placed.alone
  obtain ⟨parser, parsed⟩ := Pattern.compile_eq_ok_iff.mp compiled
  exact ⟨parser, .of_renumber plain renumbered quiet parsed⟩

theorem Pattern.Parsed.survey {source : List Char} {render : Segment → List Char} {asked : Int}
    {pattern : Pattern} {parser : Parser} {stands : List Char → List Char → Prop} {shift : Nat}
    (parsed : Parsed .text ((Segment.split source).flatMap render) asked pattern parser)
    (quiet : (Flags.ofInt asked).has .verbose = false)
    (clear : Segment.areClear (Segment.split source) = true)
    (written : ∀ segment ∈ Segment.split source,
      Segment.Written stands shift segment (render segment)) :
    ∃ own, Segment.Shows render (Segment.split source) own ∧ parser.Surveyed own := by
  have last : Aligned .free [] false (Piece.split []) (Piece.split []) := .done
  obtain ⟨own, seen, aligned⟩ := Segment.aligned_render (fun _ => trivial) (fun _ _ _ _ _ => trivial)
    (Segment.splits_split source) clear written
    (fun segment member => .written (written segment member)) last nofun nofun
  rw [List.append_nil, List.append_nil] at aligned
  exact ⟨own, seen, parsed.surveyed Renumbering.free_ends quiet aligned⟩

namespace Standing

variable {source : List Char} {parser : Parser}

theorem parsed (standing : Standing source parser) :
    ∃ text asked pattern, Pattern.Parsed .text text asked pattern parser := by
  obtain ⟨render, asked, pattern, -, -, parsed⟩ := standing.told
  exact ⟨_, asked, pattern, parsed⟩

theorem survey (standing : Standing source parser) :
    ∃ render own, (∀ segment ∈ Segment.split source,
        Segment.Written (Segment.Stands (countCaptures source) 0) 0 segment (render segment)) ∧
      Segment.Shows render (Segment.split source) own ∧ parser.Surveyed own := by
  obtain ⟨render, asked, pattern, written, quiet, parsed⟩ := standing.told
  obtain ⟨own, seen, surveyed⟩ := parsed.survey quiet standing.clear written
  exact ⟨render, own, written, seen, surveyed⟩

theorem groups_eq (standing : Standing source parser) :
    parser.groups = Segment.shownGroups (Segment.split source) := by
  obtain ⟨render, own, -, seen, surveyed⟩ := standing.survey
  rw [surveyed.groups, seen.groups]

theorem conditions (standing : Standing source parser)
    (counted : Segment.shownGroups (Segment.split source) = countCaptures source) {name : List Char}
    (member : .condition name ∈ Segment.split source) (digits : name.all Char.isDigit = true) :
    0 < Number.valueOf name ∧ Number.valueOf name ≤ countCaptures source ∧
      Parser.InRange name := by
  obtain ⟨render, own, written, seen, surveyed⟩ := standing.survey
  obtain ⟨ds, mark, same⟩ := seen.conditions name member digits
  obtain ⟨ds', same', -, -, stands⟩ := (written _ member).of_condition digits
  have same : ds' = ds := by simpa [Segment.text] using same'.symm.trans same
  subst same
  obtain ⟨range, positive, within⟩ := surveyed.conditions ds' mark
  rw [standing.groups_eq, counted] at within
  -- A condition on a foreign group is written as it stands, and the parser has accepted its number.
  by_cases own : 0 < Number.valueOf name ∧ Number.valueOf name ≤ countCaptures source
  · have value : Number.valueOf ds' = Number.valueOf name := stands.own own.1 own.2
    exact ⟨own.1, own.2, stands.short, value ▸ range.2⟩
  · have name := stands.foreign own
    exact absurd ⟨name ▸ positive, name ▸ within⟩ own

theorem head?_ne (standing : Standing source parser) : source.head? ≠ some '?' := by
  intro head
  obtain ⟨render, asked, pattern, written, quiet, parsed⟩ := standing.told
  obtain ⟨rest, same⟩ := List.head?_eq_some_iff.mp
    ((Segment.head?_flatMap (Segment.splits_split source) written).trans head)
  obtain ⟨input, read, parses⟩ := parsed.parses
  have start := Input.goTo_rest 0 _ input read
  rw [same] at start
  exact Parser.parse_question start quiet rfl _ parses

/-- A parser that comes upon the text, written behind its groups, reads what the parser has read
that reads the text by itself. -/
theorem parse (standing : Standing source parser)
    (counted : Segment.shownGroups (Segment.split source) = countCaptures source) {reader : Parser}
    (fresh : reader.Fresh) {excused : Prop}
    (strict : excused ∨ reader.Clean) {render : Segment → List Char}
    (written : ∀ segment ∈ Segment.split source, Segment.Rewritten (fun name ds =>
      Number.valueOf ds = Number.valueOf name + reader.groups ∧ (excused ∨ Parser.InRange ds))
      reader.groups segment (render segment))
    {tail : List Char} (closes : Segment.Closes tail)
    (text : reader.input.rest = Piece.split ((Segment.split source).flatMap render ++ tail)) :
    (excused ∧ ∃ failure, reader.parse .text = .error failure) ∨
      ∃ reached, reader.parse .text = Parser.parse .text reached ∧
        Parser.Shadows (reader.comparison excused tail) parser reached := by
  obtain ⟨ownRender, asked, pattern, written', quiet, parsed⟩ := standing.told
  obtain ⟨input, read, parses⟩ := parsed.parses
  have own : ∀ segment ∈ Segment.split source, Segment.Written (fun name ds =>
      Number.valueOf ds = Number.valueOf name) 0 segment (ownRender segment) := by
    intro segment member
    refine (written' segment member).imp fun name ds same digits stands => ?_
    subst same
    obtain ⟨positive, within, -⟩ := standing.conditions counted member digits
    exact stands.own positive within
  have last : Aligned (.shifted excused reader.groups tail) [] false (Piece.split [])
      (Piece.split tail) := .done
  have numbers (name ds ds' : List Char) (same : Number.valueOf ds = Number.valueOf name)
      (behind : Number.valueOf ds' = Number.valueOf name + reader.groups ∧
        (excused ∨ Parser.InRange ds')) :
      (Renumbering.shifted excused reader.groups tail).condition ds ds' :=
    ⟨by rw [behind.1, same], behind.2⟩
  obtain ⟨marks, -, aligned⟩ := Segment.aligned_render (fun n => rfl) numbers
    (Segment.splits_split source) standing.clear own written last nofun closes
  rw [List.append_nil, List.append_nil, ← text, ← Input.goTo_rest 0 _ input read] at aligned
  exact (fresh.shadows_start strict quiet ⟨marks, aligned⟩).parse (fresh.aligns closes strict) .text
    parses

theorem ofSource_eq (clear : Segment.areClear (Segment.split source) = true) :
    Input.ofSource source = .ok ⟨0, Piece.split source⟩ := by
  refine if_neg fun dangling => ?_
  have backslash : source = ['\\'] := by
    rw [← Piece.flatMap_text_split source, dangling]
    rfl
  subst backslash
  cases clear

theorem written_text (standing : Standing source parser)
    (counted : Segment.shownGroups (Segment.split source) = countCaptures source) :
    ∀ segment ∈ Segment.split source, Segment.Written (fun name ds =>
      Number.valueOf ds = Number.valueOf name + 0 ∧ (False ∨ Parser.InRange ds)) 0
      segment segment.text := by
  intro segment member
  obtain ⟨render, _, _, written, -, -⟩ := standing.told
  refine (Segment.written_text standing.clear member (written segment member)).imp ?_
  rintro name ds rfl digits rfl
  exact ⟨rfl, .inr (standing.conditions counted member digits).2.2⟩

theorem parse_start (standing : Standing source parser)
    (counted : Segment.shownGroups (Segment.split source) = countCaptures source) {asked : Int}
    (quiet : (Flags.ofInt asked).has .verbose = false) {tail : List Char}
    (closes : Segment.Closes tail) :
    ∃ reached, (Parser.start ⟨0, Piece.split (source ++ tail)⟩ (.ofInt asked)).parse .text =
        Parser.parse .text reached ∧
      Parser.Shadows (Parser.comparison
        (.start ⟨0, Piece.split (source ++ tail)⟩ (.ofInt asked)) False tail) parser reached ∧
      ∀ number ∈ reached.conditionNumbers, number ≤ reached.groups := by
  obtain ⟨_, _, _, parsed⟩ := standing.parsed
  let reader := Parser.start ⟨0, Piece.split (source ++ tail)⟩ (.ofInt asked)
  have fresh : reader.Fresh := ⟨quiet, rfl, rfl, nofun, nofun, rfl⟩
  have text : reader.input.rest =
      Piece.split ((Segment.split source).flatMap Segment.text ++ tail) := by
    rw [(Segment.splits_split source).flatMap_text]
    rfl
  -- No failure is excused here: the parser starts with nothing behind it.
  have written := fun segment member =>
    Segment.Rewritten.written (standing.written_text counted segment member)
  rcases standing.parse counted fresh (.inr ⟨rfl, nofun⟩) written closes text with
    ⟨⟨⟩, _⟩ | ⟨reached, same, matching⟩
  refine ⟨reached, same, matching, fun number member => ?_⟩
  rcases matching.conditions with ⟨⟨⟩⟩ | before
  rcases before number member with none | ⟨own, known, same⟩
  · exact Nat.le_trans none (Nat.zero_le _)
  · have bound := parsed.conditionNumbers_le own known
    have groups : reached.groups = parser.groups := matching.groups
    have same : number = own + 0 := same
    omega

theorem parse_whole (standing : Standing source parser)
    (counted : Segment.shownGroups (Segment.split source) = countCaptures source) {asked : Int}
    (quiet : (Flags.ofInt asked).has .verbose = false) :
    ∃ reached, (Parser.start ⟨0, Piece.split source⟩ (.ofInt asked)).parse .text = .ok reached ∧
      reached.input.rest = [] ∧ reached.level.body = parser.level.body ∧
      reached.groups = parser.groups ∧ reached.flags = .ofInt asked ∧
      ∀ number ∈ reached.conditionNumbers, number ≤ reached.groups := by
  obtain ⟨_, _, _, parsed⟩ := standing.parsed
  obtain ⟨-, outside, -⟩ := parsed.numbered
  have closes : Segment.Closes [] := nofun
  obtain ⟨reached, same, matching, conditions⟩ := standing.parse_start counted quiet closes
  rw [List.append_nil] at same
  obtain ⟨rest, outer, -, body⟩ := matching.ended parsed.ends outside
  have rest : reached.input.rest = [] := rest
  have outer : reached.outer = [] := outer
  have stops : Parser.parse .text reached = .ok reached := by
    simp [Parser.parse_eq, Parser.step, rest, outer, bind, Except.bind]
  exact ⟨reached, same.trans stops, rest, body.trans (Regex.shift_zero _), matching.groups,
    matching.flags, conditions⟩

theorem compile (standing : Standing source parser)
    (counted : Segment.shownGroups (Segment.split source) = countCaptures source) {asked : Int}
    {flags : Flags} (quiet : (Flags.ofInt asked).has .verbose = false)
    (settles : (Flags.ofInt asked).settle .text = .ok flags)
    (checks : parser.level.body.check (flags.has .template) = .ok ())
    (fits : Flags.fits asked = true) :
    ∃ names, Pattern.compile .text source asked =
      .ok ⟨source, parser.level.body, parser.groups, names, flags⟩ := by
  obtain ⟨reached, parses, rest, body, groups, same, conditions⟩ :=
    standing.parse_whole counted quiet
  refine ⟨reached.names.reverse, Pattern.compile_eq_ok_iff.mpr ⟨reached, ?_⟩⟩
  exact {
    parses := ⟨_, ofSource_eq standing.clear, parses⟩
    ends := rest
    settles := same ▸ settles
    conditions := Pattern.checkConditions_eq_ok_iff.mpr fun entry member =>
      conditions _ (List.mem_map_of_mem (List.mem_reverse.mp member))
    checks := checks
    fits := fits
    made := by rw [body, groups] }

theorem settles (standing : Standing source parser)
    (counted : Segment.shownGroups (Segment.split source) = countCaptures source) {asked : Int}
    {pattern : Pattern} (quiet : (Flags.ofInt asked).has .verbose = false)
    (parsed : Pattern.Parsed .text source asked pattern parser) :
    (Flags.ofInt asked).settle .text = .ok pattern.flags := by
  obtain ⟨reached, parses, -, -, -, same, -⟩ := standing.parse_whole counted quiet
  obtain ⟨input, read, parses'⟩ := parsed.parses
  cases (ofSource_eq standing.clear).symm.trans read
  cases parses.symm.trans parses'
  rw [← same]
  exact parsed.settles

end Standing

end RuleLexer
