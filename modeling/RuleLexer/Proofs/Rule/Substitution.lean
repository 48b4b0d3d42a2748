import RuleLexer.Proofs.Regex.Markup
import RuleLexer.Proofs.Rule.FlagFolding

namespace RuleLexer

open Entities

def Lexeme.isReference : Lexeme → Bool
  | .reference _ | .namedReference _ => true
  | _ => false

def LevelKind.isBehind : LevelKind → Bool
  | .behind _ _ => true
  | _ => false

namespace Parser

def Refers (parser : Parser) (lexeme : Lexeme) (group : Nat) : Prop :=
  lexeme = .reference group ∨
    ∃ name, lexeme = .namedReference name ∧ parser.names.lookup name = some group

def looksBehind (parser : Parser) : Bool :=
  parser.kinds.any LevelKind.isBehind

end Parser

namespace Pattern

/-- A group in which a markup character stands, or a reference to such a group. -/
inductive Swells (source : List Char) (asked : Int) : Nat → Prop
  | markup {met : Parser} {index : Nat} (meets : Meets source asked met)
    (markup : met.atMarkup = true) (inside : .capture index ∈ met.kinds) :
    Swells source asked index
  | reference {met : Parser} {lexeme : Lexeme} {after : Input} {group index : Nat}
    (meets : Meets source asked met) (reads : met.Reads .text lexeme after)
    (refers : met.Refers lexeme group) (swells : Swells source asked group)
    (inside : .capture index ∈ met.kinds) : Swells source asked index

/-- Markup characters stand neither in sets nor in looks at the text before, and those refer to no
group with markup characters in it. -/
structure MarkedPlainly (source : List Char) (asked : Int) : Prop where
  sets : ∀ met lexeme after, Meets source asked met → met.Reads .text lexeme after →
    met.input.rest.head? = some (.plain '[') → ∀ piece ∈ met.taken after, piece.isMarkup = false
  behind : ∀ met, Meets source asked met → met.atMarkup = true → met.looksBehind = false
  references : ∀ met lexeme after group, Meets source asked met → met.Reads .text lexeme after →
    met.Refers lexeme group → Swells source asked group → met.looksBehind = false

def substitution (source : List Char) (asked : Int) : Comparison where
  text x y := .dangling ∉ x.rest ∧ Marked x.rest y.rest
  offset := 0
  loose := Swells source asked
  exact kinds := kinds.any LevelKind.isBehind = true ∨
    ∃ index, .capture index ∈ kinds ∧ ¬Swells source asked index
  modes _ := True
  excused := False
  bottom := .whole
  base := []
  names := []
  widths := []
  flags own flags := flags = own

variable {source : List Char} {asked : Int}

theorem substitution_accept {x y : Input} (closed : .dangling ∉ x.rest)
    (marked : Marked x.rest y.rest) {d : Char} (mark : d = '?' ∨ d = '+') :
    Mirrors False (fun a b => a.1 = b.1 ∧ (substitution source asked).text a.2 b.2) (x.accept d)
      (y.accept d) := by
  by_cases head : x.rest.head? = some (.plain d)
  · obtain ⟨rest, here⟩ := List.head?_eq_some_iff.mp head
    have none : (Piece.plain d).entity? = none ∧ Piece.plain d ≠ .plain '(' := by
      rcases mark with rfl | rfl
      · exact ⟨rfl, by decide⟩
      · exact ⟨rfl, by decide⟩
    rw [here] at marked closed
    obtain ⟨t, there, onward⟩ := marked.uncons none.1 none.2
    have closed' : .dangling ∉ rest := fun member => closed (List.mem_cons_of_mem _ member)
    have more : t ≠ [.dangling] := by
      rintro rfl
      exact onward.closed closed' List.mem_cons_self
    rw [Input.accept_of_head here, Input.accept_of_head there]
    refine (Input.goTo_mirrors more _ _).bind fun a b same => .ok ⟨rfl, ?_⟩
    show _ ∧ _
    rw [same.1, same.2]
    exact ⟨closed', onward⟩
  · have busy : (Piece.plain d).isIdle = false := by rcases mark with rfl | rfl <;> decide
    have other : y.rest.head? ≠ some (.plain d) := fun same =>
      head ((marked.resembles closed).head? same busy)
    rw [Input.accept_of_other head, Input.accept_of_other other]
    exact .ok ⟨rfl, closed, marked⟩

theorem substitution_fair : (substitution source asked).Fair where
  bottom := nofun
  widths := nofun
  strict := .inr rfl
  inside kind kinds := by
    rintro (behind | ⟨index, member, tight⟩)
    · exact .inl (by rw [List.any_cons, behind, Bool.or_true])
    · exact .inr ⟨index, List.mem_cons_of_mem _ member, tight⟩
  behind negated outermost kinds := .inl rfl
  capture index kinds tight := .inr ⟨index, List.mem_cons_self, tight⟩
  suffix x y text d mark := substitution_accept text.1 text.2 mark

theorem shadows_start {x y : Input} {flags : Flags} (closed : .dangling ∉ x.rest)
    (marked : Marked x.rest y.rest) :
    Parser.Shadows (substitution source asked) (.start x flags) (.start y flags) where
  text := ⟨closed, marked⟩
  stack := .bottom (.empty _ _ _ _ trivial) rfl rfl
  groups := rfl
  names := rfl
  widths := ⟨[], rfl, .nil⟩
  lookbehind := rfl
  conditions := .inr nofun
  flags := rfl

end Pattern

namespace Parser

open Pattern

variable {source : List Char} {asked : Int} {p q next : Parser} {lexeme : Lexeme} {after : Input}

theorem Reads.names {alphabet : Alphabet} (reads : p.Reads alphabet lexeme after)
    (taken : p.step alphabet = .ok (some next)) :
    ∀ name, lexeme = .opening (.condition name) → Lexeme.Names name := by
  rintro name rfl
  rw [reads.step_eq] at taken
  obtain ⟨_, pushed, -⟩ := bind_eq_ok_iff.mp taken
  exact names_of_condition pushed

theorem not_exact_of_swelling (swells : ∀ index, .capture index ∈ p.kinds → Swells source asked index)
    (ahead : p.looksBehind = false) : ¬(substitution source asked).exact p.kinds := by
  rintro (behind | ⟨index, member, tight⟩)
  · cases ahead.symm.trans behind
  · exact tight (swells index member)

namespace Shadows

theorem markup_step (plainly : MarkedPlainly source asked) (meets : Meets source asked p)
    (shadows : Shadows (substitution source asked) p q) (markup : p.atMarkup = true)
    (taken : p.step .text = .ok (some next)) :
    (∀ lexeme after, p.Reads .text lexeme after → lexeme.isCorrupted = false) ∧
      ∃ next', q.parse .text = next'.parse .text ∧
        Shadows (substitution source asked) next next' := by
  refine ⟨fun lexeme after reads => ?_, ?_⟩
  · obtain ⟨_, -, -, code, rfl⟩ := reads.of_atMarkup markup
    rfl
  cases advances_of_step taken with
  | close head => simp [atMarkup, head, Piece.isMarkup, Piece.entity?, entity?] at markup
  | bar head => simp [atMarkup, head, Piece.isMarkup, Piece.entity?, entity?] at markup
  | @lexeme _ after reads pushed =>
    obtain ⟨piece, split, marked, code, rfl⟩ := reads.of_atMarkup markup
    cases pushed
    obtain ⟨entity, found⟩ := Option.isSome_iff_exists.mp marked
    obtain ⟨closed, text⟩ := shadows.text
    rw [split] at closed text
    obtain ⟨t, there, onward⟩ := text.of_entity found
    have closed : .dangling ∉ after.rest := fun member => closed (List.mem_cons_of_mem _ member)
    have characters : ∃ c, RuleLexer.entity? c = some entity := by
      cases piece with
      | plain c => exact ⟨c, found⟩
      | escaped c => exact ⟨c, found⟩
      | dangling => cases found
    obtain ⟨c, found⟩ := characters
    obtain ⟨place, parses⟩ :=
      parse_characters (Lexeme.read_of_entity .text found) there (onward.closed closed)
    refine ⟨_, parses, ?_⟩
    have loosely : ¬(substitution source asked).exact p.kinds :=
      not_exact_of_swelling (fun index inside => .markup meets markup inside)
        (plainly.behind p meets markup)
    have some : entity ≠ [] := by
      rintro rfl
      unfold RuleLexer.entity? at found
      split at found <;> cases found
    refine shadows.within ⟨closed, onward⟩ (shadows.stack.top.append loosely (by simpa using some)
      (fun other member => ?_) rfl) rfl rfl
    obtain ⟨d, -, rfl⟩ : ∃ d ∈ entity, Regex.char d.toNat = other := by simpa using member
    exact ⟨rfl, fun _ => rfl⟩

theorem lexeme_substituted {p' : Parser} (leafy : lexeme.Leafy)
    (modest : ∀ on, lexeme ≠ .globalFlags on)
    (tight : ∀ group, p'.Refers lexeme group → (substitution source asked).exact p'.kinds →
      ¬Swells source asked group) :
    lexeme.Shadows (substitution source asked) p' lexeme := by
  cases lexeme with
  | blank => exact .blank
  | item regex => exact .item (Regex.shift_of_isLeaf (leafy regex rfl))
  | quantifier least most => exact .quantifier
  | reference group => exact .reference (tight group (.inl rfl))
  | namedReference name =>
    exact .namedReference fun group known => tight group (.inr ⟨name, rfl, known⟩)
  | opening opening =>
    cases opening with
    | condition name => exact .sameCondition rfl
    | _ => exact .opening nofun fun _ _ _ _ _ => trivial
  | globalFlags on => exact absurd rfl (modest on)

theorem mark_ahead (shadows : Shadows (substitution source asked) p q) {d : Char}
    {rest : List Piece} (head : p.input.rest = .plain d :: rest) (mark : d = ')' ∨ d = '|') :
    ∃ rest', q.input.rest = .plain d :: rest' ∧ rest' ≠ [.dangling] ∧
      ∀ x y : Input, x.rest = rest → y.rest = rest' → (substitution source asked).text x y := by
  obtain ⟨closed, marked⟩ := shadows.text
  have none : (Piece.plain d).entity? = none ∧ Piece.plain d ≠ .plain '(' := by
    rcases mark with rfl | rfl
    · exact ⟨rfl, by decide⟩
    · exact ⟨rfl, by decide⟩
  rw [head] at marked closed
  obtain ⟨t, there, onward⟩ := marked.uncons none.1 none.2
  have closed' : .dangling ∉ rest := fun member => closed (List.mem_cons_of_mem _ member)
  refine ⟨t, there, ?_, fun x y here there => ⟨here ▸ closed', by rw [here, there]; exact onward⟩⟩
  rintro rfl
  exact onward.closed closed' List.mem_cons_self

theorem flags_step (shadows : Shadows (substitution source asked) p q) {on : Flags}
    {after' : Input} (reads : p.Reads .text (.globalFlags on) after)
    (reads' : q.Reads .text (.globalFlags on) after') (closed : .dangling ∉ after.rest)
    (marked : Marked after.rest after'.rest) (taken : p.step .text = .ok (some next)) :
    ∃ next', q.step .text = .ok (some next') ∧
      Shadows (substitution source asked) next next' := by
  have same : q.flags = p.flags := shadows.flags
  have turned : (substitution source asked).flags (p.flags.union on) (q.flags.union on) := by
    rw [same]
    rfl
  rcases shadows.advance_flags rfl reads reads' ⟨closed, marked⟩ same turned trivial taken with
    ⟨⟨⟩, _⟩ | advanced
  exact advanced

/-- Elsewhere it takes the step that the first one takes, unless a corrupted opening stops it. -/
theorem plain_step (plainly : MarkedPlainly source asked) (meets : Meets source asked p)
    (shadows : Shadows (substitution source asked) p q) (plain : p.atMarkup = false)
    (taken : p.step .text = .ok (some next)) :
    ((∃ lexeme after, p.Reads .text lexeme after ∧ lexeme.isCorrupted = true) ∧
        ∃ failure, q.step .text = .error failure) ∨
      (∀ lexeme after, p.Reads .text lexeme after → lexeme.isCorrupted = false) ∧
        ∃ next', q.step .text = .ok (some next') ∧
          Shadows (substitution source asked) next next' := by
  obtain ⟨closed, marked⟩ := shadows.text
  have reading (lexeme : Lexeme) (after : Input) (reads : p.Reads .text lexeme after) :=
    reads.marked closed marked shadows.stack.top.verbose plain
      (plainly.sets p lexeme after meets reads) (reads.names taken)
  by_cases corrupted : ∃ lexeme after, p.Reads .text lexeme after ∧ lexeme.isCorrupted = true
  · obtain ⟨lexeme, after, reads, corrupted⟩ := corrupted
    rcases reading lexeme after reads with ⟨-, stops⟩ | ⟨whole, -⟩
    · exact .inl ⟨⟨lexeme, after, reads, corrupted⟩, stops⟩
    · cases corrupted.symm.trans whole
  have whole (lexeme : Lexeme) (after : Input) (reads : p.Reads .text lexeme after) :
      lexeme.isCorrupted = false :=
    Bool.eq_false_iff.mpr fun here => corrupted ⟨lexeme, after, reads, here⟩
  have again (lexeme : Lexeme) (after : Input) (reads : p.Reads .text lexeme after) :
      ∃ after', q.Reads .text lexeme after' ∧ .dangling ∉ after.rest ∧
        Marked after.rest after'.rest := by
    rcases reading lexeme after reads with ⟨here, -⟩ | ⟨-, after', reads', rest⟩
    · cases here.symm.trans (whole lexeme after reads)
    · obtain ⟨-, chunk, split, -⟩ := reads.clears (.of_not_mem closed)
      exact ⟨after', reads', fun member => closed (split ▸ List.mem_append_right _ member), rest⟩
  refine .inr ⟨whole, ?_⟩
  by_cases flags : ∃ on after, p.Reads .text (.globalFlags on) after
  · obtain ⟨on, after, reads⟩ := flags
    obtain ⟨after', reads', closed', rest⟩ := again _ _ reads
    exact shadows.flags_step reads reads' closed' rest taken
  have lexemes (lexeme : Lexeme) (after : Input) (reads : p.Reads .text lexeme after) :
      ∃ lexeme' after', q.Reads .text lexeme' after' ∧
        (substitution source asked).text after after' ∧
          lexeme.Shadows (substitution source asked) { p with input := after } lexeme' := by
    obtain ⟨after', reads', text⟩ := again lexeme after reads
    refine ⟨lexeme, after', reads', text, lexeme_substituted ?_ ?_ fun group refers exact swells => ?_⟩
    · obtain ⟨_, _, _, -, -, -, -, read⟩ := reads
      exact Lexeme.read_leafy _ _ _ _ _ _ read
    · rintro on rfl
      exact flags ⟨on, after, reads⟩
    · have refers : p.Refers lexeme group := refers
      refine not_exact_of_swelling (p := p) (fun index inside => ?_)
        (plainly.references p lexeme after group meets reads refers swells) exact
      exact .reference meets reads refers swells inside
  rcases shadows.advance substitution_fair taken (fun _ _ => shadows.mark_ahead) lexemes with
    ⟨⟨⟩, _⟩ | advanced
  exact advanced

/-- Every step of the first parser is followed, unless a corrupted opening stops the second one. -/
theorem step_substituted (plainly : MarkedPlainly source asked) (meets : Meets source asked p)
    (shadows : Shadows (substitution source asked) p q)
    (taken : p.step .text = .ok (some next)) :
    Meets source asked next ∧
      (((∃ lexeme after, p.Reads .text lexeme after ∧ lexeme.isCorrupted = true) ∧
          ∃ failure, q.parse .text = .error failure) ∨
        (∀ lexeme after, p.Reads .text lexeme after → lexeme.isCorrupted = false) ∧
          ∃ next', q.parse .text = next'.parse .text ∧
            Shadows (substitution source asked) next next') := by
  obtain ⟨input, opens, comes⟩ := id meets
  refine ⟨⟨input, opens, comes.tail taken⟩, ?_⟩
  cases markup : p.atMarkup with
  | true => exact .inr (shadows.markup_step plainly meets markup taken)
  | false =>
    refine (shadows.plain_step plainly meets markup taken).imp ?_ ?_
    · rintro ⟨corrupted, failure, failed⟩
      exact ⟨corrupted, failure, by rw [Parser.parse_eq, failed]; rfl⟩
    · rintro ⟨whole, next', taken', shadows⟩
      exact ⟨whole, next', by rw [Parser.parse_eq, taken']; rfl, shadows⟩

end Shadows

end Parser

namespace Pattern

variable {source : List Char} {asked : Int} {pattern : Pattern} {stopped : Parser}

theorem stopped_substituted {reached : Parser}
    (shadows : Parser.Shadows (substitution source asked) stopped reached)
    (ends : stopped.input.rest = []) (parsed : stopped.parse .text = .ok stopped) :
    reached.input.rest = [] ∧ reached.outer = [] := by
  obtain ⟨-, text⟩ := shadows.text
  obtain ⟨outside, -⟩ := Parser.parse_of_nil ends parsed
  have stack := shadows.stack
  rw [outside] at stack
  rw [ends] at text
  refine ⟨?_, stack.outermost.1⟩
  generalize reached.input.rest = rest at text
  cases text
  rfl

theorem Parsed.parse_substituted (plainly : MarkedPlainly source asked)
    (parsed : Parsed .text source asked pattern stopped) :
    ∃ opened, Input.ofSource (escapeEntities source) = .ok opened ∧
      (((∃ met lexeme after, Meets source asked met ∧ met.Reads .text lexeme after ∧
          lexeme.isCorrupted = true) ∧
        ∃ failure, (Parser.start opened (.ofInt asked)).parse .text = .error failure) ∨
      (∀ met lexeme after, Meets source asked met → met.Reads .text lexeme after →
          lexeme.isCorrupted = false) ∧
        ∃ reached, (Parser.start opened (.ofInt asked)).parse .text = .ok reached ∧
          Parser.Shadows (substitution source asked) stopped reached) := by
  obtain ⟨input, opens, parses⟩ := parsed.parses
  have text : input.rest = Piece.split source := Input.goTo_rest 0 _ input opens
  have more : Piece.split source ≠ [.dangling] := by
    intro dangling
    simp [Input.ofSource, Input.goTo, dangling] at opens
  have closed : .dangling ∉ input.rest :=
    Parser.closed_of_parse (text ▸ Sound.of_split more) parses parsed.ends
  have marked := Entities.marked_split source
  rw [← text] at marked
  have opens' : Input.ofSource (escapeEntities source) =
      .ok ⟨0, Piece.split (escapeEntities source)⟩ := by
    refine if_neg fun dangling => ?_
    exact marked.closed closed (dangling ▸ List.mem_singleton_self _)
  refine ⟨_, opens', ?_⟩
  have initially : Meets source asked (.start input (.ofInt asked)) := ⟨input, opens, .refl⟩
  have shadows : Parser.Shadows (substitution source asked) (.start input (.ofInt asked))
      (.start ⟨0, Piece.split (escapeEntities source)⟩ (.ofInt asked)) :=
    shadows_start closed marked
  rcases Parser.Shadows.along (fun _ _ _ meets shadows taken _ =>
      shadows.step_substituted plainly meets taken) initially shadows parses with
    ⟨⟨met, comes, lexeme, after, corrupted⟩, failed⟩ | ⟨fine, -, reached, same, shadows⟩
  · exact .inl ⟨⟨met, lexeme, after, ⟨input, opens, comes⟩, corrupted⟩, failed⟩
  · refine .inr ⟨?_, reached, ?_, shadows⟩
    · rintro met lexeme after ⟨input', opens', comes⟩ reads
      cases opens.symm.trans opens'
      rcases fine met comes with rfl | whole
      · exact absurd (Parser.step_of_parse parses) reads.not_stopped
      · exact whole lexeme after reads
    · obtain ⟨ends, outside⟩ := stopped_substituted shadows parsed.ends
        ((Parser.comes_of_parse parses).parse_eq.symm.trans parses)
      rw [same, Parser.parse_eq, Parser.step, ends, outside]
      rfl

theorem Parsed.substituted {opened : Input} {reached : Parser}
    (parsed : Parsed .text source asked pattern stopped)
    (opens : Input.ofSource (escapeEntities source) = .ok opened)
    (parses : (Parser.start opened (.ofInt asked)).parse .text = .ok reached)
    (shadows : Parser.Shadows (substitution source asked) stopped reached) :
    ∃ pattern', compile .text (escapeEntities source) asked = .ok pattern' ∧
      pattern'.groups = pattern.groups ∧ pattern'.names = pattern.names ∧
        pattern'.flags = pattern.flags := by
  obtain ⟨input, opens', parses'⟩ := parsed.parses
  have again := (Parser.comes_of_parse parses').parse_eq.symm.trans parses'
  obtain ⟨ends, -⟩ := stopped_substituted shadows parsed.ends again
  have groups : reached.groups = stopped.groups := shadows.groups
  have names : reached.names = stopped.names := by
    have names := shadows.names
    simpa [substitution] using names
  have flags : reached.flags = stopped.flags := shadows.flags
  have made := parsed.made
  have tree : pattern.regex = stopped.level.body := congrArg Pattern.regex made
  have conditions : ∀ number ∈ reached.conditionNumbers, number ≤ reached.groups := by
    rcases shadows.conditions with ⟨⟨⟩⟩ | numbers
    intro number member
    rcases numbers number member with zero | ⟨own, known, same⟩
    · have zero : number ≤ 0 := zero
      omega
    · have same : number = own := same
      rw [groups, same]
      exact parsed.conditionNumbers_le own known
  refine ⟨⟨escapeEntities source, reached.level.body, reached.groups, reached.names.reverse,
    pattern.flags⟩, compile_eq_ok_iff.mpr ⟨reached, ?_⟩, ?_, ?_, rfl⟩
  · exact {
      parses := ⟨_, opens, parses⟩
      ends := ends
      settles := flags ▸ parsed.settles
      conditions := checkConditions_eq_ok_iff.mpr fun entry member =>
        conditions _ (List.mem_map_of_mem (List.mem_reverse.mp member))
      checks := shadows.stack.top.body.checks _ (tree ▸ parsed.checks)
      fits := parsed.fits
      made := rfl }
  · exact groups.trans (congrArg Pattern.groups made).symm
  · rw [names]
    exact (congrArg Pattern.names made).symm

/-- A text with entities in place of its markup characters. It is accepted if the text is, unless
the text opens an atomic group or a group with a character in its name that is not seen as a part of
one. It has the same groups then, with the same names. -/
theorem compile_escapeEntities (compiled : compile .text source asked = .ok pattern)
    (plainly : MarkedPlainly source asked) :
    ((∃ pattern', compile .text (escapeEntities source) asked = .ok pattern') ↔
      ∀ met lexeme after, Meets source asked met → met.Reads .text lexeme after →
        lexeme.isCorrupted = false) ∧
    ∀ pattern', compile .text (escapeEntities source) asked = .ok pattern' →
      pattern'.groups = pattern.groups ∧ pattern'.names = pattern.names ∧
        pattern'.flags = pattern.flags := by
  obtain ⟨stopped, parsed⟩ := compile_eq_ok_iff.mp compiled
  obtain ⟨opened, opens, ⟨⟨met, lexeme, after, meets, reads, corrupted⟩, failure, failed⟩ |
    ⟨whole, reached, parses, shadows⟩⟩ := parsed.parse_substituted plainly
  · have rejected (pattern' : Pattern) :
        compile .text (escapeEntities source) asked ≠ .ok pattern' := by
      intro accepted
      obtain ⟨_, ⟨input, read, parses⟩, -⟩ := compile_eq_ok_iff.mp accepted
      cases opens.symm.trans read
      cases failed.symm.trans parses
    refine ⟨⟨fun ⟨pattern', accepted⟩ => absurd accepted (rejected pattern'), fun whole => ?_⟩,
      fun pattern' accepted => absurd accepted (rejected pattern')⟩
    cases corrupted.symm.trans (whole met lexeme after meets reads)
  · obtain ⟨pattern', accepted, same⟩ := parsed.substituted opens parses shadows
    refine ⟨⟨fun _ => whole, fun _ => ⟨pattern', accepted⟩⟩, fun other accepted' => ?_⟩
    cases accepted.symm.trans accepted'
    exact same

theorem MarkedPlainly.of_trail {input : Input} (opens : Input.ofSource source = .ok input)
    (all : ∀ met ∈ (Parser.start input (.ofInt asked)).trail .text input.rest.length,
      (met.atMarkup = true → met.looksBehind = false) ∧ ∀ found ∈ met.lexeme? .text,
        (met.input.rest.head? = some (.plain '[') →
          ∀ piece ∈ met.taken found.2, piece.isMarkup = false) ∧
        (found.1.isReference = true → met.looksBehind = false)) : MarkedPlainly source asked where
  sets := forall_reads opens fun met member found read => ((all met member).2 found read).1
  behind := forall_meets opens fun met member => (all met member).1
  references met lexeme after group meets reads refers _ := by
    have ahead : ∀ met lexeme (after : Input), Meets source asked met →
        met.Reads .text lexeme after → lexeme.isReference = true → met.looksBehind = false :=
      forall_reads opens fun met member found read => ((all met member).2 found read).2
    apply ahead met lexeme after meets reads
    rcases refers with rfl | ⟨name, rfl, -⟩
    · rfl
    · rfl

def markedSource : List Char :=
  "(?P<n>a|<)&(?#>)(?<=x)(?<!y)[z]\\>+(?P=n)".toList

theorem compile_escapeEntities_markedSource : ∃ pattern,
    escapeEntities markedSource = "(?P<n>a|&lt;)&amp;(?#&gt;)(?<=x)(?<!y)[z]&gt;+(?P=n)".toList ∧
      compile .text (escapeEntities markedSource) 0 = .ok pattern ∧
      pattern.groups = 1 ∧ pattern.names = [("n".toList, 1)] := by
  obtain ⟨pattern, compiled, groups, names⟩ : ∃ pattern, compile .text markedSource 0 = .ok pattern ∧
      pattern.groups = 1 ∧ pattern.names = [("n".toList, 1)] := ⟨_, rfl, rfl, rfl⟩
  have plainly : MarkedPlainly markedSource 0 := .of_trail rfl (by decide)
  obtain ⟨accepted, same⟩ := compile_escapeEntities compiled plainly
  obtain ⟨pattern', accepted⟩ := accepted.mpr (forall_reads rfl (by decide))
  obtain ⟨groups', names', -⟩ := same pattern' accepted
  exact ⟨pattern', rfl, accepted, groups'.trans groups, names'.trans names⟩

/-- The opening of an atomic group is taken apart, although no markup character stands in the text
otherwise. -/
theorem compile_escapeEntities_rejects :
    (∃ pattern, compile .text "(?>a)".toList 0 = .ok pattern) ∧ MarkedPlainly "(?>a)".toList 0 ∧
      escapeEntities "(?>a)".toList = "(?&gt;a)".toList ∧
      compile .text "(?&gt;a)".toList 0 = .error ((Fault.unknownExtension "?&".toList).at 1) :=
  ⟨⟨_, rfl⟩, .of_trail rfl (by decide), rfl, rfl⟩

/-- A look at the text before refers to a group that has alternatives of one width, and of two widths
when a markup character in it is an entity. -/
example : compile .text (escapeEntities "(<|a)(?<=\\1)".toList) 0 =
    .error (.malformed ⟨.variableLookbehind, none⟩) := by
  rfl

end Pattern

end RuleLexer
