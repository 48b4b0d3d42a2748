import RuleLexer.Proofs.Rule.Joining

namespace RuleLexer

/-- The first text spells out the second one: a character without a meaning in patterns stands as it
is, one with a meaning stands behind a backslash. An ampersand may stand either way. -/
inductive SpellsOut : List Char → List Char → Prop
  | nil : SpellsOut [] []
  | plain {c : Char} {source text : List Char} (ordinary : isSpecial c = false ∨ c = '&')
    (rest : SpellsOut source text) : SpellsOut (c :: source) (c :: text)
  | escaped {c : Char} {source text : List Char} (special : isSpecial c = true)
    (rest : SpellsOut source text) : SpellsOut ('\\' :: c :: source) (c :: text)

def markup (text : List Char) : List Char :=
  text.flatMap fun c => (entity? c).getD [c]

theorem spellsOut_escapeLiteral (text : List Char) : SpellsOut (escapeLiteral text) text := by
  induction text with
  | nil => exact .nil
  | cons c text ih =>
    rw [escapeLiteral, List.flatMap_cons, ← escapeLiteral]
    by_cases special : isSpecial c
    · rw [if_pos special]
      exact .escaped special ih
    · rw [if_neg special]
      exact .plain (.inl (Bool.eq_false_iff.mpr special)) ih

theorem SpellsOut.append_ordinary {cs source text : List Char}
    (ordinary : ∀ c ∈ cs, isSpecial c = false ∨ c = '&') (rest : SpellsOut source text) :
    SpellsOut (cs ++ source) (cs ++ text) := by
  induction cs with
  | nil => exact rest
  | cons c cs ih =>
    apply SpellsOut.plain (ordinary c List.mem_cons_self)
    exact ih fun d member => ordinary d (List.mem_cons_of_mem c member)

theorem ordinary_of_entity? {c : Char} {entity : List Char} (found : entity? c = some entity) :
    ∀ d ∈ entity, isSpecial d = false ∨ d = '&' := by
  have each : entity.all (fun d => !isSpecial d || d == '&') = true := by
    unfold entity? at found
    split at found <;> cases found <;> rfl
  intro d member
  simpa using List.all_eq_true.mp each d member

namespace Entities

theorem substitute_escaped (c : Char) (rest : List Char) :
    substitute 0 ('\\' :: c :: rest) =
      if (entity? c).isSome then substitute 0 (c :: rest) else '\\' :: c :: substitute 0 rest := rfl

theorem substitute_plain {c : Char} (backslash : c ≠ '\\') (parenthesis : c ≠ '(')
    (rest : List Char) : substitute 0 (c :: rest) = (entity? c).getD [c] ++ substitute 0 rest := by
  simp only [substitute, backslash, parenthesis, if_false]
  cases entity? c <;> rfl

theorem substitute_pair (c : Char) (rest : List Char) :
    substitute 0 ('\\' :: c :: rest) = (entity? c).getD ['\\', c] ++ substitute 0 rest := by
  rw [substitute_escaped]
  cases found : entity? c with
  | none => rfl
  | some entity =>
    have ordinary : c ≠ '\\' ∧ c ≠ '(' := by
      constructor <;>
      · rintro rfl
        cases found
    rw [Option.isSome_some, if_pos rfl, substitute_plain ordinary.1 ordinary.2, found]
    rfl

end Entities

theorem spellsOut_escapeEntities (text : List Char) :
    SpellsOut (escapeEntities (escapeLiteral text)) (markup text) := by
  unfold escapeEntities
  induction text with
  | nil => exact .nil
  | cons c text ih =>
    have escaped : escapeLiteral (c :: text) =
        (if isSpecial c then ['\\', c] else [c]) ++ escapeLiteral text := rfl
    have marked : markup (c :: text) = (entity? c).getD [c] ++ markup text := rfl
    have ordinary {d : Char} (other : (entity? d).isSome ∨ isSpecial d = false) :
        d ≠ '\\' ∧ d ≠ '(' := by
      constructor <;>
      · rintro rfl
        rcases other with entity | plain
        · cases entity
        · cases plain
    rw [escaped, marked]
    cases found : entity? c with
    | some entity =>
      -- Only an ampersand has a backslash here, and it loses it.
      obtain ⟨backslash, parenthesis⟩ := ordinary (.inl (by rw [found]; rfl))
      have both : Entities.substitute 0
          ((if isSpecial c then ['\\', c] else [c]) ++ escapeLiteral text) =
          entity ++ Entities.substitute 0 (escapeLiteral text) := by
        by_cases special : isSpecial c
        · rw [if_pos special, List.cons_append, List.singleton_append, Entities.substitute_pair,
            found, Option.getD_some]
        · rw [if_neg special, List.singleton_append,
            Entities.substitute_plain backslash parenthesis, found, Option.getD_some]
      rw [both]
      exact .append_ordinary (ordinary_of_entity? found) ih
    | none =>
      by_cases special : isSpecial c
      · rw [if_pos special]
        show SpellsOut (Entities.substitute 0 ('\\' :: c :: escapeLiteral text)) _
        rw [Entities.substitute_pair, found]
        exact .escaped special ih
      · have plain := Bool.eq_false_iff.mpr special
        obtain ⟨backslash, parenthesis⟩ := ordinary (.inr plain)
        rw [if_neg special]
        show SpellsOut (Entities.substitute 0 (c :: escapeLiteral text)) _
        rw [Entities.substitute_plain backslash parenthesis, found]
        exact .plain (.inl plain) ih

namespace SpellsOut

variable {source text : List Char}

theorem mem_split (spelled : SpellsOut source text) {segment : Segment}
    (member : segment ∈ Segment.split source) :
    (∃ c, segment = .escape c) ∨
      ∃ c, segment = .other c ∧ c ≠ '\\' ∧ c ≠ '[' ∧ c ≠ '(' := by
  unfold Segment.split at member
  generalize source.length = count at member
  induction spelled generalizing count with
  | nil =>
    cases count <;> cases member
  | @plain c source text ordinary _ ih =>
    cases count with
    | zero => cases member
    | succ count =>
      have backslash := ne_of_ordinary ordinary (d := '\\') (by decide)
      have bracket := ne_of_ordinary ordinary (d := '[') (by decide)
      have parenthesis := ne_of_ordinary ordinary (d := '(') (by decide)
      have read : Segment.read c source = (.other c, source) := by
        unfold Segment.read
        split <;> first | contradiction | rfl
      rw [Segment.splitUpTo, read] at member
      rcases List.mem_cons.mp member with rfl | later
      · exact .inr ⟨c, rfl, backslash, bracket, parenthesis⟩
      · exact ih count later
  | @escaped c source text special _ ih =>
    cases count with
    | zero => cases member
    | succ count =>
      have other : Segment.isDigitChar c = false := Bool.eq_false_iff.mpr fun digit => by
        cases special.symm.trans (Segment.isSpecial_of_isDigitChar digit)
      have read : Segment.read '\\' (c :: source) = (.escape c, source) := by
        simp [Segment.read, Segment.readBackslash, other]
      rw [Segment.splitUpTo, read] at member
      rcases List.mem_cons.mp member with rfl | later
      · exact .inl ⟨c, rfl⟩
      · exact ih count later

theorem countCaptures_eq (spelled : SpellsOut source text) : countCaptures source = 0 := by
  apply List.countP_eq_zero.mpr
  intro segment member
  rcases spelled.mem_split member with ⟨c, rfl⟩ | ⟨c, rfl, -⟩ <;> exact Bool.false_ne_true

theorem groupNames_eq (spelled : SpellsOut source text) : groupNames source = [] := by
  apply List.filterMap_eq_nil_iff.mpr
  intro segment member
  rcases spelled.mem_split member with ⟨c, rfl⟩ | ⟨c, rfl, -⟩ <;> rfl

theorem unconditional (spelled : SpellsOut source text) (name : List Char) :
    .condition name ∉ Segment.split source := by
  intro member
  rcases spelled.mem_split member with ⟨c, same⟩ | ⟨c, same, -⟩ <;> cases same

theorem shownGroups_eq (spelled : SpellsOut source text) :
    Segment.shownGroups (Segment.split source) = 0 := by
  have hidden : ∀ segment ∈ Segment.split source, ∀ after, segment.showsGroup after = false := by
    intro segment member after
    rcases spelled.mem_split member with ⟨c, rfl⟩ | ⟨c, rfl, -, -, parenthesis⟩
    · rfl
    · unfold Segment.showsGroup
      split <;> simp_all
  generalize Segment.split source = segments at hidden
  induction segments with
  | nil => rfl
  | cons segment segments ih =>
    rw [Segment.shownGroups, hidden segment List.mem_cons_self,
      ih fun other member => hidden other (List.mem_cons_of_mem _ member)]
    rfl

theorem isPlainSource_eq (spelled : SpellsOut source text) : isPlainSource source = true := by
  have simple : ∀ segment ∈ Segment.split source, ∀ after,
      segment.isPlain (countCaptures source) after = true := by
    intro segment member after
    rcases spelled.mem_split member with ⟨c, rfl⟩ | ⟨c, rfl, backslash, bracket, parenthesis⟩
    · rfl
    · simp [Segment.isPlain, backslash, bracket, parenthesis]
  unfold isPlainSource
  generalize Segment.split source = segments at simple
  induction segments with
  | nil => rfl
  | cons segment segments ih =>
    rw [Segment.arePlain, simple segment List.mem_cons_self,
      ih fun other member => simple other (List.mem_cons_of_mem _ member)]
    rfl

theorem renumber_eq (spelled : SpellsOut source text) (captures offset : Int) :
    renumber source captures offset = .ok source := by
  have same : ∀ segment ∈ Segment.split source,
      segment.renumbered captures offset = .ok segment.text := by
    intro segment member
    rcases spelled.mem_split member with ⟨c, rfl⟩ | ⟨c, rfl, -⟩ <;> rfl
  have whole := Segment.flatMap_text_split source
  unfold renumber
  rw [List.flatMap_def] at whole
  generalize Segment.split source = segments at same whole
  have all : segments.mapM (Segment.renumbered captures offset) =
      .ok (segments.map Segment.text) := by
    clear whole
    induction segments with
    | nil => rfl
    | cons segment segments ih =>
      rw [List.mapM_cons, same segment List.mem_cons_self,
        ih fun other member => same other (List.mem_cons_of_mem _ member)]
      rfl
  rw [all]
  exact congrArg _ whole

end SpellsOut

def Regex.row (text : List Char) : Regex :=
  .ofItems (text.map fun c => .char c.toNat)

namespace SpellsOut

variable {source text : List Char}

theorem split_ne_dangling (spelled : SpellsOut source text) :
    Piece.split source ≠ [.dangling] := by
  cases spelled with
  | nil => exact nofun
  | plain ordinary =>
    rw [Piece.split_cons (ne_of_ordinary ordinary (by decide))]
    exact nofun
  | escaped => exact nofun

theorem parse_character {parser : Parser} {piece : Piece} {rest : List Piece} {code : Nat}
    (head : parser.input.rest = piece :: rest) (onward : rest ≠ [.dangling])
    (closing : piece ≠ .plain ')') (bar : piece ≠ .plain '|')
    (read : ∀ start input, input.rest = rest →
      Lexeme.read .text parser.level.verbose piece start input = .ok (.item (.char code), input)) :
    parser.parse .text = Parser.parse .text { parser with
      input := ⟨parser.input.position + piece.length, rest⟩
      level := parser.level.push (.char code) } := by
  apply Parser.parse_step (Parser.step_lexeme .text head closing bar)
  rw [Input.goTo, if_neg onward, ok_bind, read _ _ rfl]
  rfl

theorem parse (spelled : SpellsOut source text) {parser : Parser}
    (head : parser.input.rest = Piece.split source) (quiet : parser.level.verbose = false)
    (outside : parser.outer = []) : ∃ position, parser.parse .text = .ok { parser with
      input := ⟨position, []⟩
      level := { parser.level with
        items := (text.map fun c => Regex.char c.toNat).reverse ++ parser.level.items } } := by
  -- Every character is a lexeme by itself and is pushed in front of those before it.
  induction spelled generalizing parser with
  | nil =>
    refine ⟨parser.input.position, ?_⟩
    have empty : parser.input.rest = [] := head
    have stops : parser.parse .text = .ok parser := by
      simp [Parser.parse_eq, Parser.step, empty, outside, bind, Except.bind]
    rw [stops, ← empty]
    rfl
  | @plain c source text ordinary rest ih =>
    rw [Piece.split_cons (ne_of_ordinary ordinary (by decide))] at head
    have closing : Piece.plain c ≠ .plain ')' := by
      simpa using ne_of_ordinary ordinary (d := ')') (by decide)
    have bar : Piece.plain c ≠ .plain '|' := by
      simpa using ne_of_ordinary ordinary (d := '|') (by decide)
    let next : Parser := { parser with
      input := ⟨parser.input.position + 1, Piece.split source⟩
      level := parser.level.push (.char c.toNat) }
    have behind : next.input.rest = Piece.split source := rfl
    obtain ⟨position, parses⟩ := ih behind quiet outside
    refine ⟨position, ?_⟩
    rw [parse_character head rest.split_ne_dangling closing bar fun start input _ => by
      rw [quiet]
      exact Lexeme.readPlain_of_ordinary ordinary .text start input]
    refine parses.trans ?_
    simp [next, Level.push]
  | @escaped c source text special rest ih =>
    let next : Parser := { parser with
      input := ⟨parser.input.position + 2, Piece.split source⟩
      level := parser.level.push (.char c.toNat) }
    have behind : next.input.rest = Piece.split source := rfl
    obtain ⟨position, parses⟩ := ih behind quiet outside
    refine ⟨position, ?_⟩
    have closing : Piece.escaped c ≠ .plain ')' := by simp
    have bar : Piece.escaped c ≠ .plain '|' := by simp
    rw [parse_character head rest.split_ne_dangling closing bar fun start input _ => by
      rw [Lexeme.read, Escape.readOutside_of_special special]
      rfl]
    refine parses.trans ?_
    simp [next, Level.push]

theorem check_row (template : Bool) (text : List Char) :
    (Regex.row text).check template = .ok () := by
  unfold Regex.row
  induction text with
  | nil => rfl
  | cons c text ih =>
    cases text with
    | nil => rfl
    | cons d text => exact ih

theorem shift_row (offset : Nat) (text : List Char) :
    (Regex.row text).shift offset = Regex.row text := by
  rw [Regex.row, Regex.shift_ofItems, List.map_map]
  rfl

theorem parsed (spelled : SpellsOut source text) {asked : Int} {flags : Flags}
    (quiet : (Flags.ofInt asked).has .verbose = false)
    (settles : (Flags.ofInt asked).settle .text = .ok flags) (fits : Flags.fits asked = true) :
    ∃ parser, parser.level.body = Regex.row text ∧ parser.names = [] ∧
      Pattern.Parsed .text source asked ⟨source, Regex.row text, 0, [], flags⟩ parser := by
  let start : Parser := .start ⟨0, Piece.split source⟩ (.ofInt asked)
  have head : start.input.rest = Piece.split source := rfl
  obtain ⟨position, parses⟩ := spelled.parse head quiet rfl
  have body : (Level.mk .whole 0 ((Flags.ofInt asked).has .verbose) []
      ((text.map fun c => Regex.char c.toNat).reverse ++ [])).body = Regex.row text := by
    simp [Level.body, Level.current, Regex.ofAlternatives, Regex.row]
  refine ⟨{ start with
    input := ⟨position, []⟩
    level := { start.level with
      items := (text.map fun c => Regex.char c.toNat).reverse ++ [] } }, body, rfl, ?_⟩
  exact {
    parses := ⟨_, if_neg spelled.split_ne_dangling, parses⟩
    ends := rfl
    settles := settles
    conditions := rfl
    checks := check_row _ text
    fits := fits
    made := by
      rw [Pattern.mk.injEq]
      exact ⟨rfl, body.symm, rfl, rfl, rfl⟩ }

/-- A text that is spelled out becomes a rule as it is, and stands for itself. -/
theorem settled (spelled : SpellsOut source text) {offset : Nat} {rule : CompiledRule}
    (unchanged : rule.patternText = source) (captures : rule.captures = 0)
    (place : rule.groupIndex = offset + 1) : Settled offset source rule ∧
      ∃ parser, Standing source parser ∧ Parser.Outside.Bare source parser ∧
        parser.level.body = Regex.row text := by
  have none := spelled.countCaptures_eq
  have plain := spelled.isPlainSource_eq
  have quiet : (Flags.ofInt 0).has .verbose = false := rfl
  obtain ⟨parser, body, unnamed, parsed⟩ := spelled.parsed quiet rfl rfl
  have placed : Placed 0 offset source rule := {
    alone := ⟨source, _, spelled.renumber_eq _ _, Pattern.compile_eq_ok_iff.mpr ⟨parser, parsed⟩⟩
    text := by rw [spelled.renumber_eq, unchanged]
    captures := captures.trans none.symm
    groupIndex := place }
  refine ⟨(placed.seated plain quiet).settled (spelled.shownGroups_eq.trans none.symm), parser, ?_,
    ⟨unnamed, spelled.unconditional⟩, body⟩
  exact .of_renumber plain (spelled.renumber_eq _ _) quiet parsed

end SpellsOut

end RuleLexer
