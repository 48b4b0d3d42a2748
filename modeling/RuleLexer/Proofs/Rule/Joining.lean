import Mathlib.Data.List.Forall2
import RuleLexer.Proofs.Rule.Standalone

namespace RuleLexer

structure Seated (offset : Nat) (source : List Char) (rule : CompiledRule) : Prop where
  standing : ∃ parser, Standing source parser
  text : rule.patternText =
    (Segment.split source).flatMap (Segment.rendered (countCaptures source) offset)
  written : ∀ segment ∈ Segment.split source,
    Segment.Written (Segment.Stands (countCaptures source) (offset + 1)) (offset + 1) segment
      (segment.rendered (countCaptures source) offset)
  captures : rule.captures = countCaptures source
  groupIndex : rule.groupIndex = offset + 1

theorem Placed.seated {flags : Int} {offset : Nat} {source : List Char} {rule : CompiledRule}
    (placed : Placed flags offset source rule) (plain : isPlainSource source = true)
    (quiet : (Flags.ofInt flags).has .verbose = false) : Seated offset source rule := by
  have place : ((offset + 1 : Nat) : Int) = offset + 1 := by omega
  obtain ⟨text, written⟩ := written_of_renumber place plain placed.text
  exact ⟨placed.standing plain quiet, text, written, placed.captures, placed.groupIndex⟩

theorem Placed.htmlBreak : Placed 0 0 htmlBreak.patternText htmlBreak where
  alone := ⟨_, _, rfl, rfl⟩
  text := rfl
  captures := rfl
  groupIndex := rfl

/-- A pattern text all of whose groups are counted has become a rule behind `offset` groups. -/
structure Settled (offset : Nat) (source : List Char) (rule : CompiledRule) : Prop where
  text : rule.patternText =
    (Segment.split source).flatMap (Segment.rendered (countCaptures source) offset)
  written : ∀ segment ∈ Segment.split source,
    Segment.Rewritten (Segment.Stands (countCaptures source) (offset + 1)) (offset + 1) segment
      (segment.rendered (countCaptures source) offset)
  captures : rule.captures = countCaptures source
  groupIndex : rule.groupIndex = offset + 1
  counted : Segment.shownGroups (Segment.split source) = countCaptures source

theorem Seated.settled {offset : Nat} {source : List Char} {rule : CompiledRule}
    (seated : Seated offset source rule)
    (counted : Segment.shownGroups (Segment.split source) = countCaptures source) :
    Settled offset source rule :=
  ⟨seated.text, fun segment member => .written (seated.written segment member), seated.captures,
    seated.groupIndex, counted⟩

namespace Assembly

def barred : List (List Char) → List Char
  | [] => []
  | texts => '|' :: joinBars texts

theorem joinBars_cons (text : List Char) (texts : List (List Char)) :
    joinBars (text :: texts) = text ++ barred texts := by
  cases texts with
  | nil => exact (List.append_nil text).symm
  | cons second others => rfl

theorem joinBars_wrapped (rule : CompiledRule) (rules : List CompiledRule) :
    joinBars ((rule :: rules).map CompiledRule.wrapped) =
      '(' :: (rule.patternText ++ ')' :: barred (rules.map CompiledRule.wrapped)) := by
  rw [List.map_cons, joinBars_cons]
  simp [CompiledRule.wrapped, CompiledRule.wrap]

end Assembly

open Assembly (joinBars barred)

theorem Segment.closes_behind (after : List Char) : Closes (')' :: after) := by
  rintro c ⟨⟩
  exact .inl rfl

theorem Standing.head?_rewritten_ne {source : List Char} {parser : Parser}
    (standing : Standing source parser) {stands : List Char → List Char → Prop} {shift : Nat}
    {render : Segment → List Char} (written : ∀ segment ∈ Segment.split source,
      Segment.Rewritten stands shift segment (render segment)) (after : List Char) :
    (Piece.split ((Segment.split source).flatMap render ++ ')' :: after)).head? ≠
      some (.plain '?') := by
  intro head
  exact standing.head?_ne (Segment.head?_rewritten (Segment.splits_split source) written
    (Segment.closes_behind after) (by decide) (by decide) (Piece.head?_of_split head).1)

theorem Seated.aligned {offset : Nat} {source : List Char} {rule : CompiledRule}
    (seated : Seated offset source rule) {after : List Char} {marks : List Landmark}
    (onward : Aligned .free marks false (Piece.split after) (Piece.split after)) :
    ∃ all, Aligned .free all false
        (Piece.split ('(' :: (rule.patternText ++ ')' :: after)))
        (Piece.split ('(' :: (rule.patternText ++ ')' :: after))) ∧
      all.count .group =
        1 + Segment.shownGroups (Segment.split source) + marks.count .group := by
  obtain ⟨parser, standing⟩ := seated.standing
  have written := seated.written
  have rewritten := fun segment member => Segment.Rewritten.written (written segment member)
  have simple := standing.head?_rewritten_ne rewritten after
  rw [seated.text]
  have closing : Aligned .free marks false (Piece.split (')' :: after))
      (Piece.split (')' :: after)) :=
    .plain (by decide) (by decide) onward
  obtain ⟨own, seen, aligned⟩ := Segment.aligned_render (fun _ => trivial) (fun _ _ _ _ _ => trivial)
    (Segment.splits_split source) standing.clear written rewritten closing
    (Segment.closes_behind after) (Segment.closes_behind after)
  refine ⟨.group :: (own ++ marks), .opening simple aligned, ?_⟩
  simp only [List.count_cons_self, List.count_append, seen.groups]
  omega

def CompiledRule.around (rule : CompiledRule) (tree : Regex) : Regex :=
  .group rule.groupIndex (tree.shift rule.groupIndex)

/-- The groups that the texts of rules show, with the groups around them. -/
def shownTotal : List (List Char) → Nat
  | [] => 0
  | source :: sources => 1 + Segment.shownGroups (Segment.split source) + shownTotal sources

namespace Places

variable {offset total : Nat} {sources : List (List Char)} {rules : List CompiledRule}

theorem aligned (places : Places Seated offset sources rules total) :
    ∃ marks, Aligned .free marks false
        (Piece.split (joinBars (rules.map CompiledRule.wrapped)))
        (Piece.split (joinBars (rules.map CompiledRule.wrapped))) ∧
      marks.count .group = shownTotal sources := by
  induction places with
  | nil => exact ⟨[], .done, rfl⟩
  | @cons _ _ source sources rule rules first rest ih =>
    obtain ⟨marks, aligned, counted⟩ := ih
    have onward : Aligned .free marks false (Piece.split (barred (rules.map CompiledRule.wrapped)))
        (Piece.split (barred (rules.map CompiledRule.wrapped))) := by
      cases rest with
      | nil => exact aligned
      | cons => exact .plain (by decide) (by decide) aligned
    obtain ⟨all, aligned, sum⟩ := first.aligned onward
    rw [Assembly.joinBars_wrapped]
    refine ⟨all, aligned, ?_⟩
    rw [sum, counted]
    simp [shownTotal]

theorem total_le (places : Places Seated offset sources rules total) :
    total ≤ offset + shownTotal sources := by
  induction places with
  | nil => exact Nat.le_refl _
  | @cons offset _ source sources rule _ first _ ih =>
    have atMost := Segment.countP_opensGroup_le (Segment.split source)
    have captures : rule.captures = (Segment.split source).countP Segment.opensGroup :=
      first.captures
    simp only [shownTotal] at ih ⊢
    omega

theorem settled (places : Places Seated offset sources rules total)
    (sum : total = offset + shownTotal sources) : Places Settled offset sources rules total := by
  induction places with
  | nil => exact .nil _
  | @cons offset _ source sources rule _ first rest ih =>
    have atMost := Segment.countP_opensGroup_le (Segment.split source)
    have captures : rule.captures = (Segment.split source).countP Segment.opensGroup :=
      first.captures
    -- Neither this rule nor those behind it can be overcounted, and the sums are equal.
    have enough := rest.total_le
    rw [shownTotal] at sum
    have counted : Segment.shownGroups (Segment.split source) = countCaptures source := by
      rw [countCaptures]
      omega
    refine .cons (first.settled counted) (ih ?_)
    rw [sum, counted, first.captures]
    omega

end Places

structure Parser.Outside (flags : Flags) (offset : Nat) (text : List Char)
    (finished items : List Regex) (parser : Parser) : Prop where
  text : parser.input.rest = Piece.split text
  outer : parser.outer = []
  whole : parser.level.kind = .whole
  quiet : parser.level.verbose = false
  finished : parser.level.finished = finished
  items : parser.level.items = items
  groups : parser.groups = offset
  widths : ∀ entry ∈ parser.widths, entry.1 ≤ offset
  lookbehind : parser.lookbehind = none
  flags : parser.flags = flags

namespace Parser.Outside

variable {flags : Flags} {offset : Nat} {after : List Char} {finished items : List Regex}
  {parser stopped : Parser}

theorem parse_end (outside : Outside flags offset [] finished items parser) :
    parser.parse .text = .ok parser := by
  have rest : parser.input.rest = [] := outside.text
  simp [parse_eq, step, rest, outside.outer, bind, Except.bind]

theorem parse_bar (outside : Outside flags offset ('|' :: after) finished items parser)
    (onward : Piece.split after ≠ [.dangling]) :
    ∃ next, parser.parse .text = next.parse .text ∧ (parser.Clean → next.Clean) ∧
      Outside flags offset after (Regex.ofItems items.reverse :: finished) [] next := by
  have head : parser.input.rest = .plain '|' :: Piece.split after := outside.text
  have barred : parser.pushBar (Piece.split after) = .ok { parser with
      input := ⟨parser.input.position + 1, Piece.split after⟩
      level := { parser.level with
        finished := Regex.ofItems items.reverse :: finished, items := [] } } := by
    rw [pushBar_eq, outside.whole, Input.goTo, if_neg onward, Level.current, outside.items,
      outside.finished]
    rfl
  refine ⟨_, parse_step (step_bar .text head) barred, fun clean => ⟨clean.1, clean.2⟩, ?_⟩
  exact { outside with text := rfl, whole := outside.whole, finished := rfl, items := rfl }

def opened (parser : Parser) (offset : Nat) (input : Input) : Parser :=
  openLevel { parser with input, groups := offset + 1 } (.capture (offset + 1))
    parser.input.position false

theorem parse_opening (outside : Outside flags offset ('(' :: after) finished items parser)
    (simple : (Piece.split after).head? ≠ some (.plain '?'))
    (onward : Piece.split after ≠ [.dangling]) :
    parser.parse .text = Parser.parse .text
      (opened parser offset ⟨parser.input.position + 1, Piece.split after⟩) := by
  have head : parser.input.rest = .plain '(' :: Piece.split after := outside.text
  apply parse_step (step_lexeme .text head (by decide) (by decide))
  have read : Lexeme.read .text parser.level.verbose (.plain '(') parser.input.position
      ⟨parser.input.position + 1, Piece.split after⟩ =
      .ok (.opening (.capture none), ⟨parser.input.position + 1, Piece.split after⟩) := by
    rw [outside.quiet]
    show Lexeme.readOpening .text parser.input.position _ = _
    rw [Lexeme.readOpening_eq, Input.accept_of_other simple]
    rfl
  rw [Input.goTo, if_neg onward]
  show (Lexeme.read .text parser.level.verbose (.plain '(') parser.input.position
      ⟨parser.input.position + 1, Piece.split after⟩ >>= _) = _
  rw [read]
  show Except.ok (openLevel _ _ _ _) = _
  rw [outside.quiet, outside.groups]
  rfl

theorem fresh_opened (outside : Outside flags offset ('(' :: after) finished items parser)
    (input : Input) : (opened parser offset input).Fresh where
  quiet := rfl
  finished := rfl
  items := rfl
  kind := nofun
  widths entry member := Nat.lt_succ_of_le (outside.widths entry member)
  lookbehind := outside.lookbehind

theorem clean_opened (outside : Outside flags offset ('(' :: after) finished items parser)
    (clean : parser.Clean) (input : Input) : (opened parser offset input).Clean where
  names := clean.names
  conditions number member := by
    have bound := clean.conditions number member
    rw [outside.groups] at bound
    exact Nat.le_succ_of_le bound

def Fits (offset : Nat) (source : List Char) : Prop :=
  ∀ name, .condition name ∈ Segment.split source → offset + countCaptures source + 1 < groupLimit

variable {source : List Char} {rule : CompiledRule} {alone : Parser} {excused : Prop}

/-- The text of a rule is read up to the end of the rule's group as it is read by itself. -/
theorem parse_body (settled : Settled offset source rule) (standing : Standing source alone)
    (outside :
      Outside flags offset ('(' :: (rule.patternText ++ ')' :: after)) finished items parser)
    (strict : excused ∨ parser.Clean ∧ Fits offset source) :
    (excused ∧ ∃ failure, parser.parse .text = .error failure) ∨
      ∃ input reached, parser.parse .text = Parser.parse .text reached ∧
        Shadows ((opened parser offset input).comparison excused (')' :: after)) alone reached := by
  have simple := standing.head?_rewritten_ne settled.written after
  rw [← settled.text] at simple
  have onward : Piece.split (rule.patternText ++ ')' :: after) ≠ [.dangling] :=
    Piece.split_ne_dangling (List.mem_append_right _ List.mem_cons_self) (by decide)
  have behind : ∀ segment ∈ Segment.split source, Segment.Rewritten (fun name ds =>
      Number.valueOf ds = Number.valueOf name + (offset + 1) ∧ (excused ∨ InRange ds)) (offset + 1)
      segment (segment.rendered (countCaptures source) offset) := by
    intro segment member
    refine (settled.written segment member).imp fun name ds condition digits stands => ?_
    subst condition
    obtain ⟨positive, within, -⟩ := standing.conditions settled.counted member digits
    have value := stands.own positive within
    refine ⟨value, strict.imp_right fun ⟨_, fits⟩ => ?_⟩
    have small := fits name member
    have bound : Number.valueOf ds < groupLimit := by omega
    exact ⟨stands.brief bound, bound⟩
  rw [outside.parse_opening simple onward]
  let reader := opened parser offset ⟨parser.input.position + 1,
    Piece.split (rule.patternText ++ ')' :: after)⟩
  have text : reader.input.rest = Piece.split ((Segment.split source).flatMap
      (Segment.rendered (countCaptures source) offset) ++ ')' :: after) := by
    rw [← settled.text]
    rfl
  refine (standing.parse settled.counted (outside.fresh_opened _) ?_ behind
    (Segment.closes_behind after) text).imp_right fun ⟨reached, again, matching⟩ =>
      ⟨_, reached, again, matching⟩
  exact strict.imp_right fun ⟨clean, _⟩ => outside.clean_opened clean _

theorem widths_le {reached : Parser} {input : Input} {tail : List Char} {captures : Nat}
    (outside : Outside flags offset ('(' :: after) finished items parser)
    (matching : Shadows ((opened parser offset input).comparison excused tail) alone reached)
    (own : ∀ entry ∈ alone.widths, entry.1 ≤ captures) :
    ∀ entry ∈ reached.widths, entry.1 ≤ offset + captures + 1 := by
  have shifted := matching.widths_le fun entry known => own entry known
  intro entry member
  rcases shifted entry member with inside | before
  · have bound : entry.1 ≤ captures + (offset + 1) := inside
    omega
  · have bound := outside.widths entry before
    omega

theorem parse_rule (settled : Settled offset source rule) (standing : Standing source alone)
    (outside :
      Outside flags offset ('(' :: (rule.patternText ++ ')' :: after)) finished items parser)
    (strict : excused ∨ parser.Clean ∧ Fits offset source)
    (onward : Piece.split after ≠ [.dangling]) :
    (excused ∧ ∃ failure, parser.parse .text = .error failure) ∨
      ∃ next, parser.parse .text = Parser.parse .text next ∧
        Outside flags (offset + rule.captures + 1) after finished
          (rule.around alone.level.body :: items) next ∧
        next.names = alone.names.map (fun (name, group) => (name, group + (offset + 1))) ++
          parser.names ∧
        (excused ∨ ∀ number ∈ next.conditionNumbers, number ≤ next.groups) := by
  refine (outside.parse_body settled standing strict).imp_right ?_
  rintro ⟨input, reached, again, matching⟩
  obtain ⟨_, _, _, parsed⟩ := standing.parsed
  obtain ⟨-, ended, -⟩ := parsed.numbered
  obtain ⟨_, _, -, -, surveyed⟩ := standing.survey
  obtain ⟨head, stack, kind, body⟩ := matching.ended parsed.ends ended
  have own : alone.groups = rule.captures := by
    rw [standing.groups_eq, settled.counted, settled.captures]
  have all : reached.groups = alone.groups + (offset + 1) := matching.groups
  have kind : reached.level.kind = .capture (offset + 1) := kind
  have item : reached.closedItem = rule.around alone.level.body := by
    simp only [closedItem, kind, CompiledRule.around, settled.groupIndex]
    exact congrArg (Regex.group (offset + 1)) body
  -- What comes next in the text is the parenthesis that closes the rule's group.
  have closed : reached.pushClose parser.level parser.outer (Piece.split after) = .ok { reached with
      input := ⟨reached.input.position + 1, Piece.split after⟩
      level := parser.level.push (rule.around alone.level.body)
      outer := parser.outer
      widths := (offset + 1, (rule.around alone.level.body).width reached.widthOf) :: reached.widths
      lookbehind := reached.lookbehind } := by
    rw [pushClose, Input.goTo, if_neg onward]
    simp only [kind, item, bind, Except.bind, pure, Except.pure]
  refine ⟨_, again.trans (parse_step (step_close .text head stack) closed), ?_, matching.names, ?_⟩
  · exact {
      text := rfl
      outer := outside.outer
      whole := outside.whole
      quiet := outside.quiet
      finished := outside.finished
      items := congrArg _ outside.items
      groups := by
        dsimp only
        omega
      widths := by
        intro entry member
        rcases List.mem_cons.mp member with rfl | before
        · dsimp only
          omega
        · exact outside.widths_le matching (own ▸ surveyed.widths) entry before
      lookbehind := by
        have all : reached.lookbehind = alone.lookbehind.map (· + (offset + 1)) :=
          matching.lookbehind
        simpa [surveyed.lookbehind] using all
      flags := matching.flags.trans outside.flags }
  · refine matching.conditions.imp_right fun numbers number member => ?_
    show number ≤ reached.groups
    rcases numbers number member with before | ⟨inner, known, same⟩
    · have before : number ≤ offset + 1 := before
      omega
    · have bound := parsed.conditionNumbers_le inner known
      have same : number = inner + (offset + 1) := same
      omega

theorem split_wrapped_ne_dangling (rules : List CompiledRule) :
    Piece.split (joinBars (rules.map CompiledRule.wrapped)) ≠ [.dangling] := by
  cases rules with
  | nil => nofun
  | cons rule rules =>
    rw [Assembly.joinBars_wrapped]
    nofun

theorem split_barred_ne_dangling (texts : List (List Char)) :
    Piece.split (barred texts) ≠ [.dangling] := by
  cases texts with
  | nil => nofun
  | cons text texts => nofun

def Bare (source : List Char) (alone : Parser) : Prop :=
  alone.names = [] ∧ ∀ name, .condition name ∉ Segment.split source

theorem parse_rules {total : Nat} {sources : List (List Char)} {rules : List CompiledRule}
    {parsers : List Parser} (places : Places Settled offset sources rules total)
    (standings : List.Forall₂ Standing sources parsers) (some : rules ≠ [])
    (outside : Outside flags offset (joinBars (rules.map CompiledRule.wrapped)) finished [] parser)
    (strict : excused ∨ parser.Clean ∧ List.Forall₂ Bare sources parsers) :
    (excused ∧ ∃ failure, parser.parse .text = .error failure) ∨
      ∃ stopped finished' items, parser.parse .text = .ok stopped ∧
        Outside flags total [] finished' items stopped ∧
        stopped.level.body = Regex.ofAlternatives (finished.reverse ++
          List.zipWith (fun rule alone => rule.around alone.level.body) rules parsers) ∧
        (excused ∨ stopped.Clean) := by
  -- Rule by rule: each becomes an alternative, and its parser stands at the bar before the next.
  induction places generalizing parser finished parsers with
  | nil => exact absurd rfl some
  | @cons offset _ source _ rule rules first rest ih =>
    cases standings with
    | @cons _ alone _ parsers standing standings =>
    rw [Assembly.joinBars_wrapped] at outside
    have here : excused ∨ parser.Clean ∧ Fits offset source := by
      refine strict.imp_right fun ⟨clean, bare⟩ => ⟨clean, fun name member => ?_⟩
      obtain ⟨⟨-, unconditional⟩, -⟩ := List.forall₂_cons.mp bare
      exact absurd member (unconditional name)
    refine (outside.parse_rule first standing here (split_barred_ne_dangling _)).elim .inl ?_
    rintro ⟨next, parses, outside, names, conditions⟩
    have clean : excused ∨ next.Clean := by
      rcases strict with excuse | ⟨clean, bare⟩
      · exact .inl excuse
      obtain ⟨⟨unnamed, -⟩, -⟩ := List.forall₂_cons.mp bare
      refine conditions.imp_right fun numbers => ⟨?_, numbers⟩
      rw [names, unnamed, clean.names]
      rfl
    rw [parses]
    cases rest with
    | nil =>
      cases standings
      refine .inr ⟨next, _, _, outside.parse_end, outside, ?_, clean⟩
      rw [Level.body, Level.current, outside.finished, outside.items]
      rfl
    | @cons _ _ _ _ second others =>
      obtain ⟨behind, again, still, outside⟩ :=
        outside.parse_bar (split_wrapped_ne_dangling (second :: others))
      rw [again]
      refine (ih standings (List.cons_ne_nil _ _) outside ?_).imp_right ?_
      · rcases strict with excuse | ⟨-, bare⟩
        · exact .inl excuse
        · exact clean.imp_right fun clean => ⟨still clean, (List.forall₂_cons.mp bare).2⟩
      rintro ⟨stopped, finished, items, parses, outside, body, clean⟩
      refine ⟨stopped, finished, items, parses, outside, ?_, clean⟩
      rw [body]
      simp [CompiledRule.around, Regex.ofItems]

end Parser.Outside

theorem Places.standings {offset total : Nat} {sources : List (List Char)}
    {rules : List CompiledRule} (places : Places Seated offset sources rules total) :
    ∃ parsers, List.Forall₂ Standing sources parsers := by
  induction places with
  | nil => exact ⟨[], .nil⟩
  | cons first _ ih =>
    obtain ⟨parser, standing⟩ := first.standing
    obtain ⟨parsers, standings⟩ := ih
    exact ⟨parser :: parsers, .cons standing standings⟩

section joined

variable {total : Nat} {sources : List (List Char)} {rules : List CompiledRule}
  {parsers : List Parser} (places : Places Settled 0 sources rules total)
  (standings : List.Forall₂ Standing sources parsers) (some : rules ≠ []) {asked : Int}
  (quiet : (Flags.ofInt asked).has .verbose = false)

include quiet in
theorem Parser.outside_start {text : List Char} {input : Input}
    (rest : input.rest = Piece.split text) :
    Parser.Outside (.ofInt asked) 0 text [] [] (.start input (.ofInt asked)) :=
  ⟨rest, rfl, rfl, quiet, rfl, rfl, rfl, nofun, rfl, rfl⟩

include places standings some quiet

theorem Pattern.regex_of_joined {pattern : Pattern}
    (compiled : compile .text (joinBars (rules.map CompiledRule.wrapped)) asked = .ok pattern) :
    (Flags.ofInt asked).settle .text = .ok pattern.flags ∧
      pattern.regex = Regex.ofAlternatives
        (List.zipWith (fun rule alone => rule.around alone.level.body) rules parsers) := by
  obtain ⟨parser, parsed⟩ := compile_eq_ok_iff.mp compiled
  obtain ⟨input, read, parses⟩ := parsed.parses
  have outside := Parser.outside_start quiet (Input.goTo_rest 0 _ input read)
  rcases outside.parse_rules places standings some (.inl trivial) with
    ⟨-, failure, failed⟩ | ⟨stopped, _, _, again, outside, body, -⟩
  · cases failed.symm.trans parses
  · cases again.symm.trans parses
    refine ⟨outside.flags ▸ parsed.settles, ?_⟩
    rw [congrArg Pattern.regex parsed.made]
    exact body

/-- Rules without names and conditions can be joined. -/
theorem Pattern.compile_joined (bare : List.Forall₂ Parser.Outside.Bare sources parsers)
    {flags : Flags} (settles : (Flags.ofInt asked).settle .text = .ok flags)
    (checks : (Regex.ofAlternatives (List.zipWith (fun rule alone => rule.around alone.level.body)
      rules parsers)).check (flags.has .template) = .ok ())
    (fits : Flags.fits asked = true) :
    compile .text (joinBars (rules.map CompiledRule.wrapped)) asked = .ok
      ⟨joinBars (rules.map CompiledRule.wrapped), Regex.ofAlternatives
        (List.zipWith (fun rule alone => rule.around alone.level.body) rules parsers), total, [],
        flags⟩ := by
  let input : Input := ⟨0, Piece.split (joinBars (rules.map CompiledRule.wrapped))⟩
  have start : input.rest = Piece.split (joinBars (rules.map CompiledRule.wrapped)) := rfl
  have strict : False ∨ (Parser.start input (.ofInt asked)).Clean ∧
      List.Forall₂ Parser.Outside.Bare sources parsers := .inr ⟨⟨rfl, nofun⟩, bare⟩
  rcases (Parser.outside_start quiet start).parse_rules places standings some strict with
    ⟨⟨⟩, -⟩ | ⟨stopped, _, _, parses, outside, body, ⟨⟨⟩⟩ | clean⟩
  refine compile_eq_ok_iff.mpr ⟨stopped, ?_⟩
  exact {
    parses := ⟨_, if_neg (Parser.Outside.split_wrapped_ne_dangling rules), parses⟩
    ends := outside.text
    settles := outside.flags ▸ settles
    conditions := Pattern.checkConditions_eq_ok_iff.mpr fun entry member =>
      clean.conditions _ (List.mem_map_of_mem (List.mem_reverse.mp member))
    checks := checks
    fits := fits
    made := by
      rw [body, outside.groups, clean.names]
      rfl }

end joined

end RuleLexer
