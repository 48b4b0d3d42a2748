import RuleLexer.Proofs.Regex.Parsing

namespace RuleLexer

namespace Regex

def groupNumbers : Regex → List Nat
  | .empty | .anchor _ | .char _ | .any | .set _ _ | .backref _ => []
  | .seq first second | .alt first second | .conditional _ first second =>
    first.groupNumbers ++ second.groupNumbers
  | .group index body => index :: body.groupNumbers
  | .scoped _ _ body | .repeated _ _ _ body | .atomic body | .ahead _ body | .behind _ _ body =>
    body.groupNumbers

theorem length_groupNumbers (regex : Regex) : regex.groupNumbers.length = regex.groupCount := by
  induction regex <;> simp_all [groupNumbers, groupCount]

theorem groupNumbers_ofItems (items : List Regex) :
    (ofItems items).groupNumbers = items.flatMap groupNumbers := by
  fun_induction ofItems items <;> simp_all [groupNumbers]

theorem groupNumbers_ofAlternatives (choices : List Regex) :
    (ofAlternatives choices).groupNumbers = choices.flatMap groupNumbers := by
  fun_induction ofAlternatives choices <;> simp_all [groupNumbers]

end Regex

namespace LevelKind

def groupNumbers : LevelKind → List Nat
  | .capture index => [index]
  | _ => []

end LevelKind

namespace Level

def groupNumbers (level : Level) : List Nat :=
  level.kind.groupNumbers ++ (level.finished.reverse.flatMap Regex.groupNumbers ++
    level.items.reverse.flatMap Regex.groupNumbers)

def FewBranches (level : Level) : Prop :=
  ∀ group, level.kind = .conditional group → level.finished.length ≤ 1

theorem groupNumbers_push (level : Level) (item : Regex) :
    (level.push item).groupNumbers = level.groupNumbers ++ item.groupNumbers := by
  simp [push, groupNumbers]

theorem groupNumbers_body (level : Level) :
    level.groupNumbers = level.kind.groupNumbers ++ level.body.groupNumbers := by
  simp [groupNumbers, body, current, Regex.groupNumbers_ofAlternatives,
    Regex.groupNumbers_ofItems]

end Level

namespace Parser

def groupNumbers (parser : Parser) : List Nat :=
  parser.outer.reverse.flatMap Level.groupNumbers ++ parser.level.groupNumbers

def kinds (parser : Parser) : List LevelKind :=
  (parser.level :: parser.outer).map Level.kind

/-- The groups of a parser are numbered in the order in which they were opened. -/
structure Numbered (parser : Parser) : Prop where
  numbers : parser.groupNumbers = List.range' 1 parser.groups
  branches : ∀ level ∈ parser.level :: parser.outer, level.FewBranches
  bottom : parser.kinds.getLast? = some .whole

theorem start_numbered (input : Input) (flags : Flags) : (start input flags).Numbered where
  numbers := rfl
  branches := by
    intro level member group kind
    cases List.mem_singleton.mp member
    cases kind
  bottom := rfl

namespace Numbered

variable {parser : Parser}

theorem push (numbered : parser.Numbered) {item : Regex} (groupless : item.groupCount = 0) :
    (parser.push item).Numbered where
  numbers := by
    have none : item.groupNumbers = [] :=
      List.eq_nil_of_length_eq_zero (item.length_groupNumbers.trans groupless)
    have before := numbered.numbers
    simp_all [groupNumbers, Parser.push, Level.groupNumbers_push]
  branches := by
    have before := numbered.branches
    simp_all [Parser.push, Level.push, Level.FewBranches]
  bottom := numbered.bottom

theorem pushQuantifier (numbered : parser.Numbered) (least : Nat) (most : Option Nat)
    (start : Nat) : Ensures (parser.pushQuantifier least most start) Numbered := by
  unfold Parser.pushQuantifier
  split
  · exact .error
  · exact .error
  · exact .error
  · next item items _ _ same =>
    refine (Ensures.trivial _).bind fun (lazy, _) _ => ?_
    refine (Ensures.branch (Ensures.trivial _)) fun (possessive, after) _ =>
      .ok ⟨?_, ?_, numbered.bottom⟩
    · have before := numbered.numbers
      simp_all [groupNumbers, Level.groupNumbers, Regex.groupNumbers]
    · have before := numbered.branches
      simp_all [Level.FewBranches]

theorem openLevel (numbered : parser.Numbered) {kind : LevelKind} (plain : kind.groupNumbers = [])
    (start : Nat) (verbose : Bool) : (parser.openLevel kind start verbose).Numbered where
  numbers := by
    have before := numbered.numbers
    simp_all [groupNumbers, Parser.openLevel, Level.groupNumbers]
  branches := by
    have before := numbered.branches
    simp_all [Parser.openLevel, Level.FewBranches]
  bottom := numbered.bottom

theorem openCapture (numbered : parser.Numbered) (names : List (List Char × Nat)) (start : Nat)
    (verbose : Bool) : Numbered (Parser.openLevel
      { parser with groups := parser.groups + 1, names } (.capture (parser.groups + 1)) start
      verbose) where
  numbers := by
    have before := numbered.numbers
    simp_all [groupNumbers, Parser.openLevel, Level.groupNumbers, LevelKind.groupNumbers,
      List.range'_1_concat, Nat.add_comm]
  branches := by
    have before := numbered.branches
    simp_all [Parser.openLevel, Level.FewBranches]
  bottom := by
    have before := numbered.bottom
    simp_all [kinds, Parser.openLevel]

theorem pushOpening (numbered : parser.Numbered) (opening : Opening) (start : Nat) :
    Ensures (parser.pushOpening opening start) Numbered := by
  cases opening with
  | capture name =>
    refine (parser.openGroup_opens name).bind ?_
    rintro _ ⟨names, rfl⟩
    exact .ok (numbered.openCapture names start _)
  | «scoped» on off => exact .ok (numbered.openLevel rfl start _)
  | atomic => exact .ok (numbered.openLevel rfl start _)
  | ahead negated => exact .ok (numbered.openLevel rfl start _)
  | behind negated =>
    refine .ok (openLevel ?_ rfl start _)
    split
    · exact ⟨numbered.numbers, numbered.branches, numbered.bottom⟩
    · exact numbered
  | condition name =>
    refine (parser.condition_notes name).bind fun (next, group) ⟨⟨conditions, same⟩, _⟩ => ?_
    subst same
    have noted : Numbered { parser with conditions } :=
      ⟨numbered.numbers, numbered.branches, numbered.bottom⟩
    exact (Ensures.trivial _).bind fun _ _ => .ok (noted.openLevel rfl start _)

theorem pushLexeme (numbered : parser.Numbered) (start : Nat) {lexeme : Lexeme}
    (groupless : lexeme.Groupless) : Ensures (parser.pushLexeme start lexeme) Numbered := by
  cases lexeme with
  | blank => exact .ok numbered
  | item item => exact .ok (numbered.push groupless)
  | quantifier least most => exact numbered.pushQuantifier least most start
  | reference group =>
    refine (parser.pushReference_pushes group start).mono ?_
    rintro _ rfl
    exact numbered.push rfl
  | namedReference name =>
    refine (parser.pushNamedReference_pushes name).mono ?_
    rintro _ ⟨group, rfl⟩
    exact numbered.push rfl
  | opening opening => exact numbered.pushOpening opening start
  | globalFlags on =>
    unfold Parser.pushLexeme pushGlobalFlags
    dsimp only
    split
    · refine .ok ⟨numbered.numbers, ?_, numbered.bottom⟩
      have before := numbered.branches
      simp_all [Level.FewBranches]
    · exact .error

theorem pushBar (numbered : parser.Numbered) (rest : List Piece) :
    Ensures (parser.pushBar rest) Numbered := by
  have barred {input : Input} (few : ∀ group, parser.level.kind = .conditional group →
      parser.level.finished = []) :
      Numbered { parser with
        input
        level := { parser.level with
          finished := parser.level.current :: parser.level.finished, items := [] } } := by
    constructor
    · have before := numbered.numbers
      simp_all [groupNumbers, Level.groupNumbers, Level.current, Regex.groupNumbers_ofItems]
    · intro level member
      rcases List.mem_cons.mp member with rfl | outer
      · intro group kind
        simp [few group kind]
      · exact numbered.branches level (List.mem_cons_of_mem _ outer)
    · exact numbered.bottom
  unfold Parser.pushBar
  dsimp only
  split
  · split
    · exact .error
    · next first =>
      refine (Ensures.trivial _).bind fun input _ => .ok (barred fun _ _ => ?_)
      simpa using first
  · next other =>
    refine (Ensures.trivial _).bind fun input _ => .ok (barred fun group kind => ?_)
    exact absurd kind (other group)

end Numbered

theorem groupNumbers_closedItem {parser : Parser} (few : parser.level.FewBranches) :
    parser.closedItem.groupNumbers = parser.level.groupNumbers := by
  rw [Level.groupNumbers_body]
  cases kind : parser.level.kind with
  | conditional group =>
    have atMost := few group kind
    cases finished : parser.level.finished with
    | nil =>
      simp [closedItem, kind, finished, Level.body, Regex.ofAlternatives, Regex.groupNumbers,
        LevelKind.groupNumbers]
    | cons yes others =>
      rw [finished] at atMost
      have none : others = [] := by simpa using atMost
      simp [closedItem, kind, finished, none, Level.body, Regex.ofAlternatives,
        Regex.groupNumbers, LevelKind.groupNumbers]
  | _ => simp [closedItem, kind, Regex.groupNumbers, LevelKind.groupNumbers]

theorem Numbered.pushClose {parser : Parser} (numbered : parser.Numbered) {next : Level}
    {outer : List Level} (stack : parser.outer = next :: outer) (rest : List Piece) :
    Ensures (parser.pushClose next outer rest) Numbered := by
  have inside := groupNumbers_closedItem (numbered.branches _ List.mem_cons_self)
  refine (Ensures.trivial _).bind fun input _ => .ok ⟨?_, ?_, ?_⟩
  · have before := numbered.numbers
    simp_all [groupNumbers, Level.groupNumbers_push]
  · have before := numbered.branches
    simp_all [Level.push, Level.FewBranches]
  · have before := numbered.bottom
    simp_all [kinds, Level.push]

theorem Numbered.step {alphabet : Alphabet} {parser next : Parser} (numbered : parser.Numbered)
    (taken : parser.step alphabet = .ok (some next)) : next.Numbered := by
  cases advances_of_step taken with
  | close _ stack pushed => exact numbered.pushClose stack _ _ pushed
  | bar _ pushed => exact numbered.pushBar _ _ pushed
  | @lexeme lexeme after reads pushed =>
    obtain ⟨_, _, input, -, -, -, -, read⟩ := reads
    have here : Numbered { parser with input := after } :=
      ⟨numbered.numbers, numbered.branches, numbered.bottom⟩
    exact here.pushLexeme _ (Lexeme.read_leaves _ _ _ _ input _ read).1 _ pushed

structure Tidy (parser : Parser) : Prop where
  names : ∀ entry ∈ parser.names, 0 < entry.2 ∧ entry.2 ≤ parser.groups
  captures : ∀ index, .capture index ∈ parser.kinds → index ≤ parser.groups
  widths : ∀ entry ∈ parser.widths, entry.1 ≤ parser.groups
  looking : parser.lookbehind.isSome → ∃ negated, .behind negated true ∈ parser.kinds

theorem start_tidy (input : Input) (flags : Flags) : (start input flags).Tidy where
  names := nofun
  captures := by
    intro index member
    cases List.mem_singleton.mp member
  widths := nofun
  looking := nofun

namespace Tidy

variable {parser : Parser}

theorem names_eq_nil (tidy : parser.Tidy) (groupless : parser.groups = 0) : parser.names = [] := by
  refine List.eq_nil_iff_forall_not_mem.mpr fun entry member => ?_
  have bound := tidy.names entry member
  omega

theorem within (tidy : parser.Tidy) {input : Input} {level : Level}
    (kind : level.kind = parser.level.kind) : Tidy { parser with input, level } where
  names := tidy.names
  captures := by simpa [kinds, kind] using tidy.captures
  widths := tidy.widths
  looking := by simpa [kinds, kind] using tidy.looking

theorem openLevel (tidy : parser.Tidy) (kind : LevelKind)
    (bound : ∀ index, kind = .capture index → index ≤ parser.groups) (start : Nat)
    (verbose : Bool) : (parser.openLevel kind start verbose).Tidy where
  names := tidy.names
  captures := by
    intro index member
    rcases List.mem_cons.mp member with same | before
    · exact bound index same.symm
    · exact tidy.captures index before
  widths := tidy.widths
  looking := by
    intro around
    obtain ⟨negated, member⟩ := tidy.looking around
    exact ⟨negated, List.mem_cons_of_mem _ member⟩

theorem openGroup (tidy : parser.Tidy) (name : Option (List Char)) :
    Ensures (parser.openGroup name) fun next => next.groups = parser.groups + 1 ∧ next.Tidy := by
  have onward (entry : List Char × Nat) (member : entry ∈ parser.names) :
      0 < entry.2 ∧ entry.2 ≤ parser.groups + 1 :=
    ⟨(tidy.names entry member).1, Nat.le_succ_of_le (tidy.names entry member).2⟩
  have more {names : List (List Char × Nat)}
      (numbers : ∀ entry ∈ names, 0 < entry.2 ∧ entry.2 ≤ parser.groups + 1) :
      Tidy { parser with groups := parser.groups + 1, names } :=
    ⟨numbers, fun index member => Nat.le_succ_of_le (tidy.captures index member),
      fun entry member => Nat.le_succ_of_le (tidy.widths entry member), tidy.looking⟩
  unfold Parser.openGroup
  split
  · exact .ok ⟨rfl, more onward⟩
  · split
    · exact .error
    · exact .ok ⟨rfl, more (List.forall_mem_cons.mpr ⟨⟨Nat.succ_pos _, Nat.le_refl _⟩, onward⟩)⟩

theorem pushOpening (tidy : parser.Tidy) (opening : Opening) (start : Nat) :
    Ensures (parser.pushOpening opening start) Tidy := by
  cases opening with
  | capture name =>
    refine (tidy.openGroup name).bind fun next ⟨groups, more⟩ => .ok (more.openLevel _ ?_ start _)
    rintro index ⟨⟩
    exact Nat.le_refl _
  | «scoped» on off => exact .ok (tidy.openLevel (.scoped on off) nofun start _)
  | atomic => exact .ok (tidy.openLevel .atomic nofun start _)
  | ahead negated => exact .ok (tidy.openLevel (.ahead negated) nofun start _)
  | behind negated =>
    have opened := tidy.openLevel (.behind negated parser.lookbehind.isNone) nofun start
    cases around : parser.lookbehind with
    | none =>
      simp only [Parser.pushOpening, around] at opened ⊢
      exact .ok { opened parser.level.verbose with
        looking := fun _ => ⟨negated, List.mem_cons_self⟩ }
    | some before =>
      simp only [Parser.pushOpening, around] at opened ⊢
      exact .ok (opened parser.level.verbose)
  | condition name =>
    refine (parser.condition_notes name).bind fun (next, group) ⟨⟨conditions, same⟩, _⟩ => ?_
    subst same
    have noted : Tidy { parser with conditions } := ⟨tidy.names, tidy.captures, tidy.widths, tidy.looking⟩
    exact (Ensures.trivial _).bind fun _ _ => .ok (noted.openLevel (.conditional group) nofun start _)

theorem pushLexeme (tidy : parser.Tidy) (start : Nat) (lexeme : Lexeme) :
    Ensures (parser.pushLexeme start lexeme) Tidy := by
  cases lexeme with
  | blank => exact .ok tidy
  | item item => exact .ok (tidy.within rfl)
  | quantifier least most =>
    unfold Parser.pushLexeme pushQuantifier
    dsimp only
    split
    · exact .error
    · exact .error
    · exact .error
    · refine (Ensures.trivial _).bind fun _ _ => ?_
      exact Ensures.branch (Ensures.trivial _) fun _ _ => .ok (tidy.within rfl)
  | reference group =>
    refine (parser.pushReference_pushes group start).mono ?_
    rintro _ rfl
    exact tidy.within rfl
  | namedReference name =>
    refine (parser.pushNamedReference_pushes name).mono ?_
    rintro _ ⟨group, rfl⟩
    exact tidy.within rfl
  | opening opening => exact tidy.pushOpening opening start
  | globalFlags on =>
    unfold Parser.pushLexeme pushGlobalFlags
    dsimp only
    split
    · exact .ok ⟨tidy.names, tidy.captures, tidy.widths, tidy.looking⟩
    · exact .error

theorem pushBar (tidy : parser.Tidy) (rest : List Piece) : Ensures (parser.pushBar rest) Tidy := by
  unfold Parser.pushBar
  dsimp only
  split
  · split
    · exact .error
    · exact (Ensures.trivial _).bind fun _ _ => .ok (tidy.within rfl)
  · exact (Ensures.trivial _).bind fun _ _ => .ok (tidy.within rfl)

theorem pushClose (tidy : parser.Tidy) {next : Level} {outer : List Level}
    (stack : parser.outer = next :: outer) (rest : List Piece) :
    Ensures (parser.pushClose next outer rest) Tidy := by
  have inner (kind : LevelKind) (member : kind ∈ (next :: outer).map Level.kind) :
      kind ∈ parser.kinds := by
    rw [kinds, stack]
    exact List.mem_cons_of_mem _ member
  refine (Ensures.trivial _).bind fun input _ => .ok ⟨tidy.names, ?_, ?_, ?_⟩
  · exact fun index member => tidy.captures index (inner _ member)
  · intro entry member
    dsimp only at member ⊢
    split at member
    · next index kind =>
      rcases List.mem_cons.mp member with rfl | before
      · exact tidy.captures index (kind ▸ List.mem_cons_self)
      · exact tidy.widths entry before
    · exact tidy.widths entry member
  · intro around
    dsimp only at around
    split at around
    · cases around
    · next other =>
      obtain ⟨negated, member⟩ := tidy.looking around
      rw [kinds, stack] at member
      rcases List.mem_cons.mp member with here | outside
      · exact absurd here.symm (other negated)
      · exact ⟨negated, outside⟩

theorem step {alphabet : Alphabet} {next : Parser} (tidy : parser.Tidy)
    (taken : parser.step alphabet = .ok (some next)) : next.Tidy := by
  cases advances_of_step taken with
  | close _ stack pushed => exact tidy.pushClose stack _ _ pushed
  | bar _ pushed => exact tidy.pushBar _ _ pushed
  | @lexeme lexeme after _ pushed =>
    have here : Tidy { parser with input := after } :=
      ⟨tidy.names, tidy.captures, tidy.widths, tidy.looking⟩
    exact here.pushLexeme _ lexeme _ pushed

end Tidy

end Parser

namespace Pattern

theorem Parsed.numbered {alphabet : Alphabet} {source : List Char} {asked : Int} {pattern : Pattern}
    {parser : Parser} (parsed : Parsed alphabet source asked pattern parser) :
    parser.Numbered ∧ parser.outer = [] ∧ parser.level.kind = .whole := by
  obtain ⟨input, _, parses⟩ := parsed.parses
  obtain ⟨numbered, stopped⟩ := Parser.parse_invariant (fun _ _ => Parser.Numbered.step)
    (Parser.start_numbered input _) parses
  have outside := Parser.outer_of_stopped stopped
  exact ⟨numbered, outside, by simpa [Parser.kinds, outside] using numbered.bottom⟩

theorem Parsed.tidy {alphabet : Alphabet} {source : List Char} {asked : Int} {pattern : Pattern}
    {parser : Parser} (parsed : Parsed alphabet source asked pattern parser) :
    parser.Tidy ∧ parser.lookbehind = none := by
  obtain ⟨input, -, parses⟩ := parsed.parses
  obtain ⟨tidy, -⟩ := Parser.parse_invariant (fun _ _ => Parser.Tidy.step)
    (Parser.start_tidy input _) parses
  obtain ⟨-, outside, whole⟩ := parsed.numbered
  refine ⟨tidy, Option.eq_none_iff_forall_ne_some.mpr fun before around => ?_⟩
  obtain ⟨negated, member⟩ := tidy.looking (by rw [around]; rfl)
  rw [Parser.kinds, outside, List.map_singleton, whole] at member
  cases List.mem_singleton.mp member

/-- The groups of a pattern are numbered from left to right. -/
theorem groupNumbers_of_compile {alphabet : Alphabet} {source : List Char} {asked : Int}
    {pattern : Pattern} (compiled : compile alphabet source asked = .ok pattern) :
    pattern.regex.groupNumbers = List.range' 1 pattern.groups := by
  obtain ⟨parser, parsed⟩ := compile_eq_ok_iff.mp compiled
  obtain ⟨numbered, outside, whole⟩ := parsed.numbered
  have numbers := numbered.numbers
  rw [parsed.made]
  simpa [Parser.groupNumbers, outside, Level.groupNumbers_body, whole, LevelKind.groupNumbers]
    using numbers

end Pattern

end RuleLexer
