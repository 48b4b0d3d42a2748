import RuleLexer.Proofs.Rule.Dispatch
import RuleLexer.Proofs.Rule.Joining

namespace RuleLexer

namespace Segment

/-- Digits behind a backslash that renumbering reads as a pattern does, beside `captures` groups.
They refer to a group; or they are the number of none, and they give a character in octal digits,
one that cannot become a part of what stands before it, or start with a digit of another script and
stand for themselves. -/
inductive Tame (captures : Nat) : List Char → Prop
  | reference {digits : List Char} (refers : Spells digits (Number.valueOf digits)) :
    Tame captures digits
  | octal {digits : List Char} {c : Char} (spelled : Octal digits c.toNat)
    (apart : ¬(0 < Number.valueOf digits ∧ Number.valueOf digits ≤ captures))
    (fixed : isSpecial c = true ∨ isLoose c = true) : Tame captures digits
  | literal {c : Char} {cs : List Char} (foreign : 0x7F < c.toNat)
    (apart : ¬(0 < Number.valueOf (c :: cs) ∧ Number.valueOf (c :: cs) ≤ captures))
    (short : (c :: cs).length ≤ Number.digitLimit) : Tame captures (c :: cs)

theorem isPlain_of_spells {captures n : Nat} {digits : List Char} (after : List Char)
    (refers : Spells digits n) (own : Number.valueOf digits ≤ captures) :
    (Segment.number digits).isPlain captures after = true := by
  cases refers with
  | one digit first => simp [isPlain, digit, first, own]
  | two digit first second => simp [isPlain, digit, first, second, own]

theorem all_isOctalDigit_of_octal {digits : List Char} {code : Nat} (spelled : Octal digits code) :
    digits.all isOctalDigit = true ∧ digits.length ≤ 3 ∧ Escape.number 8 digits = code := by
  cases spelled with
  | zero octal short =>
    refine ⟨?_, Nat.succ_le_succ short, rfl⟩
    rw [List.all_cons, Bool.and_eq_true]
    exact ⟨rfl, octal⟩
  | three _ octal _ => exact ⟨octal, Nat.le_refl 3, rfl⟩

theorem octalText_of_octal {digits : List Char} {c : Char} (spelled : Octal digits c.toNat) :
    octalText digits = .ok (escapeLiteral [c]) := by
  obtain ⟨octal, -, number⟩ := all_isOctalDigit_of_octal spelled
  have value {d : Char} (digit : isOctalDigit d = true) : Escape.hexValue d = d.toNat - 0x30 :=
    if_pos (Escape.isDigit_of_isOctal digit)
  have same : digits.foldl (fun n c => 8 * n + (c.toNat - 0x30)) 0 = c.toNat := by
    rw [← number, Escape.number]
    refine (List.foldl_ext _ _ _ fun n d member => ?_).symm
    rw [value (List.all_eq_true.mp octal d member)]
  have valid : c.toNat.isValidChar := c.valid
  have bound : c.toNat ≤ 0x10FFFF := by
    rcases valid with low | high
    · omega
    · omega
  rw [octalText, if_pos octal, same, if_neg (by omega), if_neg (by omega), if_pos valid,
    Char.ofNat_toNat]

theorem octalText_of_foreign {c : Char} {cs : List Char} (foreign : 0x7F < c.toNat)
    (all : (c :: cs).all isDigitChar = true) : octalText (c :: cs) = .ok (c :: cs) := by
  have decimal : ¬(c :: cs).all isOctalDigit = true := by
    intro octal
    have digit := Escape.isDigit_of_isOctal (List.all_eq_true.mp octal c List.mem_cons_self)
    cases digit.symm.trans (isDigit_of_foreign foreign)
  have plain : escapeLiteral (c :: cs) = c :: cs := by
    refine (List.flatMap_congr fun d member => ?_).trans (List.flatMap_singleton' _)
    rw [isSpecial_of_isDigitChar (List.all_eq_true.mp all d member), if_neg (by decide)]
  rw [octalText, if_neg decimal, plain]

variable {captures shift : Nat} {offset : Int}

def Carries (captures shift : Nat) (offset : Int) (segment : Segment) : Prop :=
  ∃ text, segment.renumbered captures offset = .ok text ∧
    Rewritten (Stands captures shift) shift segment text

theorem carries_reference {digits : List Char} (place : (shift : Int) = offset + 1)
    (fits : captures + shift ≤ 99) (refers : Spells digits (Number.valueOf digits))
    (own : Number.valueOf digits ≤ captures) : Carries captures shift offset (.number digits) := by
  have plain := isPlain_of_spells [] refers own
  have few : digits.length ≤ 2 := by
    simp only [isPlain, Bool.and_eq_true, decide_eq_true_eq] at plain
    exact plain.1.1.2
  have short : digits.length ≤ Number.digitLimit := Nat.le_trans few (by decide)
  have within : ¬referenceLimit < (Number.valueOf digits : Int) + offset + 1 := by
    unfold referenceLimit
    omega
  have renumbered : (Segment.number digits).renumbered captures offset =
      .ok ('\\' :: Number.intText (Number.valueOf digits + offset + 1)) := by
    rw [renumbered_number short, if_pos ⟨valueOf_pos_of_spells refers, own⟩, if_neg within]
  exact ⟨_, renumbered, .written (written_renumbered place plain renumbered)⟩

theorem renumbered_of_apart {digits text : List Char} (short : digits.length ≤ Number.digitLimit)
    (apart : ¬(0 < Number.valueOf digits ∧ Number.valueOf digits ≤ captures))
    (octal : octalText digits = .ok text) :
    (Segment.number digits).renumbered captures offset = .ok text := by
  rw [renumbered_number short, if_neg apart, octal]

theorem carries_condition {name after : List Char} (place : (shift : Int) = offset + 1)
    (clear : (condition name).isClear after = true)
    (short : name.all Char.isDigit = true → name.length ≤ Number.digitLimit) :
    Carries captures shift offset (.condition name) := by
  rcases Bool.or_eq_true_iff.mp clear with plain | identifier
  · have plain : (condition name).isPlain captures after = true := plain
    have digits := (Bool.and_eq_true_iff.mp plain).2
    obtain ⟨text, renumbered⟩ :
        ∃ text, (condition name).renumbered captures offset = .ok text := by
      rw [renumbered_condition (all_isDigitChar digits) (short digits)]
      split
      · exact ⟨_, rfl⟩
      · exact ⟨_, rfl⟩
    exact ⟨text, renumbered, .written (written_renumbered place plain renumbered)⟩
  · have word : ¬name.all isDigitChar = true := fun digits => by
      cases identifier.symm.trans (Text.not_isIdentifier_of_digits digits)
    exact ⟨_, if_neg word, .written (.named identifier)⟩

theorem mapM_of_renumbered {segments : List Segment} (renumbered : ∀ segment ∈ segments,
      segment.renumbered captures offset = .ok (segment.rendered captures offset)) :
    segments.mapM (Segment.renumbered captures offset) =
      .ok (segments.map (rendered captures offset)) := by
  induction segments with
  | nil => rfl
  | cons segment segments ih =>
    rw [List.mapM_cons, renumbered segment List.mem_cons_self,
      ih fun segment member => renumbered segment (List.mem_cons_of_mem _ member)]
    rfl

theorem renumber_of_renumbered {source : List Char} (renumbered : ∀ segment ∈ split source,
      segment.renumbered captures offset = .ok (segment.rendered captures offset)) :
    renumber source captures offset =
      .ok ((split source).flatMap (rendered captures offset)) := by
  rw [renumber, mapM_of_renumbered renumbered, List.flatMap_def]
  rfl

end Segment

/-- The text compiles to the pattern, all its groups are counted, and renumbering reads its numbers
as the pattern does. -/
structure Tame (asked : Int) (source : List Char) (pattern : Pattern) : Prop where
  compiles : Pattern.compile .text source asked = .ok pattern
  counted : countCaptures source = pattern.groups
  clear : Segment.areClear (Segment.split source) = true
  numbers : ∀ digits, .number digits ∈ Segment.split source →
    Segment.Tame (countCaptures source) digits

namespace Tame

variable {asked : Int} {source : List Char} {pattern : Pattern}
  (tame : Tame asked source pattern) (quiet : (Flags.ofInt asked).has .verbose = false)

include tame

theorem written_text {stands : List Char → List Char → Prop}
    (stand : ∀ name, .condition name ∈ Segment.split source → name.all Char.isDigit = true →
      stands name name) :
    ∀ segment ∈ Segment.split source, Segment.Written stands 0 segment segment.text := by
  intro segment member
  cases segment with
  | number digits =>
    cases tame.numbers digits member with
    | reference refers => exact .number refers refers
    | octal spelled => exact .octal spelled
    | literal foreign => exact .literal foreign
  | condition name =>
    obtain ⟨after, clear⟩ := Segment.isClear_of_areClear tame.clear _ member
    rcases Bool.or_eq_true_iff.mp clear with plain | identifier
    · have digits := (Bool.and_eq_true_iff.mp plain).2
      exact .condition digits digits (Segment.ne_nil_of_isClear clear) (stand name member digits)
    · exact .named identifier
  | _ => exact .same nofun nofun

include quiet

theorem standing : ∃ parser, Standing source parser ∧
    Pattern.Parsed .text source asked pattern parser ∧
    ∀ digits, .number digits ∈ Segment.split source →
      Spells digits (Number.valueOf digits) → Number.valueOf digits ≤ pattern.groups := by
  obtain ⟨parser, parsed⟩ := Pattern.compile_eq_ok_iff.mp tame.compiles
  have told := parsed
  rw [← (Segment.splits_split source).flatMap_text] at told
  -- The parser has accepted the references and the numbers of the conditions.
  have free : ∀ segment ∈ Segment.split source,
      Segment.Written (fun _ _ => True) 0 segment segment.text :=
    tame.written_text fun _ _ _ => trivial
  obtain ⟨own, seen, surveyed⟩ := told.survey quiet tame.clear free
  refine ⟨parser, ⟨tame.clear, _, asked, pattern, tame.written_text ?_, quiet, told⟩, parsed, ?_⟩
  · intro name member digits
    obtain ⟨ds, mark, same⟩ := seen.conditions name member digits
    have same : name = ds := by simpa [Segment.text] using same
    subst same
    obtain ⟨⟨short, -⟩, -⟩ := surveyed.conditions name mark
    exact ⟨short, fun _ _ => rfl, fun _ => rfl, fun _ => short⟩
  · intro digits member refers
    rw [congrArg Pattern.groups parsed.made]
    exact surveyed.references _ (seen.references digits digits _ member rfl refers)

theorem shown : Segment.shownGroups (Segment.split source) = countCaptures source := by
  obtain ⟨parser, standing, parsed, -⟩ := tame.standing quiet
  rw [tame.counted, ← standing.groups_eq, parsed.made]

theorem carries {offset : Nat} (limit : pattern.groups + offset + 1 ≤ 99) :
    ∀ segment ∈ Segment.split source,
      segment.Carries pattern.groups (offset + 1) offset := by
  obtain ⟨parser, standing, -, own⟩ := tame.standing quiet
  have place : ((offset + 1 : Nat) : Int) = offset + 1 := by omega
  intro segment member
  cases segment with
  | number digits =>
    have all := (Segment.splits_split source).all_isDigitChar member
    have tamed := tame.numbers digits member
    rw [tame.counted] at tamed
    cases tamed with
    | reference refers =>
      exact Segment.carries_reference place limit refers (own digits member refers)
    | octal spelled apart fixed =>
      obtain ⟨-, few, -⟩ := Segment.all_isOctalDigit_of_octal spelled
      have short : digits.length ≤ Number.digitLimit := Nat.le_trans few (by decide)
      exact ⟨_, Segment.renumbered_of_apart short apart (Segment.octalText_of_octal spelled),
        .denoted spelled fixed⟩
    | literal foreign apart short =>
      exact ⟨_, Segment.renumbered_of_apart short apart (Segment.octalText_of_foreign foreign all),
        .literal foreign⟩
  | condition name =>
    obtain ⟨after, clear⟩ := Segment.isClear_of_areClear tame.clear _ member
    exact Segment.carries_condition place clear fun digits =>
      (standing.conditions (tame.shown quiet) member digits).2.2.1
  | _ => exact ⟨_, rfl, .written (.same nofun nofun)⟩

theorem settled {offset : Nat} (limit : pattern.groups + offset + 1 ≤ 99) :
    ∃ text, renumber source pattern.groups offset = .ok text ∧
      Settled offset source ⟨"", text, none, false, pattern.groups, offset + 1⟩ := by
  have renumbered : ∀ segment ∈ Segment.split source, segment.renumbered pattern.groups offset =
        .ok (segment.rendered pattern.groups offset) ∧
      Segment.Rewritten (Segment.Stands pattern.groups (offset + 1)) (offset + 1) segment
        (segment.rendered pattern.groups offset) := by
    intro segment member
    obtain ⟨text, returned, rewritten⟩ := tame.carries quiet limit segment member
    rw [Segment.rendered, returned]
    exact ⟨rfl, rewritten⟩
  refine ⟨_, Segment.renumber_of_renumbered fun segment member => (renumbered segment member).1, ?_⟩
  rw [← tame.counted]
  exact ⟨rfl, fun segment member => tame.counted ▸ (renumbered segment member).2, rfl, rfl,
    tame.shown quiet⟩

end Tame

namespace Regex

theorem run_ofAlternatives_append {choices : List Regex} (some : choices ≠ []) (last : Regex)
    (text : Array Char) (mode : Mode) (cursor : Cursor) (next : Continuation) :
    (ofAlternatives (choices ++ [last])).run text mode cursor next =
      ((ofAlternatives choices).run text mode cursor next).or (last.run text mode cursor next) := by
  induction choices with
  | nil => exact absurd rfl some
  | cons choice choices ih =>
    cases choices with
    | nil => exact Option.orElse_eq_or
    | cons second others =>
      have behind := ih (List.cons_ne_nil second others)
      show (choice.run text mode cursor next <|>
        (ofAlternatives (second :: others ++ [last])).run text mode cursor next) = _
      rw [behind]
      show _ = Option.or (choice.run text mode cursor next <|>
        (ofAlternatives (second :: others)).run text mode cursor next) _
      cases choice.run text mode cursor next with
      | none => rfl
      | some reached => rfl

end Regex

namespace Pattern

structure Extends (first alone whole : Pattern) : Prop where
  groups : whole.groups = first.groups + alone.groups + 1
  flags : first.flags = whole.flags ∧ alone.flags = whole.flags
  tree : ∃ choices, choices ≠ [] ∧ first.regex = .ofAlternatives choices ∧
    whole.regex = .ofAlternatives
      (choices ++ [.group (first.groups + 1) (alone.regex.shift (first.groups + 1))])

theorem Extends.matchAt?_eq {first alone whole : Pattern} (extended : Extends first alone whole)
    (text : Array Char) (start : Nat) (nonempty : Bool) :
    whole.matchAt? text start nonempty = (first.matchAt? text start nonempty).or
      ((alone.matchAt? text start nonempty).map (Match.embed (first.groups + 1))) := by
  obtain ⟨choices, some, body, tree⟩ := extended.tree
  have mode : first.mode = whole.mode := congrArg Mode.ofFlags extended.flags.1
  let last : Pattern :=
    whole.only (.group (first.groups + 1) (alone.regex.shift (first.groups + 1)))
  have own : last.mode = alone.mode := congrArg Mode.ofFlags extended.flags.2.symm
  rw [← matchAt?_embed rfl own]
  simp only [matchAt?, body, tree, mode, Regex.run_ofAlternatives_append some, Option.map_or]
  rfl

end Pattern

theorem Standing.outside {source : List Char} {parser : Parser} (standing : Standing source parser)
    (counted : Segment.shownGroups (Segment.split source) = countCaptures source) {asked : Int}
    (quiet : (Flags.ofInt asked).has .verbose = false) (more : List Char) :
    ∃ reached, (Parser.start ⟨0, Piece.split (source ++ '|' :: more)⟩ (.ofInt asked)).parse .text =
        Parser.parse .text reached ∧
      Parser.Outside (.ofInt asked) parser.groups ('|' :: more) reached.level.finished
        reached.level.items reached ∧
      reached.level.body = parser.level.body ∧
      (parser.names = [] → reached.names = []) ∧
      ∀ number ∈ reached.conditionNumbers, number ≤ reached.groups := by
  obtain ⟨_, _, _, parsed⟩ := standing.parsed
  obtain ⟨_, _, -, -, surveyed⟩ := standing.survey
  obtain ⟨-, ended, -⟩ := parsed.numbered
  have closes : Segment.Closes ('|' :: more) := by
    rintro c ⟨⟩
    exact .inr rfl
  obtain ⟨reached, same, matching, conditions⟩ := standing.parse_start counted quiet closes
  obtain ⟨rest, outer, kind, body⟩ := matching.ended parsed.ends ended
  have stack := matching.stack
  rw [ended] at stack
  have unnamed (none : parser.names = []) : reached.names = [] := by
    rw [matching.names, none]
    rfl
  refine ⟨reached, same, ?_, body.trans (Regex.shift_zero _), unnamed, conditions⟩
  exact {
    text := rest
    outer := outer
    whole := kind
    quiet := stack.top.verbose.trans stack.top.mode
    finished := rfl
    items := rfl
    groups := matching.groups
    widths := by
      intro entry member
      rcases matching.widths_le surveyed.widths entry member with inside | none
      · exact inside
      · cases none
    lookbehind := by
      have all : reached.lookbehind = parser.lookbehind.map (· + 0) := matching.lookbehind
      simpa [surveyed.lookbehind] using all
    flags := matching.flags }

namespace Tame

variable {asked : Int} {source before : List Char} {alone earlier : Pattern}
  (tame : Tame asked source alone) (first : Tame asked before earlier)
  (quiet : (Flags.ofInt asked).has .verbose = false) (unnamed : earlier.names = [])
  (limit : alone.groups + earlier.groups + 1 ≤ 99)

include tame first quiet unnamed limit

theorem compile_behind : ∃ text whole, renumber source alone.groups earlier.groups = .ok text ∧
    Pattern.compile .text (before ++ '|' :: CompiledRule.wrap text) asked = .ok whole ∧
    earlier.Extends alone whole := by
  obtain ⟨text, renumbered, settled⟩ := tame.settled quiet limit
  obtain ⟨parser, standing, parsed, -⟩ := tame.standing quiet
  obtain ⟨parser', standing', parsed', -⟩ := first.standing quiet
  -- The first text is read up to the bar, and the second one in its group up to the end.
  obtain ⟨reached, start, outside, body, names, conditions⟩ :=
    standing'.outside (first.shown quiet) quiet (CompiledRule.wrap text)
  have clean : reached.Clean := by
    refine ⟨names ?_, conditions⟩
    rw [congrArg Pattern.names parsed'.made] at unnamed
    exact List.reverse_eq_nil_iff.mp unnamed
  have onward : Piece.split (CompiledRule.wrap text) ≠ [.dangling] :=
    Piece.split_ne_dangling (show '(' ∈ CompiledRule.wrap text from List.mem_cons_self) (by decide)
  obtain ⟨behind, barred, still, outside⟩ := outside.parse_bar onward
  have groups : parser'.groups = earlier.groups := (congrArg Pattern.groups parsed'.made).symm
  rw [groups] at outside
  have strict : False ∨ behind.Clean ∧ Parser.Outside.Fits earlier.groups source := by
    refine .inr ⟨still clean, fun name _ => ?_⟩
    rw [tame.counted, Parser.groupLimit]
    omega
  have done : Piece.split [] ≠ [.dangling] := by decide
  rcases outside.parse_rule settled standing strict done with
    ⟨⟨⟩, -⟩ | ⟨next, parses, outside, -, ⟨⟨⟩⟩ | conditions⟩
  let choices := reached.level.finished.reverse ++ [reached.level.current]
  have body : earlier.regex = .ofAlternatives choices := by
    rw [congrArg Pattern.regex parsed'.made]
    exact body.symm
  have tree : next.level.body = .ofAlternatives
      (choices ++ [.group (earlier.groups + 1) (alone.regex.shift (earlier.groups + 1))]) := by
    rw [Level.body, Level.current, outside.finished, outside.items,
      congrArg Pattern.regex parsed.made]
    simp [choices, CompiledRule.around, Regex.ofItems, Level.current]
  have settles := standing.settles (tame.shown quiet) quiet parsed
  have same : earlier.flags = alone.flags :=
    Except.ok.inj ((standing'.settles (first.shown quiet) quiet parsed').symm.trans settles)
  have checks : next.level.body.check (alone.flags.has .template) = .ok () := by
    rw [tree]
    refine Regex.check_ofAlternatives_iff.mpr (List.forall_mem_append.mpr ⟨?_, ?_⟩)
    · exact Regex.check_ofAlternatives_iff.mp (body ▸ same ▸ parsed'.checks)
    · rw [List.forall_mem_singleton, Regex.check, Regex.check_shift]
      exact parsed.checks
  let whole : Pattern :=
    ⟨before ++ '|' :: CompiledRule.wrap text, next.level.body, next.groups, next.names.reverse,
      alone.flags⟩
  refine ⟨text, whole, renumbered, Pattern.compile_eq_ok_iff.mpr ⟨next, ?_⟩, outside.groups,
    ⟨same, rfl⟩, choices, ?_, body, tree⟩
  · exact {
      parses := by
        refine ⟨_, if_neg ?_, start.trans (barred.trans (parses.trans outside.parse_end))⟩
        exact Piece.split_ne_dangling (List.mem_append_right _ List.mem_cons_self) (by decide)
      ends := outside.text
      settles := outside.flags ▸ settles
      conditions := Pattern.checkConditions_eq_ok_iff.mpr fun entry member =>
        conditions _ (List.mem_map_of_mem (List.mem_reverse.mp member))
      checks := checks
      fits := parsed.fits
      made := rfl }
  · simp [choices]

/-- A tame text in a group behind another one. What renumbering makes of it is accepted there; where
the first text does not match, the whole matches what the second one matches by itself, and the
second text's own groups hold what they hold when it stands by itself. -/
theorem renumber_preserves_matches :
    ∃ text whole, renumber source alone.groups earlier.groups = .ok text ∧
      Pattern.compile .text (before ++ '|' :: CompiledRule.wrap text) asked = .ok whole ∧
      whole.groups = earlier.groups + alone.groups + 1 ∧
      ∀ text start nonempty, whole.matchAt? text start nonempty =
        (earlier.matchAt? text start nonempty).or
          ((alone.matchAt? text start nonempty).map (Match.embed (earlier.groups + 1))) := by
  obtain ⟨text, whole, renumbered, compiles, extended⟩ :=
    tame.compile_behind first quiet unnamed limit
  exact ⟨text, whole, renumbered, compiles, extended.groups, extended.matchAt?_eq⟩

end Tame

def repeatingPattern : Pattern where
  source := "(a)\\1\\012".toList
  regex := .seq (.group 1 (.char 'a'.toNat)) (.seq (.backref 1) (.char '\n'.toNat))
  groups := 1
  names := []
  flags := .ofList [.unicode]

def singlePattern : Pattern where
  source := "(x)".toList
  regex := .group 1 (.char 'x'.toNat)
  groups := 1
  names := []
  flags := .ofList [.unicode]

theorem renumber_preserves_repeatingPattern :
    ∃ text whole, renumber "(a)\\1\\012".toList repeatingPattern.groups singlePattern.groups =
        .ok text ∧
      Pattern.compile .text ("(x)".toList ++ '|' :: CompiledRule.wrap text) 0 = .ok whole ∧
      whole.groups = singlePattern.groups + repeatingPattern.groups + 1 ∧
      ∀ text start nonempty, whole.matchAt? text start nonempty =
        (singlePattern.matchAt? text start nonempty).or
          ((repeatingPattern.matchAt? text start nonempty).map
            (Match.embed (singlePattern.groups + 1))) := by
  have segments : Segment.split "(a)\\1\\012".toList =
      [.opening, .other 'a', .other ')', .number ['1'], .number ['0', '1', '2']] := rfl
  have tame : Tame 0 "(a)\\1\\012".toList repeatingPattern := by
    refine ⟨rfl, rfl, rfl, fun digits member => ?_⟩
    rw [segments] at member
    have either : digits = ['1'] ∨ digits = ['0', '1', '2'] := by simpa using member
    rcases either with rfl | rfl
    · exact .reference (.one rfl (by decide))
    · exact .octal (show Octal _ '\n'.toNat from .zero rfl (by decide)) (by decide) (.inl rfl)
  have first : Tame 0 "(x)".toList singlePattern := by
    refine ⟨rfl, rfl, rfl, fun digits member => ?_⟩
    have segments : Segment.split "(x)".toList = [.opening, .other 'x', .other ')'] := rfl
    rw [segments] at member
    simp at member
  exact tame.renumber_preserves_matches first rfl rfl (by decide)

def zeroPattern : Pattern where
  source := "(a)\\01".toList
  regex := .seq (.group 1 (.char 'a'.toNat)) (.char 1)
  groups := 1
  names := []
  flags := .ofList [.unicode]

def misreadPattern : Pattern where
  source := "((a)\\2)".toList
  regex := .group 1 (.seq (.group 2 (.char 'a'.toNat)) (.backref 2))
  groups := 2
  names := []
  flags := .ofList [.unicode]

/-- A pattern reads a zero and a one as the character of that number, but renumbering reads them as
a reference to the first group. -/
theorem renumber_misreads_zero :
    Pattern.compile .text "(a)\\01".toList 0 = .ok zeroPattern ∧
      countCaptures "(a)\\01".toList = zeroPattern.groups ∧
      renumber "(a)\\01".toList zeroPattern.groups 0 = .ok "(a)\\2".toList ∧
      Pattern.compile .text (CompiledRule.wrap "(a)\\2".toList) 0 = .ok misreadPattern ∧
      (zeroPattern.matchAt? #['a', '\x01'] 0 false).isSome = true ∧
      misreadPattern.matchAt? #['a', '\x01'] 0 false = none := by
  refine ⟨rfl, rfl, rfl, rfl, ?_, ?_⟩
  · decide
  · decide

end RuleLexer
