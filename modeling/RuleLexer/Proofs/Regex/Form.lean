import RuleLexer.Proofs.Regex.Recognition
import RuleLexer.Proofs.Rule.Spelling
import RuleLexer.Proofs.Regex.Shadowing

namespace RuleLexer

open Escape

/-- What says how often an item is repeated: nothing, a character, or counts in braces. A single
count is both the least and the greatest number. -/
inductive Quantifier where
  | once
  | star
  | plus
  | optional
  | counts (low : List Char) (high : Option (List Char))
deriving DecidableEq, Repr

namespace Quantifier

def text : Quantifier → List Char
  | .once => []
  | .star => ['*']
  | .plus => ['+']
  | .optional => ['?']
  | .counts low none => '\x7b' :: (low ++ ['\x7d'])
  | .counts low (some high) => '\x7b' :: (low ++ ',' :: (high ++ ['\x7d']))

def least : Quantifier → Nat
  | .once | .plus => 1
  | .star | .optional => 0
  | .counts low _ => number 10 low

def most : Quantifier → Option Nat
  | .once | .optional => some 1
  | .star | .plus => none
  | .counts low high =>
    if (high.getD low).isEmpty then none else some (number 10 (high.getD low))

structure IsCount (digits : List Char) : Prop where
  decimal : digits.all Char.isDigit = true
  short : digits.length ≤ Number.digitLimit
  small : number 10 digits < Lexeme.repeatLimit

instance (digits : List Char) : Decidable (IsCount digits) :=
  decidable_of_iff (digits.all Char.isDigit = true ∧ digits.length ≤ Number.digitLimit ∧
    number 10 digits < Lexeme.repeatLimit)
    ⟨fun ⟨decimal, short, small⟩ => ⟨decimal, short, small⟩,
      fun ⟨decimal, short, small⟩ => ⟨decimal, short, small⟩⟩

def WellFormed : Quantifier → Prop
  | .once | .star | .plus | .optional => True
  | .counts low high => IsCount low ∧ IsCount (high.getD low) ∧ (high = none → low ≠ []) ∧
    (high.getD low ≠ [] → number 10 low ≤ number 10 (high.getD low))

instance : DecidablePred WellFormed
  | .once | .star | .plus | .optional => isTrue trivial
  | .counts _ _ => inferInstanceAs (Decidable (_ ∧ _ ∧ _ ∧ _))

theorem readCount_of_isCount {digits : List Char} (count : IsCount digits) :
    Lexeme.readCount digits = .ok (if digits.isEmpty then none else some (number 10 digits)) := by
  unfold Lexeme.readCount
  split
  · rfl
  · rw [if_neg (Nat.not_lt.mpr count.short), if_neg (Nat.not_le.mpr count.small)]

theorem counted_of_wellFormed {low : List Char} {high : Option (List Char)}
    (wellFormed : (counts low high).WellFormed) (here : Nat) (after : Input) :
    Lexeme.counted low (high.getD low) here after =
      .ok (.quantifier (counts low high).least (counts low high).most, after) := by
  obtain ⟨lower, upper, -, ordered⟩ := wellFormed
  have lowest : ((if low.isEmpty then none else some (number 10 low)) : Option Nat).getD 0 =
      number 10 low := by
    cases low <;> rfl
  unfold Lexeme.counted
  rw [readCount_of_isCount lower, readCount_of_isCount upper, ok_bind, ok_bind, lowest]
  by_cases unbounded : high.getD low = []
  · simp [unbounded, least, most]
    rfl
  · have bound := Nat.not_lt.mpr (ordered unbounded)
    simp [unbounded, least, most, bound]
    rfl

end Quantifier

/-- A pattern text, from left to right. A bar starts another alternative. -/
inductive Form where
  | nil
  | bar (rest : Form)
  | char (c : Char) (escaped : Bool) (quantifier : Quantifier) (rest : Form)
  | group (capturing : Bool) (body : Form) (quantifier : Quantifier) (rest : Form)
deriving DecidableEq, Repr

namespace Form

def text : Form → List Char
  | .nil => []
  | .bar rest => '|' :: rest.text
  | .char c escaped quantifier rest =>
    (if escaped then ['\\', c] else [c]) ++ (quantifier.text ++ rest.text)
  | .group capturing body quantifier rest =>
    '(' :: ((if capturing then [] else ['?', ':']) ++
      (body.text ++ ')' :: (quantifier.text ++ rest.text)))

def isReserved (c : Char) : Bool :=
  "\\.^$*+?[|()".toList.contains c

def isSymbol (c : Char) : Bool :=
  !Text.isAsciiLetter c.toNat && !c.isDigit

def isLiteral (c : Char) (escaped : Bool) : Bool :=
  if escaped then isSymbol c else !isReserved c

def isCountChar (c : Char) : Bool :=
  c.isDigit || c == ',' || c == '\x7d'

def startsCounts (text : List Char) : Bool :=
  let run := text.takeWhile isCountChar
  match run.dropWhile Char.isDigit with
  | '\x7d' :: _ => run.head? != some '\x7d'
  | ',' :: rest => (rest.dropWhile Char.isDigit).head? == some '\x7d'
  | _ => false

def WellFormed : Form → Prop
  | .nil => True
  | .bar rest => rest.WellFormed
  | .char c escaped quantifier rest =>
    isLiteral c escaped = true ∧
      (c = '\x7b' → escaped = false → startsCounts (quantifier.text ++ rest.text) = false) ∧
      quantifier.WellFormed ∧ rest.WellFormed
  | .group _ body quantifier rest => body.WellFormed ∧ quantifier.WellFormed ∧ rest.WellFormed

instance decidableWellFormed : DecidablePred WellFormed
  | .nil => isTrue trivial
  | .bar rest => decidableWellFormed rest
  | .char _ _ _ rest =>
    have := decidableWellFormed rest
    inferInstanceAs (Decidable (_ ∧ _ ∧ _ ∧ _))
  | .group _ body _ rest =>
    have := decidableWellFormed body
    have := decidableWellFormed rest
    inferInstanceAs (Decidable (_ ∧ _ ∧ _))

/-- The words that the form matches behind those that stand before it in its first alternative. -/
def language : Form → Language Char → Language Char
  | .nil, before => before
  | .bar rest, before => before + rest.language 1
  | .char c _ quantifier rest, before =>
    rest.language (before * repetitions {[c]} quantifier.least quantifier.most)
  | .group _ body quantifier rest, before =>
    rest.language (before * repetitions (body.language 1) quantifier.least quantifier.most)

def pieces : Form → List Piece
  | .nil => []
  | .bar rest => .plain '|' :: rest.pieces
  | .char c escaped quantifier rest =>
    (if escaped then .escaped c else .plain c) :: (quantifier.text.map .plain ++ rest.pieces)
  | .group capturing body quantifier rest =>
    .plain '(' :: ((if capturing then [] else [.plain '?', .plain ':']) ++
      (body.pieces ++ .plain ')' :: (quantifier.text.map .plain ++ rest.pieces)))

theorem closed (form : Form) : .dangling ∉ form.pieces := by
  induction form with
  | nil => exact List.not_mem_nil
  | bar rest ih => simpa [pieces] using ih
  | char c escaped quantifier rest ih => cases escaped <;> simpa [pieces] using ih
  | group capturing body quantifier rest ihBody ih =>
    cases capturing <;> simpa [pieces] using ⟨ihBody, ih⟩

end Form

theorem Quantifier.not_mem_text {quantifier : Quantifier} (wellFormed : quantifier.WellFormed) :
    '\\' ∉ quantifier.text := by
  have digits {digits : List Char} (count : IsCount digits) : '\\' ∉ digits := by
    intro member
    cases List.all_eq_true.mp count.decimal _ member
  cases quantifier with
  | counts low high =>
    obtain ⟨lower, upper, -⟩ := wellFormed
    cases high with
    | none => simpa [text] using digits lower
    | some high => simpa [text] using ⟨digits lower, digits upper⟩
  | _ => decide

namespace Form

theorem split_text {form : Form} (wellFormed : form.WellFormed) (more : List Char) :
    Piece.split (form.text ++ more) = form.pieces ++ Piece.split more := by
  induction form generalizing more with
  | nil => rfl
  | bar rest ih => rw [text, List.cons_append, Piece.split_cons (by decide), ih wellFormed]; rfl
  | char c escaped quantifier rest ih =>
    obtain ⟨literal, -, counted, wellFormed⟩ := wellFormed
    have behind : Piece.split (quantifier.text ++ (rest.text ++ more)) =
        quantifier.text.map .plain ++ (rest.pieces ++ Piece.split more) := by
      rw [Piece.split_append (Quantifier.not_mem_text counted), ih wellFormed]
    cases escaped with
    | true =>
      simp only [text, pieces, if_true, List.cons_append, List.nil_append, List.append_assoc]
      rw [Piece.split, behind]
    | false =>
      have backslash : c ≠ '\\' := by
        rintro rfl
        cases literal
      simp only [text, pieces, Bool.false_eq_true, if_false, List.cons_append, List.nil_append,
        List.append_assoc]
      rw [Piece.split_cons backslash, behind]
  | group capturing body quantifier rest ihBody ih =>
    obtain ⟨inside, counted, wellFormed⟩ := wellFormed
    have behind : Piece.split (body.text ++ ')' :: (quantifier.text ++ (rest.text ++ more))) =
        body.pieces ++ .plain ')' :: (quantifier.text.map .plain ++
          (rest.pieces ++ Piece.split more)) := by
      rw [ihBody inside, Piece.split_cons (by decide),
        Piece.split_append (Quantifier.not_mem_text counted), ih wellFormed]
    cases capturing with
    | true =>
      simp only [text, pieces, if_true, List.cons_append, List.nil_append, List.append_assoc]
      rw [Piece.split_cons (by decide), behind]
    | false =>
      simp only [text, pieces, Bool.false_eq_true, if_false, List.cons_append, List.nil_append,
        List.append_assoc]
      rw [Piece.split_cons (by decide), Piece.split_cons (by decide), Piece.split_cons (by decide),
        behind]

theorem head?_ne {form : Form} (wellFormed : form.WellFormed) {rest : List Piece}
    (ends : rest = [] ∨ ∃ more, rest = .plain ')' :: more) :
    (form.pieces ++ rest).head? ≠ some (.plain '?') ∧
      (form.pieces ++ rest).head? ≠ some (.plain '+') := by
  cases form with
  | nil => rcases ends with rfl | ⟨more, rfl⟩ <;> simp [pieces]
  | bar rest => simp [pieces]
  | group => simp [pieces]
  | char c escaped quantifier rest =>
    obtain ⟨literal, -⟩ := wellFormed
    cases escaped with
    | true => simp [pieces]
    | false =>
      have other : c ≠ '?' ∧ c ≠ '+' := by
        constructor <;>
        · rintro rfl
          cases literal
      simpa [pieces] using other

end Form

structure Parser.Onward (p q : Parser) (rest : List Piece) : Prop where
  parses : p.parse .text = q.parse .text
  text : q.input.rest = rest
  outer : q.outer = p.outer
  kind : q.level.kind = p.level.kind
  conditions : q.conditions = p.conditions
  flags : q.flags = p.flags

theorem Parser.Onward.trans {p q r : Parser} {rest last : List Piece} (first : p.Onward q rest)
    (second : q.Onward r last) : p.Onward r last where
  parses := first.parses.trans second.parses
  text := second.text
  outer := second.outer.trans first.outer
  kind := second.kind.trans first.kind
  conditions := second.conditions.trans first.conditions
  flags := second.flags.trans first.flags

/-- What has been read of a level, outside verbose mode: the languages of its alternatives and of the
items since, the last ones first. -/
structure Level.Spells (level : Level) (past parts : List (Language Char)) : Prop where
  finished : List.Forall₂ Regex.Spells level.finished past
  items : List.Forall₂ Regex.Spells level.items parts
  quiet : level.verbose = false
  plain : level.kind.isConditional = false

namespace Level.Spells

variable {level : Level} {past parts : List (Language Char)} {item : Regex}
  {language : Language Char}

theorem push (spells : level.Spells past parts) (last : item.Spells language) :
    (level.push item).Spells past (language :: parts) :=
  { spells with items := .cons last spells.items }

theorem current (spells : level.Spells past parts) : level.current.Spells parts.reverse.prod :=
  .ofItems (List.rel_reverse spells.items)

theorem body (spells : level.Spells past parts) :
    level.body.Spells (past.reverse.sum + parts.reverse.prod) := by
  have whole := Regex.Spells.ofAlternatives
    (List.rel_append (List.rel_reverse spells.finished) (.cons spells.current .nil)) (by simp)
  rw [List.sum_append, List.sum_singleton] at whole
  exact whole

end Level.Spells

namespace Parser

variable {p : Parser} {rest : List Piece}

theorem parse_quantifier {piece : Piece} {behind : List Piece} {item : Regex} {items : List Regex}
    {least : Nat} {most : Option Nat} (head : p.input.rest = piece :: behind)
    (more : behind ≠ [.dangling]) (closing : piece ≠ .plain ')') (bar : piece ≠ .plain '|')
    (quiet : p.level.verbose = false)
    (read : ∀ start input, input.rest = behind → ∃ place,
      Lexeme.read .text false piece start input = .ok (.quantifier least most, ⟨place, rest⟩))
    (last : p.level.items = item :: items) (can : item.canRepeat = true)
    (lazy : rest.head? ≠ some (.plain '?')) (possessive : rest.head? ≠ some (.plain '+')) :
    ∃ place, p.parse .text = Parser.parse .text { p with
      input := ⟨place, rest⟩
      level := { p.level with items := .repeated .greedy least most item :: items } } := by
  let input : Input := ⟨p.input.position + piece.length, behind⟩
  obtain ⟨place, read⟩ := read p.input.position input rfl
  refine ⟨place, parse_step (step_lexeme .text head closing bar) ?_⟩
  rw [Input.goTo, if_neg more, ok_bind, quiet, read, ok_bind]
  let reached : Parser := { p with input := ⟨place, rest⟩ }
  have last : reached.level.items = item :: items := last
  show reached.pushQuantifier least most p.input.position = _
  rw [pushQuantifier_of_canRepeat last can]
  dsimp only
  rw [Input.accept_of_other lazy, ok_bind]
  dsimp only
  rw [if_neg Bool.false_ne_true, Input.accept_of_other possessive, ok_bind]
  rfl

end Parser

namespace Quantifier

theorem read_counts {low : List Char} {high : Option (List Char)}
    (wellFormed : (counts low high).WellFormed) {rest : List Piece} (more : rest ≠ [.dangling])
    (start : Nat) {input : Input} {behind : List Char}
    (split : (counts low high).text = '\x7b' :: behind)
    (text : input.rest = behind.map .plain ++ rest) : ∃ place,
      Lexeme.read .text false (.plain '\x7b') start input =
        .ok (.quantifier (counts low high).least (counts low high).most, ⟨place, rest⟩) := by
  have counts : Lexeme.Counts rest low (high.getD low) input.rest := by
    obtain ⟨lower, upper, some, -⟩ := id wellFormed
    rw [text]
    cases high with
    | none =>
      cases split
      simpa using Lexeme.Counts.one (some rfl) lower.decimal
    | some high =>
      cases split
      simpa using Lexeme.Counts.two lower.decimal upper.decimal
  obtain ⟨place, braced⟩ := Lexeme.braced_of_counts counts
  refine ⟨place, ?_⟩
  show Lexeme.readBraces input = _
  rw [Lexeme.readBraces_eq, braced, Input.goTo, if_neg more, ok_bind, ok_bind]
  exact counted_of_wellFormed wellFormed _ _

theorem parse {quantifier : Quantifier} (wellFormed : quantifier.WellFormed) {p : Parser}
    {item : Regex} {items : List Regex} {language : Language Char} {past parts : List (Language Char)}
    {rest : List Piece} (text : p.input.rest = quantifier.text.map .plain ++ rest)
    (more : rest ≠ [.dangling]) (last : p.level.items = item :: items) (can : item.canRepeat = true)
    (spells : p.level.Spells past (language :: parts)) (lazy : rest.head? ≠ some (.plain '?'))
    (possessive : rest.head? ≠ some (.plain '+')) : ∃ q : Parser, p.Onward q rest ∧
      q.level.Spells past (repetitions language quantifier.least quantifier.most :: parts) := by
  have items' := spells.items
  rw [last] at items'
  obtain ⟨first, others⟩ := List.forall₂_cons.mp items'
  -- However the quantifier is written, it is one lexeme, which repeats the last item.
  have repeats {piece : Piece} {behind : List Piece} (head : p.input.rest = piece :: behind)
      (onward : behind ≠ [.dangling]) (closing : piece ≠ .plain ')') (bar : piece ≠ .plain '|')
      (read : ∀ start input, input.rest = behind → ∃ place,
        Lexeme.read .text false piece start input =
          .ok (.quantifier quantifier.least quantifier.most, ⟨place, rest⟩)) : ∃ q : Parser,
      p.Onward q rest ∧
        q.level.Spells past (repetitions language quantifier.least quantifier.most :: parts) := by
    obtain ⟨place, parses⟩ :=
      Parser.parse_quantifier head onward closing bar spells.quiet read last can lazy possessive
    exact ⟨_, ⟨parses, rfl, rfl, rfl, rfl, rfl⟩,
      { spells with items := .cons (first.repeated _ _) others }⟩
  have single {c : Char} (head : p.input.rest = .plain c :: rest) (closing : c ≠ ')') (bar : c ≠ '|')
      (read : ∀ start input, Lexeme.read .text false (.plain c) start input =
        .ok (.quantifier quantifier.least quantifier.most, input)) :=
    repeats head more (by simpa using closing) (by simpa using bar) fun start input same =>
      ⟨input.position, by rw [read, ← same]⟩
  cases quantifier with
  | once =>
    refine ⟨p, ⟨rfl, text, rfl, rfl, rfl, rfl⟩, ?_⟩
    simpa [least, most, repetitions_one] using spells
  | star => exact single text (by decide) (by decide) fun _ _ => rfl
  | plus => exact single text (by decide) (by decide) fun _ _ => rfl
  | optional => exact single text (by decide) (by decide) fun _ _ => rfl
  | counts low high =>
    obtain ⟨behind, split⟩ : ∃ behind, (counts low high).text = '\x7b' :: behind := by
      cases high <;> exact ⟨_, rfl⟩
    rw [split] at text
    refine repeats text ?_ (by decide) (by decide) fun start input same =>
      read_counts wellFormed more start split same
    cases behind <;> simp [more]

end Quantifier

namespace Form

theorem split_eq {form : Form} (wellFormed : form.WellFormed) :
    Piece.split form.text = form.pieces := by
  have whole := split_text wellFormed []
  rwa [List.append_nil, show Piece.split [] = [] from rfl, List.append_nil] at whole

theorem text_pieces {form : Form} (wellFormed : form.WellFormed) :
    form.pieces.flatMap Piece.text = form.text := by
  rw [← split_eq wellFormed, Piece.flatMap_text_split]

theorem startsCounts_congr {one other : List Char}
    (same : one.takeWhile isCountChar = other.takeWhile isCountChar) :
    startsCounts one = startsCounts other := by
  simp only [startsCounts, same]

theorem takeWhile_append_congr {kind : Char → Bool} {one other : List Char}
    (same : one.takeWhile kind = other.takeWhile kind) (front : List Char) :
    (front ++ one).takeWhile kind = (front ++ other).takeWhile kind := by
  induction front with
  | nil => exact same
  | cons c front ih => simp only [List.cons_append, List.takeWhile_cons, ih]

theorem startsCounts_of_counts {after pieces : List Piece} {low high : List Char}
    (counts : Lexeme.Counts after low high pieces) :
    startsCounts (pieces.flatMap Piece.text) = true := by
  have each {digits : List Char} (decimal : digits.all Char.isDigit = true) (rest : List Char) :
      (digits ++ rest).takeWhile isCountChar = digits ++ rest.takeWhile isCountChar ∧
        (digits ++ rest).dropWhile Char.isDigit = rest.dropWhile Char.isDigit := by
    have decimal := List.all_eq_true.mp decimal
    exact ⟨List.takeWhile_append_of_pos fun c member => by simp [isCountChar, decimal c member],
      List.dropWhile_append_of_pos decimal⟩
  have comma : isCountChar ',' = true ∧ Char.isDigit ',' = false := by decide
  have brace : isCountChar '\x7d' = true ∧ Char.isDigit '\x7d' = false := by decide
  simp only [startsCounts]
  cases counts with
  | one some decimal =>
    simp only [Piece.flatMap_text_plain, Piece.text, each decimal, brace, List.flatMap_append,
      List.flatMap_cons, List.cons_append, List.nil_append, List.takeWhile_cons_of_pos]
    obtain ⟨c, digits, rfl⟩ := List.exists_cons_of_ne_nil some
    have first : c ≠ '\x7d' := by
      rintro rfl
      cases decimal
    simpa [brace] using first
  | two decimal decimal' =>
    simp [Piece.flatMap_text_plain, Piece.text, each decimal, each decimal', brace, comma]

theorem read_char {c : Char} {escaped : Bool} (literal : isLiteral c escaped = true) (start : Nat)
    {input : Input} (closed : .dangling ∉ input.rest)
    (brace : c = '\x7b' → escaped = false →
      startsCounts (input.rest.flatMap Piece.text) = false) :
    Lexeme.read .text false (if escaped then .escaped c else .plain c) start input =
      .ok (.item (.char c.toNat), input) := by
  cases escaped with
  | true =>
    obtain ⟨letter, digit⟩ : Text.isAsciiLetter c.toNat = false ∧ c.isDigit = false := by
      simpa [isLiteral, isSymbol] using literal
    show Lexeme.read .text false (.escaped c) start input = _
    rw [Lexeme.read, readOutside_of_symbol letter digit]
    rfl
  | false =>
    show Lexeme.readPlain .text false c start input = _
    unfold Lexeme.readPlain
    simp only [Bool.false_and, Bool.false_eq_true, if_false]
    split
    case h_5 =>
      exact Lexeme.readBraces_of_none closed fun low high after counts => by
        cases (startsCounts_of_counts counts).symm.trans (brace rfl rfl)
    all_goals first | rfl | cases literal

theorem piece_ne {c d : Char} {escaped : Bool} (literal : isLiteral c escaped = true)
    (reserved : isReserved d = true) :
    (if escaped then Piece.escaped c else .plain c) ≠ .plain d := by
  cases escaped with
  | true => simp
  | false =>
    rintro ⟨⟩
    rw [isLiteral, if_neg Bool.false_ne_true, reserved] at literal
    cases literal

end Form

def LevelKind.IsGroup (kind : LevelKind) : Prop :=
  (∃ index, kind = .capture index) ∨ kind = .scoped .none .none

namespace Parser

variable {p : Parser} {rest : List Piece}

theorem parse_bar {past parts : List (Language Char)} (text : p.input.rest = .plain '|' :: rest)
    (more : rest ≠ [.dangling]) (spells : p.level.Spells past parts) :
    ∃ q : Parser, p.Onward q rest ∧ q.level.Spells (parts.reverse.prod :: past) [] := by
  let next : Parser := { p with
    input := ⟨p.input.position + 1, rest⟩
    level := { p.level with finished := p.level.current :: p.level.finished, items := [] } }
  have parses : p.parse .text = next.parse .text := by
    apply parse_step (step_bar .text text)
    rw [pushBar_eq, spells.plain, Bool.false_and, if_neg Bool.false_ne_true, Input.goTo,
      if_neg more]
    rfl
  exact ⟨next, ⟨parses, rfl, rfl, rfl, rfl, rfl⟩,
    ⟨.cons spells.current spells.finished, .nil, spells.quiet, spells.plain⟩⟩

theorem parse_opening {opening : Opening} {inside : Input} {q : Parser}
    (text : p.input.rest = .plain '(' :: rest) (more : rest ≠ [.dangling])
    (read : Lexeme.readOpening .text p.input.position ⟨p.input.position + 1, rest⟩ =
      .ok (.opening opening, inside))
    (pushed : { p with input := inside }.pushOpening opening p.input.position = .ok q) :
    p.parse .text = q.parse .text := by
  refine parse_step (step_lexeme .text text (by decide) (by decide)) ?_
  show Input.goTo _ rest >>= _ = _
  rw [Input.goTo, if_neg more, ok_bind, Lexeme.read_parenthesis]
  show Lexeme.readOpening .text p.input.position ⟨p.input.position + 1, rest⟩ >>= _ = _
  rw [read, ok_bind]
  exact pushed

theorem parse_openGroup {capturing : Bool}
    (text : p.input.rest =
      .plain '(' :: ((if capturing then [] else [.plain '?', .plain ':']) ++ rest))
    (more : rest ≠ [.dangling]) (quiet : p.level.verbose = false)
    (simple : rest.head? ≠ some (.plain '?')) : ∃ q : Parser,
      p.parse .text = q.parse .text ∧ q.input.rest = rest ∧ q.outer = p.level :: p.outer ∧
        q.conditions = p.conditions ∧ q.flags = p.flags ∧ q.level.kind.IsGroup ∧
        q.level.Spells [] [] := by
  cases capturing with
  | true =>
    let inside : Input := ⟨p.input.position + 1, rest⟩
    have read : Lexeme.readOpening .text p.input.position inside =
        .ok (.opening (.capture none), inside) := by
      rw [Lexeme.readOpening_eq, Input.accept_of_other simple]
      rfl
    exact ⟨_, parse_opening text more read rfl, rfl, rfl, rfl, rfl, .inl ⟨_, rfl⟩,
      ⟨.nil, .nil, quiet, rfl⟩⟩
  | false =>
    let inside : Input := ⟨p.input.position + 1 + 1 + 1, rest⟩
    have read : Lexeme.readOpening .text p.input.position
        ⟨p.input.position + 1, .plain '?' :: .plain ':' :: rest⟩ =
          .ok (.opening (.scoped .none .none), inside) := by
      rw [Lexeme.readOpening_of_extension .text _ (by simp) rfl, Lexeme.readExtension,
        Input.take_bind rfl, Input.goTo, if_neg more, ok_bind]
      rfl
    have quiet : ((p.level.verbose || Flags.none.has .verbose) && !Flags.none.has .verbose) =
        false := by
      rw [quiet]
      rfl
    exact ⟨_, parse_opening text (by simp) read rfl, rfl, rfl, rfl, rfl, .inr rfl,
      ⟨.nil, .nil, quiet, rfl⟩⟩

theorem parse_closeGroup {level : Level} {outer : List Level} {language : Language Char}
    (text : p.input.rest = .plain ')' :: rest) (more : rest ≠ [.dangling])
    (stack : p.outer = level :: outer) (kind : p.level.kind.IsGroup)
    (spells : p.level.body.Spells language) : ∃ (q : Parser) (item : Regex),
      p.parse .text = q.parse .text ∧ q.input.rest = rest ∧ q.outer = outer ∧
        q.conditions = p.conditions ∧ q.flags = p.flags ∧ q.level = level.push item ∧
        item.canRepeat = true ∧ item.Spells language := by
  have item : p.closedItem.canRepeat = true ∧ p.closedItem.Spells language := by
    unfold closedItem
    dsimp only
    rcases kind with ⟨index, kind⟩ | kind
    · rw [kind]
      exact ⟨rfl, spells.group index⟩
    · rw [kind]
      exact ⟨rfl, spells.unscoped⟩
  obtain ⟨widths, lookbehind, parses⟩ := parse_close .text text stack more
  exact ⟨_, p.closedItem, parses, rfl, rfl, rfl, rfl, rfl, item⟩

end Parser

namespace Form

variable {past parts : List (Language Char)} {p : Parser} {rest : List Piece}

theorem onward (form : Form) (closed : .dangling ∉ rest) : form.pieces ++ rest ≠ [.dangling] := by
  intro same
  have member : .dangling ∈ form.pieces ++ rest := same ▸ List.mem_singleton_self _
  exact (List.mem_append.mp member).elim form.closed closed

theorem parse_char {c : Char} {escaped : Bool} (literal : isLiteral c escaped = true)
    (text : p.input.rest = (if escaped then .escaped c else .plain c) :: rest)
    (closed : .dangling ∉ rest)
    (brace : c = '\x7b' → escaped = false → startsCounts (rest.flatMap Piece.text) = false)
    (spells : p.level.Spells past parts) : ∃ q : Parser, p.Onward q rest ∧
      q.level.items = .char c.toNat :: p.level.items ∧ q.level.Spells past ({[c]} :: parts) := by
  have more : rest ≠ [.dangling] := fun same => closed (same ▸ List.mem_singleton_self _)
  have parses := SpellsOut.parse_character text more (piece_ne literal rfl) (piece_ne literal rfl)
    fun start input same => by
      rw [spells.quiet]
      exact read_char literal start (same ▸ closed) fun isBrace bare => same ▸ brace isBrace bare
  exact ⟨_, ⟨parses, rfl, rfl, rfl, rfl, rfl⟩, rfl, spells.push (.char c)⟩

theorem parse_group {capturing : Bool} {inner : Form} (wellFormed : inner.WellFormed)
    (text : p.input.rest = .plain '(' :: ((if capturing then [] else [.plain '?', .plain ':']) ++
      (inner.pieces ++ .plain ')' :: rest)))
    (closed : .dangling ∉ rest) (spells : p.level.Spells past parts)
    (reads : ∀ q : Parser, q.input.rest = inner.pieces ++ .plain ')' :: rest →
      q.level.Spells [] [] → ∃ r : Parser, q.Onward r (.plain ')' :: rest) ∧
        r.level.body.Spells (inner.language 1)) :
    ∃ (q : Parser) (item : Regex), p.Onward q rest ∧ q.level.items = item :: p.level.items ∧
      item.canRepeat = true ∧ q.level.Spells past (inner.language 1 :: parts) := by
  have more : rest ≠ [.dangling] := fun same => closed (same ▸ List.mem_singleton_self _)
  have bounded : .dangling ∉ Piece.plain ')' :: rest := by simpa using closed
  obtain ⟨simple, -⟩ := head?_ne wellFormed (.inr ⟨rest, rfl⟩)
  obtain ⟨q, opens, opened, stack, conditions, flags, kind, fresh⟩ :=
    Parser.parse_openGroup text (onward inner bounded) spells.quiet simple
  obtain ⟨r, within, body⟩ := reads q opened fresh
  obtain ⟨s, item, closes, left, outer, conditions', flags', level, can, item'⟩ :=
    Parser.parse_closeGroup within.text more (within.outer.trans stack) (within.kind ▸ kind) body
  refine ⟨s, item, ?_, by rw [level]; rfl, can, by rw [level]; exact spells.push item'⟩
  exact {
    parses := opens.trans (within.parses.trans closes)
    text := left
    outer := outer
    kind := by rw [level]; rfl
    conditions := conditions'.trans (within.conditions.trans conditions)
    flags := flags'.trans (within.flags.trans flags) }

theorem parse {form : Form} (wellFormed : form.WellFormed) (text : p.input.rest = form.pieces ++ rest)
    (ends : rest = [] ∨ ∃ more, rest = .plain ')' :: more) (closed : .dangling ∉ rest)
    (spells : p.level.Spells past parts) : ∃ q : Parser, p.Onward q rest ∧
      q.level.body.Spells (past.reverse.sum + form.language parts.reverse.prod) := by
  induction form generalizing p rest past parts with
  | nil => exact ⟨p, ⟨rfl, text, rfl, rfl, rfl, rfl⟩, spells.body⟩
  | bar form ih =>
    obtain ⟨q, first, reached⟩ := Parser.parse_bar text (onward form closed) spells
    obtain ⟨r, last, body⟩ := ih wellFormed first.text ends closed reached
    refine ⟨r, first.trans last, ?_⟩
    simpa [language, add_assoc] using body
  | char c escaped quantifier form ih =>
    obtain ⟨literal, brace, counted, wellFormed⟩ := wellFormed
    obtain ⟨lazy, possessive⟩ := head?_ne wellFormed ends
    simp only [pieces, List.cons_append, List.append_assoc] at text
    have behind : .dangling ∉ quantifier.text.map .plain ++ (form.pieces ++ rest) := by
      simpa using ⟨form.closed, closed⟩
    -- What follows the form cannot complete counts that the form does not.
    have run : startsCounts ((quantifier.text.map Piece.plain ++ (form.pieces ++ rest)).flatMap
        Piece.text) = startsCounts (quantifier.text ++ form.text) := by
      have last : (rest.flatMap Piece.text).takeWhile isCountChar = [].takeWhile isCountChar := by
        rcases ends with rfl | ⟨more, rfl⟩ <;> rfl
      apply startsCounts_congr
      simp only [List.flatMap_append, Piece.flatMap_text_plain, text_pieces wellFormed]
      rw [← List.append_assoc, takeWhile_append_congr last, List.append_nil]
    obtain ⟨q, first, items, reached⟩ := parse_char literal text behind
      (fun isBrace bare => run.trans (brace isBrace bare)) spells
    obtain ⟨r, second, reached⟩ := Quantifier.parse counted first.text (onward form closed) items rfl
      reached lazy possessive
    obtain ⟨s, last, body⟩ := ih wellFormed second.text ends closed reached
    refine ⟨s, (first.trans second).trans last, ?_⟩
    simpa [language] using body
  | group capturing inner quantifier form ihInner ih =>
    obtain ⟨inside, counted, wellFormed⟩ := wellFormed
    obtain ⟨lazy, possessive⟩ := head?_ne wellFormed ends
    simp only [pieces, List.cons_append, List.append_assoc] at text
    have behind : .dangling ∉ quantifier.text.map .plain ++ (form.pieces ++ rest) := by
      simpa using ⟨form.closed, closed⟩
    obtain ⟨q, item, first, items, can, reached⟩ := parse_group inside text behind spells
      fun q opened fresh => by
        simpa using ihInner inside opened (.inr ⟨_, rfl⟩) (by simpa using behind) fresh
    obtain ⟨r, second, reached⟩ := Quantifier.parse counted first.text (onward form closed) items can
      reached lazy possessive
    obtain ⟨s, last, body⟩ := ih wellFormed second.text ends closed reached
    refine ⟨s, (first.trans second).trans last, ?_⟩
    simpa [language] using body

/-- The text of a well-formed form is accepted, and the pattern matches the words of its language. -/
theorem compile {form : Form} (wellFormed : form.WellFormed) : ∃ pattern : Pattern,
    Pattern.compile .text form.text 0 = .ok pattern ∧
      ∀ text, pattern.fullyMatches text = true ↔ text ∈ form.language 1 := by
  have split := split_eq wellFormed
  let start : Parser := .start ⟨0, form.pieces⟩ (.ofInt 0)
  have fresh : start.level.Spells [] [] := ⟨.nil, .nil, rfl, rfl⟩
  obtain ⟨q, onward, body⟩ := form.parse wellFormed (p := start) (List.append_nil _).symm (.inl rfl)
    List.not_mem_nil fresh
  have stops : q.parse .text = .ok q := by
    rw [Parser.parse_eq, Parser.step, onward.text, onward.outer]
    rfl
  have settles : (Flags.ofInt 0).settle .text = .ok ((Flags.ofInt 0).insert .unicode) := rfl
  have respects : ((Flags.ofInt 0).insert .unicode).has .ignoreCase = false := rfl
  have plain : ((Flags.ofInt 0).insert .unicode).has .template = false := rfl
  rw [← show q.flags = Flags.ofInt 0 from onward.flags] at settles respects plain
  let pattern : Pattern :=
    ⟨form.text, q.level.body, q.groups, q.names.reverse, q.flags.insert .unicode⟩
  have body : pattern.regex.Spells (form.language 1) := by simpa using body
  refine ⟨pattern, Pattern.compile_eq_ok_iff.mpr ⟨q, ?_⟩, Pattern.fullyMatches_iff body respects⟩
  exact {
    parses := by
      refine ⟨⟨0, form.pieces⟩, ?_, onward.parses.trans stops⟩
      rw [Input.ofSource, split, Input.goTo, if_neg]
      intro same
      exact form.closed (same ▸ List.mem_singleton_self _)
    ends := onward.text
    settles := settles
    conditions := by rw [onward.conditions]; rfl
    checks := by
      show pattern.regex.check ((q.flags.insert .unicode).has .template) = _
      rw [plain]
      exact body.checks
    fits := rfl
    made := rfl }

end Form

end RuleLexer
