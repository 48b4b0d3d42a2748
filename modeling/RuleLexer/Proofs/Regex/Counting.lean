import RuleLexer.Proofs.Regex.Parsing
import RuleLexer.Proofs.Source.Tally

namespace RuleLexer

theorem Input.Skips.tally_eq {input after : Input} (skips : input.Skips after) :
    Segment.tally input.text = Segment.tally after.text := by
  obtain ⟨taken, split, mute⟩ := skips
  rw [text_eq split, Segment.tally_mute mute]

namespace Lexeme

inductive Shows : Lexeme → List Notice → Prop
  | quiet {lexeme : Lexeme} (quiet : lexeme.Quiet) : Shows lexeme []
  | stray {name : List Char} : Shows (.opening (.condition name)) [.stray, .group none]
  | group : Shows (.opening (.capture none)) [.group none]
  | named {name : List Char} : Shows (.opening (.capture (some name))) [.group (some name)]
  | hidden {name : List Char} : Shows (.opening (.capture (some name))) [.hidden]

def Names (name : List Char) : Prop :=
  Text.isIdentifier name = true ∨ ∃ value, Number.readInt name = .ok value

theorem Names.absent {name : List Char} (names : Names name) :
    ∀ c ∈ ['(', '[', ']', ')', '?', '\\', '&', '<', '>'], c ∉ name := by
  rcases names with identifier | ⟨value, read⟩
  · exact not_mem_identifier identifier
  · exact Number.not_mem_of_readInt read

theorem Names.ordinary {name : List Char} (names : Names name) :
    (∀ c ∈ name, (Piece.plain c).isMute = true) ∧ ')' ∉ name ∧ '?' ∉ name := by
  have absent := names.absent
  refine ⟨fun c member => Piece.isMute_plain.mpr ?_, absent _ (by simp), absent _ (by simp)⟩
  refine ⟨?_, ?_, ?_⟩ <;>
  · rintro rfl
    exact absent _ (by simp) member

theorem TurnsOn.quiet {on : Flags} {stop : Char} {lexeme : Lexeme} (turns : TurnsOn on stop lexeme)
    (verbose : on.has .verbose = false) : lexeme.Quiet := by
  rcases turns with ⟨-, rfl⟩ | ⟨off, rfl⟩
  · exact verbose
  · exact verbose

theorem tally_of_extension {rest : List Char}
    (first : rest.head? ≠ some '#' ∧ rest.head? ≠ some '(' ∧ rest.head? ≠ some 'P')
    (terse : .verbose ∉ Segment.tally ('(' :: '?' :: rest)) :
    Segment.tally ('(' :: '?' :: rest) = Segment.tally rest ∧
      'x' ∉ rest.takeWhile Segment.isFlagLetter := by
  have unnamed : ∀ after, rest ≠ 'P' :: '<' :: after := by
    rintro after rfl
    exact first.2.2 rfl
  have whole := Segment.tally_extension first.1 first.2.1 unnamed
  rw [whole] at terse ⊢
  split at terse
  · exact absurd (List.mem_append_left _ (List.mem_singleton_self _)) terse
  · next none =>
    rw [if_neg none]
    exact ⟨rfl, by simpa using none⟩

theorem tally_flags {letters : List Char} {stop : Char} {rest : List Char}
    (all : ∀ c ∈ letters, (Flag.ofLetter? c).isSome = true) (some : letters = [] → stop = '-')
    (mute : (Piece.plain stop).isMute = true)
    (terse : .verbose ∉ Segment.tally ('(' :: '?' :: (letters ++ stop :: rest))) :
    Segment.tally ('(' :: '?' :: (letters ++ stop :: rest)) = Segment.tally rest ∧
      'x' ∉ letters := by
  have first : (letters ++ stop :: rest).head? ≠ .some '#' ∧
      (letters ++ stop :: rest).head? ≠ .some '(' ∧
      (letters ++ stop :: rest).head? ≠ .some 'P' := by
    cases letters with
    | nil => simp [some rfl]
    | cons c letters =>
      have letter := all c List.mem_cons_self
      refine ⟨?_, ?_, ?_⟩ <;>
      · rintro ⟨⟩
        cases letter
  have muteLetters : ∀ c ∈ letters, (Piece.plain c).isMute = true := by
    intro c member
    obtain ⟨flag, letter⟩ := Option.isSome_iff_exists.mp (all c member)
    exact mute_of_letter letter
  obtain ⟨same, absent⟩ := tally_of_extension first terse
  refine ⟨by rw [same, Segment.tally_chars muteLetters, Segment.tally_plain mute], fun member => ?_⟩
  have letter : ∀ c ∈ letters, Segment.isFlagLetter c = true := all
  rw [List.takeWhile_append_of_pos letter] at absent
  exact absent (List.mem_append_left _ member)

theorem tally_nameReference {name : List Char} (mute : ∀ c ∈ name, (Piece.plain c).isMute = true)
    (after : List Char) : Segment.tally ('(' :: '?' :: 'P' :: '=' :: (name ++ ')' :: after)) =
      Segment.tally after := by
  rw [Segment.tally_extension (by simp) (by simp) (by simp), Segment.tally_plain rfl,
    Segment.tally_plain rfl, Segment.tally_chars mute, Segment.tally_plain rfl]
  rfl

theorem proper_of_comment {source : List Char} {input : Input} {pieces after : List Piece}
    (suffix : input.rest <:+ Piece.split source)
    (split : input.rest = .plain '?' :: .plain '#' :: (pieces ++ .plain ')' :: after)) :
    Piece.AreProper pieces := by
  have whole : (.plain '?' :: .plain '#' :: pieces) ++ .plain ')' :: after <:+
      Piece.split source := by
    rw [List.cons_append, List.cons_append, ← split]
    exact suffix
  exact (Piece.proper_of_suffix whole).tail.tail

theorem Opens.shows {alphabet : Alphabet} {source : List Char} {input after : Input}
    {lexeme : Lexeme} (opens : Opens alphabet input lexeme after)
    (suffix : input.rest <:+ Piece.split source)
    (names : ∀ name, lexeme = .opening (.condition name) → Names name)
    (terse : .verbose ∉ Segment.tally ('(' :: input.text))
    (unveiled : .veiled ∉ Segment.tally ('(' :: input.text)) :
    ∃ more, lexeme.Shows more ∧
      Segment.tally ('(' :: input.text) = more ++ Segment.tally after.text := by
  cases opens with
  | group simple =>
    exact ⟨_, .group, Segment.tally_opening fun head =>
      simple (Input.head?_of_text (by decide) head)⟩
  | @named pieces _ split identifier =>
    have text : input.text =
        '?' :: 'P' :: '<' :: (pieces.flatMap Piece.text ++ '>' :: after.text) := by
      simp [Input.text, split, Piece.text]
    have mute := (Names.ordinary (.inl identifier)).1
    have absent := not_mem_identifier identifier '>' (by simp)
    rw [text]
    rcases Segment.tally_named mute absent after.text with same | same
    · exact ⟨_, .named, same⟩
    · exact ⟨_, .hidden, same⟩
  | @reference pieces _ split identifier =>
    have text : input.text =
        '?' :: 'P' :: '=' :: (pieces.flatMap Piece.text ++ ')' :: after.text) := by
      simp [Input.text, split, Piece.text]
    rw [text]
    exact ⟨[], .quiet .intro, tally_nameReference (Names.ordinary (.inl identifier)).1 after.text⟩
  | @comment pieces _ split absent =>
    have text : input.text = '?' :: '#' :: (pieces.flatMap Piece.text ++ ')' :: after.text) := by
      simp [Input.text, split, Piece.text]
    have proper := proper_of_comment suffix split
    rw [text] at unveiled ⊢
    exact ⟨[], .quiet .intro, (Segment.tally_comment proper absent rfl).resolve_right unveiled⟩
  | @condition pieces _ split nonempty =>
    have text : input.text = '?' :: '(' :: (pieces.flatMap Piece.text ++ ')' :: after.text) := by
      simp [Input.text, split, Piece.text]
    obtain ⟨mute, closing, question⟩ := (names _ rfl).ordinary
    have first : (pieces.flatMap Piece.text).head? ≠ some '?' :=
      fun head => question (List.mem_of_head? head)
    rw [text]
    rcases Segment.tally_condition mute closing nonempty first after.text with same | same
    · exact ⟨[], .quiet .intro, same⟩
    · exact ⟨_, .stray, same⟩
  | @kind opening c middle _ split other mute quiet skips =>
    have text : input.text = '?' :: c :: middle.text := by
      simp [Input.text, split, Piece.text]
    rw [text] at terse ⊢
    have first : (c :: middle.text).head? ≠ some '#' ∧ (c :: middle.text).head? ≠ some '(' ∧
        (c :: middle.text).head? ≠ some 'P' := by
      simpa using other
    refine ⟨[], .quiet quiet, ?_⟩
    rw [(tally_of_extension first terse).1, Segment.tally_plain mute, skips.tally_eq]
    rfl
  | @flags _ on letters stop middle _ split all mute some turned _ turns skips =>
    have text : input.text = '?' :: (letters ++ stop :: middle.text) := by
      simp [Input.text, split, Piece.text, List.flatMap_map]
    rw [text] at terse ⊢
    obtain ⟨same, absent⟩ := tally_flags all some mute terse
    refine ⟨[], .quiet (turns.quiet ?_), by rw [same, skips.tally_eq]; rfl⟩
    refine Bool.eq_false_iff.mpr fun has => ?_
    obtain ⟨c, member, letter⟩ := turned .verbose has
    exact absent (letter_of_verbose letter ▸ member)

theorem ClosesSet.tally_eq {source : List Char} {input after : Input}
    (closes : ClosesSet input after) (suffix : input.rest <:+ Piece.split source) :
    Segment.tally ('[' :: input.text) = Segment.tally after.text := by
  rcases closes with ⟨⟨members, split, inner, some⟩, first⟩ |
    ⟨middle, caret, members, split, inner, some⟩
  · have text : input.text = members.flatMap Piece.text ++ ']' :: after.text := by
      simp [Input.text, split, Piece.text]
    have proper : Piece.AreProper members := Piece.proper_of_suffix (split ▸ suffix)
    have simple : members.head? ≠ .some (.plain '^') := by
      intro head
      obtain ⟨others, rfl⟩ := List.head?_eq_some_iff.mp head
      exact first (by rw [split]; rfl)
    rw [text, Segment.tally_class proper inner (some rfl) simple]
  · have text : input.text = '^' :: (members.flatMap Piece.text ++ ']' :: after.text) := by
      simp [Input.text, caret, split, Piece.text]
    have proper : Piece.AreProper members := by
      have whole : (.plain '^' :: members) ++ .plain ']' :: after.rest <:+ Piece.split source := by
        rw [List.cons_append, ← split, ← caret]
        exact suffix
      exact (Piece.proper_of_suffix whole).tail
    rw [text, Segment.tally_complement proper inner (some rfl)]

/-- A piece and what follows it leave the notices of the lexeme that they become. -/
theorem Consumes.shows {alphabet : Alphabet} {source : List Char} {piece : Piece}
    {input after : Input} {lexeme : Lexeme} (consumes : Consumes alphabet input piece lexeme after)
    (suffix : piece :: input.rest <:+ Piece.split source)
    (names : ∀ name, lexeme = .opening (.condition name) → Names name)
    (terse : .verbose ∉ Segment.tally (piece.text ++ input.text))
    (unveiled : .veiled ∉ Segment.tally (piece.text ++ input.text)) :
    ∃ more, lexeme.Shows more ∧
      Segment.tally (piece.text ++ input.text) = more ++ Segment.tally after.text := by
  have inside : input.rest <:+ Piece.split source := (List.suffix_cons piece _).trans suffix
  cases consumes with
  | opens opens => exact opens.shows inside names terse unveiled
  | set inert closes => exact ⟨[], .quiet inert.quiet, closes.tally_eq inside⟩
  | skips parenthesis bracket dangling inert skips =>
    have mute : piece.isMute = true := by
      cases piece with
      | plain c =>
        refine Piece.isMute_plain.mpr ⟨by simpa using parenthesis, by simpa using bracket, ?_⟩
        rintro rfl
        exact Piece.backslash_not_mem_split source (suffix.subset List.mem_cons_self)
      | escaped c => rfl
      | dangling => exact absurd rfl dangling
    have silent : Segment.tally ([piece].flatMap Piece.text ++ input.text) =
        Segment.tally input.text := Segment.tally_mute (by simpa using mute) _
    rw [List.flatMap_singleton] at silent
    exact ⟨[], .quiet inert.quiet, silent.trans skips.tally_eq⟩

end Lexeme

structure Notice.Account (seen : List Notice) (groups : Nat) (names : List (List Char × Nat)) :
    Prop where
  count : groups + seen.count .stray = seen.countP isGroup + seen.count .hidden
  length : names.length = (seen.filterMap name?).length + seen.count .hidden
  shown : .hidden ∉ seen → names.reverse.map Prod.fst = seen.filterMap name?
  descending : (names.map Prod.snd).Pairwise (· > ·)
  bounded : ∀ pair ∈ names, pair.2 ≤ groups

namespace Notice.Account

variable {seen : List Notice} {groups : Nat} {names : List (List Char × Nat)}

theorem nil : Account [] 0 [] := ⟨rfl, rfl, fun _ => rfl, .nil, nofun⟩

theorem group (account : Account seen groups names) :
    Account (seen ++ [.group none]) (groups + 1) names where
  count := by
    have before := account.count
    simp [isGroup]
    omega
  length := by simpa [List.filterMap_cons, name?] using account.length
  shown := by simpa [List.filterMap_cons, name?] using account.shown
  descending := account.descending
  bounded pair member := Nat.le_succ_of_le (account.bounded pair member)

theorem stray (account : Account seen groups names) :
    Account (seen ++ [.stray, .group none]) groups names where
  count := by
    have before := account.count
    simp [isGroup]
    omega
  length := by simpa [List.filterMap_cons, name?] using account.length
  shown := by simpa [List.filterMap_cons, name?] using account.shown
  descending := account.descending
  bounded := account.bounded

theorem descending_cons (account : Account seen groups names) (name : List Char) :
    (((name, groups + 1) :: names).map Prod.snd).Pairwise (· > ·) ∧
      ∀ pair ∈ (name, groups + 1) :: names, pair.2 ≤ groups + 1 := by
  refine ⟨List.pairwise_cons.mpr ⟨fun number member => ?_, account.descending⟩, ?_⟩
  · obtain ⟨pair, inside, rfl⟩ := List.mem_map.mp member
    exact Nat.lt_succ_of_le (account.bounded pair inside)
  · intro pair member
    rcases List.mem_cons.mp member with rfl | later
    · exact Nat.le_refl _
    · exact Nat.le_succ_of_le (account.bounded pair later)

theorem named (account : Account seen groups names) (name : List Char) :
    Account (seen ++ [.group (some name)]) (groups + 1) ((name, groups + 1) :: names) where
  count := by
    have before := account.count
    simp [isGroup]
    omega
  length := by
    have before := account.length
    simp [name?]
    omega
  shown clear := by
    have before := account.shown fun member => clear (List.mem_append_left _ member)
    simpa [List.filterMap_cons, name?] using before
  descending := (account.descending_cons name).1
  bounded := (account.descending_cons name).2

theorem hidden (account : Account seen groups names) (name : List Char) :
    Account (seen ++ [.hidden]) (groups + 1) ((name, groups + 1) :: names) where
  count := by
    have before := account.count
    simp [isGroup]
    omega
  length := by
    have before := account.length
    simp [List.filterMap_cons, name?]
    omega
  shown clear := absurd (List.mem_append_right _ (List.mem_singleton_self _)) clear
  descending := (account.descending_cons name).1
  bounded := (account.descending_cons name).2

end Notice.Account

namespace Parser

structure Terse (parser : Parser) : Prop where
  flags : parser.flags.has .verbose = false
  levels : ∀ level ∈ parser.level :: parser.outer, level.verbose = false

structure Keeps (parser next : Parser) : Prop where
  groups : next.groups = parser.groups
  names : next.names = parser.names
  skips : parser.input.Skips next.input
  terse : parser.Terse → next.Terse

namespace Keeps

variable {parser : Parser}

theorem within {input : Input} {level : Level} (skips : parser.input.Skips input)
    (verbose : level.verbose = parser.level.verbose) :
    parser.Keeps { parser with input, level } where
  groups := rfl
  names := rfl
  skips := skips
  terse terse := ⟨terse.flags, by simpa [verbose] using terse.levels⟩

theorem push (item : Regex) : parser.Keeps (parser.push item) :=
  within (.refl _) rfl

theorem openLevel (kind : LevelKind) (start : Nat) {verbose : Bool}
    (off : parser.level.verbose = false → verbose = false) :
    parser.Keeps (parser.openLevel kind start verbose) where
  groups := rfl
  names := rfl
  skips := .refl _
  terse terse := by
    have levels := terse.levels
    exact ⟨terse.flags, by simp_all [Parser.openLevel]⟩

theorem trans {next last : Parser} (first : parser.Keeps next) (second : next.Keeps last) :
    parser.Keeps last where
  groups := second.groups.trans first.groups
  names := second.names.trans first.names
  skips := first.skips.trans second.skips
  terse terse := second.terse (first.terse terse)

end Keeps

theorem pushGlobalFlags_keeps (parser : Parser) {on : Flags} (off : on.has .verbose = false)
    (start : Nat) : Ensures (parser.pushGlobalFlags on start) parser.Keeps := by
  unfold pushGlobalFlags
  dsimp only
  split
  · refine .ok ⟨rfl, rfl, .refl _, fun terse => ?_⟩
    have flags : (parser.flags.union on).has .verbose = false := by
      have before := terse.flags
      simp only [Flags.has, Flags.union, Nat.testBit_or] at before off ⊢
      rw [before, off]
      rfl
    have levels := terse.levels
    exact ⟨flags, by simp_all⟩
  · exact .error

theorem pushLexeme_keeps (parser : Parser) (start : Nat) {lexeme : Lexeme} (quiet : lexeme.Quiet) :
    Ensures (parser.pushLexeme start lexeme) parser.Keeps := by
  have stays (kind : LevelKind) (parser : Parser) :
      parser.Keeps (parser.openLevel kind start parser.level.verbose) :=
    .openLevel kind start id
  cases lexeme with
  | blank => exact .ok (.within (.refl _) rfl)
  | item item => exact .ok (.push item)
  | quantifier least most =>
    refine (parser.pushQuantifier_skips least most start).mono ?_
    rintro _ ⟨input, level, rfl, skips, verbose⟩
    exact .within skips verbose
  | reference group =>
    refine (parser.pushReference_pushes group start).mono ?_
    rintro _ rfl
    exact .push _
  | namedReference name =>
    refine (parser.pushNamedReference_pushes name).mono ?_
    rintro _ ⟨group, rfl⟩
    exact .push _
  | globalFlags on => exact parser.pushGlobalFlags_keeps quiet start
  | opening opening =>
    cases opening with
    | capture name => cases quiet
    | «scoped» on off =>
      have quiet : on.has .verbose = false := quiet
      exact .ok (.openLevel _ start fun off => by simp [off, quiet])
    | atomic => exact .ok (stays _ parser)
    | ahead negated => exact .ok (stays _ parser)
    | behind negated =>
      have looking : parser.Keeps (if parser.lookbehind.isNone then
          { parser with lookbehind := some parser.groups } else parser) := by
        split
        · exact ⟨rfl, rfl, .refl _, fun terse => ⟨terse.flags, terse.levels⟩⟩
        · exact .within (.refl _) rfl
      refine .ok (looking.trans (.openLevel _ start fun off => ?_))
      split at off <;> exact off
    | condition name =>
      refine (parser.condition_notes name).bind fun (next, group) ⟨⟨conditions, same⟩, _⟩ => ?_
      subst same
      have noting : parser.Keeps { parser with conditions } :=
        ⟨rfl, rfl, .refl _, fun terse => ⟨terse.flags, terse.levels⟩⟩
      exact (Ensures.trivial _).bind fun _ _ => .ok (noting.trans (.openLevel _ start id))

theorem openGroup_named (parser : Parser) (name : List Char) :
    Ensures (parser.openGroup (some name)) fun next => next = { parser with
      groups := parser.groups + 1
      names := (name, parser.groups + 1) :: parser.names } := by
  unfold openGroup
  dsimp only
  split
  · exact .error
  · exact .ok rfl

theorem names_of_condition {parser next : Parser} {name : List Char} {start : Nat}
    (pushed : parser.pushLexeme start (.opening (.condition name)) = .ok next) :
    Lexeme.Names name := by
  have named : Ensures (parser.pushLexeme start (.opening (.condition name))) fun _ =>
      Lexeme.Names name :=
    (parser.condition_notes name).bind fun _ named => (Ensures.trivial _).mono fun _ _ => named.2
  exact named _ pushed

theorem pushLexeme_account (parser : Parser) (start : Nat) {lexeme : Lexeme}
    {seen more : List Notice} (shows : lexeme.Shows more) (account : Notice.Account seen parser.groups parser.names) :
    Ensures (parser.pushLexeme start lexeme) fun next =>
      Notice.Account (seen ++ more) next.groups next.names ∧ parser.input.Skips next.input ∧
        (parser.Terse → next.Terse) := by
  have opened (names : List (List Char × Nat)) :
      parser.Terse → Terse (openLevel { parser with groups := parser.groups + 1, names }
        (.capture (parser.groups + 1)) start parser.level.verbose) := by
    intro terse
    have levels := terse.levels
    exact ⟨terse.flags, by simp_all [openLevel]⟩
  cases shows with
  | quiet quiet =>
    refine (parser.pushLexeme_keeps start quiet).mono
      fun next keeps => ⟨?_, keeps.skips, keeps.terse⟩
    rw [keeps.groups, keeps.names, List.append_nil]
    exact account
  | @stray name =>
    have quiet : (Lexeme.opening (.condition name)).Quiet := .intro
    refine (parser.pushLexeme_keeps start quiet).mono
      fun next keeps => ⟨?_, keeps.skips, keeps.terse⟩
    rw [keeps.groups, keeps.names]
    exact account.stray
  | group => exact .ok ⟨account.group, .refl _, opened _⟩
  | @named name =>
    refine (parser.openGroup_named name).bind ?_
    rintro _ rfl
    exact .ok ⟨account.named name, .refl _, opened _⟩
  | @hidden name =>
    refine (parser.openGroup_named name).bind ?_
    rintro _ rfl
    exact .ok ⟨account.hidden name, .refl _, opened _⟩

/-- The notices of the text that has been taken account for the parser's groups and names. -/
structure Tallied (source : List Char) (parser : Parser) : Prop where
  rest : parser.input.rest <:+ Piece.split source
  terse : parser.Terse
  account : ∃ seen, Segment.tally source = seen ++ Segment.tally parser.input.text ∧
    Notice.Account seen parser.groups parser.names

namespace Tallied

variable {source : List Char} {parser next : Parser}

theorem start {input : Input} (read : Input.ofSource source = .ok input) {flags : Flags}
    (terse : flags.has .verbose = false) : Tallied source (.start input flags) := by
  have whole : input.rest = Piece.split source := Input.goTo_rest 0 _ input read
  refine ⟨?_, ⟨terse, by simpa [Parser.start] using terse⟩, [], ?_, .nil⟩
  · show input.rest <:+ Piece.split source
    exact whole ▸ List.suffix_rfl
  · show Segment.tally source = Segment.tally input.text
    rw [Input.text_of_ofSource read]

theorem passes (tallied : Tallied source parser) {piece : Piece} {rest : List Piece}
    (head : parser.input.rest = piece :: rest) (mute : piece.isMute = true)
    (same : next.input.rest = rest) (groups : next.groups = parser.groups)
    (names : next.names = parser.names) (terse : parser.Terse → next.Terse) :
    Tallied source next := by
  have skips : parser.input.Skips next.input := .one (by rw [head, same]) mute
  obtain ⟨seen, tally, account⟩ := tallied.account
  refine ⟨List.IsSuffix.trans skips.leaves tallied.rest, terse tallied.terse, seen, ?_, ?_⟩
  · rw [tally, skips.tally_eq]
  · rw [groups, names]
    exact account

theorem pushClose (tallied : Tallied source parser) {around : Level} {outer : List Level}
    {rest : List Piece} (head : parser.input.rest = .plain ')' :: rest)
    (stack : parser.outer = around :: outer) :
    Ensures (parser.pushClose around outer rest) (Tallied source) := by
  refine (Input.goTo_rest _ rest).bind fun input same => .ok ?_
  refine tallied.passes head rfl same rfl rfl fun terse => ⟨terse.flags, ?_⟩
  have levels := terse.levels
  simp_all [Level.push]

theorem pushBar (tallied : Tallied source parser) {rest : List Piece}
    (head : parser.input.rest = .plain '|' :: rest) :
    Ensures (parser.pushBar rest) (Tallied source) := by
  have onward (input : Input) (same : input.rest = rest) (level : Level)
      (verbose : level.verbose = parser.level.verbose) :
      Tallied source { parser with input, level } :=
    tallied.passes head rfl same rfl rfl fun terse =>
      ⟨terse.flags, by simpa [verbose] using terse.levels⟩
  unfold Parser.pushBar
  dsimp only
  split
  · split
    · exact .error
    · exact (Input.goTo_rest _ rest).bind fun input same => .ok (onward input same _ rfl)
  · exact (Input.goTo_rest _ rest).bind fun input same => .ok (onward input same _ rfl)

theorem step {alphabet : Alphabet} (tallied : Tallied source parser)
    (terse : .verbose ∉ Segment.tally source) (unveiled : .veiled ∉ Segment.tally source)
    (taken : parser.step alphabet = .ok (some next)) : Tallied source next := by
  cases advances_of_step taken with
  | close head stack pushed => exact tallied.pushClose head stack _ pushed
  | bar head pushed => exact tallied.pushBar head _ pushed
  | @lexeme lexeme after reads pushed =>
    obtain ⟨piece, rest, input, head, -, -, moved, read⟩ := reads
    rw [tallied.terse.levels _ List.mem_cons_self] at read
    have onward : input.rest = rest := Input.goTo_rest _ rest input moved
    have whole : parser.input.rest = piece :: input.rest := by rw [head, onward]
    have text : parser.input.text = piece.text ++ input.text := by
      rw [Input.text, whole, List.flatMap_cons]
      rfl
    -- The lexeme's part of the tally is split off, and what is left of it is the tally of the text
    -- behind.
    obtain ⟨seen, tally, before⟩ := tallied.account
    rw [tally, List.mem_append, not_or, text] at terse unveiled
    have names : ∀ name, lexeme = .opening (.condition name) → Lexeme.Names name := by
      rintro name rfl
      exact names_of_condition pushed
    have consumes := (Lexeme.read_consumes alphabet piece _ input (lexeme, after) read).2
    obtain ⟨more, shows, left⟩ :=
      consumes.shows (whole ▸ tallied.rest) names terse.2 unveiled.2
    have first : parser.input.Leaves after :=
      Input.Leaves.trans ⟨[piece], whole.symm⟩ consumes.leaves
    obtain ⟨account, skips, kept⟩ :=
      pushLexeme_account { parser with input := after } _ shows before _ pushed
    have here : Terse { parser with input := after } :=
      ⟨tallied.terse.flags, tallied.terse.levels⟩
    have gone : parser.input.Leaves next.input := first.trans skips.leaves
    refine ⟨List.IsSuffix.trans gone tallied.rest, kept here, seen ++ more, ?_, account⟩
    rw [tally, text, left, List.append_assoc, skips.tally_eq]

end Tallied

end Parser

namespace Pattern

/-- For an accepted text that nowhere turns on verbose mode and whose comments end at their first
closing parenthesis, the count of groups differs from the groups of the pattern by the names that
are not seen and the conditions that are taken for groups. Count and names are those of the pattern
exactly if there are none of these. -/
theorem countCaptures_of_compile {alphabet : Alphabet} {source : List Char} {asked : Int}
    {pattern : Pattern} (compiled : compile alphabet source asked = .ok pattern)
    (plain : (Flags.ofInt asked).has .verbose = false) (terse : .verbose ∉ Segment.tally source)
    (unveiled : .veiled ∉ Segment.tally source) :
    countCaptures source + (Segment.tally source).count .hidden =
        pattern.groups + (Segment.tally source).count .stray ∧
      (countCaptures source = pattern.groups ∧
          groupNames source = pattern.names.map Prod.fst ↔
        .hidden ∉ Segment.tally source ∧ .stray ∉ Segment.tally source) ∧
      (pattern.names.map Prod.snd).Pairwise (· < ·) := by
  obtain ⟨parser, parsed⟩ := compile_eq_ok_iff.mp compiled
  obtain ⟨input, read, parses⟩ := parsed.parses
  obtain ⟨tallied, -⟩ := Parser.parse_invariant
    (fun _ _ before taken => Parser.Tallied.step before terse unveiled taken)
    (Parser.Tallied.start read plain) parses
  obtain ⟨seen, whole, account⟩ := tallied.account
  have all : Segment.tally source = seen := by
    rw [whole, Input.text, parsed.ends]
    exact List.append_nil seen
  have groups : pattern.groups = parser.groups := congrArg Pattern.groups parsed.made
  have names : pattern.names = parser.names.reverse := congrArg Pattern.names parsed.made
  have count := account.count
  rw [countCaptures_eq_tally, groupNames_eq_tally, all, groups, names]
  refine ⟨count.symm, ⟨?_, ?_⟩, ?_⟩
  · rintro ⟨sameCount, sameNames⟩
    -- A name that is not seen makes the list of names shorter, so that the counts decide.
    have length := account.length
    have sameLength := congrArg List.length sameNames
    rw [List.length_map, List.length_reverse] at sameLength
    have noneHidden : seen.count .hidden = 0 := by omega
    have noneStray : seen.count .stray = 0 := by omega
    exact ⟨List.count_eq_zero.mp noneHidden, List.count_eq_zero.mp noneStray⟩
  · rintro ⟨hidden, stray⟩
    rw [List.count_eq_zero.mpr hidden, List.count_eq_zero.mpr stray] at count
    exact ⟨count.symm, (account.shown hidden).symm⟩
  · rw [List.map_reverse, List.pairwise_reverse]
    exact account.descending

def countedSource : List Char :=
  "(?P<n>a)(?#c)(?(n)b|c)(?(1)d)[](]\\((?i:e)(f)".toList

theorem countCaptures_countedSource : ∃ pattern, compile .text countedSource 0 = .ok pattern ∧
    countCaptures countedSource = pattern.groups ∧
      groupNames countedSource = pattern.names.map Prod.fst ∧ pattern.groups = 2 := by
  obtain ⟨pattern, compiled⟩ : ∃ pattern, compile .text countedSource 0 = .ok pattern := ⟨_, rfl⟩
  obtain ⟨-, agree, -⟩ := countCaptures_of_compile compiled (by decide) (by decide) (by decide)
  obtain ⟨count, names⟩ := agree.mpr ⟨by decide, by decide⟩
  have two : countCaptures countedSource = 2 := by decide
  exact ⟨pattern, compiled, count, names, count.symm.trans two⟩

/-- A comment whose first closing parenthesis is escaped goes on, so that the parentheses in it are
no group of the pattern, but they are counted. -/
theorem countCaptures_of_veiled : ∃ pattern, compile .text "(?#\\)()x".toList 0 = .ok pattern ∧
    pattern.groups = 0 ∧ countCaptures "(?#\\)()x".toList = 1 :=
  ⟨_, rfl, rfl, by decide⟩

end Pattern

end RuleLexer
