import RuleLexer.Proofs.Regex.AlignedLexemes
import RuleLexer.Proofs.Regex.Numbering

namespace RuleLexer

namespace Parser

def conditionNumbers (parser : Parser) : List Nat :=
  parser.conditions.map Prod.fst

def keeping (parser : Parser) (group place : Nat) : Parser :=
  if parser.conditions.any (·.1 = group) then parser
  else { parser with conditions := (group, place) :: parser.conditions }

theorem keeping_eq (parser : Parser) (group place : Nat) :
    ∃ conditions, parser.keeping group place = { parser with conditions } := by
  unfold keeping
  split
  · exact ⟨_, rfl⟩
  · exact ⟨_, rfl⟩

theorem ok_keeping (parser : Parser) (group place : Nat) :
    (if parser.conditions.any (·.1 = group) then .ok (parser, group)
      else .ok ({ parser with conditions := (group, place) :: parser.conditions }, group) :
        Except Rejection (Parser × Nat)) = .ok (parser.keeping group place, group) := by
  unfold keeping
  split <;> rfl

theorem mem_conditionNumbers_keeping {parser : Parser} {group place number : Nat} :
    number ∈ (parser.keeping group place).conditionNumbers ↔
      number = group ∨ number ∈ parser.conditionNumbers := by
  unfold keeping conditionNumbers
  split
  · next known =>
    have member : group ∈ parser.conditions.map Prod.fst := by
      obtain ⟨entry, member, same⟩ := List.any_eq_true.mp known
      exact List.mem_map.mpr ⟨entry, member, by simpa using same⟩
    constructor
    · exact .inr
    · rintro (rfl | before)
      · exact member
      · exact before
  · simp

def noting (parser : Parser) (name : List Char) : Parser × Nat :=
  (parser.keeping (Number.valueOf name) (parser.namePlace name), Number.valueOf name)

theorem noting_eq (parser : Parser) (name : List Char) :
    ∃ conditions, parser.noting name = ({ parser with conditions }, Number.valueOf name) := by
  obtain ⟨conditions, kept⟩ := parser.keeping_eq (Number.valueOf name) (parser.namePlace name)
  exact ⟨conditions, by rw [noting, kept]⟩

theorem mem_conditionNumbers_noting {parser : Parser} {name : List Char} {number : Nat} :
    number ∈ (parser.noting name).1.conditionNumbers ↔
      number = Number.valueOf name ∨ number ∈ parser.conditionNumbers :=
  mem_conditionNumbers_keeping

theorem condition_of_number {parser : Parser} {name : List Char}
    (other : Text.isIdentifier name = false) {result : Parser × Nat} :
    parser.condition name = .ok result ↔ ∃ group, Number.readInt name = .ok (.ofNat (group + 1)) ∧
      group + 1 < groupLimit ∧
      result = (parser.keeping (group + 1) (parser.namePlace name), group + 1) := by
  have identifier : ¬Text.isIdentifier name = true := by simp [other]
  rw [condition, if_neg identifier]
  cases Number.readInt name with
  | error failure => simp
  | ok value =>
    cases value with
    | negSucc n =>
      refine ⟨nofun, ?_⟩
      rintro ⟨_, ⟨⟩, -⟩
    | ofNat n =>
      cases n with
      | zero =>
        refine ⟨nofun, ?_⟩
        rintro ⟨_, ⟨⟩, -⟩
      | succ group =>
        show (if groupLimit ≤ group + 1 then _ else _) = _ ↔ _
        split
        · next beyond =>
          refine ⟨nofun, ?_⟩
          rintro ⟨_, ⟨⟩, within, -⟩
          omega
        · next within =>
          rw [ok_keeping]
          constructor
          · rintro ⟨⟩
            exact ⟨group, rfl, by omega, rfl⟩
          · rintro ⟨_, ⟨⟩, -, rfl⟩
            rfl

theorem condition_of_digits (parser : Parser) {name : List Char}
    (digits : name.all Char.isDigit = true) (some : name ≠ []) : parser.condition name =
      if Number.digitLimit < name.length then
        .error ((Fault.badNameCharacter name).at (parser.namePlace name))
      else if Number.valueOf name = 0 then .error (Fault.badGroupNumber.at (parser.namePlace name))
      else if groupLimit ≤ Number.valueOf name then
        .error ((Fault.invalidReference (Number.valueOf name)).at (parser.namePlace name))
      else .ok (parser.noting name) := by
  rw [condition, Lexeme.not_isIdentifier_of_digits digits, Number.readInt_of_digits digits some]
  by_cases long : Number.digitLimit < name.length
  · rw [if_pos long, if_pos long]
    rfl
  · rw [if_neg long, if_neg long, noting]
    cases Number.valueOf name with
    | zero => rfl
    | succ group =>
      rw [if_neg (Nat.succ_ne_zero group)]
      show (if groupLimit ≤ group + 1 then _ else _) = _
      split
      · rfl
      · exact ok_keeping _ _ _

def InRange (name : List Char) : Prop :=
  name.length ≤ Number.digitLimit ∧ Number.valueOf name < groupLimit

theorem condition_eq_ok_iff {parser : Parser} {name : List Char}
    (digits : name.all Char.isDigit = true) (some : name ≠ []) {result : Parser × Nat} :
    parser.condition name = .ok result ↔
      InRange name ∧ 0 < Number.valueOf name ∧ result = parser.noting name := by
  rw [condition_of_digits parser digits some]
  split
  · exact ⟨nofun, fun ⟨⟨short, _⟩, _⟩ => by omega⟩
  split
  · exact ⟨nofun, fun ⟨_, positive, _⟩ => by omega⟩
  split
  · exact ⟨nofun, fun ⟨⟨_, within⟩, _⟩ => by omega⟩
  · constructor
    · rintro ⟨⟩
      exact ⟨⟨by omega, by omega⟩, by omega, rfl⟩
    · rintro ⟨_, _, rfl⟩
      rfl

theorem condition_of_identifier {parser noted : Parser} {name : List Char} {group : Nat}
    (identifier : Text.isIdentifier name = true) : parser.condition name = .ok (noted, group) ↔
      parser.names.lookup name = some group ∧ noted = parser := by
  rw [condition, if_pos identifier]
  cases parser.names.lookup name with
  | none => exact ⟨nofun, nofun⟩
  | some known =>
    constructor
    · rintro ⟨⟩
      exact ⟨rfl, rfl⟩
    · rintro ⟨⟨⟩, rfl⟩
      rfl

/-- What a parser has recorded and the landmarks that its text still shows are together all the
landmarks of the text. -/
structure Tracks (numbers : Renumbering) (all marks : List Landmark) (parser : Parser) : Prop where
  text : Aligned numbers marks false parser.input.rest parser.input.rest
  quiet : ∀ level ∈ parser.level :: parser.outer, level.verbose = false
  counted : parser.groups + marks.count .group = all.count .group
  recorded : ∀ name, .condition name ∈ all → .condition name ∈ marks ∨
    InRange name ∧ Number.valueOf name ∈ parser.conditionNumbers
  referred : ∀ number, .reference number ∈ all → .reference number ∈ marks ∨ number ≤ parser.groups
  positive : ∀ number ∈ parser.conditionNumbers, 0 < number
  captures : ∀ index, .capture index ∈ parser.kinds → index ≤ parser.groups
  widths : ∀ entry ∈ parser.widths, entry.1 ≤ parser.groups
  looking : parser.lookbehind.isSome → ∃ negated, .behind negated true ∈ parser.kinds

namespace Tracks

variable {numbers : Renumbering} {all marks : List Landmark} {parser : Parser}

theorem within (tracks : Tracks numbers all marks parser) {input : Input} {level : Level}
    (text : Aligned numbers marks false input.rest input.rest)
    (verbose : level.verbose = parser.level.verbose) (kind : level.kind = parser.level.kind) :
    Tracks numbers all marks { parser with input, level } where
  text := text
  quiet := by
    have quiet := tracks.quiet
    simp_all
  counted := tracks.counted
  recorded := tracks.recorded
  referred := tracks.referred
  positive := tracks.positive
  captures := by simpa [kinds, kind] using tracks.captures
  widths := tracks.widths
  looking := by simpa [kinds, kind] using tracks.looking

theorem openLevel (tracks : Tracks numbers all marks parser) (kind : LevelKind)
    (bound : ∀ index, kind = .capture index → index ≤ parser.groups) (start : Nat) :
    Tracks numbers all marks (parser.openLevel kind start false) where
  text := tracks.text
  quiet := by
    have quiet := tracks.quiet
    simp_all [Parser.openLevel]
  counted := tracks.counted
  recorded := tracks.recorded
  referred := tracks.referred
  positive := tracks.positive
  captures := by
    intro index member
    rcases List.mem_cons.mp member with same | before
    · exact bound index same.symm
    · exact tracks.captures index before
  widths := tracks.widths
  looking := by
    intro around
    obtain ⟨negated, member⟩ := tracks.looking around
    exact ⟨negated, List.mem_cons_of_mem _ member⟩

theorem pushQuantifier (tracks : Tracks numbers all marks parser) (ends : numbers.Ends)
    (least : Nat) (most : Option Nat) (start : Nat) :
    Ensures (parser.pushQuantifier least most start) (Tracks numbers all marks) := by
  unfold Parser.pushQuantifier
  split
  · exact .error
  · exact .error
  · exact .error
  · refine (parser.input.accept_mirrors ends tracks.text rfl (by decide)).ensures.bind ?_
    rintro ⟨lazy, input⟩ ⟨-, text⟩
    have greed : Ensures (if lazy then .ok (false, input) else input.accept '+')
        fun result => Aligned numbers marks false result.2.rest result.2.rest := by
      split
      · exact .ok text
      · exact (input.accept_mirrors ends text rfl (by decide)).ensures.mono fun _ same => same.2
    exact greed.branch fun _ text => .ok (tracks.within text rfl rfl)

theorem openCapture (tracks : Tracks numbers all (.group :: marks) parser)
    {input : Input} (text : Aligned numbers marks false input.rest input.rest)
    (given : List (List Char × Nat)) (start : Nat) :
    Tracks numbers all marks (Parser.openLevel
      { parser with input, groups := parser.groups + 1, names := given }
      (.capture (parser.groups + 1)) start false) := by
  refine openLevel ?_ _ (fun index same => by cases same; exact Nat.le_refl _) start
  constructor
  · exact text
  · exact tracks.quiet
  · have counted := tracks.counted
    simp only [List.count_cons_self] at counted
    dsimp only
    omega
  · intro name member
    rcases tracks.recorded name member with mark | before
    · exact .inl (by simpa using mark)
    · exact .inr before
  · intro number member
    rcases tracks.referred number member with mark | before
    · exact .inl (by simpa using mark)
    · exact .inr (Nat.le_succ_of_le before)
  · exact tracks.positive
  · exact fun index member => Nat.le_succ_of_le (tracks.captures index member)
  · exact fun entry member => Nat.le_succ_of_le (tracks.widths entry member)
  · exact tracks.looking

theorem openBehind (tracks : Tracks numbers all marks parser) (negated : Bool)
    (start : Nat) : Tracks numbers all marks (Parser.openLevel
      (if parser.lookbehind.isNone then { parser with lookbehind := some parser.groups }
        else parser)
      (.behind negated parser.lookbehind.isNone) start false) := by
  have opened := tracks.openLevel (.behind negated parser.lookbehind.isNone) nofun start
  cases around : parser.lookbehind with
  | none =>
    rw [around] at opened
    exact { opened with looking := fun _ => ⟨negated, List.mem_cons_self⟩ }
  | some before =>
    rw [around] at opened
    exact opened

theorem noting {name : List Char}
    (tracks : Tracks numbers all (.condition name :: marks) parser)
    (range : InRange name) (some : 0 < Number.valueOf name)
    {input : Input} (text : Aligned numbers marks false input.rest input.rest) :
    Tracks numbers all marks (Parser.noting { parser with input } name).1 := by
  obtain ⟨conditions, noted⟩ := Parser.noting_eq { parser with input } name
  have numbers := @mem_conditionNumbers_noting { parser with input } name
  rw [noted] at numbers ⊢
  constructor
  · exact text
  · exact tracks.quiet
  · simpa using tracks.counted
  · intro other member
    rcases tracks.recorded other member with mark | before
    · rcases List.mem_cons.mp mark with same | later
      · cases same
        exact .inr ⟨range, numbers.mpr (.inl rfl)⟩
      · exact .inl later
    · exact .inr ⟨before.1, numbers.mpr (.inr before.2)⟩
  · intro number member
    exact (tracks.referred number member).imp_left fun mark => by simpa using mark
  · intro number member
    rcases numbers.mp member with rfl | before
    · exact some
    · exact tracks.positive number before
  · exact tracks.captures
  · exact tracks.widths
  · exact tracks.looking

theorem referring {number : Nat} (tracks : Tracks numbers all (.reference number :: marks) parser)
    (known : number ≤ parser.groups) {input : Input}
    (text : Aligned numbers marks false input.rest input.rest) :
    Tracks numbers all marks { parser with input } where
  text := text
  quiet := tracks.quiet
  counted := by simpa using tracks.counted
  recorded name member :=
    (tracks.recorded name member).imp_left fun mark => by simpa using mark
  referred other member := by
    rcases tracks.referred other member with mark | before
    · rcases List.mem_cons.mp mark with same | later
      · cases same
        exact .inr known
      · exact .inl later
    · exact .inr before
  positive := tracks.positive
  captures := tracks.captures
  widths := tracks.widths
  looking := tracks.looking

theorem pushReference {number : Nat} (tracks : Tracks numbers all (.reference number :: marks) parser)
    {input : Input} (text : Aligned numbers marks false input.rest input.rest) (start : Nat) :
    Ensures (({ parser with input } : Parser).pushReference number start)
      (Tracks numbers all marks) := by
  unfold Parser.pushReference
  dsimp only
  split
  · exact .error
  next known =>
  split
  · exact .error
  · have referring := tracks.referring (Nat.not_lt.mp known) text
    exact (Ensures.trivial _).bind fun _ _ => .ok (referring.within text rfl rfl)

theorem pushNamedReference (tracks : Tracks numbers all marks parser) {input : Input}
    (text : Aligned numbers marks false input.rest input.rest) (name : List Char) :
    Ensures (({ parser with input } : Parser).pushNamedReference name)
      (Tracks numbers all marks) := by
  unfold Parser.pushNamedReference
  dsimp only
  split
  · split
    · exact .error
    · exact (Ensures.trivial _).bind fun _ _ => .ok (tracks.within text rfl rfl)
  · exact .error

theorem pushOpening {before after : List Landmark} (tracks : Tracks numbers all before parser)
    {input : Input} (text : Aligned numbers after false input.rest input.rest) {opening : Opening}
    (mirrored : Lexeme.Mirrored numbers before after (.opening opening) (.opening opening))
    (start : Nat) :
    Ensures (({ parser with input } : Parser).pushOpening opening start)
      (Tracks numbers all after) := by
  have quiet : parser.level.verbose = false := tracks.quiet _ List.mem_cons_self
  unfold Parser.pushOpening
  dsimp only
  rw [quiet]
  cases mirrored with
  | group =>
    refine (Parser.openGroup_opens _ _).bind ?_
    rintro _ ⟨given, rfl⟩
    exact .ok (tracks.openCapture text given start)
  | scoping verbose =>
    dsimp only
    rw [verbose]
    exact .ok ((tracks.within text rfl rfl).openLevel (.scoped _ _) nofun start)
  | atomic => exact .ok ((tracks.within text rfl rfl).openLevel .atomic nofun start)
  | ahead => exact .ok ((tracks.within text rfl rfl).openLevel (.ahead _) nofun start)
  | behind => exact .ok ((tracks.within text rfl rfl).openBehind _ start)
  | condition digits _ nonempty _ _ =>
    intro next returned
    obtain ⟨⟨noted, group⟩, named, returned⟩ := bind_eq_ok_iff.mp returned
    obtain ⟨_, _, returned⟩ := bind_eq_ok_iff.mp returned
    obtain ⟨range, positive, same⟩ := (condition_eq_ok_iff digits nonempty).mp named
    cases returned
    have noting := tracks.noting range positive text
    rw [← same] at noting
    exact noting.openLevel (.conditional _) nofun start
  | namedCondition identifier =>
    intro next returned
    obtain ⟨⟨noted, group⟩, named, returned⟩ := bind_eq_ok_iff.mp returned
    obtain ⟨_, _, returned⟩ := bind_eq_ok_iff.mp returned
    obtain ⟨-, rfl⟩ := (condition_of_identifier identifier).mp named
    cases returned
    exact (tracks.within text rfl rfl).openLevel (.conditional _) nofun start

theorem pushLexeme {before after : List Landmark} (ends : numbers.Ends)
    (tracks : Tracks numbers all before parser) {input : Input}
    (text : Aligned numbers after false input.rest input.rest) {lexeme : Lexeme}
    (mirrored : Lexeme.Mirrored numbers before after lexeme lexeme) (start : Nat) :
    Ensures ({ parser with input }.pushLexeme start lexeme)
      (Tracks numbers all after) := by
  cases lexeme with
  | blank =>
    cases mirrored
    exact .ok (tracks.within text rfl rfl)
  | item regex =>
    cases mirrored
    exact .ok (tracks.within text rfl rfl)
  | quantifier least most =>
    cases mirrored
    exact (tracks.within text rfl rfl).pushQuantifier ends _ _ start
  | reference number =>
    cases mirrored
    exact tracks.pushReference text start
  | namedReference name =>
    cases mirrored
    exact tracks.pushNamedReference text name
  | opening opening => exact tracks.pushOpening text mirrored start
  | globalFlags on => cases mirrored

theorem pushBar (tracks : Tracks numbers all marks parser) {rest : List Piece}
    (text : Aligned numbers marks false rest rest) :
    Ensures (parser.pushBar rest) (Tracks numbers all marks) := by
  have barred : Ensures (Input.goTo (parser.input.position + 1) rest) fun input =>
      Aligned numbers marks false input.rest input.rest :=
    (Input.goTo_rest _ rest).mono fun input same => by rw [same]; exact text
  unfold Parser.pushBar
  dsimp only
  split
  · split
    · exact .error
    · exact barred.bind fun input text => .ok (tracks.within text rfl rfl)
  · exact barred.bind fun input text => .ok (tracks.within text rfl rfl)

theorem pushClose (tracks : Tracks numbers all marks parser) {next : Level}
    {outer : List Level} (stack : parser.outer = next :: outer) {rest : List Piece}
    (text : Aligned numbers marks false rest rest) :
    Ensures (parser.pushClose next outer rest) (Tracks numbers all marks) := by
  have inner : ∀ kind, kind ∈ (next :: outer).map Level.kind → kind ∈ parser.kinds := by
    intro kind member
    rw [kinds, stack]
    exact List.mem_cons_of_mem _ member
  refine (Input.goTo_rest _ rest).bind fun input same => .ok ?_
  constructor
  · rw [same]
    exact text
  · have quiet := tracks.quiet
    simp_all [Level.push]
  · exact tracks.counted
  · exact tracks.recorded
  · exact tracks.referred
  · exact tracks.positive
  · exact fun index member => tracks.captures index (inner _ member)
  · intro entry member
    dsimp only at member ⊢
    split at member
    · next index kind =>
      rcases List.mem_cons.mp member with rfl | before
      · exact tracks.captures index (kind ▸ List.mem_cons_self)
      · exact tracks.widths entry before
    · exact tracks.widths entry member
  · intro around
    dsimp only at around
    split at around
    · cases around
    · next other =>
      obtain ⟨negated, member⟩ := tracks.looking around
      rw [kinds, stack] at member
      rcases List.mem_cons.mp member with here | outside
      · exact absurd here.symm (other negated)
      · exact ⟨negated, outside⟩

theorem step (ends : numbers.Ends) {alphabet : Alphabet} {next : Parser}
    (tracks : Tracks numbers all marks parser)
    (taken : parser.step alphabet = .ok (some next)) :
    ∃ marks, Tracks numbers all marks next := by
  have text := tracks.text
  cases advances_of_step taken with
  | close head stack pushed =>
    rw [head] at text
    obtain ⟨_, same, inside⟩ := text.uncons (by decide) (by decide) (by decide)
    cases same
    exact ⟨marks, tracks.pushClose stack inside _ pushed⟩
  | bar head pushed =>
    rw [head] at text
    obtain ⟨_, same, inside⟩ := text.uncons (by decide) (by decide) (by decide)
    cases same
    exact ⟨marks, tracks.pushBar inside _ pushed⟩
  | lexeme reads pushed =>
    obtain ⟨piece, rest, input, head, -, -, moved, read⟩ := reads
    rw [head] at text
    rw [tracks.quiet _ List.mem_cons_self] at read
    obtain ⟨_, _, same, -, -, mirrors⟩ := Lexeme.read_mirrors ends alphabet text
    cases same
    have onward := Input.goTo_rest _ rest input moved
    obtain ⟨left, mirrored, text⟩ := (mirrors _ _ input input onward onward).ensures _ read
    exact ⟨left, tracks.pushLexeme ends text mirrored _ _ pushed⟩

end Tracks

end Parser

/-- What is known of a parser that has read a text with these landmarks to its end. -/
structure Parser.Surveyed (marks : List Landmark) (parser : Parser) : Prop where
  groups : parser.groups = marks.count .group
  conditions : ∀ name, .condition name ∈ marks →
    InRange name ∧ 0 < Number.valueOf name ∧ Number.valueOf name ≤ parser.groups
  references : ∀ number, .reference number ∈ marks → number ≤ parser.groups
  widths : ∀ entry ∈ parser.widths, entry.1 ≤ parser.groups
  lookbehind : parser.lookbehind = none

namespace Pattern

variable {alphabet : Alphabet} {source : List Char} {asked : Int} {pattern : Pattern}
  {parser : Parser} {numbers : Renumbering} {marks : List Landmark}

theorem checkConditions_eq_ok_iff {groups : Nat} {conditions : List (Nat × Nat)} :
    checkConditions groups conditions = .ok () ↔ ∀ entry ∈ conditions, entry.1 ≤ groups := by
  induction conditions with
  | nil => exact ⟨fun _ => nofun, fun _ => rfl⟩
  | cons entry conditions ih =>
    obtain ⟨number, place⟩ := entry
    rw [List.forall_mem_cons, ← ih, checkConditions]
    split
    · next beyond => exact ⟨nofun, fun ⟨within, _⟩ => absurd within (Nat.not_le.mpr beyond)⟩
    · next within => exact ⟨fun rest => ⟨Nat.not_lt.mp within, rest⟩, And.right⟩

theorem Parsed.conditionNumbers_le (parsed : Parsed alphabet source asked pattern parser) :
    ∀ number ∈ parser.conditionNumbers, number ≤ parser.groups := by
  intro number recorded
  obtain ⟨entry, member, rfl⟩ := List.mem_map.mp recorded
  exact checkConditions_eq_ok_iff.mp parsed.conditions entry (List.mem_reverse.mpr member)

theorem Parsed.surveyed (parsed : Parsed alphabet source asked pattern parser)
    (ends : numbers.Ends) (quiet : (Flags.ofInt asked).has .verbose = false)
    (text : Aligned numbers marks false (Piece.split source) (Piece.split source)) :
    parser.Surveyed marks := by
  obtain ⟨input, read, parses⟩ := parsed.parses
  have initially : ∃ left, Parser.Tracks numbers marks left (.start input (.ofInt asked)) := by
    refine ⟨marks, ?_, by simpa [Parser.start] using quiet, by simp [Parser.start],
      fun _ => .inl, fun _ => .inl, nofun, by simp [Parser.start, Parser.kinds],
      by simp [Parser.start], nofun⟩
    show Aligned _ _ _ input.rest input.rest
    rw [Input.goTo_rest 0 _ input read]
    exact text
  have kept (parser next : Parser) (before : ∃ left, Parser.Tracks numbers marks left parser)
      (taken : parser.step alphabet = .ok (some next)) :
      ∃ left, Parser.Tracks numbers marks left next := by
    obtain ⟨left, tracks⟩ := before
    exact tracks.step ends taken
  obtain ⟨⟨left, tracks⟩, -⟩ := Parser.parse_invariant kept initially parses
  have none : left = [] := by
    have text := tracks.text
    rw [parsed.ends] at text
    exact text.of_nil.1
  subst none
  refine ⟨by simpa using tracks.counted, fun name member => ?_, fun number member => ?_,
    tracks.widths, ?_⟩
  · obtain ⟨range, recorded⟩ : Parser.InRange name ∧
        Number.valueOf name ∈ parser.conditionNumbers := by
      simpa using tracks.recorded name member
    exact ⟨range, tracks.positive _ recorded, parsed.conditionNumbers_le _ recorded⟩
  · simpa using tracks.referred number member
  · obtain ⟨-, outside, whole⟩ := parsed.numbered
    simpa [Parser.kinds, outside, whole] using tracks.looking

end Pattern

end RuleLexer
