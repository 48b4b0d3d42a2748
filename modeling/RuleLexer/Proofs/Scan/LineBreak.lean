import RuleLexer.Proofs.Regex.Listing
import RuleLexer.Proofs.Rule.Dispatch
import RuleLexer.Proofs.Scan.Direct

namespace RuleLexer

namespace Direct

def isBlank (c : Char) : Bool :=
  Text.isBlank c.toNat

def closingLength? (text : List Char) : Option Nat :=
  match text.dropWhile isBlank with
  | '>' :: _ => some ((text.takeWhile isBlank).length + 1)
  | _ => none

/-- The length of the line break at the start of a text: `<br`, blanks, a slash or none, blanks and
`>`. -/
def breakLength? : List Char → Option Nat
  | '<' :: 'b' :: 'r' :: rest =>
    match rest.dropWhile isBlank with
    | '/' :: after =>
      (closingLength? after).map fun length => 3 + (rest.takeWhile isBlank).length + 1 + length
    | _ => (closingLength? rest).map fun length => 3 + length
  | _ => none

def IsBreak (text : List Char) (length : Nat) : Prop :=
  ∃ before slash after tail, (∀ c ∈ before, isBlank c = true) ∧ (slash = [] ∨ slash = ['/']) ∧
    (∀ c ∈ after, isBlank c = true) ∧
    text = "<br".toList ++ (before ++ (slash ++ (after ++ '>' :: tail))) ∧
    length = 3 + (before.length + (slash.length + (after.length + 1)))

theorem closingLength?_append {blanks tail : List Char} (blank : ∀ c ∈ blanks, isBlank c = true) :
    closingLength? (blanks ++ '>' :: tail) = some (blanks.length + 1) := by
  have bracket : isBlank '>' = false := by decide
  simp [closingLength?, List.dropWhile_append_of_pos blank, List.takeWhile_append_of_pos blank,
    bracket]

theorem of_closingLength? {text : List Char} {length : Nat}
    (closes : closingLength? text = some length) :
    ∃ blanks tail, (∀ c ∈ blanks, isBlank c = true) ∧ text = blanks ++ '>' :: tail ∧
      length = blanks.length + 1 := by
  unfold closingLength? at closes
  split at closes
  · next tail behind =>
    cases closes
    refine ⟨text.takeWhile isBlank, tail, List.all_eq_true.mp List.all_takeWhile, ?_, rfl⟩
    rw [← behind, List.takeWhile_append_dropWhile]
  · cases closes

theorem breakLength?_eq_some_iff {text : List Char} {length : Nat} :
    breakLength? text = some length ↔ IsBreak text length := by
  constructor
  · intro found
    unfold breakLength? at found
    split at found
    · next rest =>
      split at found
      · next after behind =>
        obtain ⟨inner, closes, rfl⟩ := Option.map_eq_some_iff.mp found
        obtain ⟨blanks, tail, blank, rfl, rfl⟩ := of_closingLength? closes
        refine ⟨rest.takeWhile isBlank, ['/'], blanks, tail,
          List.all_eq_true.mp List.all_takeWhile, .inr rfl, blank, ?_, by simp; omega⟩
        have split := List.takeWhile_append_dropWhile (p := isBlank) (l := rest)
        rw [behind] at split
        simp [split]
      · obtain ⟨inner, closes, rfl⟩ := Option.map_eq_some_iff.mp found
        obtain ⟨blanks, tail, blank, rfl, rfl⟩ := of_closingLength? closes
        exact ⟨blanks, [], [], tail, blank, .inl rfl, by simp, by simp, by simp⟩
    · cases found
  · rintro ⟨before, slash, after, tail, blank, slashed, alsoBlank, rfl, rfl⟩
    have slashBlank : isBlank '/' = false := by decide
    have bracketBlank : isBlank '>' = false := by decide
    rcases slashed with rfl | rfl
    · -- Without a slash the two runs of blanks are one.
      have joined : ∀ c ∈ before ++ after, isBlank c = true := by
        intro c member
        exact (List.mem_append.mp member).elim (blank c) (alsoBlank c)
      have bracket : (before ++ (after ++ '>' :: tail)).dropWhile isBlank = '>' :: tail := by
        rw [← List.append_assoc, List.dropWhile_append_of_pos joined]
        simp [bracketBlank]
      change breakLength? ('<' :: 'b' :: 'r' :: (before ++ (after ++ '>' :: tail))) = _
      rw [breakLength?, bracket]
      simp only [← List.append_assoc, closingLength?_append joined]
      simp [Nat.add_assoc]
    · have found : (before ++ ('/' :: (after ++ '>' :: tail))).dropWhile isBlank =
          '/' :: (after ++ '>' :: tail) := by
        rw [List.dropWhile_append_of_pos blank]
        simp [slashBlank]
      change breakLength? ('<' :: 'b' :: 'r' :: (before ++ ('/' :: (after ++ '>' :: tail)))) = _
      simp only [breakLength?, found, closingLength?_append alsoBlank]
      simp [List.takeWhile_append_of_pos blank, slashBlank, Nat.add_assoc]

end Direct

namespace Listing

/-- The lengths that the pattern of the line break tries. -/
def lineBreak : List Char → List Nat :=
  let blanks := star Text.isBlank
  seq (character (60 == ·)) (seq (character (98 == ·)) (seq (character (114 == ·)) (seq blanks
    (seq (greedy (47 == ·) 1) (seq blanks (character (62 == ·)))))))

theorem eq_of_beq_toNat {c d : Char} (same : (d.toNat == c.toNat) = true) : c = d :=
  (Char.toNat_inj.mp (eq_of_beq same)).symm

theorem isBreak_of_mem {text : List Char} {length : Nat} (tried : length ∈ lineBreak text) :
    Direct.IsBreak text length := by
  obtain ⟨angle, _, _, isAngle, rfl, behindAngle, rfl⟩ := mem_seq_character.mp tried
  obtain ⟨b, _, _, isB, rfl, behindB, rfl⟩ := mem_seq_character.mp behindAngle
  obtain ⟨r, _, _, isR, rfl, behindR, rfl⟩ := mem_seq_character.mp behindB
  obtain rfl : angle = '<' := eq_of_beq_toNat isAngle
  obtain rfl : b = 'b' := eq_of_beq_toNat isB
  obtain rfl : r = 'r' := eq_of_beq_toNat isR
  obtain ⟨before, _, _, blank, rfl, behindBlanks, rfl⟩ := mem_seq_star.mp behindR
  rcases mem_seq_optional.mp behindBlanks with slashed | unslashed
  · obtain ⟨slash, _, _, isSlash, rfl, behindSlash, rfl⟩ := mem_seq_character.mp slashed
    obtain ⟨after, _, _, alsoBlank, rfl, closed, rfl⟩ := mem_seq_star.mp behindSlash
    obtain ⟨bracket, tail, isBracket, rfl, rfl⟩ := mem_character.mp closed
    obtain rfl : slash = '/' := eq_of_beq_toNat isSlash
    obtain rfl : bracket = '>' := eq_of_beq_toNat isBracket
    exact ⟨before, ['/'], after, tail, blank, .inr rfl, alsoBlank, rfl, by simp; omega⟩
  · obtain ⟨after, _, _, alsoBlank, rfl, closed, rfl⟩ := mem_seq_star.mp unslashed
    obtain ⟨bracket, tail, isBracket, rfl, rfl⟩ := mem_character.mp closed
    obtain rfl : bracket = '>' := eq_of_beq_toNat isBracket
    exact ⟨before, [], after, tail, blank, .inl rfl, alsoBlank, rfl, by simp; omega⟩

theorem mem_of_isBreak {text : List Char} {length : Nat} (isBreak : Direct.IsBreak text length) :
    length ∈ lineBreak text := by
  obtain ⟨before, slash, after, tail, blank, slashed, alsoBlank, rfl, rfl⟩ := isBreak
  have closes : after.length + 1 ∈
      seq (star Text.isBlank) (character (62 == ·)) (after ++ '>' :: tail) :=
    mem_seq_star.mpr
      ⟨after, _, 1, alsoBlank, rfl, mem_character.mpr ⟨'>', tail, rfl, rfl, rfl⟩, rfl⟩
  have slashes : slash.length + (after.length + 1) ∈
      seq (greedy (47 == ·) 1) (seq (star Text.isBlank) (character (62 == ·)))
        (slash ++ (after ++ '>' :: tail)) := by
    apply mem_seq_optional.mpr
    rcases slashed with rfl | rfl
    · right
      simpa using closes
    · left
      exact mem_seq_character.mpr ⟨'/', _, _, rfl, rfl, closes, rfl⟩
  rw [Nat.add_assoc 1 2, Nat.add_assoc 1 1]
  apply mem_seq_character.mpr ⟨'<', _, _, rfl, rfl, _, rfl⟩
  apply mem_seq_character.mpr ⟨'b', _, _, rfl, rfl, _, rfl⟩
  apply mem_seq_character.mpr ⟨'r', _, _, rfl, rfl, _, rfl⟩
  exact mem_seq_star.mpr ⟨before, _, _, blank, rfl, slashes, rfl⟩

theorem head?_lineBreak (text : List Char) : (lineBreak text).head? = Direct.breakLength? text := by
  -- Every length that is tried is that of the one break there is, so the first of them is.
  cases tried : lineBreak text with
  | nil =>
    cases found : Direct.breakLength? text with
    | none => rfl
    | some length =>
      have member := mem_of_isBreak (Direct.breakLength?_eq_some_iff.mp found)
      rw [tried] at member
      cases member
  | cons length others =>
    have member : length ∈ lineBreak text := tried ▸ List.mem_cons_self
    rw [Direct.breakLength?_eq_some_iff.mpr (isBreak_of_mem member), List.head?_cons]

end Listing

theorem Mode.isChar_eq {mode : Mode} (sensitive : mode.ignoreCase = false) (code : Nat) :
    mode.isChar code = (code == ·) := by
  funext other
  simp [isChar, sensitive]

theorem Mode.inSet_category {mode : Mode} (category : Category) :
    mode.inSet false [.category category false] = mode.inCategory category := by
  funext code
  simp [inSet, holds]

theorem Regex.run_blank {mode : Mode} (unicode : mode.ascii = false) (text : Array Char) :
    (Regex.set false [.category .blank false]).run text mode =
      Step.character text Text.isBlank := by
  have blanks : mode.inCategory .blank = Text.isBlank := by
    funext code
    simp [Mode.inCategory, unicode]
  rw [Regex.run, Mode.inSet_category, blanks]

theorem htmlBreakTree_lists {mode : Mode} (sensitive : mode.ignoreCase = false)
    (unicode : mode.ascii = false) (text : Array Char) :
    Step.Lists text (htmlBreakTree.run text mode) Listing.lineBreak := by
  -- The tree gives the characters of `<br`, the slash and the bracket by their codes.
  have single (code : Nat) : (Regex.char code).run text mode =
      Step.character text (code == ·) := by
    rw [Regex.run, Mode.isChar_eq sensitive]
  have one (code : Nat) : Step.Lists text ((Regex.char code).run text mode)
      (Listing.character (code == ·)) :=
    single code ▸ .character text _
  have blanks := Step.Lists.star (Regex.run_blank unicode text)
  apply (one 60).seq
  apply (one 98).seq
  apply (one 114).seq
  apply blanks.seq
  apply (Step.Lists.optional (single 47)).seq
  exact blanks.seq (one 62)

theorem Pattern.matchAt?_group_of_lists {pattern : Pattern} {body : Regex} {text : Array Char}
    {lengths : List Char → List Nat}
    (lists : Step.Lists text (body.run text pattern.mode) lengths) (index start : Nat) :
    (pattern.only (.group index body)).matchAt? text start false =
      (lengths (text.toList.drop start)).head?.map fun length =>
        ⟨start, start + length, [(index, ⟨start, start + length⟩)], some index⟩ := by
  have same : (pattern.only (.group index body)).mode = pattern.mode := rfl
  simp only [matchAt?, only, Regex.run]
  rw [← only, same, lists]
  change Option.map _ ((lengths (text.toList.drop start)).findSome? _) = _
  cases lengths (text.toList.drop start) with
  | nil => rfl
  | cons length others => rfl

/-- A rule with the length of its match at the start of a text. -/
structure Measure where
  rule : CompiledRule
  length? : List Char → Option Nat

namespace Measure

def Fits (pattern : Pattern) (text : Array Char) (measure : Measure) (choice : Regex) : Prop :=
  ∃ body lengths, choice = .group measure.rule.groupIndex body ∧
    Step.Lists text (body.run text pattern.mode) lengths ∧
    ∀ rest, (lengths rest).head? = measure.length? rest

def found (measure : Measure) (start length : Nat) : Match :=
  ⟨start, start + length, [(measure.rule.groupIndex, ⟨start, start + length⟩)],
    some measure.rule.groupIndex⟩

def first? (measures : List Measure) (text : List Char) : Option (Measure × Nat) :=
  measures.findSome? fun measure => (measure.length? text).map fun length => (measure, length)

theorem matchAt?_eq_first? {pattern : Pattern} {text : Array Char} {measures : List Measure}
    (fits : List.Forall₂ (Fits pattern text) measures pattern.regex.alternatives) (start : Nat) :
    pattern.matchAt? text start false =
      (first? measures (text.toList.drop start)).map fun (measure, length) =>
        measure.found start length := by
  rw [Pattern.matchAt?_alternatives, first?]
  generalize pattern.regex.alternatives = choices at fits
  induction fits with
  | nil => rfl
  | @cons measure choice measures choices fit _ ih =>
    obtain ⟨body, lengths, rfl, lists, same⟩ := fit
    rw [List.findSome?_cons, List.findSome?_cons, Pattern.matchAt?_group_of_lists lists, same]
    cases measure.length? (text.toList.drop start) with
    | none => exact ih
    | some length => rfl

def htmlBreak : Measure := ⟨RuleLexer.htmlBreak, Direct.breakLength?⟩

theorem fits_htmlBreak {pattern : Pattern} (sensitive : pattern.mode.ignoreCase = false)
    (unicode : pattern.mode.ascii = false) (text : Array Char) :
    htmlBreak.Fits pattern text (.group 1 htmlBreakTree) :=
  ⟨htmlBreakTree, _, rfl, htmlBreakTree_lists sensitive unicode text, Listing.head?_lineBreak⟩

def sight (measures : List Measure) (text : List Char) : Sight :=
  match Direct.breakLength? text with
  | some length => .lineBreak length
  | none =>
    match first? measures text with
    | some (measure, length) => .lexeme measure.rule.name (!measure.rule.discard) length
    | none => .nothing

theorem breakLength?_pos {text : List Char} {length : Nat}
    (found : Direct.breakLength? text = some length) : 0 < length := by
  obtain ⟨before, slash, after, tail, -, -, -, -, rfl⟩ := Direct.breakLength?_eq_some_iff.mp found
  omega

theorem sees {set : RuleSet} {text : Array Char} {measures : List Measure} {total : Nat}
    (consecutive : Consecutive 0 set.rules total)
    (rules : set.rules = RuleLexer.htmlBreak :: measures.map rule)
    (fits : List.Forall₂ (Fits set.pattern text) (htmlBreak :: measures)
      set.pattern.regex.alternatives)
    (proper : ∀ measure ∈ measures, measure.rule.callback = none ∧
      ∀ rest length, measure.length? rest = some length → 0 < length) (start : Nat) :
    set.Sees text start (sight measures (text.toList.drop start)) := by
  have matched := matchAt?_eq_first? fits start
  have dispatched : ∀ measure ∈ htmlBreak :: measures,
      set.ruleForGroup? (some (Int.ofNat measure.rule.groupIndex)) = some measure.rule := by
    intro measure member
    have owned : measure.rule ∈ set.rules := by
      rw [rules]
      exact List.mem_map_of_mem (f := rule) member
    obtain ⟨before, after, order⟩ := List.append_of_mem owned
    exact RuleSet.ruleForGroup?_groupIndex consecutive order
  rw [first?, List.findSome?_cons] at matched
  unfold sight
  -- The rule of line breaks comes first, so the other measures count only where it fits nothing.
  cases breaks : Direct.breakLength? (text.toList.drop start) with
  | some length =>
    rw [show htmlBreak.length? = Direct.breakLength? from rfl, breaks] at matched
    have nonempty := breakLength?_pos breaks
    have seen := RuleSet.Sees.lineBreak matched (by dsimp only [found]; omega)
      (dispatched htmlBreak List.mem_cons_self)
    dsimp only [found] at seen
    rwa [Nat.add_sub_cancel_left] at seen
  | none =>
    rw [show htmlBreak.length? = Direct.breakLength? from rfl, breaks] at matched
    change _ = Option.map _ (first? measures _) at matched
    cases ahead : first? measures (text.toList.drop start) with
    | none =>
      rw [ahead] at matched
      exact .nothing matched
    | some result =>
      obtain ⟨measure, length⟩ := result
      rw [ahead] at matched
      obtain ⟨other, member, measured⟩ := List.exists_of_findSome?_eq_some ahead
      obtain ⟨_, measured, same⟩ := Option.map_eq_some_iff.mp measured
      cases same
      obtain ⟨callback, positive⟩ := proper measure member
      have nonempty := positive _ _ measured
      have seen := RuleSet.Sees.lexeme matched (by dsimp only [found]; omega)
        (dispatched measure (List.mem_cons_of_mem _ member)) callback
      dsimp only [found] at seen
      rwa [Nat.add_sub_cancel_left] at seen

end Measure

end RuleLexer
