import RuleLexer.Proofs.Scan.LineBreak

namespace RuleLexer

namespace Direct

def isWord (c : Char) : Bool :=
  Text.isWord c.toNat

/-- What stands at the start of a text for the default table: a line break, a run of white space,
which is dropped, a run of word characters or any other character. -/
def defaultSight (text : List Char) : Sight :=
  match breakLength? text with
  | some length => .lineBreak length
  | none =>
    match text with
    | [] => .nothing
    | c :: rest =>
      if isBlank c then .lexeme "WHITESPACE" false ((c :: rest).takeWhile isBlank).length
      else if isWord c then .lexeme "WORD" true ((c :: rest).takeWhile isWord).length
      else .lexeme "WORD" true 1

theorem skipped_read {look : List Char → Sight} (seen : ∀ c rest, look (c :: rest) ≠ .nothing)
    (breaks passed : Nat) (text : List Char) : (read look breaks passed [] text).skipped = [] := by
  generalize none : ([] : List Char) = pending
  fun_induction read look breaks passed pending text with
  | case1 breaks passed pending =>
    subst none
    rfl
  | case2 breaks passed pending c rest nothing _ => exact absurd nothing (seen c rest)
  | case3 breaks passed pending c rest length isBreak ih =>
    subst none
    exact ih rfl
  | case4 breaks passed pending c rest name kept length isLexeme ih =>
    subst none
    exact ih rfl

theorem defaultSight_ne_nothing (c : Char) (rest : List Char) :
    defaultSight (c :: rest) ≠ .nothing := by
  unfold defaultSight
  split
  · exact nofun
  · dsimp only
    split
    · exact nofun
    · split <;> exact nofun

end Direct

def defaultSet : RuleSet where
  rules := [htmlBreak, ⟨"WHITESPACE", "\\s+".toList, none, true, 0, 2⟩,
    ⟨"WORD", "\\w+|.".toList, none, false, 0, 3⟩]
  pattern :=
    { source := "(<br\\s*/?\\s*>)|(\\s+)|(\\w+|.)".toList
      regex := .alt (.group 1 htmlBreakTree)
        (.alt (.group 2 (.repeated .greedy 1 none (.set false [.category .blank false])))
          (.group 3 (.alt (.repeated .greedy 1 none (.set false [.category .word false])) .any)))
      groups := 3
      names := []
      flags := .ofList [.unicode, .multiLine] }

namespace Listing

theorem head?_star (accepts : Nat → Bool) (rest : List Char) :
    (star accepts rest).head? = some (rest.takeWhile fun c => accepts c.toNat).length := by
  rw [star, List.range_succ, List.reverse_concat, List.head?_cons]

theorem head?_plus (accepts : Nat → Bool) (rest : List Char) :
    (seq (character accepts) (star accepts) rest).head? =
      match rest with
      | c :: _ =>
        if accepts c.toNat then some (rest.takeWhile fun c => accepts c.toNat).length else none
      | [] => none := by
  cases rest with
  | nil => rfl
  | cons c rest =>
    by_cases accepted : accepts c.toNat
    · simp [seq, character, accepted, head?_star, Nat.add_comm]
    · simp [seq, character, accepted]

end Listing

namespace Measure

def blanks : Measure where
  rule := ⟨"WHITESPACE", "\\s+".toList, none, true, 0, 2⟩
  length? text :=
    (Listing.seq (Listing.character Text.isBlank) (Listing.star Text.isBlank) text).head?

def words : Measure where
  rule := ⟨"WORD", "\\w+|.".toList, none, false, 0, 3⟩
  length? text := (Listing.alt
    (Listing.seq (Listing.character Text.isWord) (Listing.star Text.isWord))
    (Listing.character (· != '\n'.toNat)) text).head?

theorem fits_blanks (text : Array Char) : blanks.Fits defaultSet.pattern text
    (.group 2 (.repeated .greedy 1 none (.set false [.category .blank false]))) :=
  ⟨_, _, rfl, .plus (Regex.run_blank rfl text), fun _ => rfl⟩

theorem fits_words (text : Array Char) : words.Fits defaultSet.pattern text
    (.group 3 (.alt (.repeated .greedy 1 none (.set false [.category .word false])) .any)) := by
  have single : (Regex.set false [.category .word false]).run text defaultSet.pattern.mode =
      Step.character text Text.isWord := by
    rw [Regex.run, Mode.inSet_category]
    rfl
  exact ⟨_, _, rfl, (Step.Lists.plus single).alt (.character text _), fun _ => rfl⟩

theorem sight_default (text : List Char) :
    sight [blanks, words] text = Direct.defaultSight text := by
  unfold sight Direct.defaultSight
  cases Direct.breakLength? text with
  | some length => rfl
  | none =>
    cases text with
    | nil => rfl
    | cons c rest =>
      simp only [first?, List.findSome?_cons, List.findSome?_nil, blanks, words, Listing.alt,
        List.head?_append, Listing.head?_plus, Listing.character]
      by_cases blank : Direct.isBlank c
      · have blankCode : Text.isBlank c.toNat = true := blank
        simp only [blank, blankCode, if_true, Option.map_some]
        rfl
      · have blankCode : Text.isBlank c.toNat = false := Bool.eq_false_iff.mpr blank
        by_cases word : Direct.isWord c
        · have wordCode : Text.isWord c.toNat = true := word
          simp only [blank, blankCode, word, wordCode, if_true, if_false, Option.map_none,
            Option.some_or, Option.map_some, Bool.false_eq_true]
          rfl
        · -- A newline is blank, so the character here is one that the dot matches.
          have wordCode : Text.isWord c.toNat = false := Bool.eq_false_iff.mpr word
          have newline : (c.toNat != '\n'.toNat) = true := by
            refine bne_iff_ne.mpr fun same => ?_
            rw [same] at blankCode
            cases blankCode
          simp only [blank, blankCode, word, wordCode, newline, if_true, if_false, Option.map_none,
            Option.none_or, List.head?_cons, Option.map_some, Bool.false_eq_true]
          rfl

theorem sees_default (text : Array Char) (start : Nat) :
    defaultSet.Sees text start (Direct.defaultSight (text.toList.drop start)) := by
  rw [← sight_default]
  have consecutive : Consecutive 0 defaultSet.rules 3 := ⟨rfl, rfl, rfl, rfl⟩
  apply sees consecutive rfl
  · exact .cons (fits_htmlBreak rfl rfl text)
      (.cons (fits_blanks text) (.cons (fits_words text) .nil))
  · intro measure member
    have positive (accepts : Nat → Bool) (rest : List Char) (length : Nat)
        (tried : length ∈ Listing.seq (Listing.character accepts) (Listing.star accepts) rest) :
        0 < length := by
      obtain ⟨_, _, inner, _, _, _, rfl⟩ := Listing.mem_seq_character.mp tried
      omega
    rcases List.mem_pair.mp member with rfl | rfl
    · refine ⟨rfl, fun rest length first => ?_⟩
      exact positive _ rest length (List.mem_of_head? first)
    · refine ⟨rfl, fun rest length first => ?_⟩
      rcases List.mem_append.mp (List.mem_of_head? first) with run | other
      · exact positive _ rest length run
      · obtain ⟨_, _, _, _, rfl⟩ := Listing.mem_character.mp other
        exact Nat.one_pos

end Measure

/-- The default table scans every text as a lexer does that is written by hand: it consumes line
breaks, drops white space, makes tokens of words and of other single characters, and skips
nothing. -/
theorem scanText_defaultTable (text : String) (context : Context) :
    (∃ after, (scanText (some defaultTable) (some {}) text).Returns context
      (Direct.scan Direct.defaultSight text) after) ∧
    (Direct.scan Direct.defaultSight text).isComplete = true := by
  constructor
  · have compiles : (RuleSet.compile {} (some defaultTable)).Returns context defaultSet
        (context.emit (.compiled 3 3)) := rfl
    obtain ⟨after, scans⟩ := RuleSet.scan_returns_direct {} nofun
      (fun start _ => Measure.sees_default text.toList.toArray start) (context.emit (.compiled 3 3))
    refine ⟨after, ?_⟩
    exact Run.returns_bind.mpr ⟨{}, context, rfl, Run.returns_bind.mpr ⟨_, _, compiles, scans⟩⟩
  · rw [ScanResult.isComplete, Direct.scan, Direct.skipped_read Direct.defaultSight_ne_nothing]
    rfl

end RuleLexer
