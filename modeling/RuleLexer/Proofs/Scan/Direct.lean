import RuleLexer.Proofs.Scan.Coverage

namespace RuleLexer

inductive Sight where
  | lineBreak (length : Nat)
  | lexeme (name : String) (kept : Bool) (length : Nat)
  | nothing
deriving DecidableEq, Repr

namespace Direct

def flush (breaks passed : Nat) (pending : List Char) : List SkippedText :=
  if pending.isEmpty then [] else [⟨1 + breaks, 1 + passed, String.ofList pending⟩]

def lexemes (breaks passed : Nat) (name : String) (kept : Bool) (content : List Char) :
    List Token :=
  if kept then [⟨name, .text (String.ofList content), ⟨1 + breaks, 1 + passed⟩⟩] else []

def prepend (tokens : List Token) (skipped : List SkippedText) (result : ScanResult) : ScanResult :=
  ⟨tokens ++ result.tokens, skipped ++ result.skipped⟩

/-- Reads a text. There were `breaks` line breaks before, `passed` characters since the last of
them, and behind these the characters `pending`, at which nothing stood. -/
def read (look : List Char → Sight) (breaks passed : Nat) (pending : List Char) :
    List Char → ScanResult
  | [] => ⟨[], flush breaks passed pending⟩
  | c :: rest =>
    match look (c :: rest) with
    | .nothing => read look breaks passed (pending ++ [c]) rest
    | .lineBreak length =>
      prepend [] (flush breaks passed pending)
        (read look (breaks + 1) 0 [] (rest.drop (length - 1)))
    | .lexeme name kept length =>
      prepend (lexemes breaks (passed + pending.length) name kept ((c :: rest).take length))
        (flush breaks passed pending)
        (read look breaks (passed + pending.length + length) [] (rest.drop (length - 1)))
termination_by text => text.length
decreasing_by all_goals (simp; try omega)

def scan (look : List Char → Sight) (text : String) : ScanResult :=
  read look 0 0 [] text.toList

end Direct

/-- What a table sees at a place of a text: no match, a match of the line break, or one of a rule
that has no callback. -/
inductive RuleSet.Sees (set : RuleSet) (text : Array Char) (start : Nat) : Sight → Prop
  | nothing (missed : set.pattern.matchAt? text start false = none) : Sees set text start .nothing
  | lineBreak {found : Match} (matched : set.pattern.matchAt? text start false = some found)
    (nonempty : start < found.stop)
    (dispatched : set.ruleForGroup? (found.lastGroup.map Int.ofNat) = some htmlBreak) :
    Sees set text start (.lineBreak (found.stop - start))
  | lexeme {found : Match} {rule : CompiledRule}
    (matched : set.pattern.matchAt? text start false = some found) (nonempty : start < found.stop)
    (dispatched : set.ruleForGroup? (found.lastGroup.map Int.ofNat) = some rule)
    (callback : rule.callback = none) :
    Sees set text start (.lexeme rule.name (!rule.discard) (found.stop - start))

theorem RuleSet.Sees.missed_at_end {set : RuleSet} {text : Array Char} {start : Nat} {sight : Sight}
    (sees : set.Sees text start sight) (atEnd : start = text.size) :
    set.pattern.matchAt? text start false = none := by
  cases sees with
  | nothing missed => exact missed
  | lineBreak matched nonempty _ =>
    have inside := (Pattern.stop_of_matchAt? (Nat.le_of_eq atEnd) matched).2.1
    omega
  | lexeme matched nonempty _ _ =>
    have inside := (Pattern.stop_of_matchAt? (Nat.le_of_eq atEnd) matched).2.1
    omega

namespace Search

variable {pattern : Pattern} {text : Array Char} {position place : Nat}

theorem next?_of_first {found : Match}
    (missed : ∀ earlier, position ≤ earlier → earlier < place →
      pattern.matchAt? text earlier false = none)
    (ahead : position ≤ place) (inside : place ≤ text.size)
    (matched : pattern.matchAt? text place false = some found) :
    (⟨position, false⟩ : Search).next? pattern text =
      some (found, ⟨found.stop, found.isEmpty⟩) := by
  cases step : (⟨position, false⟩ : Search).next? pattern text with
  | none =>
    have nowhere := misses_of_next?_eq_none step place ahead (Nat.lt_succ_of_le inside)
    rw [Bool.false_and, matched] at nowhere
    cases nowhere
  | some result =>
    obtain ⟨other, after⟩ := result
    obtain ⟨reached, -, -, here, first, -, rfl⟩ := finds_of_next? step
    rw [Bool.false_and] at here
    -- The search stops at the first place with a match, and that is `place`.
    rcases Nat.lt_trichotomy other.start place with before | same | behind
    · have nothing := missed other.start reached before
      rw [nothing] at here
      cases here
    · rw [same, matched] at here
      cases here
      rfl
    · have nothing := first place ahead behind
      rw [Bool.false_and, matched] at nothing
      cases nothing

theorem next?_of_misses
    (missed : ∀ place, position ≤ place → place ≤ text.size →
      pattern.matchAt? text place false = none) :
    (⟨position, false⟩ : Search).next? pattern text = none := by
  cases step : (⟨position, false⟩ : Search).next? pattern text with
  | none => rfl
  | some result =>
    obtain ⟨found, after⟩ := result
    obtain ⟨reached, forward, inside, matched, -, -, -⟩ := finds_of_next? step
    have nothing := missed found.start reached (Nat.le_trans forward inside)
    rw [Bool.false_and, nothing] at matched
    cases matched

end Search

theorem sliceText_eq_take_drop (text : Array Char) (start stop : Nat) :
    sliceText text start stop = String.ofList ((text.toList.drop start).take (stop - start)) := by
  rw [sliceText, Array.toList_extract, List.extract_eq_take_drop]

namespace Scanner

structure Keeps (scanner : Scanner) (breaks passed : Nat) (pending rest : List Char) : Prop where
  search : scanner.search = ⟨scanner.position, false⟩
  state : scanner.state = ⟨1 + breaks, 1 + passed, false⟩
  inside : scanner.position ≤ scanner.text.size
  text : scanner.text.toList.drop scanner.position = pending ++ rest
  missed : ∀ place, scanner.position ≤ place → place < scanner.position + pending.length →
    scanner.set.pattern.matchAt? scanner.text place false = none

namespace Keeps

variable {scanner : Scanner} {breaks passed : Nat} {pending rest : List Char}

theorem size (keeps : scanner.Keeps breaks passed pending rest) :
    scanner.text.size = scanner.position + (pending.length + rest.length) := by
  have length := congrArg List.length keeps.text
  have total : scanner.text.toList.length = scanner.text.size := Array.length_toList
  rw [List.length_drop, List.length_append] at length
  have inside := keeps.inside
  omega

theorem drop (keeps : scanner.Keeps breaks passed pending rest) :
    scanner.text.toList.drop (scanner.position + pending.length) = rest := by
  rw [← List.drop_drop, keeps.text, List.drop_left]

theorem gapTo (keeps : scanner.Keeps breaks passed pending rest) :
    (scanner.gapTo (scanner.position + pending.length)).toList =
      Direct.flush breaks passed pending := by
  unfold Scanner.gapTo Direct.flush
  cases pending with
  | nil => simp
  | cons c pending =>
    rw [if_pos (by simp), sliceText_eq_take_drop, Nat.add_sub_cancel_left, keeps.text,
      List.take_left, keeps.state]
    rfl

theorem entering (keeps : scanner.Keeps breaks passed pending rest) :
    scanner.entering (scanner.position + pending.length) =
      ⟨1 + breaks, 1 + (passed + pending.length : Nat), false⟩ := by
  unfold Scanner.entering
  cases pending with
  | nil => simpa using keeps.state
  | cons c pending =>
    rw [if_pos (by simp), keeps.state, Nat.add_sub_cancel_left]
    simp [ScanState.skip, Int.add_assoc]

theorem visits {found : Match} {rule : CompiledRule} {content : Value} {left : ScanState}
    (keeps : scanner.Keeps breaks passed pending rest)
    (quiet : ∀ handler, scanner.config.onSkip = some handler → ∀ skipped, handler skipped = none)
    (matched : scanner.set.pattern.matchAt? scanner.text (scanner.position + pending.length) false =
      some found)
    (dispatched : scanner.set.ruleForGroup? (found.lastGroup.map Int.ofNat) = some rule)
    (called : ∀ context, (contentOf { scanner with state := scanner.entering found.start } rule
      found).Returns context (content, left) context) (before : Context) :
    ∃ after, scanner.Visits before ⟨found, rule, scanner.position, scanner.gapTo found.start,
      scanner.entering found.start, content, left⟩ after := by
  obtain ⟨_, middle, reported⟩ :=
    reportGap_alwaysReturns quiet (scanner.numbered (scanner.gapTo found.start)) before
  have next : scanner.search.next? scanner.set.pattern scanner.text =
      some (found, ⟨found.stop, found.isEmpty⟩) := by
    rw [keeps.search]
    apply Search.next?_of_first keeps.missed (Nat.le_add_right _ _) _ matched
    have size := keeps.size
    omega
  exact ⟨middle, next, dispatched, rfl, rfl, rfl, middle, reported, called middle⟩

theorem passVisit {visit : Visit} {length lines since : Nat}
    (keeps : scanner.Keeps breaks passed pending rest)
    (start : visit.found.start = scanner.position + pending.length)
    (stop : visit.found.stop = visit.found.start + length) (nonempty : 0 < length)
    (inside : visit.found.stop ≤ scanner.text.size)
    (left : visit.left.passMatch length = ⟨1 + lines, 1 + since, false⟩) :
    (scanner.passVisit visit).Keeps lines since [] (rest.drop length) where
  search := by
    have apart : visit.found.isEmpty = false := beq_false_of_ne (by omega)
    rw [Scanner.passVisit, apart]
  state := by
    rw [Scanner.passVisit, stop, Nat.add_sub_cancel_left, left]
  inside := inside
  text := by
    change scanner.text.toList.drop visit.found.stop = rest.drop length
    rw [stop, start, ← List.drop_drop, keeps.drop]
  missed := by
    intro place low high
    exact absurd high (Nat.not_lt.mpr low)

theorem sees {look : List Char → Sight} (keeps : scanner.Keeps breaks passed pending rest)
    (sees : ∀ start ≤ scanner.text.size,
      scanner.set.Sees scanner.text start (look (scanner.text.toList.drop start))) :
    scanner.set.Sees scanner.text (scanner.position + pending.length) (look rest) := by
  have size := keeps.size
  rw [← keeps.drop]
  exact sees _ (by omega)

theorem push {c : Char} (keeps : scanner.Keeps breaks passed pending (c :: rest))
    (missed : scanner.set.pattern.matchAt? scanner.text (scanner.position + pending.length) false =
      none) : scanner.Keeps breaks passed (pending ++ [c]) rest where
  search := keeps.search
  state := keeps.state
  inside := keeps.inside
  text := by simpa using keeps.text
  missed := by
    intro place low high
    rw [List.length_append, List.length_singleton] at high
    rcases Nat.lt_or_eq_of_le (Nat.le_of_lt_succ high) with before | rfl
    · exact keeps.missed place low before
    · exact missed

theorem stops (keeps : scanner.Keeps breaks passed pending [])
    (missed : scanner.set.pattern.matchAt? scanner.text scanner.text.size false = none) :
    scanner.search.next? scanner.set.pattern scanner.text = none := by
  have size : scanner.text.size = scanner.position + pending.length := keeps.size
  rw [keeps.search]
  apply Search.next?_of_misses
  intro place low high
  rcases Nat.lt_or_eq_of_le high with before | rfl
  · exact keeps.missed place low (size ▸ before)
  · exact missed

end Keeps

def Gives (scanner : Scanner) (before : Context) (result : ScanResult) : Prop :=
  ∃ visits middle stopped after, scanner.Completes before visits middle stopped after ∧
    visits.filterMap Visit.token = result.tokens ∧
    visits.filterMap Visit.gap ++ (stopped.gapTo stopped.text.size).toList = result.skipped

theorem Gives.cons {scanner : Scanner} {visit : Visit} {before middle : Context}
    {result : ScanResult} (visited : scanner.Visits before visit middle)
    (rest : (scanner.passVisit visit).Gives middle result) :
    scanner.Gives before (Direct.prepend visit.token.toList visit.gap.toList result) := by
  obtain ⟨visits, last, stopped, after, completes, tokens, skipped⟩ := rest
  refine ⟨visit :: visits, last, stopped, after,
    ⟨.cons visited completes.trace, completes.stops, completes.reported⟩, ?_, ?_⟩
  · rw [Direct.prepend, ← tokens]
    cases made : visit.token <;> simp [made]
  · rw [Direct.prepend, ← skipped]
    cases gap : visit.gap <;> simp [gap]

theorem Keeps.gives {scanner : Scanner} {breaks passed : Nat} {pending rest : List Char} {c : Char}
    {found : Match} {rule : CompiledRule} {content : Value} {left : ScanState} {result : ScanResult}
    (lines since : Nat) (keeps : scanner.Keeps breaks passed pending (c :: rest))
    (quiet : ∀ handler, scanner.config.onSkip = some handler → ∀ skipped, handler skipped = none)
    (matched : scanner.set.pattern.matchAt? scanner.text (scanner.position + pending.length) false =
      some found)
    (nonempty : scanner.position + pending.length < found.stop)
    (dispatched : scanner.set.ruleForGroup? (found.lastGroup.map Int.ofNat) = some rule)
    (called : ∀ context, (contentOf { scanner with state := scanner.entering found.start } rule
      found).Returns context (content, left) context)
    (passes : left.passMatch (found.stop - (scanner.position + pending.length)) =
      ⟨1 + lines, 1 + since, false⟩)
    (later : ∀ visit, (scanner.passVisit visit).Keeps lines since []
      (rest.drop (found.stop - (scanner.position + pending.length) - 1)) →
        ∀ middle, (scanner.passVisit visit).Gives middle result) (before : Context) :
    scanner.Gives before (Direct.prepend (tokenOf rule content left).toList
      (Direct.flush breaks passed pending) result) := by
  have start := Pattern.start_of_matchAt? matched
  have size := keeps.size
  have inside := (Pattern.stop_of_matchAt? (by omega) matched).2.1
  obtain ⟨middle, visited⟩ := keeps.visits quiet matched dispatched called before
  have shorter : (c :: rest).drop (found.stop - (scanner.position + pending.length)) =
      rest.drop (found.stop - (scanner.position + pending.length) - 1) := by
    obtain ⟨length, same⟩ := Nat.exists_eq_add_of_lt nonempty
    rw [same, Nat.add_assoc, Nat.add_sub_cancel_left]
    rfl
  rw [← keeps.gapTo, ← start]
  refine Gives.cons visited (later _ (shorter ▸ ?_) middle)
  apply keeps.passVisit start _ _ inside passes
  · dsimp only
    omega
  · omega

/-- A scan that sees at every place what `look` sees goes on as the reader does. -/
theorem gives_of_keeps {look : List Char → Sight} {scanner : Scanner} {breaks passed : Nat}
    {pending rest : List Char}
    (quiet : ∀ handler, scanner.config.onSkip = some handler → ∀ skipped, handler skipped = none)
    (sees : ∀ start ≤ scanner.text.size,
      scanner.set.Sees scanner.text start (look (scanner.text.toList.drop start)))
    (keeps : scanner.Keeps breaks passed pending rest) (before : Context) :
    scanner.Gives before (Direct.read look breaks passed pending rest) := by
  -- By the reader's own recursion; what it sees decides what the scanner finds at the same place.
  fun_induction Direct.read look breaks passed pending rest generalizing scanner before with
  | case1 breaks passed pending =>
    have size : scanner.text.size = scanner.position + pending.length := keeps.size
    have stops := keeps.stops ((sees _ (Nat.le_refl _)).missed_at_end rfl)
    obtain ⟨_, after, reported⟩ :=
      reportGap_alwaysReturns quiet (scanner.numbered (scanner.gapTo scanner.text.size)) before
    refine ⟨[], before, scanner, after, ⟨.nil, stops, reported⟩, rfl, ?_⟩
    rw [size]
    exact keeps.gapTo
  | case2 breaks passed pending c rest nothing ih =>
    have seen := keeps.sees sees
    rw [nothing] at seen
    cases seen with
    | nothing missed => exact ih quiet sees (keeps.push missed) before
  | case3 breaks passed pending c rest length isBreak ih =>
    have seen := keeps.sees sees
    rw [isBreak] at seen
    cases seen with
    | lineBreak matched nonempty dispatched =>
      have start := Pattern.start_of_matchAt? matched
      let here : ScanState := ⟨1 + breaks, 1 + (passed + pending.length : Nat), false⟩
      have token : (tokenOf htmlBreak .null here.breakLine).toList = [] := rfl
      rw [← token]
      apply keeps.gives (breaks + 1) 0 quiet matched nonempty dispatched
      · intro context
        rw [start, keeps.entering]
        rfl
      · simp [here, ScanState.passMatch, ScanState.breakLine, Int.add_assoc]
      · intro visit next middle
        refine ih ?_ ?_ next middle
        · exact quiet
        · exact sees
  | case4 breaks passed pending c rest name kept length isLexeme ih =>
    have seen := keeps.sees sees
    rw [isLexeme] at seen
    cases seen with
    | @lexeme found rule matched nonempty dispatched callback =>
      have start := Pattern.start_of_matchAt? matched
      let here : ScanState := ⟨1 + breaks, 1 + (passed + pending.length : Nat), false⟩
      let content := (c :: rest).take (found.stop - (scanner.position + pending.length))
      have text : sliceText scanner.text found.start found.stop = String.ofList content := by
        rw [sliceText_eq_take_drop, start, keeps.drop]
      have token : (tokenOf rule (.text (String.ofList content)) here).toList =
          Direct.lexemes breaks (passed + pending.length) rule.name (!rule.discard) content := by
        unfold tokenOf Direct.lexemes
        cases rule.discard <;> rfl
      rw [← token]
      apply keeps.gives breaks (passed + pending.length +
        (found.stop - (scanner.position + pending.length))) quiet matched nonempty dispatched
      · intro context
        rw [contentOf, callback, text, start, keeps.entering]
        exact Run.returns_pure.mpr ⟨rfl, rfl⟩
      · simp [here, ScanState.passMatch, ScanState.skip, Int.add_assoc]
      · intro visit next middle
        refine ih ?_ ?_ next middle
        · exact quiet
        · exact sees

end Scanner

/-- A table that sees what `look` sees, with a handler that does not fail, scans every text as the
reader reads it. -/
theorem RuleSet.scan_returns_direct {set : RuleSet} {look : List Char → Sight} (config : Config)
    (quiet : ∀ handler, config.onSkip = some handler → ∀ skipped, handler skipped = none)
    {text : String} (sees : ∀ start ≤ text.toList.toArray.size,
      set.Sees text.toList.toArray start (look (text.toList.drop start))) (context : Context) :
    ∃ after, (set.scan config text).Returns context (Direct.scan look text) after := by
  have keeps : (set.scanner config text).Keeps 0 0 [] text.toList :=
    ⟨rfl, rfl, Nat.zero_le _, rfl, fun place low high => absurd high (Nat.not_lt.mpr low)⟩
  obtain ⟨visits, middle, stopped, after, completes, tokens, skipped⟩ :=
    Scanner.gives_of_keeps quiet sees keeps context
  exact scan_returns_iff.mpr ⟨visits, _, ⟨middle, stopped, after, completes, rfl⟩, tokens.symm,
    skipped.symm⟩

end RuleLexer
