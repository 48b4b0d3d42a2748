import RuleLexer.Proofs.Scan.Trace

namespace RuleLexer

theorem sliceText_append (text : Array Char) {start middle stop : Nat} (first : start ≤ middle)
    (second : middle ≤ stop) :
    sliceText text start middle ++ sliceText text middle stop = sliceText text start stop := by
  unfold sliceText
  rw [← String.ofList_append, ← Array.toList_append, Array.extract_append_extract]
  rw [Nat.min_eq_left first, Nat.max_eq_right second]

theorem sliceText_all (text : String) :
    sliceText text.toList.toArray 0 text.toList.toArray.size = text := by
  unfold sliceText
  rw [Array.extract_size, List.toList_toArray, String.ofList_toList]

theorem sliceText_ne_empty {text : Array Char} {start stop : Nat} (some' : start < stop)
    (inside : stop ≤ text.size) : sliceText text start stop ≠ "" := by
  intro empty
  have length := congrArg (·.toList.length) empty
  simp [sliceText] at length
  omega

def Visit.texts (text : Array Char) (visit : Visit) : List String :=
  visit.gap.toList.map SkippedText.text ++ [sliceText text visit.found.start visit.found.stop]

def lastStop (visits : List Visit) : Nat :=
  (visits.getLast?.map (·.found.stop)).getD 0

/-- Text from the last match up to `stop` that is skipped: it is not empty, no match starts inside
it, and where it starts none does, except that the last match may have been empty; then none starts
there that is not. -/
structure Unmatched (pattern : Pattern) (text : Array Char) (earlier : List Visit) (stop : Nat) :
    Prop where
  nonempty : lastStop earlier < stop
  inside : ∀ place, lastStop earlier < place → place < stop →
    pattern.matchAt? text place false = none
  first : pattern.matchAt? text (lastStop earlier) false = none ∨
    (pattern.matchAt? text (lastStop earlier) true = none ∧
      ∃ visit, earlier.getLast? = some visit ∧ visit.found.isEmpty)

namespace Scanner

structure Follows (scanner : Scanner) (earlier : List Visit) : Prop where
  aligned : scanner.search.position = scanner.position
  position : scanner.position = lastStop earlier
  inside : scanner.position ≤ scanner.text.size
  afterEmpty : scanner.search.afterEmpty = true →
    ∃ visit, earlier.getLast? = some visit ∧ visit.found.isEmpty

variable {scanner last : Scanner} {visit : Visit} {earlier visits : List Visit}
  {before after : Context}

theorem Follows.unmatched {stop : Nat} (follows : scanner.Follows earlier)
    (missed : scanner.search.Misses scanner.set.pattern scanner.text stop)
    (gap : scanner.position < stop) :
    Unmatched scanner.set.pattern scanner.text earlier stop where
  nonempty := follows.position ▸ gap
  inside := by
    intro place low high
    rw [← follows.position] at low
    have unmatched := missed place (by rw [follows.aligned]; omega) high
    have elsewhere : (place == scanner.search.position) = false :=
      beq_false_of_ne (by rw [follows.aligned]; omega)
    simpa [elsewhere] using unmatched
  first := by
    have unmatched := missed scanner.position (Nat.le_of_eq follows.aligned) gap
    -- Where the search stands it asks for a match that is not empty only after an empty one.
    simp only [follows.aligned, BEq.rfl, Bool.and_true] at unmatched
    rw [← follows.position]
    cases flag : scanner.search.afterEmpty with
    | false => exact .inl (flag ▸ unmatched)
    | true => exact .inr ⟨flag ▸ unmatched, follows.afterEmpty flag⟩

theorem join_gapTo {stop : Nat} (ahead : scanner.position ≤ stop) :
    String.join ((scanner.gapTo stop).toList.map SkippedText.text) =
      sliceText scanner.text scanner.position stop := by
  unfold gapTo
  split
  · simp
  · have same : stop = scanner.position := by omega
    simp [same, sliceText]

theorem text_of_gapTo {stop : Nat} {gap : SkippedText} (skipped : scanner.gapTo stop = some gap) :
    scanner.position < stop ∧ gap.text = sliceText scanner.text scanner.position stop := by
  unfold gapTo at skipped
  split at skipped
  · cases skipped
    exact ⟨by assumption, rfl⟩
  · cases skipped

theorem Visits.follows (visited : scanner.Visits before visit after) (earlier : List Visit) :
    (scanner.passVisit visit).Follows (earlier ++ [visit]) where
  aligned := rfl
  position := by simp [lastStop, passVisit]
  inside := visited.finds.inside
  afterEmpty := fun empty => ⟨visit, by simp, empty⟩

theorem Follows.texts (follows : scanner.Follows earlier)
    (visited : scanner.Visits before visit after) :
    String.join (visit.texts scanner.text) =
      sliceText scanner.text scanner.position visit.found.stop := by
  have finds := visited.finds
  have ahead : scanner.position ≤ visit.found.start := follows.aligned ▸ finds.reached
  unfold Visit.texts
  rw [visited.gap, String.join_append, join_gapTo ahead, String.join_cons, String.join_nil,
    String.append_empty]
  exact sliceText_append _ ahead finds.forward

theorem Trace.covers (trace : Trace before scanner visits after last)
    (follows : scanner.Follows earlier) :
    String.join (visits.flatMap (Visit.texts scanner.text)) =
        sliceText scanner.text scanner.position last.position ∧
      scanner.position ≤ last.position ∧ last.Follows (earlier ++ visits) := by
  induction trace generalizing earlier with
  | nil =>
    refine ⟨?_, Nat.le_refl _, by simpa using follows⟩
    simp [sliceText]
  | @cons _ _ _ scanner last visit visits visited _ ih =>
    obtain ⟨covered, onward, final⟩ := ih (visited.follows _)
    have finds := visited.finds
    have ahead : scanner.position ≤ visit.found.stop :=
      Nat.le_trans (follows.aligned ▸ finds.reached) finds.forward
    refine ⟨?_, Nat.le_trans ahead onward, by simpa using final⟩
    rw [List.flatMap_cons, String.join_append, follows.texts visited]
    exact (congrArg _ covered).trans (sliceText_append _ ahead onward)

theorem Trace.gaps (trace : Trace before scanner visits after last)
    (follows : scanner.Follows earlier) :
    ∀ front visit back, visits = front ++ visit :: back → ∀ gap, visit.gap = some gap →
      gap.text = sliceText scanner.text (lastStop (earlier ++ front)) visit.found.start ∧
        visit.found.start ≤ scanner.text.size ∧
        Unmatched scanner.set.pattern scanner.text (earlier ++ front) visit.found.start := by
  induction trace generalizing earlier with
  | nil => simp
  | @cons _ _ _ scanner last visit visits visited _ ih =>
    intro front other back split gap skipped
    cases front with
    | nil =>
      obtain ⟨rfl, -⟩ := List.cons.inj split
      have finds := visited.finds
      rw [visited.gap] at skipped
      obtain ⟨nonempty, text⟩ := text_of_gapTo skipped
      rw [List.append_nil, ← follows.position]
      exact ⟨text, Nat.le_trans finds.forward finds.inside,
        follows.unmatched finds.missed nonempty⟩
    | cons head front =>
      obtain ⟨rfl, rest⟩ := List.cons.inj split
      have later := ih (visited.follows earlier) front other back rest gap skipped
      simpa using later

theorem Trace.matches_eq (trace : Trace before scanner visits after last) :
    scanner.search.remaining scanner.set.pattern scanner.text =
      visits.map Visit.found ++ last.search.remaining last.set.pattern last.text := by
  induction trace with
  | nil => simp
  | cons visited _ ih =>
    rw [Search.remaining_of_next? visited.next, List.map_cons, List.cons_append, ← ih]
    rfl

theorem Trace.dispatched (trace : Trace before scanner visits after last) :
    ∀ visit ∈ visits,
      scanner.set.ruleForGroup? (visit.found.lastGroup.map Int.ofNat) = some visit.rule := by
  induction trace with
  | nil => simp
  | cons visited _ ih =>
    intro other member
    rcases List.mem_cons.mp member with rfl | member
    · exact visited.rule
    · exact ih other member

theorem reportGap_alwaysReturns {config : Config}
    (quiet : ∀ handler, config.onSkip = some handler → ∀ skipped, handler skipped = none)
    (gap : Option Gap) : (reportGap config gap).AlwaysReturns := by
  intro context
  cases gap with
  | none => exact ⟨(), context, rfl⟩
  | some skipped =>
    simp only [reportGap, report]
    cases given : config.onSkip with
    | none => split <;> exact ⟨(), _, rfl⟩
    | some handler =>
      simp only [quiet handler given]
      split <;> exact ⟨(), _, rfl⟩

theorem contentOf_alwaysReturns (scanner : Scanner) {rule : CompiledRule}
    (returning : ∀ callback, rule.callback = some callback → ∀ captures state,
      (callback captures state).AlwaysReturns)
    (found : Match) : (scanner.contentOf rule found).AlwaysReturns := by
  intro context
  unfold contentOf
  cases given : rule.callback with
  | none => exact ⟨_, context, rfl⟩
  | some callback => exact returning callback given _ _ context

theorem exists_completes (scanner : Scanner) (before : Context)
    (returning : ∀ rule ∈ scanner.set.rules, ∀ callback, rule.callback = some callback →
      ∀ captures state, (callback captures state).AlwaysReturns)
    (quiet : ∀ handler, scanner.config.onSkip = some handler → ∀ skipped, handler skipped = none)
    (dispatched : ∀ found ∈ scanner.search.remaining scanner.set.pattern scanner.text,
      (scanner.set.ruleForGroup? (found.lastGroup.map Int.ofNat)).isSome) :
    ∃ visits middle stopped after, scanner.Completes before visits middle stopped after := by
  -- By induction on the number of matches that can still come.
  induction size : scanner.bound using Nat.strongRecOn generalizing scanner before with
  | ind size ih =>
    subst size
    cases step : scanner.search.next? scanner.set.pattern scanner.text with
    | none =>
      obtain ⟨_, after, reported⟩ :=
        reportGap_alwaysReturns quiet (scanner.numbered (scanner.gapTo scanner.text.size)) before
      exact ⟨[], before, scanner, after, .nil, step, reported⟩
    | some result =>
      obtain ⟨found, search⟩ := result
      have matched : scanner.search.remaining scanner.set.pattern scanner.text =
          found :: search.remaining scanner.set.pattern scanner.text :=
        Search.remaining_of_next? step
      obtain rfl := (Search.finds_of_next? step).next
      obtain ⟨rule, owner⟩ := Option.isSome_iff_exists.mp
        (dispatched found (by rw [matched]; exact List.mem_cons_self))
      obtain ⟨_, middle, reported⟩ :=
        reportGap_alwaysReturns quiet (scanner.numbered (scanner.gapTo found.start)) before
      have member : rule ∈ scanner.set.rules := by
        obtain ⟨index, -, search⟩ := Option.bind_eq_some_iff.mp owner
        exact List.mem_of_find?_eq_some search
      obtain ⟨⟨content, left⟩, next, called⟩ := contentOf_alwaysReturns
        { scanner with state := scanner.entering found.start } (returning rule member) found middle
      let visit : Visit := ⟨found, rule, scanner.position, scanner.gapTo found.start,
        scanner.entering found.start, content, left⟩
      have visited : scanner.Visits before visit next :=
        ⟨step, owner, rfl, rfl, rfl, middle, reported, called⟩
      obtain ⟨visits, between, stopped, after, completes⟩ :=
        ih _ visited.bound_lt (scanner.passVisit visit) next returning quiet
          (fun other member => dispatched other (matched ▸ List.mem_cons_of_mem found member)) rfl
      exact ⟨visit :: visits, between, stopped, after, .cons visited completes.trace,
        completes.stops, completes.reported⟩

end Scanner

namespace RuleSet

theorem scanner_follows_nil (set : RuleSet) (config : Config) (text : String) :
    (set.scanner config text).Follows [] :=
  ⟨rfl, rfl, Nat.zero_le _, fun empty => by cases empty⟩

/-- Visits, with what is skipped behind the last of them, cover a text: they are all the matches in
order, each one a span of its own; the texts that they meet are the text; and what is skipped stands
between the end of one match and the start of the next, with no match starting in it. -/
structure Covered (pattern : Pattern) (text : String) (visits : List Visit)
    (trailing : Option SkippedText) : Prop where
  matched : visits.map Visit.found = pattern.matches text.toList.toArray
  ordered : (visits.map Visit.found).Pairwise Match.Before
  texts : String.join (visits.flatMap (Visit.texts text.toList.toArray) ++
    trailing.toList.map SkippedText.text) = text
  gaps : ∀ front visit back, visits = front ++ visit :: back → ∀ gap, visit.gap = some gap →
    gap.text = sliceText text.toList.toArray (lastStop front) visit.found.start ∧
      visit.found.start ≤ text.toList.toArray.size ∧
      Unmatched pattern text.toList.toArray front visit.found.start
  trailing : ∀ gap, trailing = some gap →
    gap.text = sliceText text.toList.toArray (lastStop visits) text.toList.toArray.size ∧
      Unmatched pattern text.toList.toArray visits text.toList.toArray.size

theorem covered_of_completes {set : RuleSet} {config : Config} {text : String}
    {before middle after : Context} {visits : List Visit} {stopped : Scanner}
    (completes : (set.scanner config text).Completes before visits middle stopped after) :
    Covered set.pattern text visits (stopped.gapTo stopped.text.size) := by
  have start := set.scanner_follows_nil config text
  obtain ⟨covered, -, final⟩ := completes.trace.covers start
  obtain ⟨sameSet, -, sameText⟩ := completes.trace.kept
  have all : visits.map Visit.found = set.pattern.matches text.toList.toArray := by
    have matched := completes.trace.matches_eq
    rw [Search.remaining_of_next?_eq_none completes.stops, List.append_nil] at matched
    exact matched.symm
  refine ⟨all, all ▸ Pattern.pairwise_matches _ _, ?_, completes.trace.gaps start, ?_⟩
  · have ending := Scanner.join_gapTo final.inside
    rw [String.join_append, ending, sameText]
    refine (congrArg (· ++ _) covered).trans ?_
    refine (sliceText_append _ (Nat.zero_le _) (sameText ▸ final.inside)).trans ?_
    exact sliceText_all text
  · intro gap skipped
    obtain ⟨nonempty, ending⟩ := Scanner.text_of_gapTo skipped
    have missed := Search.misses_of_next?_eq_none completes.stops
    have unmatched := final.unmatched
      (fun place low high => missed place low (Nat.lt_succ_of_lt high)) nonempty
    rw [sameText] at ending unmatched
    rw [sameSet] at unmatched
    rw [final.position] at ending
    exact ⟨ending, unmatched⟩

theorem scan_returns_of_dispatched {set : RuleSet} {config : Config} {text : String}
    (context : Context) (returning : ∀ rule ∈ set.rules, ∀ callback,
      rule.callback = some callback → ∀ captures state, (callback captures state).AlwaysReturns)
    (quiet : ∀ handler, config.onSkip = some handler → ∀ skipped, handler skipped = none)
    (dispatched : ∀ found ∈ set.pattern.matches text.toList.toArray,
      (set.ruleForGroup? (found.lastGroup.map Int.ofNat)).isSome) :
    ∃ result after, (set.scan config text).Returns context result after := by
  obtain ⟨visits, middle, stopped, after, completes⟩ :=
    (set.scanner config text).exists_completes context returning quiet dispatched
  let gaps := visits.filterMap Visit.gap ++ (stopped.gapTo stopped.text.size).toList
  exact ⟨⟨visits.filterMap Visit.token, gaps⟩, scan_returns_iff.mpr
    ⟨visits, _, ⟨middle, stopped, after, completes, rfl⟩, rfl, rfl⟩⟩

/-- Coverage of a scan whose callbacks and skip handler return. It returns exactly if every match
belongs to a rule. Then it covers the text, and its tokens come from different visits in their
order. -/
theorem scan_covers_text (set : RuleSet) (config : Config) (text : String) (context : Context)
    (returning : ∀ rule ∈ set.rules, ∀ callback, rule.callback = some callback →
      ∀ captures state, (callback captures state).AlwaysReturns)
    (quiet : ∀ handler, config.onSkip = some handler → ∀ skipped, handler skipped = none) :
    ((∃ result after, (set.scan config text).Returns context result after) ↔
      ∀ found ∈ set.pattern.matches text.toList.toArray,
        (set.ruleForGroup? (found.lastGroup.map Int.ofNat)).isSome) ∧
    ∀ result after, (set.scan config text).Returns context result after →
      (∀ skipped ∈ result.skipped, skipped.text ≠ "") ∧
      ∃ visits trailing, Covered set.pattern text visits trailing ∧
        result.tokens = visits.filterMap Visit.token ∧
        result.skipped = visits.filterMap Visit.gap ++ trailing.toList := by
  refine ⟨⟨?_, ?_⟩, ?_⟩
  · rintro ⟨result, after, returned⟩ found member
    obtain ⟨visits, trailing, ⟨middle, stopped, _, completes, -⟩, -, -⟩ :=
      scan_returns_iff.mp ⟨after, returned⟩
    have covered := covered_of_completes completes
    rw [← covered.matched] at member
    obtain ⟨visit, visited, rfl⟩ := List.mem_map.mp member
    exact Option.isSome_iff_exists.mpr ⟨_, completes.trace.dispatched visit visited⟩
  · exact scan_returns_of_dispatched context returning quiet
  · intro result after returned
    obtain ⟨visits, trailing, ⟨middle, stopped, _, completes, rfl⟩, tokens, skipped⟩ :=
      scan_returns_iff.mp ⟨after, returned⟩
    have covered := covered_of_completes completes
    refine ⟨?_, visits, _, covered, tokens, skipped⟩
    -- A gap stands before a visit or behind the last one; neither is empty.
    intro gap member
    rw [skipped] at member
    rcases List.mem_append.mp member with before | behind
    · obtain ⟨visit, visited, same⟩ := List.mem_filterMap.mp before
      obtain ⟨front, back, split⟩ := List.append_of_mem visited
      obtain ⟨text, inside, unmatched⟩ := covered.gaps front visit back split gap same
      rw [text]
      exact sliceText_ne_empty unmatched.nonempty inside
    · obtain ⟨text, unmatched⟩ := covered.trailing gap (Option.mem_toList.mp behind)
      rw [text]
      exact sliceText_ne_empty unmatched.nonempty (Nat.le_refl _)

theorem scan_covers_break :
    ∃ result after, (breakSet.scan {} "a<br>b").Returns {} result after ∧
      ∃ visits trailing, Covered breakSet.pattern "a<br>b" visits trailing ∧
        result.tokens = visits.filterMap Visit.token ∧
        result.skipped = visits.filterMap Visit.gap ++ trailing.toList := by
  obtain ⟨returns, covers⟩ := scan_covers_text breakSet {} "a<br>b" {} (by
    intro rule member callback given captures state before
    rw [breakSet_callback member given]
    exact ⟨_, _, lineBreak_returns_iff.mpr ⟨rfl, rfl, rfl⟩⟩) nofun
  obtain ⟨result, after, returned⟩ := returns.mpr (by decide)
  exact ⟨result, after, returned, (covers result after returned).2⟩

end RuleSet

end RuleLexer
