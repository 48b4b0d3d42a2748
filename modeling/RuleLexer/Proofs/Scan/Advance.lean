import Mathlib.Data.List.Perm.Basic
import RuleLexer.Proofs.Rule.Dispatch
import RuleLexer.Proofs.Scan.Course

namespace RuleLexer

theorem length_le_of_increasing {numbers : List Nat} {limit : Nat}
    (increasing : numbers.Pairwise (· < ·)) (below : ∀ number ∈ numbers, number < limit) :
    numbers.length ≤ limit := by
  have contained : numbers ⊆ List.range limit := fun number member =>
    List.mem_range.mpr (below number member)
  simpa using (List.subperm_of_subset (increasing.imp Nat.ne_of_lt) contained).length_le

namespace Search

variable {pattern : Pattern} {text : Array Char} {search after : Search} {found : Match}

/-- The search finds these matches one after the other and then no other. -/
inductive Exhausts (pattern : Pattern) (text : Array Char) : Search → List Match → Prop
  | stopped {search : Search} (stops : search.next? pattern text = none) :
    Exhausts pattern text search []
  | found {search after : Search} {found : Match} {later : List Match}
    (step : search.next? pattern text = some (found, after))
    (rest : Exhausts pattern text after later) : Exhausts pattern text search (found :: later)

/-- Every search comes to its end: the measure is twice the way that is left, less one right after an
empty match. -/
theorem exhausts_remaining (search : Search) :
    Exhausts pattern text search (search.remaining pattern text) := by
  induction size : search.bound text using Nat.strongRecOn generalizing search with
  | _ bound ih =>
    cases step : search.next? pattern text with
    | none =>
      rw [remaining_of_next?_eq_none step]
      exact .stopped step
    | some pair =>
      have fewer := (finds_of_next? step).bound_lt
      rw [remaining_of_next? step]
      exact .found step (ih _ (size ▸ fewer) pair.2 rfl)

theorem Exhausts.behind {front later : List Match}
    (exhausts : Exhausts pattern text search (front ++ found :: later)) :
    Exhausts pattern text ⟨found.stop, found.isEmpty⟩ later ∧ found.stop ≤ text.size := by
  induction front generalizing search with
  | nil =>
    cases exhausts with
    | found step rest =>
      have finds := finds_of_next? step
      exact ⟨finds.next ▸ rest, finds.inside⟩
  | cons first front ih =>
    cases exhausts with
    | found step rest => exact ih rest

theorem next?_of_longer {longer : Match} {place : Nat} (inside : place ≤ text.size)
    (matched : pattern.matchAt? text place true = some longer) :
    (⟨place, true⟩ : Search).next? pattern text =
      some (longer, ⟨longer.stop, longer.isEmpty⟩) := by
  have places : text.size + 1 - place = text.size - place + 1 := by omega
  simp only [next?, places, Pattern.search?, matched]
  rfl

theorem Exhausts.head?_of_longer {longer : Match} {place : Nat} {later : List Match}
    (exhausts : Exhausts pattern text ⟨place, true⟩ later) (inside : place ≤ text.size)
    (matched : pattern.matchAt? text place true = some longer) : later.head? = some longer := by
  have next := next?_of_longer inside matched
  cases exhausts with
  | stopped stops => cases stops.symm.trans next
  | found step rest =>
    cases step.symm.trans next
    rfl

end Search

/-- How the matches in a text go forward. -/
structure Advance (pattern : Pattern) (text : Array Char) (found : List Match) : Prop where
  inside : ∀ one ∈ found, one.start ≤ one.stop ∧ one.stop ≤ text.size
  onward : found.Pairwise fun first second => first.start ≤ second.start ∧ first.stop ≤ second.start
  shared : found.Pairwise fun first second =>
    first.start = second.start → first.isEmpty = true ∧ second.isEmpty = false
  resumed : ∀ front empty later, found = front ++ empty :: later → empty.isEmpty = true →
    ∀ longer, pattern.matchAt? text empty.stop true = some longer → later.head? = some longer
  empties : (found.filter Match.isEmpty).length ≤ text.size + 1
  longer : (found.filter fun one => !one.isEmpty).length ≤ text.size

namespace Match

theorem isEmpty_iff {one : Match} : one.isEmpty = true ↔ one.start = one.stop := by
  simp [isEmpty]

theorem isEmpty_eq_false_iff {one : Match} : one.isEmpty = false ↔ one.start ≠ one.stop := by
  simp [isEmpty]

end Match

namespace Pattern

variable (pattern : Pattern) (text : Array Char)

theorem inside_of_mem_matches {one : Match} (member : one ∈ pattern.matches text) :
    one.start ≤ one.stop ∧ one.stop ≤ text.size := by
  obtain ⟨inside, nonempty, matched⟩ := matchAt?_of_mem_matches member
  obtain ⟨forward, within, -⟩ := stop_of_matchAt? inside matched
  exact ⟨forward, within⟩

theorem length_filter_matches_le {keeps : Match → Bool} {limit : Nat}
    (apart : ∀ first second : Match, keeps first = true → keeps second = true →
      first.Before second → first.start ≤ first.stop → second.start ≤ second.stop →
      first.start < second.start)
    (below : ∀ one ∈ pattern.matches text, keeps one = true → one.start < limit) :
    ((pattern.matches text).filter keeps).length ≤ limit := by
  have kept : ∀ one ∈ (pattern.matches text).filter keeps,
      one ∈ pattern.matches text ∧ keeps one = true := fun one => List.mem_filter.mp
  have increasing : (((pattern.matches text).filter keeps).map Match.start).Pairwise (· < ·) := by
    rw [List.pairwise_map]
    refine List.Pairwise.imp_of_mem ?_ ((pattern.pairwise_matches text).filter keeps)
    intro first second here there before
    obtain ⟨here, keepsFirst⟩ := kept first here
    obtain ⟨there, keepsSecond⟩ := kept second there
    exact apart first second keepsFirst keepsSecond before
      (pattern.inside_of_mem_matches text here).1 (pattern.inside_of_mem_matches text there).1
  rw [← List.length_map (f := Match.start)]
  apply length_le_of_increasing increasing
  intro number member
  obtain ⟨one, here, rfl⟩ := List.mem_map.mp member
  obtain ⟨here, keeps⟩ := kept one here
  exact below one here keeps

theorem advance_matches : Advance pattern text (pattern.matches text) where
  inside one := pattern.inside_of_mem_matches text
  onward := by
    refine List.Pairwise.imp_of_mem ?_ (pattern.pairwise_matches text)
    intro first second here _ before
    exact ⟨Nat.le_trans (pattern.inside_of_mem_matches text here).1 before.1, before.1⟩
  shared := by
    refine List.Pairwise.imp_of_mem ?_ (pattern.pairwise_matches text)
    intro first second here there ⟨ends, moves⟩ same
    have forward := (pattern.inside_of_mem_matches text here).1
    rw [Match.isEmpty_iff, Match.isEmpty_eq_false_iff]
    omega
  resumed := by
    intro front empty later split none longer matched
    have exhausts : Search.Exhausts pattern text .start (Search.start.remaining pattern text) :=
      Search.exhausts_remaining .start
    rw [show Search.start.remaining pattern text = _ from split] at exhausts
    obtain ⟨rest, inside⟩ := exhausts.behind
    rw [none] at rest
    exact rest.head?_of_longer inside matched
  -- At one place at most one match is empty and at most one is not.
  empties := by
    apply length_filter_matches_le
    · intro first second one other ⟨ends, moves⟩ _ _
      rw [Match.isEmpty_iff] at one other
      omega
    · intro one member _
      have := pattern.inside_of_mem_matches text member
      omega
  longer := by
    apply length_filter_matches_le
    · intro first second one _ ⟨ends, _⟩ forward _
      rw [Bool.not_eq_true', Match.isEmpty_eq_false_iff] at one
      omega
    · intro one member some
      have := pattern.inside_of_mem_matches text member
      rw [Bool.not_eq_true', Match.isEmpty_eq_false_iff] at some
      omega

end Pattern

namespace Scanner

variable {scanner last : Scanner}

theorem bound_pos (inside : scanner.search.position ≤ scanner.text.size) : 0 < scanner.bound := by
  unfold bound Search.bound
  split <;> omega

theorem Trace.inside {before after : Context} {visits : List Visit}
    (trace : Trace before scanner visits after last)
    (inside : scanner.search.position ≤ scanner.text.size) :
    last.search.position ≤ last.text.size := by
  induction trace with
  | nil => exact inside
  | cons visited _ ih => exact ih visited.finds.inside

theorem Delivers.length_le {tokens : List Token} (delivers : Delivers scanner tokens last)
    (inside : scanner.search.position ≤ scanner.text.size) :
    last.bound + tokens.length ≤ scanner.bound ∧ last.search.position ≤ last.text.size := by
  induction delivers with
  | nil => exact ⟨Nat.le_refl _, inside⟩
  | cons next _ ih =>
    obtain ⟨visits, -, ⟨-, trace, fewer⟩ | ⟨none, -⟩⟩ := nextUpTo_returns (Nat.lt_succ_self _) next
    · obtain ⟨few, within⟩ := ih (trace.inside inside)
      rw [List.length_cons]
      exact ⟨by omega, within⟩
    · cases none

theorem length_gapTo (scanner : Scanner) {stop : Nat} (ahead : scanner.position ≤ stop) :
    scanner.position + (scanner.numbered (scanner.gapTo stop)).toList.length ≤ stop := by
  unfold gapTo
  split
  · next further => exact further
  · exact ahead

theorem le_ahead (aligned : scanner.search.position = scanner.position)
    (inside : scanner.position ≤ scanner.text.size) :
    scanner.position ≤ scanner.ahead ∧ scanner.ahead ≤ scanner.text.size := by
  cases step : scanner.search.next? scanner.set.pattern scanner.text with
  | none =>
    rw [ahead_of_stop step]
    exact ⟨inside, Nat.le_refl _⟩
  | some pair =>
    have finds := Search.finds_of_next? step
    rw [ahead_of_next step]
    exact ⟨aligned ▸ finds.reached, Nat.le_trans finds.forward finds.inside⟩

theorem Course.length_gaps_le {before after : Context} {deeds : List Deed}
    {outcome : Except Failure (List Token × Scanner)}
    (course : Course before scanner deeds outcome after)
    (aligned : scanner.search.position = scanner.position)
    (inside : scanner.position ≤ scanner.text.size) :
    scanner.position + (Deed.gaps deeds).length ≤ scanner.text.size := by
  obtain ⟨reached, within⟩ := le_ahead aligned inside
  have last := scanner.length_gapTo reached
  rw [← gapAhead] at last
  induction course with
  | visit first rest ih =>
    have finds := first.finds
    have later := ih rfl finds.inside (le_ahead rfl finds.inside).1 (le_ahead rfl finds.inside).2
      (length_gapTo _ (le_ahead rfl finds.inside).1)
    have gap := length_gapTo _ (aligned ▸ finds.reached)
    rw [← first.gap] at gap
    have forward := finds.forward
    rw [Deed.gaps_append, List.length_append, Visit.deeds, Deed.gaps_append, Deed.gaps_ofGap,
      Deed.gaps_ofCall, List.append_nil]
    change _ + _ ≤ Array.size _ at later
    dsimp only [passVisit] at later
    omega
  | ended stops reported =>
    rw [Deed.gaps_ofGap]
    omega
  | refused found refused =>
    rw [found] at last
    exact Nat.le_trans last within
  | undispatched step reported missing =>
    rw [Deed.gaps_ofGap]
    omega
  | raised step reported dispatched given fails =>
    rw [Deed.gaps_append, Deed.gaps_ofGap]
    simp only [Deed.gaps, List.filterMap_cons, Deed.gap?, List.filterMap_nil, List.append_nil]
    omega

end Scanner

namespace RuleSet

/-- Nothing in a scan goes on without end. The matches of the text are found one after the other until
there is no other; the scan emits its tokens and does its deeds, and ends or fails; and what it emits and
skips is bounded by the length of the text, also where tokens are pulled in contexts that others have
changed in between. -/
structure Progress (set : RuleSet) (config : Config) (text : String) (before : Context) : Prop where
  exhausts : Search.start.Exhausts set.pattern text.toList.toArray
    (set.pattern.matches text.toList.toArray)
  advance : Advance set.pattern text.toList.toArray (set.pattern.matches text.toList.toArray)
  emits : ∃ tokens deeds ending after, (set.scanner config text).Emits before tokens ending after ∧
    set.Does config text before deeds ∧
    tokens.length ≤ 2 * text.length + 1 ∧ (Deed.gaps deeds).length ≤ text.length ∧
    ∀ result after, (set.scan config text).Returns before result after →
      result.tokens = tokens ∧ result.skipped = Deed.skipped deeds
  delivers : ∀ tokens last, (set.scanner config text).Delivers tokens last →
    tokens.length ≤ 2 * text.length + 1

theorem length_le_of_delivers {set : RuleSet} {config : Config} {text : String}
    {tokens : List Token} {last : Scanner}
    (delivers : (set.scanner config text).Delivers tokens last) :
    tokens.length ≤ 2 * text.length + 1 := by
  obtain ⟨few, inside⟩ := delivers.length_le (Nat.zero_le _)
  have some := Scanner.bound_pos inside
  have most : (set.scanner config text).bound = 2 * (text.length + 1) := by
    simp [Scanner.bound, Search.bound, scanner, Search.start, String.length_toList]
  omega

/-- Scanning makes progress whatever the rules are. -/
theorem scan_progresses (set : RuleSet) (config : Config) (text : String) (before : Context) :
    set.Progress config text before where
  exhausts := Search.exhausts_remaining _
  advance := set.pattern.advance_matches _
  delivers _ _ := length_le_of_delivers
  emits := by
    obtain ⟨tokens, ending, after, emits⟩ := (set.scanner config text).exists_emits before
    obtain ⟨deeds, outcome, left, course⟩ := (set.scanner config text).exists_course before
    refine ⟨tokens, deeds, ending, after, emits, ⟨outcome, left, course⟩, ?_, ?_, ?_⟩
    · obtain ⟨stopped, middle, pulls, -⟩ := emits
      exact length_le_of_delivers pulls.delivers
    · have gaps := course.length_gaps_le rfl (Nat.zero_le _)
      simpa [scanner, String.length_toList] using gaps
    · intro result final returned
      have drained := emits.drain.symm.trans course.drain
      rw [Run.Returns, scan_of_course course] at returned
      cases outcome with
      | error failure => cases returned
      | ok pair =>
        obtain ⟨made, last⟩ := pair
        obtain ⟨-, skipped, -⟩ := course.of_ok rfl
        cases returned
        refine ⟨?_, skipped⟩
        cases ending with
        | error failure => cases drained
        | ok other => exact (Prod.mk.inj (Except.ok.inj (Prod.mk.inj drained).1)).1.symm

def reluctantTable : List Candidate :=
  [.ofPattern "XS" "x*?" (.repeated .lazy 0 none (.char 120)) 0]

def reluctantSet : RuleSet where
  rules := [htmlBreak, ⟨"XS", "x*?".toList, none, false, 0, 2⟩]
  pattern :=
    { source := "(<br\\s*/?\\s*>)|(x*?)".toList
      regex := .alt (.group 1 htmlBreakTree) (.group 2 (.repeated .lazy 0 none (.char 120)))
      groups := 2
      names := []
      flags := .ofList [.unicode, .multiLine] }

/-- The bound is reached: at every place an empty match is followed by one that is not empty. -/
theorem reluctantSet_progresses :
    ofTable {} (some reluctantTable) = .ok reluctantSet ∧
      reluctantSet.Progress {} "xx" {} ∧
      (reluctantSet.pattern.matches "xx".toList.toArray).map (fun one => (one.start, one.stop)) =
        [(0, 0), (0, 1), (1, 1), (1, 2), (2, 2)] :=
  ⟨rfl, scan_progresses reluctantSet {} "xx" {}, rfl⟩

end RuleSet

end RuleLexer
