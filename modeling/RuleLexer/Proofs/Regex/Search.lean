import RuleLexer.Proofs.Regex.Progress
import RuleLexer.Regex.Search

namespace RuleLexer

namespace Pattern

variable {pattern : Pattern} {text : Array Char}

theorem start_of_matchAt? {start : Nat} {nonempty : Bool} {found : Match}
    (matched : pattern.matchAt? text start nonempty = some found) : found.start = start := by
  obtain ⟨cursor, _, same⟩ := Option.map_eq_some_iff.mp matched
  exact same ▸ rfl

theorem stop_of_matchAt? {start : Nat} {nonempty : Bool} {found : Match}
    (inside : start ≤ text.size) (matched : pattern.matchAt? text start nonempty = some found) :
    start ≤ found.stop ∧ found.stop ≤ text.size ∧ (nonempty = true → start < found.stop) := by
  obtain ⟨cursor, run, same⟩ := Option.map_eq_some_iff.mp matched
  obtain ⟨reached, after, within, rest⟩ :=
    Regex.run_proceeds text pattern.regex pattern.mode _ _ _ inside run
  change start ≤ reached.position at after
  subst same
  split at rest
  · cases rest
  · rename_i allowed
    cases rest
    refine ⟨after, within, fun required => ?_⟩
    have moved : cursor.position ≠ start := by simpa [required] using allowed
    change start < cursor.position
    omega

theorem search?_eq_some {count start : Nat} {nonempty : Bool} {found : Match}
    (searched : pattern.search? text count start nonempty = some found) :
    start ≤ found.start ∧ found.start < start + count ∧
      pattern.matchAt? text found.start (nonempty && found.start == start) = some found ∧
      ∀ place, start ≤ place → place < found.start →
        pattern.matchAt? text place (nonempty && place == start) = none := by
  induction count generalizing start nonempty with
  | zero => cases searched
  | succ count ih =>
    rw [search?, Option.orElse_eq_orElse, Option.orElse_eq_or, Option.or_eq_some_iff] at searched
    rcases searched with here | ⟨nothing, later⟩
    · have same := start_of_matchAt? here
      refine ⟨by omega, by omega, ?_, fun place _ _ => by omega⟩
      simpa [same] using here
    · obtain ⟨after, before, matched, first⟩ := ih later
      have elsewhere : (found.start == start) = false := beq_false_of_ne (by omega)
      refine ⟨by omega, by omega, ?_, ?_⟩
      · simpa [elsewhere] using matched
      · intro place low high
        by_cases at_start : place = start
        · simpa [at_start] using nothing
        · have unmatched := first place (by omega) high
          simpa [beq_false_of_ne at_start] using unmatched

theorem search?_eq_none {count start : Nat} {nonempty : Bool}
    (searched : pattern.search? text count start nonempty = none) :
    ∀ place, start ≤ place → place < start + count →
      pattern.matchAt? text place (nonempty && place == start) = none := by
  induction count generalizing start nonempty with
  | zero => intro place low high; omega
  | succ count ih =>
    rw [search?, Option.orElse_eq_orElse, Option.orElse_eq_or, Option.or_eq_none_iff] at searched
    obtain ⟨here, later⟩ := searched
    intro place low high
    by_cases at_start : place = start
    · simpa [at_start] using here
    · have unmatched := ih later place (by omega) (by omega)
      simpa [beq_false_of_ne at_start] using unmatched

end Pattern

namespace Search

variable {search after : Search} {pattern : Pattern} {text : Array Char} {found : Match}

/-- No match starts from where the search stands up to `stop`; right after an empty match, none
that is not empty starts where it stands. -/
def Misses (search : Search) (pattern : Pattern) (text : Array Char) (stop : Nat) : Prop :=
  ∀ place, search.position ≤ place → place < stop →
    pattern.matchAt? text place (search.afterEmpty && place == search.position) = none

/-- Everything a search says about the match that it finds. -/
structure Finds (search : Search) (pattern : Pattern) (text : Array Char) (found : Match)
    (after : Search) : Prop where
  reached : search.position ≤ found.start
  forward : found.start ≤ found.stop
  inside : found.stop ≤ text.size
  matched : pattern.matchAt? text found.start
    (search.afterEmpty && found.start == search.position) = some found
  missed : search.Misses pattern text found.start
  advances : search.afterEmpty = true → found.start = search.position → found.start < found.stop
  next : after = ⟨found.stop, found.isEmpty⟩

theorem finds_of_next? (step : search.next? pattern text = some (found, after)) :
    search.Finds pattern text found after := by
  obtain ⟨other, searched, same⟩ := Option.map_eq_some_iff.mp step
  obtain ⟨rfl, rfl⟩ := Prod.mk.injEq .. ▸ same
  obtain ⟨low, high, matched, first⟩ := Pattern.search?_eq_some searched
  obtain ⟨forward, inside, moves⟩ := Pattern.stop_of_matchAt? (by omega) matched
  exact {
    reached := low
    forward := forward
    inside := inside
    matched := matched
    missed := first
    advances := fun required place => moves (by simp [required, place])
    next := rfl }

theorem misses_of_next?_eq_none (stopped : search.next? pattern text = none) :
    search.Misses pattern text (text.size + 1) := by
  have searched := Option.map_eq_none_iff.mp stopped
  intro place low high
  exact Pattern.search?_eq_none searched place low (by omega)

theorem Finds.bound_lt (finds : search.Finds pattern text found after) :
    after.bound text < search.bound text := by
  obtain ⟨reached, forward, inside, -, -, advances, rfl⟩ := finds
  simp only [bound, Match.isEmpty]
  by_cases empty : found.start = found.stop
  · cases flag : search.afterEmpty with
    | false => simp [empty]; omega
    | true =>
      have elsewhere : found.start ≠ search.position := fun same => by
        have := advances flag same
        omega
      simp [empty]
      omega
  · have nonempty : (found.start == found.stop) = false := beq_false_of_ne empty
    simp only [nonempty, Bool.false_eq_true, if_false]
    split <;> omega

def matchesUpTo (pattern : Pattern) (text : Array Char) : Nat → Search → List Match
  | 0, _ => []
  | count + 1, search =>
    match search.next? pattern text with
    | none => []
    | some (found, after) => found :: matchesUpTo pattern text count after

def remaining (search : Search) (pattern : Pattern) (text : Array Char) : List Match :=
  matchesUpTo pattern text (search.bound text) search

theorem matchesUpTo_of_next?_eq_none (count : Nat) (stopped : search.next? pattern text = none) :
    matchesUpTo pattern text count search = [] := by
  cases count with
  | zero => rfl
  | succ count => rw [matchesUpTo, stopped]

theorem matchesUpTo_add (count extra : Nat) (enough : search.bound text ≤ count) :
    matchesUpTo pattern text (count + extra) search = matchesUpTo pattern text count search := by
  induction count generalizing search with
  | zero =>
    cases step : search.next? pattern text with
    | none => rw [matchesUpTo_of_next?_eq_none _ step, matchesUpTo_of_next?_eq_none _ step]
    | some result =>
      have smaller := (finds_of_next? step).bound_lt
      omega
  | succ count ih =>
    rw [Nat.succ_add]
    cases step : search.next? pattern text with
    | none => rw [matchesUpTo_of_next?_eq_none _ step, matchesUpTo_of_next?_eq_none _ step]
    | some result =>
      have smaller := (finds_of_next? step).bound_lt
      simp only [matchesUpTo, step]
      rw [ih (by omega)]

theorem remaining_of_next?_eq_none (stopped : search.next? pattern text = none) :
    search.remaining pattern text = [] :=
  matchesUpTo_of_next?_eq_none _ stopped

theorem remaining_of_next? (step : search.next? pattern text = some (found, after)) :
    search.remaining pattern text = found :: after.remaining pattern text := by
  have smaller := (finds_of_next? step).bound_lt
  obtain ⟨extra, equal⟩ := Nat.exists_eq_add_of_lt smaller
  unfold remaining
  rw [equal]
  simp only [matchesUpTo, step]
  rw [matchesUpTo_add _ _ (Nat.le_refl _)]

def Ahead (search : Search) (found : Match) : Prop :=
  search.position ≤ found.start ∧ found.start ≤ found.stop ∧
    (search.afterEmpty = true → found.start = search.position → found.start < found.stop)

theorem ahead_of_mem_matchesUpTo {count : Nat} {other : Match}
    (member : other ∈ matchesUpTo pattern text count search) : search.Ahead other := by
  induction count generalizing search with
  | zero => cases member
  | succ count ih =>
    cases step : search.next? pattern text with
    | none =>
      rw [matchesUpTo_of_next?_eq_none _ step] at member
      cases member
    | some result =>
      obtain ⟨found, after⟩ := result
      obtain ⟨reached, forward, -, -, -, advances, rfl⟩ := finds_of_next? step
      simp only [matchesUpTo, step] at member
      rcases List.mem_cons.mp member with rfl | member
      · exact ⟨reached, forward, advances⟩
      · obtain ⟨behind, later, moves⟩ := ih member
        dsimp only [Match.isEmpty] at behind later moves
        refine ⟨Nat.le_trans reached (Nat.le_trans forward behind), later, ?_⟩
        intro _ same
        exact moves (by simp; omega) (by omega)

end Search

/-- The first match ends before the second one starts, and they are not one and the same span. -/
def Match.Before (first second : Match) : Prop :=
  first.stop ≤ second.start ∧ (first.start < second.start ∨ first.stop < second.stop)

theorem Search.pairwise_matchesUpTo {pattern : Pattern} {text : Array Char} (count : Nat)
    (search : Search) : (matchesUpTo pattern text count search).Pairwise Match.Before := by
  induction count generalizing search with
  | zero => exact .nil
  | succ count ih =>
    cases step : search.next? pattern text with
    | none => simp [matchesUpTo, step]
    | some result =>
      obtain ⟨found, after⟩ := result
      simp only [matchesUpTo, step]
      refine .cons ?_ (ih after)
      intro other member
      obtain ⟨-, forward, -, -, -, -, rfl⟩ := finds_of_next? step
      obtain ⟨behind, -, moves⟩ := ahead_of_mem_matchesUpTo member
      dsimp only [Match.isEmpty] at behind moves
      refine ⟨behind, ?_⟩
      by_cases elsewhere : found.start < other.start
      · exact .inl elsewhere
      · have moved := moves (by simp; omega) (by omega)
        exact .inr (by omega)

def Pattern.matches (pattern : Pattern) (text : Array Char) : List Match :=
  Search.start.remaining pattern text

theorem Search.matchAt?_of_mem_matchesUpTo {pattern : Pattern} {text : Array Char} {count : Nat}
    {search : Search} {found : Match} (member : found ∈ matchesUpTo pattern text count search) :
    found.start ≤ text.size ∧
      ∃ nonempty, pattern.matchAt? text found.start nonempty = some found := by
  induction count generalizing search with
  | zero => cases member
  | succ count ih =>
    cases step : search.next? pattern text with
    | none =>
      rw [matchesUpTo_of_next?_eq_none _ step] at member
      cases member
    | some result =>
      obtain ⟨first, after⟩ := result
      have finds := finds_of_next? step
      simp only [matchesUpTo, step] at member
      rcases List.mem_cons.mp member with rfl | member
      · exact ⟨Nat.le_trans finds.forward finds.inside, _, finds.matched⟩
      · exact ih member

theorem Pattern.matchAt?_of_mem_matches {pattern : Pattern} {text : Array Char} {found : Match}
    (member : found ∈ pattern.matches text) :
    found.start ≤ text.size ∧ ∃ nonempty, pattern.matchAt? text found.start nonempty = some found :=
  Search.matchAt?_of_mem_matchesUpTo member

theorem Pattern.pairwise_matches (pattern : Pattern) (text : Array Char) :
    (pattern.matches text).Pairwise Match.Before :=
  Search.pairwise_matchesUpTo _ _

end RuleLexer
