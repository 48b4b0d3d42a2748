import RuleLexer.Regex.Matching

namespace RuleLexer

/-- The step takes one of the lengths off the rest of the text, and tries them in this order. -/
def Step.Lists (text : Array Char) (step : Step) (lengths : List Char → List Nat) : Prop :=
  ∀ cursor next, step cursor next = (lengths (text.toList.drop cursor.position)).findSome?
    fun length => next (cursor.moveTo (cursor.position + length))

namespace Listing

def character (accepts : Nat → Bool) : List Char → List Nat
  | c :: _ => if accepts c.toNat then [1] else []
  | [] => []

def greedy (accepts : Nat → Bool) (most : Nat) (rest : List Char) : List Nat :=
  (List.range (min most (rest.takeWhile fun c => accepts c.toNat).length + 1)).reverse

def star (accepts : Nat → Bool) (rest : List Char) : List Nat :=
  (List.range ((rest.takeWhile fun c => accepts c.toNat).length + 1)).reverse

def seq (first second : List Char → List Nat) (rest : List Char) : List Nat :=
  (first rest).flatMap fun length => (second (rest.drop length)).map (length + ·)

def alt (first second : List Char → List Nat) (rest : List Char) : List Nat :=
  first rest ++ second rest

theorem greedy_cons {accepts : Nat → Bool} {c : Char} (accepted : accepts c.toNat = true)
    (most : Nat) (rest : List Char) : greedy accepts (most + 1) (c :: rest) =
      (greedy accepts most rest).map (1 + ·) ++ [0] := by
  have count : (List.takeWhile (fun c => accepts c.toNat) (c :: rest)).length =
      (List.takeWhile (fun c => accepts c.toNat) rest).length + 1 := by
    simp [accepted]
  simp only [greedy, count, Nat.add_min_add_right]
  rw [List.range_succ_eq_map, List.reverse_cons, ← List.map_reverse]
  congr 2
  funext length
  exact Nat.succ_eq_one_add length

variable {accepts : Nat → Bool} {first second : List Char → List Nat} {rest : List Char}
  {length : Nat}

theorem mem_character : length ∈ character accepts rest ↔
    ∃ c tail, accepts c.toNat = true ∧ rest = c :: tail ∧ length = 1 := by
  cases rest with
  | nil => simp [character]
  | cons c rest =>
    simp only [character, List.mem_ite_nil_right, List.mem_singleton]
    constructor
    · rintro ⟨accepted, rfl⟩
      exact ⟨c, rest, accepted, rfl, rfl⟩
    · rintro ⟨_, _, accepted, same, rfl⟩
      cases same
      exact ⟨accepted, rfl⟩

theorem mem_star : length ∈ star accepts rest ↔
    ∃ run tail, (∀ c ∈ run, accepts c.toNat = true) ∧ rest = run ++ tail ∧ length = run.length := by
  simp only [star, List.mem_reverse, List.mem_range, Nat.lt_succ_iff]
  constructor
  · intro bound
    let all := rest.takeWhile fun c => accepts c.toNat
    refine ⟨all.take length, all.drop length ++ rest.dropWhile fun c => accepts c.toNat, ?_, ?_, ?_⟩
    · intro c member
      exact List.all_eq_true.mp List.all_takeWhile c (List.mem_of_mem_take member)
    · rw [← List.append_assoc, List.take_append_drop, List.takeWhile_append_dropWhile]
    · exact (List.length_take_of_le bound).symm
  · rintro ⟨run, tail, accepted, rfl, rfl⟩
    rw [List.takeWhile_append_of_pos accepted, List.length_append]
    exact Nat.le_add_right _ _

theorem mem_optional : length ∈ greedy accepts 1 rest ↔
    length ∈ character accepts rest ∨ length = 0 := by
  cases rest with
  | nil => simp [greedy, character]
  | cons c rest =>
    by_cases accepted : accepts c.toNat
    · rw [greedy_cons accepted]
      simp [greedy, character, accepted]
    · simp [greedy, character, accepted]

theorem mem_seq : length ∈ seq first second rest ↔
    ∃ one ∈ first rest, ∃ other ∈ second (rest.drop one), length = one + other := by
  simp only [seq, List.mem_flatMap, List.mem_map]
  constructor
  · rintro ⟨one, here, other, there, rfl⟩
    exact ⟨one, here, other, there, rfl⟩
  · rintro ⟨one, here, other, there, rfl⟩
    exact ⟨one, here, other, there, rfl⟩

theorem mem_seq_character : length ∈ seq (character accepts) second rest ↔
    ∃ c tail inner, accepts c.toNat = true ∧ rest = c :: tail ∧ inner ∈ second tail ∧
      length = 1 + inner := by
  rw [mem_seq]
  constructor
  · rintro ⟨_, here, inner, there, rfl⟩
    obtain ⟨c, tail, accepted, rfl, rfl⟩ := mem_character.mp here
    exact ⟨c, tail, inner, accepted, rfl, there, rfl⟩
  · rintro ⟨c, tail, inner, accepted, rfl, there, rfl⟩
    exact ⟨1, mem_character.mpr ⟨c, tail, accepted, rfl, rfl⟩, inner, there, rfl⟩

theorem mem_seq_star : length ∈ seq (star accepts) second rest ↔
    ∃ run tail inner, (∀ c ∈ run, accepts c.toNat = true) ∧ rest = run ++ tail ∧
      inner ∈ second tail ∧ length = run.length + inner := by
  rw [mem_seq]
  constructor
  · rintro ⟨_, here, inner, there, rfl⟩
    obtain ⟨run, tail, accepted, rfl, rfl⟩ := mem_star.mp here
    rw [List.drop_left] at there
    exact ⟨run, tail, inner, accepted, rfl, there, rfl⟩
  · rintro ⟨run, tail, inner, accepted, rfl, there, rfl⟩
    refine ⟨run.length, mem_star.mpr ⟨run, tail, accepted, rfl, rfl⟩, inner, ?_, rfl⟩
    rwa [List.drop_left]

theorem mem_seq_optional : length ∈ seq (greedy accepts 1) second rest ↔
    length ∈ seq (character accepts) second rest ∨ length ∈ second rest := by
  rw [mem_seq, mem_seq]
  constructor
  · rintro ⟨one, here, inner, there, rfl⟩
    rcases mem_optional.mp here with taken | rfl
    · exact .inl ⟨one, taken, inner, there, rfl⟩
    · rw [Nat.zero_add]
      exact .inr there
  · rintro (⟨one, taken, inner, there, rfl⟩ | passed)
    · exact ⟨one, mem_optional.mpr (.inl taken), inner, there, rfl⟩
    · exact ⟨0, mem_optional.mpr (.inr rfl), length, passed, (Nat.zero_add _).symm⟩

end Listing

theorem findSome?_flatMap {α β γ : Type} (list : List α) (each : α → List β)
    (found : β → Option γ) : (list.flatMap each).findSome? found =
      list.findSome? fun item => (each item).findSome? found := by
  induction list with
  | nil => rfl
  | cons item list ih =>
    rw [List.flatMap_cons, List.findSome?_append, ih, List.findSome?_cons]
    cases (each item).findSome? found <;> rfl

theorem codeAt?_eq_head? (text : Array Char) (position : Nat) :
    codeAt? text position = (text.toList.drop position).head?.map Char.toNat := by
  rw [codeAt?, List.head?_drop, Array.getElem?_toList]

namespace Step.Lists

variable {text : Array Char} {first second : List Char → List Nat} {accepts : Nat → Bool}

theorem character (text : Array Char) (accepts : Nat → Bool) :
    Step.Lists text (Step.character text accepts) (Listing.character accepts) := by
  intro cursor next
  rw [Step.character, codeAt?_eq_head?]
  cases text.toList.drop cursor.position with
  | nil => rfl
  | cons c rest =>
    simp only [List.head?_cons, Option.map_some, Listing.character]
    split
    · simp [Cursor.advance]
    · rfl

theorem seq {regex other : Regex} {mode : Mode}
    (lists : Step.Lists text (regex.run text mode) first)
    (behind : Step.Lists text (other.run text mode) second) :
    Step.Lists text ((Regex.seq regex other).run text mode) (Listing.seq first second) := by
  intro cursor next
  simp only [Regex.run]
  -- Backtracking into the first part happens only when all lengths of the second have failed.
  rw [lists, Listing.seq, findSome?_flatMap]
  congr 1
  funext length
  rw [behind, List.findSome?_map, List.drop_drop]
  simp only [Function.comp_def, Cursor.moveTo, Nat.add_assoc]

theorem alt {regex other : Regex} {mode : Mode}
    (lists : Step.Lists text (regex.run text mode) first)
    (behind : Step.Lists text (other.run text mode) second) :
    Step.Lists text ((Regex.alt regex other).run text mode) (Listing.alt first second) := by
  intro cursor next
  simp only [Regex.run]
  rw [lists, behind, Listing.alt, List.findSome?_append, Option.orElse_eq_orElse,
    Option.orElse_eq_or]

theorem greedily (text : Array Char) (accepts : Nat → Bool) (most : Nat) :
    Step.Lists text ((Step.character text accepts).greedily most)
      (Listing.greedy accepts most) := by
  induction most with
  | zero =>
    intro cursor next
    simp [Step.greedily, Listing.greedy, Cursor.moveTo]
  | succ most ih =>
    intro cursor next
    rw [Step.greedily, Step.Lists.character, Option.orElse_eq_orElse, Option.orElse_eq_or]
    cases ahead : text.toList.drop cursor.position with
    | nil => simp [Listing.character, Listing.greedy, Cursor.moveTo]
    | cons c rest =>
      have behind : text.toList.drop (cursor.position + 1) = rest := by
        rw [← List.drop_drop, ahead, List.drop_one, List.tail_cons]
      by_cases accepted : accepts c.toNat
      · -- An iteration that is accepted moves on, so the loop is never cut short.
        rw [Listing.greedy_cons accepted, List.findSome?_append, List.findSome?_map]
        have later := ih (cursor.moveTo (cursor.position + 1)) next
        simp only [Cursor.moveTo, behind, Nat.add_assoc] at later
        simp only [Listing.character, accepted, if_true, List.findSome?_singleton,
          Cursor.moveTo, Nat.succ_ne_self, if_false, later, Function.comp_def, Nat.add_zero]
      · simp [Listing.character, Listing.greedy, accepted, Cursor.moveTo]

variable {regex : Regex} {mode : Mode}

theorem optional (single : regex.run text mode = Step.character text accepts) :
    Step.Lists text ((Regex.repeated .greedy 0 (some 1) regex).run text mode)
      (Listing.greedy accepts 1) := by
  intro cursor next
  simp only [Regex.run, single, Step.repeatedly, Step.times, Nat.sub_zero]
  exact greedily text accepts 1 cursor next

theorem unbounded (text : Array Char) (accepts : Nat → Bool) :
    Step.Lists text ((Step.character text accepts).greedily (text.size + 1))
      (Listing.star accepts) := by
  intro cursor next
  have short : (List.takeWhile (fun c => accepts c.toNat)
      (text.toList.drop cursor.position)).length ≤ text.size + 1 := by
    have run := (List.takeWhile_prefix (fun c => accepts c.toNat)
      (l := text.toList.drop cursor.position)).length_le
    have total : text.toList.length = text.size := Array.length_toList
    rw [List.length_drop] at run
    omega
  rw [greedily, Listing.greedy, Nat.min_eq_right short]
  rfl

theorem star (single : regex.run text mode = Step.character text accepts) :
    Step.Lists text ((Regex.repeated .greedy 0 none regex).run text mode)
      (Listing.star accepts) := by
  intro cursor next
  simp only [Regex.run, single, Step.repeatedly, Step.times]
  exact unbounded text accepts cursor next

theorem plus (single : regex.run text mode = Step.character text accepts) :
    Step.Lists text ((Regex.repeated .greedy 1 none regex).run text mode)
      (Listing.seq (Listing.character accepts) (Listing.star accepts)) := by
  intro cursor next
  have twice : (Regex.seq regex (.repeated .greedy 0 none regex)).run text mode cursor next =
      (Regex.repeated .greedy 1 none regex).run text mode cursor next := by
    simp only [Regex.run, Step.repeatedly, Step.times]
  rw [← twice]
  refine seq ?_ (star single) cursor next
  rw [single]
  exact character text accepts

end Step.Lists

end RuleLexer
