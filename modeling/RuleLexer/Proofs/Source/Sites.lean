import Mathlib.Data.List.Forall2
import RuleLexer.Proofs.Source.Range

namespace RuleLexer

/-- What renumbering writes for a segment. -/
inductive Part where
  | fixed (text : List Char)
  | reference (group : Nat)
  | condition (group : Nat)
  | faulty (error : RenumberError)

namespace Part

def text (offset : Int) : Part → List Char
  | .fixed text => text
  | .reference group => '\\' :: Number.intText (group + offset + 1)
  | .condition group => (Segment.condition (Number.intText (group + offset + 1))).text
  | .faulty _ => []

def fault? (offset : Int) : Part → Option RenumberError
  | .reference group =>
    if referenceLimit < group + offset + 1 then some (.beyondLimit group (group + offset + 1))
    else none
  | .faulty error => some error
  | _ => none

/-- The part that a segment becomes in a text with so many groups of its own. Only the digits behind
a backslash and those of a condition can be sites, and only if they number a group of the text. -/
inductive Of (captures : Nat) : Segment → Part → Prop
  | reference {digits : List Char} (short : digits.length ≤ Number.digitLimit)
    (own : 0 < Number.valueOf digits ∧ Number.valueOf digits ≤ captures) :
    Of captures (.number digits) (.reference (Number.valueOf digits))
  | condition {name : List Char} (number : name.all Segment.isDigitChar = true)
    (short : name.length ≤ Number.digitLimit)
    (own : 0 < Number.valueOf name ∧ Number.valueOf name ≤ captures) :
    Of captures (.condition name) (.condition (Number.valueOf name))
  | character {digits text : List Char} (short : digits.length ≤ Number.digitLimit)
    (foreign : ¬(0 < Number.valueOf digits ∧ Number.valueOf digits ≤ captures))
    (written : Segment.octalText digits = .ok text) : Of captures (.number digits) (.fixed text)
  | foreignCondition {name : List Char}
    (foreign : name.all Segment.isDigitChar = true → name.length ≤ Number.digitLimit ∧
      ¬(0 < Number.valueOf name ∧ Number.valueOf name ≤ captures)) :
    Of captures (.condition name) (.fixed (Segment.condition name).text)
  | same {segment : Segment} (number : ∀ digits, segment ≠ .number digits)
    (condition : ∀ name, segment ≠ .condition name) : Of captures segment (.fixed segment.text)
  | noCharacter {digits : List Char} {error : RenumberError}
    (short : digits.length ≤ Number.digitLimit)
    (foreign : ¬(0 < Number.valueOf digits ∧ Number.valueOf digits ≤ captures))
    (failed : Segment.octalText digits = .error error) :
    Of captures (.number digits) (.faulty error)
  | longNumber {digits : List Char} (long : ¬digits.length ≤ Number.digitLimit) :
    Of captures (.number digits) (.faulty (.tooManyDigits digits.length))
  | longCondition {name : List Char} (number : name.all Segment.isDigitChar = true)
    (long : ¬name.length ≤ Number.digitLimit) :
    Of captures (.condition name) (.faulty (.tooManyDigits name.length))

variable {captures : Nat} {segment : Segment} {part : Part} {parts : List Part}

theorem Of.renumbered_eq (becomes : Of captures segment part) (offset : Int) :
    segment.renumbered captures offset = match part.fault? offset with
      | some error => .error error
      | none => .ok (part.text offset) := by
  cases becomes with
  | reference short own =>
    rw [Segment.renumbered_number short, if_pos own, fault?]
    split <;> rfl
  | condition number short own =>
    rw [Segment.renumbered_condition number short, if_pos own]
    rfl
  | character short foreign written =>
    rw [Segment.renumbered_number short, if_neg foreign, written]
    rfl
  | @foreignCondition name foreign =>
    by_cases number : name.all Segment.isDigitChar = true
    · obtain ⟨short, foreign⟩ := foreign number
      rw [Segment.renumbered_condition number short, if_neg foreign]
      rfl
    · rw [Segment.renumbered, if_neg number]
      rfl
  | same number condition =>
    cases segment with
    | number digits => exact absurd rfl (number digits)
    | condition name => exact absurd rfl (condition name)
    | _ => rfl
  | noCharacter short foreign failed =>
    rw [Segment.renumbered_number short, if_neg foreign, failed]
    rfl
  | longNumber long =>
    rw [Segment.renumbered, Segment.digitsValue_of_long long]
    rfl
  | longCondition number long =>
    rw [Segment.renumbered, if_pos number, Segment.digitsValue_of_long long]
    rfl

theorem not_isBeyondLimit_of_octalText {digits : List Char} {error : RenumberError}
    (failed : Segment.octalText digits = .error error) : ¬error.IsBeyondLimit := by
  unfold Segment.octalText at failed
  dsimp only at failed
  split at failed
  · split at failed
    · cases failed
      exact id
    · split at failed
      · cases failed
        exact id
      · cases failed
  · cases failed

theorem exists_of_number (captures : Nat) (digits : List Char) :
    ∃ part, Of captures (.number digits) part := by
  by_cases short : digits.length ≤ Number.digitLimit
  · by_cases own : 0 < Number.valueOf digits ∧ Number.valueOf digits ≤ captures
    · exact ⟨_, .reference short own⟩
    · cases written : Segment.octalText digits with
      | ok text => exact ⟨_, .character short own written⟩
      | error error => exact ⟨_, .noCharacter short own written⟩
  · exact ⟨_, .longNumber short⟩

theorem exists_of_condition (captures : Nat) (name : List Char) :
    ∃ part, Of captures (.condition name) part := by
  by_cases number : name.all Segment.isDigitChar = true
  · by_cases short : name.length ≤ Number.digitLimit
    · by_cases own : 0 < Number.valueOf name ∧ Number.valueOf name ≤ captures
      · exact ⟨_, .condition number short own⟩
      · exact ⟨_, .foreignCondition fun _ => ⟨short, own⟩⟩
    · exact ⟨_, .longCondition number short⟩
  · exact ⟨_, .foreignCondition fun digits => absurd digits number⟩

theorem exists_of (captures : Nat) (segment : Segment) : ∃ part, Of captures segment part := by
  cases segment with
  | number digits => exact exists_of_number captures digits
  | condition name => exact exists_of_condition captures name
  | _ => exact ⟨_, .same nofun nofun⟩

theorem exists_parts (captures : Nat) (segments : List Segment) :
    ∃ parts, List.Forall₂ (Of captures) segments parts := by
  induction segments with
  | nil => exact ⟨[], .nil⟩
  | cons segment segments ih =>
    obtain ⟨part, first⟩ := exists_of captures segment
    obtain ⟨parts, rest⟩ := ih
    exact ⟨part :: parts, .cons first rest⟩

theorem mapM_renumbered_eq {segments : List Segment}
    (become : List.Forall₂ (Of captures) segments parts) (offset : Int) :
    segments.mapM (Segment.renumbered captures offset) =
      match parts.findSome? (fault? offset) with
      | some error => .error error
      | none => .ok (parts.map (text offset)) := by
  induction become with
  | nil => rfl
  | @cons segment part segments parts first _ ih =>
    rw [List.mapM_cons, first.renumbered_eq, ih, List.findSome?_cons]
    cases part.fault? offset with
    | some error => rfl
    | none =>
      dsimp only
      cases parts.findSome? (fault? offset) <;> rfl

theorem renumber_eq {source : List Char}
    (become : List.Forall₂ (Of captures) (Segment.split source) parts) (offset : Int) :
    renumber source captures offset = match parts.findSome? (fault? offset) with
      | some error => .error error
      | none => .ok (parts.flatMap (text offset)) := by
  rw [renumber, mapM_renumbered_eq become]
  cases parts.findSome? (fault? offset) with
  | some error => rfl
  | none => rw [List.flatMap_def]; rfl

/-- The parts can all be written: no digits are at fault, and no reference is out of reach. -/
def Fit (offset : Int) (parts : List Part) : Prop :=
  (∀ error, .faulty error ∉ parts) ∧
    ∀ group : Nat, .reference group ∈ parts → group + offset + 1 ≤ referenceLimit

theorem findSome?_fault?_eq_none (offset : Int) (parts : List Part) :
    parts.findSome? (fault? offset) = none ↔ Fit offset parts := by
  rw [List.findSome?_eq_none_iff]
  constructor
  · intro none
    refine ⟨fun error member => ?_, fun group member => ?_⟩
    · cases none _ member
    · have within := none _ member
      rw [fault?] at within
      split at within
      · cases within
      · next small => exact Int.not_lt.mp small
  · intro fit part member
    cases part with
    | fixed | condition => rfl
    | faulty error => exact absurd member (fit.1 error)
    | reference group => exact if_neg (Int.not_lt.mpr (fit.2 group member))

theorem Fit.mono {offset other : Int} (fit : Fit offset parts) (less : other ≤ offset) :
    Fit other parts := by
  refine ⟨fit.1, fun group member => ?_⟩
  have within := fit.2 group member
  omega

theorem Of.not_isBeyondLimit {error : RenumberError}
    (becomes : Of captures segment (.faulty error)) : ¬error.IsBeyondLimit := by
  cases becomes with
  | noCharacter _ _ failed => exact not_isBeyondLimit_of_octalText failed
  | longNumber | longCondition => exact id

theorem exists_of_mem {segments : List Segment}
    (become : List.Forall₂ (Of captures) segments parts) (member : part ∈ parts) :
    ∃ segment ∈ segments, Of captures segment part := by
  induction become with
  | nil => cases member
  | @cons segment _ _ _ first _ ih =>
    rcases List.mem_cons.mp member with rfl | later
    · exact ⟨segment, List.mem_cons_self, first⟩
    · obtain ⟨segment, inside, becomes⟩ := ih later
      exact ⟨segment, List.mem_cons_of_mem _ inside, becomes⟩

theorem returns_iff {source : List Char}
    (become : List.Forall₂ (Of captures) (Segment.split source) parts) (offset : Int) :
    (∃ text, renumber source captures offset = .ok text) ↔ Fit offset parts := by
  rw [renumber_eq become, ← findSome?_fault?_eq_none]
  cases parts.findSome? (fault? offset) <;> simp

theorem reference_of_beyondLimit {segments : List Segment}
    (become : List.Forall₂ (Of captures) segments parts) {offset shifted : Int} {group : Nat}
    (found : parts.findSome? (fault? offset) = some (.beyondLimit group shifted)) :
    .reference group ∈ parts ∧ shifted = group + offset + 1 ∧ 99 < shifted := by
  obtain ⟨part, member, fault⟩ := List.exists_of_findSome?_eq_some found
  cases part with
  | fixed | condition => cases fault
  | faulty error =>
    cases Option.some.inj fault
    obtain ⟨segment, -, becomes⟩ := exists_of_mem become member
    exact absurd trivial becomes.not_isBeyondLimit
  | reference site =>
    rw [fault?] at fault
    split at fault
    · next beyond =>
      cases fault
      exact ⟨member, rfl, beyond⟩
    · cases fault

end Part

open RuleLexer.Part (Fit)

/-- One decomposition of a text serves every offset. Its segments, which make up the text, become
parts of a fixed form and sites with numbers of the text's own groups. Wherever renumbering returns,
it has written the parts, each site with its number moved by `offset + 1`; it returns exactly if the
parts can be written there, so at every smaller offset too. It is stopped by a group number only at
a backslash site, and then no greater offset lets it return. -/
theorem renumber_uniform (source : List Char) (captures : Nat) :
    (Segment.split source).flatMap Segment.text = source ∧
    ∃ parts, List.Forall₂ (Part.Of captures) (Segment.split source) parts ∧
      (∀ group : Nat, .reference group ∈ parts ∨ .condition group ∈ parts →
        1 ≤ group ∧ group ≤ captures) ∧
      ∀ offset : Int,
        (∀ text, renumber source captures offset = .ok text →
          text = parts.flatMap (Part.text offset) ∧
            ∀ other ≤ offset, ∃ moved, renumber source captures other = .ok moved) ∧
        ((∃ text, renumber source captures offset = .ok text) ↔ Fit offset parts) ∧
        (∀ group shifted, renumber source captures offset = .error (.beyondLimit group shifted) →
          .reference group ∈ parts ∧ shifted = group + offset + 1 ∧ 99 < shifted) ∧
        ∀ group : Nat, .reference group ∈ parts → 99 < group + offset + 1 →
          ∀ other ≥ offset, ∀ text, renumber source captures other ≠ .ok text := by
  obtain ⟨parts, become⟩ := Part.exists_parts captures (Segment.split source)
  have written := Part.renumber_eq become
  have returns := Part.returns_iff become
  refine ⟨Segment.flatMap_text_split source, parts, become, ?_, fun offset => ⟨?_, returns offset,
    ?_, ?_⟩⟩
  · rintro group (site | site)
    all_goals
      obtain ⟨segment, -, becomes⟩ := Part.exists_of_mem become site
      cases becomes
      assumption
  · intro text returned
    have fit := (returns offset).mp ⟨text, returned⟩
    refine ⟨?_, fun other less => (returns other).mpr (fit.mono less)⟩
    rw [written, (Part.findSome?_fault?_eq_none offset parts).mpr fit] at returned
    exact (Except.ok.inj returned).symm
  · intro group shifted stopped
    rw [written] at stopped
    cases found : parts.findSome? (Part.fault? offset) with
    | none =>
      rw [found] at stopped
      cases stopped
    | some error =>
      rw [found] at stopped
      cases Except.error.inj stopped
      exact Part.reference_of_beyondLimit become found
  · intro group site beyond other more text returned
    have within := ((returns other).mp ⟨text, returned⟩).2 group site
    rw [referenceLimit] at within
    omega

/-- Behind 98 groups the number 1 of a reference has become 99 and cannot move on, while that of a
condition can. -/
example : renumber "(a)\\1(?(1)b)[\\1]".toList 1 97 = .ok "(a)\\99(?(99)b)[\\1]".toList ∧
    renumber "(a)\\1(?(1)b)[\\1]".toList 1 98 = .error (.beyondLimit 1 100) ∧
    renumber "(a)(?(1)b)[\\1]".toList 1 98 = .ok "(a)(?(100)b)[\\1]".toList :=
  ⟨rfl, rfl, rfl⟩

end RuleLexer
