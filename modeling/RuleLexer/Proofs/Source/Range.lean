import RuleLexer.Proofs.Regex.Rejection
import RuleLexer.Proofs.Source.Renumbering

namespace RuleLexer

def RenumberError.IsBeyondLimit : RenumberError → Prop
  | .beyondLimit _ _ => True
  | _ => False

namespace Segment

def octalValue (digits : List Char) : Nat :=
  digits.foldl (fun n c => 8 * n + (c.toNat - 0x30)) 0

/-- The numbers of the segment can be converted, in a text with so many groups. -/
def isInRange (captures : Nat) : Segment → Bool
  | .number digits =>
    digits.length ≤ Number.digitLimit &&
      (0 < Number.valueOf digits && Number.valueOf digits ≤ captures ||
        !digits.all isOctalDigit || octalValue digits ≤ 0x10FFFF)
  | .condition name => !name.all isDigitChar || name.length ≤ Number.digitLimit
  | _ => true

def areInRange (source : List Char) : Bool :=
  (split source).all (isInRange (countCaptures source))

theorem octalText_failsOnly_iff (digits : List Char) :
    FailsOnly RenumberError.IsBeyondLimit (octalText digits) ↔
      digits.all isOctalDigit = true → octalValue digits ≤ 0x10FFFF := by
  unfold octalText
  split
  · next octal =>
    change FailsOnly _ (if 0x7FFFFFFF < octalValue digits then _
      else if 0x10FFFF < octalValue digits then _ else _) ↔ _
    split
    · have beyond : ¬octalValue digits ≤ 0x10FFFF := by omega
      simp [octal, beyond, RenumberError.IsBeyondLimit]
    · split
      · next beyond => simp [octal, Nat.not_le.mpr beyond, RenumberError.IsBeyondLimit]
      · next within => simp [octal, Nat.not_lt.mp within]
  · next other => simp [other]

/-- A segment is renumbered, or its reference cannot be written, exactly if it is in range. -/
theorem renumbered_failsOnly_iff (captures : Nat) (offset : Int) (segment : Segment) :
    FailsOnly RenumberError.IsBeyondLimit (segment.renumbered captures offset) ↔
      segment.isInRange captures = true := by
  cases segment with
  | number digits =>
    by_cases short : digits.length ≤ Number.digitLimit
    · rw [renumbered_number short, isInRange]
      split
      · next own => simp [short, own, RenumberError.IsBeyondLimit]
      · next other =>
        rw [octalText_failsOnly_iff, Decidable.imp_iff_not_or]
        simp [short, other]
    · rw [renumbered, digitsValue_of_long short, isInRange]
      simp [short, RenumberError.IsBeyondLimit]
  | condition name =>
    by_cases number : name.all isDigitChar = true
    · by_cases short : name.length ≤ Number.digitLimit
      · rw [renumbered_condition number short, isInRange]
        simp [short]
      · rw [renumbered, if_pos number, digitsValue_of_long short, isInRange]
        simp [number, short, RenumberError.IsBeyondLimit]
    · rw [renumbered, if_neg number, isInRange]
      simp [number]
  | _ => simp [renumbered, isInRange]

end Segment

open Segment (areInRange)

variable {source : List Char} {offset : Int}

theorem areInRange_of_renumber {text : List Char}
    (renumbered : renumber source (countCaptures source) offset = .ok text) :
    areInRange source = true := by
  refine List.all_eq_true.mpr fun segment member => ?_
  rw [← Segment.renumbered_failsOnly_iff _ offset,
    (Segment.renumber_eq_ok renumbered).2 segment member]
  exact .ok _

namespace Lexeme

/-- The text does not go on with the counts in braces, nor does it close them. -/
def StopsCounts (text : List Char) : Prop :=
  ∀ c, text.head? = some c → c.isDigit = false ∧ c ≠ ',' ∧ c ≠ '\x7d'

inductive SameCounts : List Char → List Char → Prop
  | stops {text other : List Char} (here : StopsCounts text) (there : StopsCounts other) :
    SameCounts text other
  | next (c : Char) {text other : List Char} (rest : SameCounts text other) :
    SameCounts (c :: text) (c :: other)

theorem StopsCounts.digits {text : List Char} (stops : StopsCounts text) :
    text.takeWhile Char.isDigit = [] ∧ text.dropWhile Char.isDigit = text := by
  cases text with
  | nil => exact ⟨rfl, rfl⟩
  | cons c rest =>
    have other : ¬c.isDigit = true := Bool.eq_false_iff.mp (stops c rfl).1
    exact ⟨List.takeWhile_cons_of_neg other, List.dropWhile_cons_of_neg other⟩

namespace SameCounts

variable {text other : List Char}

theorem digits (same : SameCounts text other) :
    text.takeWhile Char.isDigit = other.takeWhile Char.isDigit ∧
      SameCounts (text.dropWhile Char.isDigit) (other.dropWhile Char.isDigit) := by
  induction same with
  | stops here there =>
    rw [here.digits.1, here.digits.2, there.digits.1, there.digits.2]
    exact ⟨rfl, .stops here there⟩
  | next c rest ih =>
    by_cases digit : c.isDigit = true
    · rw [List.takeWhile_cons_of_pos digit, List.takeWhile_cons_of_pos digit,
        List.dropWhile_cons_of_pos digit, List.dropWhile_cons_of_pos digit]
      exact ⟨congrArg _ ih.1, ih.2⟩
    · rw [List.takeWhile_cons_of_neg digit, List.takeWhile_cons_of_neg digit,
        List.dropWhile_cons_of_neg digit, List.dropWhile_cons_of_neg digit]
      exact ⟨rfl, .next c rest⟩

theorem countsFit_eq (same : SameCounts text other) : countsFit text = countsFit other := by
  obtain ⟨low, behind⟩ := same.digits
  unfold countsFit
  rw [low]
  generalize text.dropWhile Char.isDigit = one at behind ⊢
  generalize other.dropWhile Char.isDigit = another at behind ⊢
  cases behind with
  | stops here there => cases one <;> cases another <;> simp_all [StopsCounts]
  | @next c one another rest =>
    by_cases closing : c = '\x7d'
    · subst closing
      rfl
    by_cases comma : c = ','
    · subst comma
      obtain ⟨high, behind⟩ := rest.digits
      simp only [high]
      generalize one.dropWhile Char.isDigit = one at behind ⊢
      generalize another.dropWhile Char.isDigit = another at behind ⊢
      cases behind with
      | stops here there => cases one <;> cases another <;> simp_all [StopsCounts]
      | next d rest =>
        by_cases closing : d = '\x7d'
        · subst closing
          rfl
        · simp [closing]
    · simp [closing, comma]

theorem append_left (front : List Char) (same : SameCounts text other) :
    SameCounts (front ++ text) (front ++ other) := by
  induction front with
  | nil => exact same
  | cons c front ih => exact .next c ih

end SameCounts

theorem bracesFit_append {front : List Char} (unbraced : '\x7b' ∉ front) (rest : List Char) :
    bracesFit (front ++ rest) = bracesFit rest := by
  induction front with
  | nil => rfl
  | cons c front ih =>
    obtain ⟨other, unbraced⟩ := List.ne_and_not_mem_of_not_mem_cons unbraced
    have other : (c != '\x7b') = true := by simpa using Ne.symm other
    rw [List.cons_append, bracesFit, other, Bool.true_or, Bool.true_and, ih unbraced]

theorem bracesFit_append_left {text other : List Char} (front : List Char)
    (same : SameCounts text other) (fits : bracesFit text = bracesFit other) :
    bracesFit (front ++ text) = bracesFit (front ++ other) := by
  induction front with
  | nil => exact fits
  | cons c front ih =>
    rw [List.cons_append, List.cons_append, bracesFit, bracesFit, ih,
      (same.append_left front).countsFit_eq]

structure IsMark (text : List Char) : Prop where
  stops : ∃ c rest, text = c :: rest ∧ c.isDigit = false ∧ c ≠ ',' ∧ c ≠ '\x7d'
  unbraced : '\x7b' ∉ text

theorem IsMark.stopsCounts {text : List Char} (mark : IsMark text) (rest : List Char) :
    StopsCounts (text ++ rest) := by
  obtain ⟨⟨c, _, rfl, stops⟩, -⟩ := mark
  rintro _ ⟨⟩
  exact stops

end Lexeme

namespace Segment

open Lexeme (SameCounts bracesFit IsMark)

theorem not_mem_intText (number : Int) : '\x7b' ∉ Number.intText number := by
  have digits (n : Nat) : '\x7b' ∉ Nat.toDigits 10 n := fun member => by
    cases List.all_eq_true.mp (Number.all_isDigit_toDigits n) _ member
  cases number with
  | ofNat n => exact digits n
  | negSucc n => simpa [Number.intText] using digits (n + 1)

/-- Where a segment is put makes a difference only if it refers to a group by its number. -/
theorem renumbered_elsewhere {captures : Nat} {offset other : Int} {segment : Segment}
    {text elsewhere : List Char} (here : segment.renumbered captures offset = .ok text)
    (there : segment.renumbered captures other = .ok elsewhere) :
    text = elsewhere ∨ IsMark text ∧ IsMark elsewhere := by
  have reference (number : Int) : IsMark ('\\' :: Number.intText number) :=
    ⟨⟨_, _, rfl, by decide⟩, by simpa using not_mem_intText number⟩
  have conditional (number : Int) : IsMark (condition (Number.intText number)).text :=
    ⟨⟨_, _, rfl, by decide⟩, by simpa [Segment.text] using not_mem_intText number⟩
  -- Only numbers of own groups depend on the offset, and these are written as marks.
  cases segment with
  | number digits =>
    by_cases short : digits.length ≤ Number.digitLimit
    · rw [renumbered_number short] at here there
      split at here
      · next own =>
        rw [if_pos own] at there
        split at here
        · cases here
        split at there
        · cases there
        cases here
        cases there
        exact .inr ⟨reference _, reference _⟩
      · next foreign =>
        rw [if_neg foreign] at there
        exact .inl (Except.ok.inj (here.symm.trans there))
    · rw [renumbered, digitsValue_of_long short] at here
      cases here
  | condition name =>
    by_cases number : name.all isDigitChar = true
    · by_cases short : name.length ≤ Number.digitLimit
      · rw [renumbered_condition number short] at here there
        split at here
        · next own =>
          rw [if_pos own] at there
          cases here
          cases there
          exact .inr ⟨conditional _, conditional _⟩
        · next foreign =>
          rw [if_neg foreign] at there
          exact .inl (Except.ok.inj (here.symm.trans there))
      · rw [renumbered, if_pos number, digitsValue_of_long short] at here
        cases here
    · rw [renumbered, if_neg number] at here there
      exact .inl (Except.ok.inj (here.symm.trans there))
  | _ => exact .inl (Except.ok.inj (here.symm.trans there))

end Segment

/-- Where a text is put does not change whether the counts in its braces are in range. -/
theorem bracesFit_of_renumber {other : Int} {text elsewhere : List Char}
    (here : renumber source (countCaptures source) offset = .ok text)
    (there : renumber source (countCaptures source) other = .ok elsewhere)
    (fit : Lexeme.bracesFit text = true) : Lexeme.bracesFit elsewhere = true := by
  obtain ⟨rfl, own⟩ := Segment.renumber_eq_ok here
  obtain ⟨rfl, others⟩ := Segment.renumber_eq_ok there
  suffices same : ∀ segments ⊆ Segment.split source,
      Lexeme.SameCounts (segments.flatMap (Segment.rendered (countCaptures source) offset))
        (segments.flatMap (Segment.rendered (countCaptures source) other)) ∧
      Lexeme.bracesFit (segments.flatMap (Segment.rendered (countCaptures source) offset)) =
        Lexeme.bracesFit (segments.flatMap (Segment.rendered (countCaptures source) other)) by
    rw [← (same _ (List.Subset.refl _)).2]
    exact fit
  intro segments within
  induction segments with
  | nil => exact ⟨.stops nofun nofun, rfl⟩
  | cons segment segments ih =>
    obtain ⟨member, within⟩ := List.cons_subset.mp within
    obtain ⟨same, fits⟩ := ih within
    rw [List.flatMap_cons, List.flatMap_cons]
    rcases Segment.renumbered_elsewhere (own segment member) (others segment member) with
      equal | ⟨here, there⟩
    · rw [equal]
      exact ⟨same.append_left _, Lexeme.bracesFit_append_left _ same fits⟩
    · rw [Lexeme.bracesFit_append here.unbraced, Lexeme.bracesFit_append there.unbraced]
      exact ⟨.stops (here.stopsCounts _) (there.stopsCounts _), fits⟩

end RuleLexer
