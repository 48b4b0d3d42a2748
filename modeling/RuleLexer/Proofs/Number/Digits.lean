import Mathlib.Algebra.GroupWithZero.Nat
import RuleLexer.Number.Integer
import RuleLexer.Text.Identifier

namespace RuleLexer.Number

def valueOf (digits : List Char) : Nat :=
  ofDigits (digits.filterMap digit?)

theorem mem_of_isDigit {c : Char} (digit : c.isDigit = true) : c ∈ "0123456789".toList := by
  have bounds : 48 ≤ c.toNat ∧ c.toNat ≤ 57 := by
    simp only [Char.isDigit, Bool.and_eq_true, decide_eq_true_eq] at digit
    exact ⟨UInt32.le_iff_toNat_le.mp digit.1, UInt32.le_iff_toNat_le.mp digit.2⟩
  have code : c = Char.ofNat c.toNat := (Char.ofNat_toNat c).symm
  have cases : c.toNat = 48 ∨ c.toNat = 49 ∨ c.toNat = 50 ∨ c.toNat = 51 ∨ c.toNat = 52 ∨
      c.toNat = 53 ∨ c.toNat = 54 ∨ c.toNat = 55 ∨ c.toNat = 56 ∨ c.toNat = 57 := by omega
  rw [code]
  rcases cases with same | same | same | same | same | same | same | same | same | same <;>
    rw [same] <;> decide

/-- What holds of each of the ten digits holds of every character that is a digit. -/
theorem of_isDigit {p : Char → Bool} (each : "0123456789".toList.all p = true) {c : Char}
    (digit : c.isDigit = true) : p c = true :=
  List.all_eq_true.mp each c (mem_of_isDigit digit)

theorem digit?_of_isDigit {c : Char} (digit : c.isDigit = true) :
    digit? c = some (c.toNat - 0x30) := by
  have bounds : 0x30 ≤ c.toNat ∧ c.toNat ≤ 0x39 := by
    simpa [Char.isDigit, UInt32.le_iff_toNat_le] using digit
  have ascii : c.toNat < 0x80 := by omega
  simp [digit?, Text.digitValue?, ascii, bounds]

theorem filterMap_digit? {digits : List Char} (plain : digits.all Char.isDigit = true) :
    digits.filterMap digit? = digits.map fun c => c.toNat - 0x30 := by
  induction digits with
  | nil => rfl
  | cons c digits ih =>
    simp only [List.all_cons, Bool.and_eq_true] at plain
    rw [List.filterMap_cons_some (digit?_of_isDigit plain.1), ih plain.2, List.map_cons]

theorem valueOf_eq_ofDigitChars {digits : List Char} (plain : digits.all Char.isDigit = true) :
    valueOf digits = Nat.ofDigitChars 10 digits 0 := by
  rw [valueOf, filterMap_digit? plain, ofDigits, List.foldl_map, Nat.ofDigitChars_eq_foldl]
  rfl

theorem all_isDigit_toDigits (n : Nat) : (Nat.toDigits 10 n).all Char.isDigit = true :=
  List.all_eq_true.mpr fun _ member => Nat.isDigit_of_mem_toDigits (by omega) (by omega) member

theorem valueOf_toDigits (n : Nat) : valueOf (Nat.toDigits 10 n) = n := by
  rw [valueOf_eq_ofDigitChars (all_isDigit_toDigits n), Nat.ofDigitChars_ten_toDigits]

theorem digitRun_of_digits {digits : List Char} (plain : digits.all Char.isDigit = true) :
    digitRun digits = (digits.filterMap digit?, []) := by
  induction digits with
  | nil => rfl
  | cons c digits ih =>
    simp only [List.all_cons, Bool.and_eq_true] at plain
    simp [digitRun, digit?_of_isDigit plain.1, ih plain.2]

theorem trimNumber_of_unblank {text : List Char}
    (unblank : ∀ c ∈ text, Text.isBlank c.toNat = false) : trimNumber text = text := by
  have kept {blank : Char → Bool} (none : ∀ c ∈ text, blank c = false) :
      ((text.dropWhile blank).reverse.dropWhile blank).reverse = text := by
    have first : text.dropWhile blank = text := by
      cases text with
      | nil => rfl
      | cons c text => exact List.dropWhile_cons_of_neg (by simp [none])
    have last : text.reverse.dropWhile blank = text.reverse := by
      cases reversed : text.reverse with
      | nil => rfl
      | cons c others =>
        have member : c ∈ text := by
          rw [← List.mem_reverse, reversed]
          exact List.mem_cons_self
        exact List.dropWhile_cons_of_neg (by simp [none c member])
    rw [first, last, List.reverse_reverse]
  refine kept fun c member => ?_
  have blank := unblank c member
  split
  · exact Bool.eq_false_iff.mpr fun ascii =>
      Bool.eq_false_iff.mp blank (Text.isBlank_of_isAsciiBlank _ ascii)
  · exact blank

theorem unblank_of_isDigit {c : Char} (digit : c.isDigit = true) :
    Text.isBlank c.toNat = false := by
  simpa using of_isDigit (p := fun c => !Text.isBlank c.toNat) (by decide) digit

theorem readInt_of_split {text digits : List Char} {negative : Bool}
    (unblank : ∀ c ∈ text, Text.isBlank c.toNat = false)
    (signed : splitSign text = (negative, digits)) (plain : digits.all Char.isDigit = true)
    (some : digits ≠ []) : readInt text =
      if digitLimit < digits.length then .error (.tooManyDigits digits.length)
      else .ok (if negative then -(valueOf digits : Int) else valueOf digits) := by
  cases digits with
  | nil => exact absurd rfl some
  | cons c digits =>
    have digit : c.isDigit = true := List.all_eq_true.mp plain c List.mem_cons_self
    have starts : startsWithDigit (c :: digits) = true := by
      simp [startsWithDigit, digit?_of_isDigit digit]
    have length : ((c :: digits).filterMap digit?).length = (c :: digits).length := by
      rw [filterMap_digit? plain, List.length_map]
    have nonempty : ((c :: digits).filterMap digit?).isEmpty = false := by
      rw [filterMap_digit? plain]
      rfl
    simp only [readInt, trimNumber_of_unblank unblank, signed, starts, if_true,
      digitRun_of_digits plain, length, nonempty, List.isEmpty_nil, valueOf]
    cases negative <;> rfl

theorem splitSign_of_digits {digits : List Char} (plain : digits.all Char.isDigit = true) :
    splitSign digits = (false, digits) := by
  unfold splitSign
  split
  · simp at plain
  · simp at plain
  · rfl

theorem readInt_of_digits {digits : List Char} (plain : digits.all Char.isDigit = true)
    (some : digits ≠ []) : readInt digits =
      if digitLimit < digits.length then .error (.tooManyDigits digits.length)
      else .ok (valueOf digits) :=
  readInt_of_split (fun c member => unblank_of_isDigit (List.all_eq_true.mp plain c member))
    (splitSign_of_digits plain) plain some

theorem toDigits_ne_nil (n : Nat) : Nat.toDigits 10 n ≠ [] := by
  have positive : 0 < (Nat.toDigits 10 n).length := Nat.length_toDigits_pos
  intro none
  simp [none] at positive

theorem readInt_intText {value : Int} (short : value.natAbs < 10 ^ digitLimit) :
    readInt (intText value) = .ok value := by
  have length (n : Nat) (small : n < 10 ^ digitLimit) :
      ¬ digitLimit < (Nat.toDigits 10 n).length :=
    Nat.not_lt.mpr ((Nat.length_toDigits_le_iff (by omega) (by decide)).mpr small)
  have unblank (n : Nat) : ∀ c ∈ Nat.toDigits 10 n, Text.isBlank c.toNat = false :=
    fun c member => unblank_of_isDigit (List.all_eq_true.mp (all_isDigit_toDigits n) c member)
  cases value with
  | ofNat n =>
    rw [intText, readInt_of_digits (all_isDigit_toDigits n) (toDigits_ne_nil n),
      if_neg (length n short), valueOf_toDigits]
    rfl
  | negSucc n =>
    have signed : ∀ c ∈ '-' :: Nat.toDigits 10 (n + 1), Text.isBlank c.toNat = false := by
      intro c member
      rcases List.mem_cons.mp member with rfl | member
      · decide
      · exact unblank (n + 1) c member
    rw [intText, readInt_of_split signed rfl (all_isDigit_toDigits _) (toDigits_ne_nil _),
      if_neg (length (n + 1) short), valueOf_toDigits]
    rfl

theorem toDigits_of_head_zero {n : Nat} {digits : List Char}
    (written : Nat.toDigits 10 n = '0' :: digits) : digits = [] := by
  induction n using Nat.strongRecOn generalizing digits with
  | _ n ih =>
    by_cases small : n < 10
    · rw [Nat.toDigits_of_lt_base small] at written
      exact (List.cons.inj written).2.symm
    · rw [Nat.toDigits_of_base_le (by omega) (by omega)] at written
      cases front : Nat.toDigits 10 (n / 10) with
      | nil => exact absurd front (toDigits_ne_nil _)
      | cons c front' =>
        rw [front, List.cons_append] at written
        obtain ⟨rfl, -⟩ := List.cons.inj written
        -- The quotient would be zero, and then the number has one digit only.
        have single := ih (n / 10) (by omega) front
        rw [single] at front
        have value := valueOf_toDigits (n / 10)
        rw [front] at value
        have zero : valueOf ['0'] = 0 := by decide
        omega

theorem mem_of_digitRun {text : List Char} (whole : (digitRun text).2 = []) :
    ∀ c ∈ text, (digit? c).isSome = true ∨ c = '_' := by
  induction text with
  | nil => nofun
  | cons c rest ih =>
    intro d member
    rw [digitRun] at whole
    split at whole
    · next digit found =>
      rcases List.mem_cons.mp member with rfl | later
      · exact .inl (by simp [found])
      · exact ih whole d later
    · split at whole
      · next underscore =>
        simp only [Bool.and_eq_true, beq_iff_eq] at underscore
        rcases List.mem_cons.mp member with rfl | later
        · exact .inr underscore.1
        · exact ih whole d later
      · cases whole

theorem mem_trimNumber {text : List Char} {c : Char} (member : c ∈ text)
    (unblank : Text.isBlank c.toNat = false) : c ∈ trimNumber text := by
  have kept {blank : Char → Bool} (other : blank c = false) {text : List Char} (member : c ∈ text) :
      c ∈ text.dropWhile blank := by
    rw [← List.takeWhile_append_dropWhile (p := blank) (l := text), List.mem_append] at member
    refine member.resolve_left fun front => ?_
    cases other.symm.trans (List.all_eq_true.mp List.all_takeWhile c front)
  have other : (if text.all (·.toNat < 0x80) then Text.isAsciiBlank c.toNat
      else Text.isBlank c.toNat) = false := by
    split
    · exact Bool.eq_false_iff.mpr fun ascii =>
        Bool.eq_false_iff.mp unblank (Text.isBlank_of_isAsciiBlank _ ascii)
    · exact unblank
  exact List.mem_reverse.mpr (kept other (List.mem_reverse.mpr (kept other member)))

theorem mem_splitSign {text : List Char} {c : Char} (member : c ∈ text) (sign : c ≠ '-' ∧ c ≠ '+') :
    c ∈ (splitSign text).2 := by
  unfold splitSign
  split
  · exact (List.mem_cons.mp member).resolve_left sign.1
  · exact (List.mem_cons.mp member).resolve_left sign.2
  · exact member

theorem not_mem_of_readInt {text : List Char} {value : Int} (read : readInt text = .ok value) :
    ∀ c ∈ ['(', '[', ']', ')', '?', '\\', '&', '<', '>'], c ∉ text := by
  have whole : (digitRun (splitSign (trimNumber text)).2).2 = [] := by
    unfold readInt at read
    dsimp only at read
    split at read
    · split at read
      · cases read
      · split at read
        · cases read
        · next rest => simp_all
    · simp at read
  have none : ['(', '[', ']', ')', '?', '\\', '&', '<', '>'].all (fun c => !Text.isBlank c.toNat &&
      !(digit? c).isSome && c != '_' && c != '-' && c != '+') = true := by decide
  intro c special member
  have other := List.all_eq_true.mp none c special
  simp only [Bool.and_eq_true, Bool.not_eq_true', bne_iff_ne] at other
  obtain ⟨⟨⟨⟨unblank, digit⟩, underscore⟩, minus⟩, plus⟩ := other
  have inside := mem_splitSign (mem_trimNumber member unblank) ⟨minus, plus⟩
  rcases mem_of_digitRun whole c inside with found | same
  · cases digit.symm.trans found
  · exact underscore same

end RuleLexer.Number

namespace RuleLexer.Text

theorem script_of_isDigit {code : Nat} (digit : isDigit code = true) :
    ∃ first ∈ digitZeros, first ≤ code ∧ code ≤ first + 9 := by
  unfold isDigit digitValue? at digit
  split at digit
  · split at digit
    · next bounds =>
      simp only [Bool.and_eq_true, decide_eq_true_eq] at bounds
      exact ⟨0x30, by decide, bounds.1, bounds.2⟩
    · cases digit
  · obtain ⟨first, found⟩ := Option.isSome_iff_exists.mp (Option.isSome_map.symm.trans digit)
    have bounds := List.find?_some found
    simp only [Bool.and_eq_true, decide_eq_true_eq] at bounds
    exact ⟨first, List.mem_of_find?_eq_some found, bounds.1, bounds.2⟩

def Ranges.isDigitFree (ranges : Ranges) : Bool :=
  ranges.all fun range => digitZeros.all fun first => range.2 < first || first + 9 < range.1

theorem Ranges.not_has_of_isDigit {ranges : Ranges} (free : ranges.isDigitFree = true) {code : Nat}
    (digit : isDigit code = true) : ranges.has code = false := by
  obtain ⟨first, member, low, high⟩ := script_of_isDigit digit
  refine List.any_eq_false.mpr fun range inside => ?_
  have apart := List.all_eq_true.mp (List.all_eq_true.mp free range inside) first member
  simp only [Bool.or_eq_true, Bool.and_eq_true, decide_eq_true_eq] at apart ⊢
  omega

theorem not_isIdentifierStart_of_isDigit {code : Nat} (digit : isDigit code = true) :
    isIdentifierStart code = false := by
  have letters := Ranges.not_has_of_isDigit
    (show letterRanges.isDigitFree = true by decide +kernel) digit
  have additions := Ranges.not_has_of_isDigit
    (show startAdditions.isDigitFree = true by decide +kernel) digit
  unfold isIdentifierStart
  split
  · next ascii =>
    have bounds : 0x30 ≤ code ∧ code ≤ 0x39 := by
      simpa [isDigit, digitValue?, ascii] using digit
    have letter : ¬0x41 ≤ code ∧ ¬0x61 ≤ code ∧ code ≠ 0x5F := by omega
    simp [isAsciiLetter, letter]
  · next high => simp [isLetter, high, letters, additions]

theorem not_isIdentifier_of_digits {name : List Char}
    (digits : name.all (fun c => isDigit c.toNat) = true) : isIdentifier name = false := by
  cases name with
  | nil => rfl
  | cons c name =>
    have digit := List.all_eq_true.mp digits c List.mem_cons_self
    simp [isIdentifier, not_isIdentifierStart_of_isDigit digit]

theorem isDigit_of_ascii {c : Char} (digit : c.isDigit = true) : isDigit c.toNat = true := by
  have value := Number.digit?_of_isDigit digit
  rw [Number.digit?] at value
  rw [isDigit, value]
  rfl

end RuleLexer.Text
