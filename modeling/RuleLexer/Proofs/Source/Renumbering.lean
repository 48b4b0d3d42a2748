import RuleLexer.Proofs.Regex.Reading
import RuleLexer.Proofs.Source.Rendering
import RuleLexer.Regex.Parser
import RuleLexer.Source.Renumber

namespace RuleLexer

namespace Segment

def rendered (captures : Nat) (offset : Int) (segment : Segment) : List Char :=
  match segment.renumbered captures offset with
  | .ok text => text
  | .error _ => []

theorem mapM_renumbered {captures : Nat} {offset : Int} {segments : List Segment}
    {texts : List (List Char)}
    (renumbered : segments.mapM (Segment.renumbered captures offset) = .ok texts) :
    texts = segments.map (rendered captures offset) ∧ ∀ segment ∈ segments,
      segment.renumbered captures offset = .ok (segment.rendered captures offset) := by
  induction segments generalizing texts with
  | nil =>
    cases renumbered
    exact ⟨rfl, nofun⟩
  | cons segment segments ih =>
    rw [List.mapM_cons] at renumbered
    obtain ⟨text, here, renumbered⟩ := bind_eq_ok_iff.mp renumbered
    obtain ⟨others, rest, renumbered⟩ := bind_eq_ok_iff.mp renumbered
    cases renumbered
    obtain ⟨rfl, all⟩ := ih rest
    have own : segment.renumbered captures offset = .ok (segment.rendered captures offset) := by
      rw [rendered, here]
    refine ⟨by rw [List.map_cons, rendered, here], fun other member => ?_⟩
    rcases List.mem_cons.mp member with rfl | later
    · exact own
    · exact all other later

theorem renumber_eq_ok {source text : List Char} {captures : Nat} {offset : Int}
    (renumbered : renumber source captures offset = .ok text) :
    text = (split source).flatMap (rendered captures offset) ∧ ∀ segment ∈ split source,
      segment.renumbered captures offset = .ok (segment.rendered captures offset) := by
  obtain ⟨texts, mapped, renumbered⟩ := bind_eq_ok_iff.mp renumbered
  cases renumbered
  obtain ⟨rfl, all⟩ := mapM_renumbered mapped
  exact ⟨by rw [List.flatMap_def], all⟩

/-- A condition whose name is a number of digits that can be converted is written with the number of
the same group behind `shift` others, if it is one of the first `captures` groups. -/
structure Stands (captures shift : Nat) (name ds : List Char) : Prop where
  short : name.length ≤ Number.digitLimit
  own : 0 < Number.valueOf name → Number.valueOf name ≤ captures →
    Number.valueOf ds = Number.valueOf name + shift
  foreign : ¬(0 < Number.valueOf name ∧ Number.valueOf name ≤ captures) → ds = name
  brief : Number.valueOf ds < Parser.groupLimit → ds.length ≤ Number.digitLimit

theorem number_eq_valueOf {digits : List Char} (plain : digits.all Char.isDigit = true) :
    Escape.number 10 digits = Number.valueOf digits := by
  have value {c : Char} (digit : c.isDigit = true) : Escape.hexValue c = c.toNat - 0x30 := by
    simpa using Number.of_isDigit (p := fun c => Escape.hexValue c == c.toNat - 0x30)
      (by decide) digit
  have same : digits.map Escape.hexValue = digits.map fun c => c.toNat - 0x30 :=
    List.map_congr_left fun c member => value (List.all_eq_true.mp plain c member)
  rw [Number.valueOf, Number.filterMap_digit? plain, ← same, Number.ofDigits, List.foldl_map]
  rfl

theorem spells_valueOf {digits : List Char} (plain : digits.all Char.isDigit = true)
    (short : digits.length ≤ 2) (first : digits.head?.any (· != '0') = true) :
    Spells digits (Number.valueOf digits) := by
  rw [← number_eq_valueOf plain]
  match digits, short with
  | [], _ => cases first
  | [c], _ => exact .one (by simpa using plain) (by simpa using first)
  | [c, d], _ =>
    simp only [List.all_cons, List.all_nil, Bool.and_true, Bool.and_eq_true] at plain
    exact .two plain.1 (by simpa using first) plain.2

theorem spells_toDigits {n : Nat} (positive : 0 < n) (small : n ≤ 99) :
    Spells (Nat.toDigits 10 n) n := by
  have plain := Number.all_isDigit_toDigits n
  have short : (Nat.toDigits 10 n).length ≤ 2 :=
    (Nat.length_toDigits_le_iff (by omega) (by omega)).mpr (by omega)
  have first : (Nat.toDigits 10 n).head?.any (· != '0') = true := by
    have digit : ∀ k ∈ List.range 10, 0 < k → k.digitChar ≠ '0' := by decide
    by_cases single : n < 10
    · rw [Nat.toDigits_of_lt_base single]
      simpa using digit n (List.mem_range.mpr single) positive
    · rw [Nat.toDigits_of_base_le (by omega) (by omega), Nat.toDigits_of_lt_base (by omega)]
      simpa using digit (n / 10) (List.mem_range.mpr (by omega)) (by omega)
  have spelled := spells_valueOf plain short first
  rwa [Number.valueOf_toDigits] at spelled

theorem valueOf_pos_of_spells {digits : List Char} {n : Nat} (spelled : Spells digits n) :
    0 < n := by
  have value {c : Char} (digit : c.isDigit = true) (first : c ≠ '0') : 0 < Escape.hexValue c := by
    have either := Number.of_isDigit (p := fun c => c == '0' || decide (0 < Escape.hexValue c))
      (by decide) digit
    simpa [first] using either
  cases spelled with
  | one digit first =>
    have positive := value digit first
    simp only [Escape.number, List.foldl_cons, List.foldl_nil]
    omega
  | two digit first _ =>
    have positive := value digit first
    simp only [Escape.number, List.foldl_cons, List.foldl_nil]
    omega

variable {captures shift : Nat} {offset : Int} {after : List Char} {segment : Segment}

theorem digitsValue_of_short {digits : List Char} (short : digits.length ≤ Number.digitLimit) :
    digitsValue digits = .ok (Number.valueOf digits) :=
  if_neg (Nat.not_lt.mpr short)

theorem digitsValue_of_long {digits : List Char} (long : ¬digits.length ≤ Number.digitLimit) :
    digitsValue digits = .error (.tooManyDigits digits.length) :=
  if_pos (Nat.not_le.mp long)

theorem renumbered_number {digits : List Char} (short : digits.length ≤ Number.digitLimit)
    (captures : Nat) (offset : Int) :
    (number digits).renumbered captures offset =
      if 0 < Number.valueOf digits ∧ Number.valueOf digits ≤ captures then
        if referenceLimit < Number.valueOf digits + offset + 1 then
          .error (.beyondLimit (Number.valueOf digits) (Number.valueOf digits + offset + 1))
        else .ok ('\\' :: Number.intText (Number.valueOf digits + offset + 1))
      else octalText digits := by
  rw [renumbered, digitsValue_of_short short]
  simp only [bind, Except.bind, Bool.and_eq_true, decide_eq_true_eq, Int.ofNat_le]

theorem renumbered_condition {name : List Char} (number : name.all isDigitChar = true)
    (short : name.length ≤ Number.digitLimit) (captures : Nat) (offset : Int) :
    (condition name).renumbered captures offset =
      if 0 < Number.valueOf name ∧ Number.valueOf name ≤ captures then
        .ok (condition (Number.intText (Number.valueOf name + offset + 1))).text
      else .ok (condition name).text := by
  rw [renumbered, if_pos number, digitsValue_of_short short]
  simp only [bind, Except.bind, Bool.and_eq_true, decide_eq_true_eq, Int.ofNat_le]

theorem length_le_of_renumbered {name text : List Char} {captures : Nat}
    (number : name.all isDigitChar = true)
    (renumbered : (condition name).renumbered captures offset = .ok text) :
    name.length ≤ Number.digitLimit := by
  refine Decidable.by_contra fun long => ?_
  rw [Segment.renumbered, if_pos number, digitsValue_of_long long] at renumbered
  cases renumbered

theorem intText_shifted (value : Nat) (place : (shift : Int) = offset + 1) :
    Number.intText (value + offset + 1) = Nat.toDigits 10 (value + shift) := by
  have same : (value : Int) + offset + 1 = Int.ofNat (value + shift) := by
    rw [Int.ofNat_eq_natCast]
    omega
  rw [same]
  rfl

theorem written_renumbered (place : (shift : Int) = offset + 1)
    (plain : segment.isPlain captures after = true) {text : List Char}
    (renumbered : segment.renumbered captures offset = .ok text) :
    Written (Stands captures shift) shift segment text := by
  cases segment with
  | number digits =>
    simp only [isPlain, Bool.and_eq_true, decide_eq_true_eq] at plain
    obtain ⟨⟨⟨ascii, short⟩, first⟩, own⟩ := plain
    have refers := spells_valueOf ascii short first
    have positive := valueOf_pos_of_spells refers
    have brief : digits.length ≤ Number.digitLimit := Nat.le_trans short (by decide)
    rw [renumbered_number brief, if_pos ⟨positive, own⟩] at renumbered
    split at renumbered
    · cases renumbered
    · next small =>
      cases renumbered
      rw [intText_shifted _ place]
      refine .number refers (spells_toDigits (by omega) ?_)
      unfold referenceLimit at small
      omega
  | condition name =>
    simp only [isPlain, Bool.and_eq_true, Bool.not_eq_true', List.isEmpty_eq_false_iff] at plain
    obtain ⟨nonempty, ascii⟩ := plain
    have short := length_le_of_renumbered (all_isDigitChar ascii) renumbered
    rw [renumbered_condition (all_isDigitChar ascii) short] at renumbered
    -- A condition on a group of the rule is renumbered, any other keeps its digits.
    by_cases own : 0 < Number.valueOf name ∧ Number.valueOf name ≤ captures
    · rw [if_pos own] at renumbered
      cases renumbered
      rw [intText_shifted _ place]
      refine .condition ascii (Number.all_isDigit_toDigits _) Nat.toDigits_ne_nil
        ⟨short, ?_, ?_, ?_⟩
      · exact fun _ _ => Number.valueOf_toDigits _
      · exact fun foreign => absurd own foreign
      · intro small
        rw [Number.valueOf_toDigits, Parser.groupLimit] at small
        have few : (Nat.toDigits 10 (Number.valueOf name + shift)).length ≤ 10 :=
          (Nat.length_toDigits_le_iff (by omega) (by omega)).mpr (by omega)
        exact Nat.le_trans few (by decide)
    · rw [if_neg own] at renumbered
      cases renumbered
      refine .condition ascii ascii nonempty ⟨short, ?_, fun _ => rfl, fun _ => short⟩
      exact fun positive within => absurd ⟨positive, within⟩ own
  | _ => cases renumbered; exact .same (by simp) (by simp)

theorem isClear_of_areClear {segments : List Segment} (clear : areClear segments = true) :
    ∀ segment ∈ segments, ∃ after, segment.isClear after = true := by
  induction segments with
  | nil => nofun
  | cons first segments ih =>
    rw [areClear, Bool.and_eq_true] at clear
    intro segment member
    rcases List.mem_cons.mp member with rfl | later
    · exact ⟨_, clear.1⟩
    · exact ih clear.2 segment later

theorem ne_nil_of_isClear {name : List Char} (clear : (condition name).isClear after = true) :
    name ≠ [] := by
  rintro rfl
  cases clear

theorem written_text {segments : List Segment} (clear : areClear segments = true)
    (member : segment ∈ segments) {stands : List Char → List Char → Prop} {text : List Char}
    (written : Written stands shift segment text) : Written (· = ·) 0 segment segment.text := by
  cases written with
  | number refers => exact .number refers refers
  | octal spelled => exact .octal spelled
  | literal foreign => exact .literal foreign
  | condition own =>
    obtain ⟨after, clear⟩ := isClear_of_areClear clear _ member
    exact .condition own own (ne_nil_of_isClear clear) rfl
  | named identifier => exact .named identifier
  | same reference condition => exact .same reference condition

theorem isPlain_of_arePlain {segments : List Segment} (plain : arePlain captures segments = true) :
    ∀ segment ∈ segments, ∃ after, segment.isPlain captures after = true := by
  induction segments with
  | nil => nofun
  | cons first segments ih =>
    rw [arePlain, Bool.and_eq_true] at plain
    intro segment member
    rcases List.mem_cons.mp member with rfl | later
    · exact ⟨_, plain.1⟩
    · exact ih plain.2 segment later

theorem Written.imp {stands stands' : List Char → List Char → Prop} {text : List Char}
    (written : Written stands shift segment text)
    (stronger : ∀ name ds, segment = .condition name → name.all Char.isDigit = true →
      stands name ds → stands' name ds) :
    Written stands' shift segment text := by
  cases written with
  | number refers spelled => exact .number refers spelled
  | octal spelled => exact .octal spelled
  | literal foreign => exact .literal foreign
  | condition own digits nonempty number =>
    exact .condition own digits nonempty (stronger _ _ rfl own number)
  | named identifier => exact .named identifier
  | same reference condition => exact .same reference condition

theorem Rewritten.imp {stands stands' : List Char → List Char → Prop} {text : List Char}
    (rewritten : Rewritten stands shift segment text)
    (stronger : ∀ name ds, segment = .condition name → name.all Char.isDigit = true →
      stands name ds → stands' name ds) :
    Rewritten stands' shift segment text := by
  cases rewritten with
  | written how => exact .written (how.imp stronger)
  | denoted spelled fixed => exact .denoted spelled fixed
  | literal foreign => exact .literal foreign

end Segment

/-- How renumbering writes a plain text. -/
theorem written_of_renumber {source text : List Char} {shift : Nat} {offset : Int}
    (place : (shift : Int) = offset + 1) (plain : isPlainSource source = true)
    (renumbered : renumber source (countCaptures source) offset = .ok text) :
    text = (Segment.split source).flatMap (Segment.rendered (countCaptures source) offset) ∧
      ∀ segment ∈ Segment.split source,
        Segment.Written (Segment.Stands (countCaptures source) shift) shift segment
          (segment.rendered (countCaptures source) offset) := by
  obtain ⟨same, all⟩ := Segment.renumber_eq_ok renumbered
  refine ⟨same, fun segment member => ?_⟩
  obtain ⟨after, simple⟩ := Segment.isPlain_of_arePlain plain segment member
  exact Segment.written_renumbered place simple (all segment member)

end RuleLexer
