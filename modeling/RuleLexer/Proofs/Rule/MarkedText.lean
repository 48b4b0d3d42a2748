import RuleLexer.Proofs.Regex.Form

namespace RuleLexer

open scoped Computability

theorem markup_append (left right : List Char) :
    markup (left ++ right) = markup left ++ markup right :=
  List.flatMap_append

theorem markup_cons_inj {c d : Char} {left right : List Char}
    (same : (entity? c).getD [c] ++ left = (entity? d).getD [d] ++ right) :
    c = d ∧ left = right := by
  unfold entity? at same
  split at same <;> split at same <;> simp_all <;> exact absurd same.1.symm ‹_›

theorem markup_injective : Function.Injective markup := by
  have some (c : Char) : (entity? c).getD [c] ≠ [] := by
    unfold entity?
    split <;> simp
  intro left right same
  induction left generalizing right with
  | nil =>
    cases right with
    | nil => rfl
    | cons d right => exact absurd (List.append_eq_nil_iff.mp same.symm).1 (some d)
  | cons c left ih =>
    cases right with
    | nil => exact absurd (List.append_eq_nil_iff.mp same).1 (some c)
    | cons d right =>
      obtain ⟨rfl, behind⟩ := markup_cons_inj same
      rw [ih behind]

/-- The words of a language with entities for the characters that have one. -/
def markupImage : Language Char →+* Language Char where
  toFun language := markup '' language
  map_zero' := Set.image_empty _
  map_one' := Set.image_singleton
  map_add' := Set.image_union _
  map_mul' _ _ := Set.image_image2_distrib markup_append

theorem mem_markupImage {language : Language Char} {text : List Char} :
    markup text ∈ markupImage language ↔ text ∈ language :=
  markup_injective.mem_set_image

theorem markupImage_kstar (language : Language Char) :
    markupImage language∗ = (markupImage language)∗ := by
  rw [Language.kstar_eq_iSup_pow, Language.kstar_eq_iSup_pow]
  simp_rw [← map_pow]
  exact Set.image_iUnion

theorem markupImage_repetitions (language : Language Char) (least : Nat) (most : Option Nat) :
    markupImage (repetitions language least most) =
      repetitions (markupImage language) least most := by
  unfold repetitions
  rw [map_mul, map_pow]
  cases most with
  | none => rw [markupImage_kstar]
  | some most => rw [map_pow, map_add, map_one]

theorem markupImage_character (c : Char) : markupImage {[c]} = {(entity? c).getD [c]} := by
  have whole : markup [c] = (entity? c).getD [c] := List.flatMap_singleton _ _
  rw [← whole]
  exact Set.image_singleton

namespace Form

def word : List Char → Quantifier → Form → Form
  | [], _, rest => rest
  | [c], quantifier, rest => .char c false quantifier rest
  | c :: cs, quantifier, rest => .char c false .once (word cs quantifier rest)

def marked : Form → Form
  | .nil => .nil
  | .bar rest => .bar rest.marked
  | .char c escaped quantifier rest =>
    match entity? c with
    | some entity => word entity quantifier rest.marked
    | none => .char c escaped quantifier rest.marked
  | .group capturing body quantifier rest => .group capturing body.marked quantifier rest.marked

/-- No quantifier repeats a markup character or makes it optional. -/
def Single : Form → Prop
  | .nil => True
  | .bar rest => rest.Single
  | .char c _ quantifier rest =>
    ((entity? c).isSome = true → quantifier.least = 1 ∧ quantifier.most = some 1) ∧ rest.Single
  | .group _ body _ rest => body.Single ∧ rest.Single

instance decidableSingle : DecidablePred Single
  | .nil => isTrue trivial
  | .bar rest => decidableSingle rest
  | .char _ _ _ rest =>
    have := decidableSingle rest
    inferInstanceAs (Decidable (_ ∧ _))
  | .group _ body _ rest =>
    have := decidableSingle body
    have := decidableSingle rest
    inferInstanceAs (Decidable (_ ∧ _))

section Word

variable {cs : List Char} {quantifier : Quantifier} {rest : Form}

theorem text_word (some : cs ≠ []) :
    (word cs quantifier rest).text = cs ++ (quantifier.text ++ rest.text) := by
  induction cs with
  | nil => exact absurd rfl some
  | cons c cs ih =>
    cases cs with
    | nil => rfl
    | cons d cs => exact congrArg (c :: ·) (ih (List.cons_ne_nil d cs))

theorem wellFormed_word (plain : ∀ c ∈ cs, isReserved c = false ∧ c ≠ '\x7b')
    (counted : quantifier.WellFormed) (wellFormed : rest.WellFormed) : (word cs quantifier rest).WellFormed := by
  induction cs with
  | nil => exact wellFormed
  | cons c cs ih =>
    obtain ⟨first, others⟩ := List.forall_mem_cons.mp plain
    have literal : isLiteral c false = true := by simp [isLiteral, first.1]
    cases cs with
    | nil => exact ⟨literal, fun brace => absurd brace first.2, counted, wellFormed⟩
    | cons d cs => exact ⟨literal, fun brace => absurd brace first.2, trivial, ih others⟩

theorem language_word (some : cs ≠ []) (single : quantifier.least = 1 ∧ quantifier.most = .some 1)
    (before : Language Char) :
    (word cs quantifier rest).language before = rest.language (before * {cs}) := by
  induction cs generalizing before with
  | nil => exact absurd rfl some
  | cons c cs ih =>
    have front : ({[c]} : Language Char) * {cs} = {c :: cs} := Set.image2_singleton
    cases cs with
    | nil => rw [word, language, single.1, single.2, repetitions_one]
    | cons d cs =>
      rw [word, language, ih (List.cons_ne_nil d cs), ← front, ← mul_assoc]
      · exact congrArg (fun first => rest.language (before * first * {d :: cs})) (repetitions_one _)
      · simp

end Word

theorem plain_of_entity? {c : Char} {entity : List Char} (found : entity? c = some entity) :
    entity ≠ [] ∧ ∀ d ∈ entity, isReserved d = false ∧ d ≠ '\x7b' := by
  have each : (!entity.isEmpty && entity.all fun d => !isReserved d && d != '\x7b') = true := by
    unfold entity? at found
    split at found <;> cases found <;> rfl
  simpa using each

theorem takeWhile_marked (form : Form) :
    form.marked.text.takeWhile isCountChar = form.text.takeWhile isCountChar := by
  induction form with
  | nil | bar | group => rfl
  | char c escaped quantifier rest ih =>
    rw [marked]
    cases found : entity? c with
    | none => exact takeWhile_append_congr (takeWhile_append_congr ih _) _
    | some entity =>
      have stops : isCountChar c = false ∧ ∀ more, (entity ++ more).takeWhile isCountChar = [] := by
        unfold entity? at found
        split at found <;> cases found <;> exact ⟨rfl, fun _ => rfl⟩
      dsimp only
      rw [text_word (plain_of_entity? found).1, stops.2]
      cases escaped with
      | true => rfl
      | false => exact (List.takeWhile_cons_of_neg (Bool.eq_false_iff.mp stops.1)).symm

theorem wellFormed_marked {form : Form} (wellFormed : form.WellFormed) :
    form.marked.WellFormed := by
  induction form with
  | nil => trivial
  | bar rest ih => exact ih wellFormed
  | char c escaped quantifier rest ih =>
    obtain ⟨literal, brace, counted, wellFormed⟩ := wellFormed
    rw [marked]
    split
    · next entity found => exact wellFormed_word (plain_of_entity? found).2 counted (ih wellFormed)
    · refine ⟨literal, fun isBrace bare => ?_, counted, ih wellFormed⟩
      rw [← brace isBrace bare]
      exact startsCounts_congr (takeWhile_append_congr rest.takeWhile_marked _)
  | group capturing body quantifier rest ihBody ih =>
    obtain ⟨inside, counted, wellFormed⟩ := wellFormed
    exact ⟨ihBody inside, counted, ih wellFormed⟩

theorem language_marked {form : Form} (single : form.Single) (before : Language Char) :
    form.marked.language (markupImage before) = markupImage (form.language before) := by
  induction form generalizing before with
  | nil => rfl
  | bar rest ih =>
    have alternative := ih single 1
    rw [map_one] at alternative
    rw [marked, language, language, map_add, alternative]
  | char c escaped quantifier rest ih =>
    obtain ⟨once, single⟩ := single
    have whole := ih single (before * repetitions {[c]} quantifier.least quantifier.most)
    rw [map_mul, markupImage_repetitions, markupImage_character] at whole
    rw [marked, language, ← whole]
    split
    · next entity found =>
      have once := once (by rw [found]; rfl)
      rw [language_word (plain_of_entity? found).1 once, found, once.1, once.2, repetitions_one]
      rfl
    · next found =>
      rw [found]
      rfl
  | group capturing body quantifier rest ihBody ih =>
    obtain ⟨inside, single⟩ := single
    have whole := ih single
      (before * repetitions (body.language 1) quantifier.least quantifier.most)
    rw [map_mul, markupImage_repetitions, ← ihBody inside, map_one] at whole
    rw [marked, language, language, whole]

end Form

namespace Entities

def Untouched (front : List Char) : Prop :=
  ∀ c ∈ front, c ≠ '\\' ∧ c ≠ '(' ∧ entity? c = none

theorem Untouched.append {front back : List Char} (first : Untouched front)
    (second : Untouched back) : Untouched (front ++ back) :=
  List.forall_mem_append.mpr ⟨first, second⟩

theorem substitute_untouched {front : List Char} (untouched : Untouched front) (rest : List Char) :
    substitute 0 (front ++ rest) = front ++ substitute 0 rest := by
  induction front with
  | nil => rfl
  | cons c front ih =>
    obtain ⟨⟨backslash, parenthesis, found⟩, others⟩ := List.forall_mem_cons.mp untouched
    rw [List.cons_append, substitute_plain backslash parenthesis, found, ih others]
    rfl

theorem untouched_of_digits {digits : List Char} (decimal : digits.all Char.isDigit = true) :
    Untouched digits := by
  intro c member
  have digit := List.all_eq_true.mp decimal c member
  refine ⟨?_, ?_, ?_⟩
  · rintro rfl
    cases digit
  · rintro rfl
    cases digit
  · unfold entity?
    split <;> first | rfl | cases digit

theorem untouched_quantifier {quantifier : Quantifier} (wellFormed : quantifier.WellFormed) :
    Untouched quantifier.text := by
  have single {c : Char} (other : c ≠ '\\' ∧ c ≠ '(' ∧ entity? c = none) : Untouched [c] :=
    List.forall_mem_singleton.mpr other
  cases quantifier with
  | once => exact nofun
  | star => exact single ⟨by decide, by decide, rfl⟩
  | plus => exact single ⟨by decide, by decide, rfl⟩
  | optional => exact single ⟨by decide, by decide, rfl⟩
  | counts low high =>
    obtain ⟨lower, upper, -⟩ := wellFormed
    have lowest := untouched_of_digits lower.decimal
    have closing := single (c := '\x7d') ⟨by decide, by decide, rfl⟩
    have comma := single (c := ',') ⟨by decide, by decide, rfl⟩
    have opening := single (c := '\x7b') ⟨by decide, by decide, rfl⟩
    cases high with
    | none => exact opening.append (lowest.append closing)
    | some high =>
      have highest : Untouched high := untouched_of_digits upper.decimal
      exact opening.append (lowest.append (comma.append (highest.append closing)))

end Entities

namespace Form

open Entities

theorem head?_text_ne {form : Form} (wellFormed : form.WellFormed) (more : List Char) :
    (form.text ++ ')' :: more).head? ≠ some '?' := by
  cases form with
  | nil => simp [text]
  | bar => simp [text]
  | group => simp [text]
  | char c escaped quantifier rest =>
    obtain ⟨literal, -⟩ := wellFormed
    cases escaped with
    | true => simp [text]
    | false =>
      have other : c ≠ '?' := by
        rintro rfl
        cases literal
      simpa [text] using other

theorem openingLength_of_head {rest : List Char} (simple : rest.head? ≠ some '?') :
    openingLength rest = 0 := by
  unfold openingLength
  split <;> simp_all

theorem substitute_character {c : Char} {escaped : Bool} (literal : isLiteral c escaped = true)
    (rest : List Char) :
    substitute 0 ((if escaped then ['\\', c] else [c]) ++ rest) =
      (entity? c).getD (if escaped then ['\\', c] else [c]) ++ substitute 0 rest := by
  cases escaped with
  | true => exact substitute_pair c rest
  | false =>
    have other : c ≠ '\\' ∧ c ≠ '(' := by
      constructor <;>
      · rintro rfl
        cases literal
    exact substitute_plain other.1 other.2 rest

/-- The substitution makes of the text of a form the text of the marked form. -/
theorem substitute_text {form : Form} (wellFormed : form.WellFormed) (more : List Char) :
    substitute 0 (form.text ++ more) = form.marked.text ++ substitute 0 more := by
  -- No entity and no opening that is left alone reaches from one part of a form into another.
  induction form generalizing more with
  | nil => rfl
  | bar rest ih =>
    have front : Untouched ['|'] := by simp [Untouched]; rfl
    exact (substitute_untouched front _).trans (congrArg ('|' :: ·) (ih wellFormed more))
  | char c escaped quantifier rest ih =>
    obtain ⟨literal, -, counted, wellFormed⟩ := wellFormed
    rw [text, List.append_assoc, substitute_character literal, List.append_assoc,
      substitute_untouched (untouched_quantifier counted), ih wellFormed, marked]
    cases found : entity? c with
    | some entity =>
      show _ = (word entity quantifier rest.marked).text ++ _
      rw [text_word (plain_of_entity? found).1]
      simp
    | none => simp [text]
  | group capturing body quantifier rest ihBody ih =>
    obtain ⟨inside, counted, wellFormed⟩ := wellFormed
    have closing : Untouched [')'] := by simp [Untouched]; rfl
    have behind : substitute 0 (body.text ++ ')' :: (quantifier.text ++ (rest.text ++ more))) =
        body.marked.text ++ ')' :: (quantifier.text ++ (rest.marked.text ++ substitute 0 more)) := by
      rw [ihBody inside, ← ih wellFormed, ← substitute_untouched (untouched_quantifier counted)]
      exact congrArg (body.marked.text ++ ·) (substitute_untouched closing _)
    cases capturing with
    | true =>
      have simple := openingLength_of_head
        (head?_text_ne inside (quantifier.text ++ (rest.text ++ more)))
      simp only [text, marked, if_true, List.cons_append, List.nil_append, List.append_assoc,
        ← behind]
      show '(' :: substitute (openingLength _) _ = _
      rw [simple]
    | false =>
      have colon : Untouched ['?', ':'] := by simp [Untouched]; exact ⟨rfl, rfl⟩
      simp only [text, marked, Bool.false_eq_true, if_false, List.cons_append, List.nil_append,
        List.append_assoc, ← behind]
      exact congrArg ('(' :: ·) (substitute_untouched colon _)

theorem escapeEntities_text {form : Form} (wellFormed : form.WellFormed) :
    escapeEntities form.text = form.marked.text := by
  have whole := substitute_text wellFormed []
  rwa [List.append_nil, show substitute 0 [] = [] from rfl, List.append_nil] at whole

/-- The pattern with entities is accepted too. Where no markup character has a quantifier, it matches
a text with entities exactly if the pattern without matches the text without. -/
theorem fullyMatches_markup {form : Form} (wellFormed : form.WellFormed) :
    ∃ pattern marked : Pattern, Pattern.compile .text form.text 0 = .ok pattern ∧
      Pattern.compile .text (escapeEntities form.text) 0 = .ok marked ∧
      (form.Single → ∀ text, marked.fullyMatches (markup text) = pattern.fullyMatches text) := by
  obtain ⟨pattern, compiled, spells⟩ := compile wellFormed
  obtain ⟨marked, compiled', spells'⟩ := compile (wellFormed_marked wellFormed)
  refine ⟨pattern, marked, compiled, ?_, fun single text => ?_⟩
  · rw [escapeEntities_text wellFormed]
    exact compiled'
  · have image := language_marked single 1
    rw [map_one] at image
    rw [Bool.eq_iff_iff, spells', spells, image]
    exact mem_markupImage

def element : Form :=
  .char '<' false .once
    (.group false
      (.char 'a' false .once (.bar (.char '&' true .once (.char 'b' false .once .nil)))) .plus
      (.char '>' false .once (.bar (.char '&' false (.counts ['1'] none)
        (.group true (.char 'c' false .star .nil) .once
          (.char '\x7b' false .once (.char 'd' false .once .nil)))))))

theorem fullyMatches_markup_element : element.text = "<(?:a|\\&b)+>|&\x7b1\x7d(c*)\x7bd".toList ∧
    element.WellFormed ∧ element.Single ∧
      ∃ pattern marked : Pattern, Pattern.compile .text element.text 0 = .ok pattern ∧
        Pattern.compile .text (escapeEntities element.text) 0 = .ok marked ∧
        ∀ text, marked.fullyMatches (markup text) = pattern.fullyMatches text := by
  have wellFormed : element.WellFormed := by decide
  have single : element.Single := by decide
  obtain ⟨pattern, marked, compiled, compiled', agree⟩ := fullyMatches_markup wellFormed
  exact ⟨by decide, wellFormed, single, pattern, marked, compiled, compiled', agree single⟩

/-- The pattern `<+` matches `<<`. With an entity it repeats only the semicolon, and it does not match
the text with entities. -/
theorem fullyMatches_markup_repeated :
    (Form.char '<' false .plus .nil).WellFormed ∧
      (Form.char '<' false .plus .nil).text = "<+".toList ∧
      ∃ pattern marked : Pattern, Pattern.compile .text "<+".toList 0 = .ok pattern ∧
        Pattern.compile .text (escapeEntities "<+".toList) 0 = .ok marked ∧
        pattern.fullyMatches "<<".toList = true ∧
        marked.fullyMatches (markup "<<".toList) = false := by
  let semicolons : Regex := .repeated .greedy 1 none (.char 59)
  refine ⟨by decide, by decide, ⟨"<+".toList, .repeated .greedy 1 none (.char 60), 0, [], ⟨32⟩⟩,
    ⟨"&lt;+".toList, .seq (.char 38) (.seq (.char 108) (.seq (.char 116) semicolons)), 0, [], ⟨32⟩⟩,
    by cbv, by cbv, by decide, by decide⟩

end Form

end RuleLexer
