import RuleLexer.Proofs.Source.Markup
import RuleLexer.Proofs.Source.Tally

namespace RuleLexer

namespace Entities

/-- No backslash and no markup character, and not the start of an entity. -/
def Inert (c : Char) : Prop :=
  c ∉ ['\\', '&', '<', '>']

instance : DecidablePred Inert := fun _ => inferInstanceAs (Decidable (_ ∉ _))

theorem entity?_of_inert {c : Char} (inert : Inert c) : entity? c = none := by
  unfold entity?
  split <;> simp_all [Inert]

theorem head?_substitute {c : Char} (inert : Inert c) (text : List Char) :
    (substitute 0 text).head? = some c ↔ text.head? = some c := by
  have ampersand : some '&' ≠ some c := fun same =>
    inert (Option.some.inj same ▸ by decide)
  have backslash : some '\\' ≠ some c := fun same =>
    inert (Option.some.inj same ▸ by decide)
  induction text using substitute_induction with
  | nil | dangling | kept => exact Iff.rfl
  | pair d rest =>
    rw [substitute_pair]
    cases found : entity? d with
    | none => exact Iff.rfl
    | some entity =>
      rw [Option.getD_some, head?_of_entity? found]
      exact iff_of_false ampersand backslash
  | char d rest other simple =>
    rw [substitute_char other simple]
    cases found : entity? d with
    | none => exact Iff.rfl
    | some entity =>
      rw [Option.getD_some, head?_of_entity? found]
      refine iff_of_false ampersand fun same => ?_
      cases Option.some.inj same
      cases found.symm.trans (entity?_of_inert inert)

theorem head?_substitute_ne (text : List Char) : (substitute 0 text).head? ≠ some '<' := by
  induction text using substitute_induction with
  | nil | dangling => decide
  | kept => nofun
  | pair d rest =>
    rw [substitute_pair]
    cases found : entity? d with
    | none => nofun
    | some entity =>
      rw [Option.getD_some, head?_of_entity? found]
      decide
  | char d rest other simple =>
    rw [substitute_char other simple]
    cases found : entity? d with
    | none =>
      rintro ⟨⟩
      cases found
    | some entity =>
      rw [Option.getD_some, head?_of_entity? found]
      decide

end Entities

namespace Segment

open Entities

def afterClass (text : List Char) : Option (List Char) :=
  (closeClass text).map Prod.snd

theorem afterClass_pair (c : Char) (rest : List Char) :
    afterClass ('\\' :: c :: rest) = afterClass rest := by
  rw [afterClass, closeClass, if_neg (by decide), if_pos rfl, Option.map_map]
  rfl

theorem afterClass_close (rest : List Char) : afterClass (']' :: rest) = some rest := by
  cases rest <;> rfl

theorem afterClass_plain {c : Char} (bracket : c ≠ ']') (backslash : c ≠ '\\')
    (rest : List Char) : afterClass (c :: rest) = afterClass rest := by
  cases rest with
  | nil => rw [afterClass, closeClass, if_neg bracket]; rfl
  | cons d rest =>
    rw [afterClass, closeClass, if_neg bracket, if_neg backslash, Option.map_map]
    rfl

theorem afterClass_append {front : List Char} (bracket : ']' ∉ front) (backslash : '\\' ∉ front)
    (rest : List Char) : afterClass (front ++ rest) = afterClass rest := by
  induction front with
  | nil => rfl
  | cons c front ih =>
    obtain ⟨here, bracket⟩ := List.ne_and_not_mem_of_not_mem_cons bracket
    obtain ⟨here', backslash⟩ := List.ne_and_not_mem_of_not_mem_cons backslash
    rw [List.cons_append, afterClass_plain here.symm here'.symm, ih bracket backslash]

theorem afterClass_entity {c : Char} {entity : List Char} (found : entity? c = some entity)
    (rest : List Char) : afterClass (entity ++ rest) = afterClass rest :=
  afterClass_append (absent_of_entity? found (by decide)) (absent_of_entity? found (by decide)) rest

theorem afterClass_kept {opening : List Char} (kept : Kept opening) (rest : List Char) :
    afterClass ('(' :: (opening ++ rest)) = afterClass rest := by
  rw [afterClass_plain (by decide) (by decide),
    afterClass_append (kept.absent (by decide)) (kept.absent (by decide))]

theorem afterClass_substitute (text : List Char) :
    afterClass (substitute 0 text) = (afterClass text).map (substitute 0) := by
  induction text using substitute_induction with
  | nil | dangling => rfl
  | pair c rest ih =>
    rw [substitute_pair, afterClass_pair]
    cases found : entity? c with
    | none => exact (afterClass_pair c _).trans ih
    | some entity => rw [Option.getD_some, afterClass_entity found, ih]
  | kept opening rest kept ih =>
    rw [substitute_kept kept, afterClass_kept kept, afterClass_kept kept, ih]
  | char c rest backslash simple ih =>
    rw [substitute_char backslash simple]
    cases found : entity? c with
    | none =>
      by_cases bracket : c = ']'
      · subst bracket
        rw [afterClass_close]
        exact afterClass_close _
      · rw [afterClass_plain bracket backslash, ← ih]
        exact afterClass_plain bracket backslash _
    | some entity =>
      have bracket : c ≠ ']' := by
        rintro rfl
        cases found
      rw [Option.getD_some, afterClass_entity found, ih, afterClass_plain bracket backslash]

def afterMembers (text : List Char) : Option (List Char) :=
  (closeMembers text).map Prod.snd

theorem afterMembers_bracket (rest : List Char) :
    afterMembers (']' :: rest) = some ((afterClass rest).getD rest) := by
  rw [afterMembers, closeMembers, afterClass]
  cases closeClass rest <;> rfl

theorem afterMembers_other {text : List Char} (bracket : text.head? ≠ some ']') :
    afterMembers text = afterClass text := by
  unfold afterMembers closeMembers
  split
  · exact absurd rfl bracket
  · rfl

theorem afterMembers_substitute (text : List Char) :
    afterMembers (substitute 0 text) = (afterMembers text).map (substitute 0) := by
  have inert : Inert ']' := by decide
  by_cases bracket : text.head? = some ']'
  · obtain ⟨rest, rfl⟩ := List.head?_eq_some_iff.mp bracket
    have same : substitute 0 (']' :: rest) = ']' :: substitute 0 rest := rfl
    rw [same, afterMembers_bracket, afterMembers_bracket, afterClass_substitute]
    cases afterClass rest <;> rfl
  · rw [afterMembers_other bracket, afterMembers_other (mt (head?_substitute inert text).mp bracket),
      afterClass_substitute]

def afterBracket (text : List Char) : List Char :=
  ((readClass text).map Prod.snd).getD text

theorem afterBracket_caret (rest : List Char) :
    afterBracket ('^' :: rest) = (afterMembers rest).getD ('^' :: rest) := by
  rw [afterBracket, readClass, afterMembers]
  cases closeMembers rest <;> rfl

theorem afterBracket_other {text : List Char} (caret : text.head? ≠ some '^') :
    afterBracket text = (afterMembers text).getD text := by
  unfold afterBracket readClass afterMembers
  split
  · exact absurd rfl caret
  · cases closeMembers text <;> rfl

theorem afterBracket_substitute (text : List Char) :
    afterBracket (substitute 0 text) = substitute 0 (afterBracket text) := by
  have inert : Inert '^' := by decide
  by_cases caret : text.head? = some '^'
  · obtain ⟨rest, rfl⟩ := List.head?_eq_some_iff.mp caret
    have same : substitute 0 ('^' :: rest) = '^' :: substitute 0 rest := rfl
    rw [same, afterBracket_caret, afterBracket_caret, afterMembers_substitute]
    cases afterMembers rest with
    | none => exact same.symm
    | some after => rfl
  · rw [afterBracket_other caret, afterBracket_other (mt (head?_substitute inert text).mp caret),
      afterMembers_substitute]
    cases afterMembers text <;> rfl

def afterComment (text : List Char) : Option (List Char) :=
  (readComment text).map Prod.snd

theorem afterComment_other {c : Char} (closing : c ≠ ')') (rest : List Char) :
    afterComment (c :: rest) = afterComment rest := by
  have passed : (c :: rest).dropWhile (· != ')') = rest.dropWhile (· != ')') :=
    List.dropWhile_cons_of_pos (by simpa using closing)
  unfold afterComment readComment
  rw [passed]
  cases rest.dropWhile (· != ')') <;> rfl

theorem afterComment_append {front : List Char} (absent : ')' ∉ front) (rest : List Char) :
    afterComment (front ++ rest) = afterComment rest := by
  induction front with
  | nil => rfl
  | cons c front ih =>
    obtain ⟨other, absent⟩ := List.ne_and_not_mem_of_not_mem_cons absent
    rw [List.cons_append, afterComment_other other.symm, ih absent]

theorem afterComment_substitute (text : List Char) :
    afterComment (substitute 0 text) = (afterComment text).map (substitute 0) := by
  have single {c : Char} {rest : List Char}
      (ih : afterComment (substitute 0 rest) = (afterComment rest).map (substitute 0)) :
      afterComment ((entity? c).getD [c] ++ substitute 0 rest) =
        (afterComment (c :: rest)).map (substitute 0) := by
    cases found : entity? c with
    | none =>
      by_cases closing : c = ')'
      · subst closing
        rfl
      · rw [afterComment_other closing, ← ih]
        exact afterComment_other closing _
    | some entity =>
      have other : c ≠ ')' := by
        rintro rfl
        cases found
      rw [Option.getD_some, afterComment_append (absent_of_entity? found (by decide)), ih,
        afterComment_other other]
  induction text using substitute_induction with
  | nil | dangling => rfl
  | pair c rest ih =>
    -- The accounting passes over the backslash by itself, so that ")" may end a comment here.
    rw [substitute_pair, afterComment_other (by decide), ← single ih]
    cases entity? c with
    | none => exact afterComment_other (by decide) _
    | some entity => rfl
  | kept opening rest kept ih =>
    have passed (rest : List Char) : afterComment ('(' :: (opening ++ rest)) = afterComment rest := by
      rw [afterComment_other (by decide), afterComment_append (kept.absent (by decide))]
    rw [substitute_kept kept, passed, passed, ih]
  | char c rest backslash simple ih => rw [substitute_char backslash simple, single ih]

theorem word_ordinary {c : Char} (word : isWordChar c = true) :
    Inert c ∧ c ≠ '(' := by
  have none : ['\\', '&', '<', '>', '('].any isWordChar = false := by decide
  refine ⟨fun member => ?_, ?_⟩
  · exact List.any_eq_false.mp none c (List.mem_append_left ['('] member) word
  · rintro rfl
    exact List.any_eq_false.mp none _ (by simp) word

theorem word_substitute (text : List Char) :
    (substitute 0 text).takeWhile isWordChar = text.takeWhile isWordChar ∧
      (substitute 0 text).dropWhile isWordChar = substitute 0 (text.dropWhile isWordChar) := by
  induction text with
  | nil => exact ⟨rfl, rfl⟩
  | cons c rest ih =>
    cases word : isWordChar c with
    | true =>
      obtain ⟨inert, parenthesis⟩ := word_ordinary word
      have backslash : c ≠ '\\' := List.ne_of_not_mem_cons inert
      have same : substitute 0 (c :: rest) = c :: substitute 0 rest := by
        rw [substitute_plain backslash parenthesis, entity?_of_inert inert]
        rfl
      rw [same, List.takeWhile_cons_of_pos word, List.takeWhile_cons_of_pos word,
        List.dropWhile_cons_of_pos word, List.dropWhile_cons_of_pos word, ih.1, ih.2]
      exact ⟨rfl, rfl⟩
    | false =>
      have apart : ¬isWordChar c = true := by simp [word]
      rw [List.takeWhile_cons_of_neg apart, List.dropWhile_cons_of_neg apart]
      cases written : substitute 0 (c :: rest) with
      | nil => exact ⟨rfl, rfl⟩
      | cons d others =>
        have unworded : ¬isWordChar d = true := by
          intro word'
          have first : (substitute 0 (c :: rest)).head? = some d := by rw [written]; rfl
          cases (head?_substitute (word_ordinary word').1 _).mp first
          exact apart word'
        exact ⟨List.takeWhile_cons_of_neg unworded, List.dropWhile_cons_of_neg unworded⟩

theorem readName_substitute (text : List Char) :
    readName ')' (substitute 0 text) =
      (readName ')' text).map (Prod.map id (substitute 0)) := by
  obtain ⟨front, back⟩ := word_substitute text
  unfold readName
  dsimp only
  rw [front, back]
  cases text.dropWhile isWordChar with
  | nil => rfl
  | cons c rest =>
    by_cases closing : c = ')'
    · subst closing
      have same : substitute 0 (')' :: rest) = ')' :: substitute 0 rest := rfl
      rw [same]
      dsimp only
      split <;> rfl
    · dsimp only
      rw [if_neg (by simp [closing])]
      cases written : substitute 0 (c :: rest) with
      | nil => rfl
      | cons d others =>
        have first : d ≠ ')' := by
          rintro rfl
          have here : (substitute 0 (c :: rest)).head? = some ')' := by rw [written]; rfl
          cases (head?_substitute (by decide) _).mp here
          exact closing rfl
        exact if_neg (by simp [first])

theorem readName_behindParenthesis (rest : List Char) :
    readName ')' (substitute (openingLength rest) rest) =
      (readName ')' rest).map (Prod.map id (substitute 0)) := by
  rcases openingLength_cases rest with zero | ⟨opening, back, rfl, kept, length⟩
  · rw [zero, readName_substitute]
  · rw [length, substitute_verbatim]
    cases kept <;> rfl

def groups (source : List Char) : List Notice :=
  (tally source).filter Notice.isGroup

theorem groups_of_tally {source other : List Char} (same : tally source = tally other) :
    groups source = groups other :=
  congrArg (List.filter Notice.isGroup) same

theorem groups_pair (c : Char) (rest : List Char) : groups ('\\' :: c :: rest) = groups rest :=
  groups_of_tally (tally_escape c rest)

theorem groups_plain {c : Char} (mute : (Piece.plain c).isMute = true) (rest : List Char) :
    groups (c :: rest) = groups rest :=
  groups_of_tally (tally_plain mute rest)

theorem groups_entity {c : Char} {entity : List Char} (found : entity? c = some entity)
    (rest : List Char) : groups (entity ++ rest) = groups rest := by
  refine groups_of_tally (tally_chars (fun d member => Piece.isMute_plain.mpr ?_) rest)
  have absent {c : Char} (bounds : Bounds c) : d ≠ c := fun same =>
    absent_of_entity? found bounds (same ▸ member)
  exact ⟨absent (by decide), absent (by decide), absent (by decide)⟩

theorem groups_bracket (rest : List Char) : groups ('[' :: rest) = groups (afterBracket rest) := by
  unfold afterBracket
  cases closed : readClass rest with
  | some pair => exact groups_of_tally (tally_charClass closed)
  | none =>
    have reads : read '[' rest = (.other '[', rest) := by simp [read, closed]
    exact groups_of_tally (tally_of_read reads)

theorem groups_extension {rest : List Char}
    (reads : readParenthesis ('?' :: rest) = (.other '(', '?' :: rest)) :
    groups ('(' :: '?' :: rest) = groups rest := by
  have silent := (ofExtension_silent ('?' :: rest)).1
  rw [groups, tally_parenthesis, reads, List.filter_append, tally_question]
  show (Notice.ofExtension ('?' :: rest)).filter Notice.isGroup ++ groups rest = _
  rw [List.filter_eq_nil_iff.mpr (List.countP_eq_zero.mp silent), List.nil_append]

theorem groups_comment (rest : List Char) :
    groups ('(' :: '?' :: '#' :: rest) = groups ((afterComment rest).getD rest) := by
  unfold afterComment
  cases closed : readComment rest with
  | some pair =>
    obtain ⟨body, after⟩ := pair
    have whole := (append_of_readComment closed).symm
    rw [groups, tally_of_readComment (not_mem_of_readComment closed) whole, List.filter_append]
    show _ = groups after
    split <;> rfl
  | none =>
    have reads : readParenthesis ('?' :: '#' :: rest) = (.other '(', '?' :: '#' :: rest) := by
      rw [readParenthesis, closed]
    rw [groups_extension reads]
    exact groups_plain rfl rest

theorem groups_condition (rest : List Char) : groups ('(' :: '?' :: '(' :: rest) =
    groups (((readName ')' rest).map Prod.snd).getD ('(' :: rest)) := by
  cases closed : readName ')' rest with
  | some pair =>
    obtain ⟨name, after⟩ := pair
    have reads : readParenthesis ('?' :: '(' :: rest) = (.condition name, after) := by
      rw [readParenthesis, closed]
    rw [groups, tally_parenthesis, reads]
    rfl
  | none =>
    have reads : readParenthesis ('?' :: '(' :: rest) = (.other '(', '?' :: '(' :: rest) := by
      rw [readParenthesis, closed]
    exact groups_extension reads

theorem groups_opening {rest : List Char} (simple : rest.head? ≠ some '?') :
    groups ('(' :: rest) = .group none :: groups rest := by
  rw [groups, tally_opening simple]
  rfl

theorem groups_kept {opening : List Char} (kept : Kept opening) {back back' : List Char}
    (same : groups back = groups back') :
    groups ('(' :: (opening ++ back)) = groups ('(' :: (opening ++ back')) := by
  cases kept with
  | @name name some word =>
    have named (back : List Char) : groups ('(' :: '?' :: 'P' :: '<' :: (name ++ ['>'] ++ back)) =
        .group (.some name) :: groups back := by
      have found : readName '>' (name ++ '>' :: back) = .some (name, back) :=
        readName_of_word some word (by decide) back
      have reads : readParenthesis ('?' :: 'P' :: '<' :: (name ++ ['>'] ++ back)) =
          (.named name, back) := by
        rw [List.append_assoc, List.singleton_append, readParenthesis, found]
      rw [groups, tally_parenthesis, reads]
      rfl
    exact (named back).trans (same ▸ (named back').symm)
  | @behind sign signed =>
    have looks (back : List Char) : groups ('(' :: '?' :: '<' :: sign :: back) = groups back := by
      have mute : (Piece.plain sign).isMute = true := by
        rcases signed with rfl | rfl <;> rfl
      rw [groups_extension rfl, groups_plain rfl, groups_plain mute]
    exact (looks back).trans (same ▸ (looks back').symm)

theorem readParenthesis_of_openingLength {rest : List Char} (comment : rest.head? ≠ some '#')
    (condition : rest.head? ≠ some '(') (zero : openingLength ('?' :: rest) = 0) :
    readParenthesis ('?' :: rest) = (.other '(', '?' :: rest) := by
  refine readParenthesis_extension comment condition ?_
  rintro after rfl
  cases found : readName '>' after with
  | none => rfl
  | some pair =>
    obtain ⟨name, back⟩ := pair
    have kept : Kept ('?' :: 'P' :: '<' :: (name ++ ['>'])) :=
      .name (ne_nil_of_readName found) (word_of_readName found)
    have length := openingLength_of_kept kept back
    have same : ('?' :: 'P' :: '<' :: (name ++ ['>'])) ++ back = '?' :: 'P' :: '<' :: after := by
      simp [append_of_readName found]
    rw [same, zero] at length
    cases length

theorem openingLength_substitute (rest : List Char) :
    openingLength ('?' :: substitute 0 rest) = 0 := by
  rcases openingLength_cases ('?' :: substitute 0 rest) with zero | ⟨opening, back, same, kept, -⟩
  · exact zero
  · cases kept with
    | @name name =>
      obtain ⟨-, same⟩ := List.cons.inj same
      have first : (substitute 0 rest).head? = some 'P' := by rw [same]; rfl
      obtain ⟨rest, rfl⟩ := List.head?_eq_some_iff.mp ((head?_substitute (by decide) _).mp first)
      have second : substitute 0 rest = '<' :: (name ++ ['>'] ++ back) := (List.cons.inj same).2
      exact absurd (by rw [second]; rfl) (head?_substitute_ne rest)
    | behind =>
      obtain ⟨-, same⟩ := List.cons.inj same
      exact absurd (by rw [same]; rfl) (head?_substitute_ne rest)

theorem length_afterComment {text after : List Char} (found : afterComment text = some after) :
    after.length ≤ text.length := by
  obtain ⟨⟨body, behind⟩, read, rfl⟩ := Option.map_eq_some_iff.mp found
  rw [← append_of_readComment read]
  simp only [List.length_append, List.length_cons]
  omega

theorem length_afterBracket (text : List Char) : (afterBracket text).length ≤ text.length := by
  unfold afterBracket
  cases closed : readClass text with
  | none => exact Nat.le_refl _
  | some pair =>
    have whole := congrArg List.length (append_of_readClass closed)
    have taken := List.length_pos_iff.mpr (ne_nil_of_readClass closed)
    simp only [List.length_append, List.length_cons] at whole
    show pair.2.length ≤ _
    omega

def Onward (rest : List Char) : Prop :=
  ∀ behind : List Char, behind.length ≤ rest.length → groups (substitute 0 behind) = groups behind

theorem groups_comment_substitute {rest : List Char} (onward : Onward rest) :
    groups ('(' :: '?' :: '#' :: substitute 0 rest) = groups ('(' :: '?' :: '#' :: rest) := by
  rw [groups_comment, groups_comment, afterComment_substitute]
  cases closed : afterComment rest with
  | none => exact onward rest (Nat.le_refl _)
  | some after => exact onward after (length_afterComment closed)

theorem groups_condition_substitute {rest : List Char} (onward : Onward ('(' :: rest)) :
    groups ('(' :: '?' :: substitute 0 ('(' :: rest)) = groups ('(' :: '?' :: '(' :: rest) := by
  have same : substitute 0 ('(' :: rest) = '(' :: substitute (openingLength rest) rest := rfl
  rw [same, groups_condition, groups_condition, readName_behindParenthesis]
  cases closed : readName ')' rest with
  | none => exact onward _ (Nat.le_refl _)
  | some pair =>
    refine onward pair.2 ?_
    rw [← append_of_readName closed]
    simp only [List.length_append, List.length_cons]
    omega

theorem groups_question {rest : List Char} (zero : openingLength ('?' :: rest) = 0)
    (onward : Onward rest) :
    groups ('(' :: '?' :: substitute 0 rest) = groups ('(' :: '?' :: rest) := by
  by_cases comment : rest.head? = some '#'
  · obtain ⟨rest, rfl⟩ := List.head?_eq_some_iff.mp comment
    exact groups_comment_substitute fun behind shorter => onward behind (Nat.le_succ_of_le shorter)
  by_cases condition : rest.head? = some '('
  · obtain ⟨rest, rfl⟩ := List.head?_eq_some_iff.mp condition
    exact groups_condition_substitute onward
  have inert : Inert '#' ∧ Inert '(' := by decide
  have reads := readParenthesis_of_openingLength comment condition zero
  have reads' := readParenthesis_of_openingLength (mt (head?_substitute inert.1 rest).mp comment)
    (mt (head?_substitute inert.2 rest).mp condition) (openingLength_substitute rest)
  rw [groups_extension reads, groups_extension reads', onward rest (Nat.le_refl _)]

theorem groups_parenthesis {rest : List Char} (onward : Onward rest) :
    groups (substitute 0 ('(' :: rest)) = groups ('(' :: rest) := by
  rcases openingLength_cases rest with zero | ⟨opening, back, rfl, kept, -⟩
  · have same : substitute 0 ('(' :: rest) = '(' :: substitute 0 rest :=
      substitute_char (by decide) fun _ => zero
    rw [same]
    by_cases question : rest.head? = some '?'
    · obtain ⟨rest, rfl⟩ := List.head?_eq_some_iff.mp question
      exact groups_question zero fun behind shorter => onward behind (Nat.le_succ_of_le shorter)
    · have inert : Inert '?' := by decide
      rw [groups_opening question, groups_opening (mt (head?_substitute inert rest).mp question),
        onward rest (Nat.le_refl _)]
  · rw [substitute_kept kept]
    exact groups_kept kept (onward back (by simp))

/-- The substitution of entities leaves the groups of a text. -/
theorem groups_substitute (source : List Char) : groups (substitute 0 source) = groups source := by
  induction size : source.length using Nat.strongRecOn generalizing source with
  | _ size ih =>
    subst size
    cases source with
    | nil => rfl
    | cons c rest =>
      have onward : Onward rest := fun behind shorter =>
        ih _ (Nat.lt_succ_of_le shorter) behind rfl
      by_cases backslash : c = '\\'
      · subst backslash
        cases rest with
        | nil => rfl
        | cons c rest =>
          have next := onward rest (Nat.le_succ _)
          rw [substitute_pair, groups_pair]
          cases found : entity? c with
          | none => exact (groups_pair c _).trans next
          | some entity => exact (groups_entity found _).trans next
      by_cases parenthesis : c = '('
      · subst parenthesis
        exact groups_parenthesis onward
      by_cases bracket : c = '['
      · subst bracket
        have same : substitute 0 ('[' :: rest) = '[' :: substitute 0 rest := rfl
        rw [same, groups_bracket, groups_bracket, afterBracket_substitute]
        exact onward _ (length_afterBracket rest)
      have mute : (Piece.plain c).isMute = true :=
        Piece.isMute_plain.mpr ⟨parenthesis, bracket, backslash⟩
      rw [substitute_plain backslash parenthesis, groups_plain mute]
      cases found : entity? c with
      | none => exact (groups_plain mute _).trans (onward rest (Nat.le_refl _))
      | some entity => exact (groups_entity found _).trans (onward rest (Nat.le_refl _))

theorem countCaptures_eq_groups (source : List Char) :
    countCaptures source = (groups source).length := by
  rw [countCaptures_eq_tally, groups, List.countP_eq_length_filter]

theorem groupNames_eq_groups (source : List Char) :
    groupNames source = (groups source).filterMap Notice.name? := by
  rw [groupNames_eq_tally, groups, List.filterMap_filter]
  congr 1
  funext notice
  cases notice <;> rfl

end Segment

/-- The substitution of entities leaves the account of a text's groups, whether or not the text is a
pattern: as many groups are counted, with the same names in the same order. -/
theorem accounting_escapeEntities (source : List Char) :
    countCaptures (escapeEntities source) = countCaptures source ∧
      groupNames (escapeEntities source) = groupNames source := by
  have same : Segment.groups (escapeEntities source) = Segment.groups source :=
    Segment.groups_substitute source
  simp only [Segment.countCaptures_eq_groups, Segment.groupNames_eq_groups, same, and_self]

/-- The class keeps its parenthesis to itself, the comment ends within an escape, and the last name is
not closed. -/
example : escapeEntities "[(<](?#&\\)\\<(?P<a>b)(?P<c".toList =
      "[(&lt;](?#&amp;\\)&lt;(?P<a>b)(?P&lt;c".toList ∧
    groupNames "[(<](?#&\\)\\<(?P<a>b)(?P<c".toList = ["a".toList] :=
  ⟨rfl, rfl⟩

end RuleLexer
