import RuleLexer.Proofs.Number.Digits
import RuleLexer.Proofs.Regex.AlignedLexemes
import RuleLexer.Proofs.Source.Splitting

namespace RuleLexer

namespace Piece

theorem split_cons {c : Char} (backslash : c ≠ '\\') (rest : List Char) :
    split (c :: rest) = .plain c :: split rest := by
  rw [split]
  · exact fun same => absurd same backslash
  · exact fun _ _ same => absurd same backslash

theorem split_append {cs : List Char} (backslash : '\\' ∉ cs) (rest : List Char) :
    split (cs ++ rest) = cs.map .plain ++ split rest := by
  induction cs with
  | nil => rfl
  | cons c cs ih =>
    have other : c ≠ '\\' := fun same => backslash (same ▸ List.mem_cons_self)
    have absent := fun member => backslash (List.mem_cons_of_mem c member)
    rw [List.cons_append, split_cons other, ih absent]
    rfl

theorem flatMap_text_plain (cs : List Char) : (cs.map Piece.plain).flatMap Piece.text = cs := by
  induction cs with
  | nil => rfl
  | cons c cs ih => exact congrArg (c :: ·) ih

theorem split_append_of_not_dangling {text : List Char} (closed : .dangling ∉ split text)
    (rest : List Char) : split (text ++ rest) = split text ++ split rest := by
  fun_induction split text with
  | case1 => rfl
  | case2 => exact absurd (List.mem_singleton_self _) closed
  | case3 c text ih =>
    rw [List.cons_append, List.cons_append, split, List.cons_append,
      ih fun member => closed (List.mem_cons_of_mem _ member)]
  | case4 c text dangling escaped ih =>
    have other : c ≠ '\\' := by
      rintro rfl
      cases text with
      | nil => exact dangling rfl rfl
      | cons d text => exact escaped d text rfl rfl
    rw [List.cons_append, split_cons other, ih fun member => closed (List.mem_cons_of_mem _ member)]
    rfl

theorem mem_of_split {text : List Char} {c : Char} (member : .plain c ∈ split text) : c ∈ text := by
  rw [← flatMap_text_split text]
  exact List.mem_flatMap.mpr ⟨_, member, List.mem_singleton_self c⟩

theorem split_ne_dangling {text : List Char} {c : Char} (member : c ∈ text)
    (backslash : c ≠ '\\') : split text ≠ [.dangling] := by
  intro dangling
  rw [← flatMap_text_split text, dangling] at member
  exact backslash (List.mem_singleton.mp member)

theorem head?_of_split {text : List Char} {c : Char} (head : (split text).head? = some (.plain c)) :
    text.head? = some c ∧ c ≠ '\\' := by
  cases text with
  | nil => cases head
  | cons d rest =>
    by_cases backslash : d = '\\'
    · subst backslash
      cases rest <;> cases head
    · rw [split_cons backslash] at head
      cases head
      exact ⟨rfl, backslash⟩

theorem split_head (c : Char) (rest : List Char) :
    ∃ piece others, split (c :: rest) = piece :: others ∧ ∀ d, piece = .plain d → d = c := by
  by_cases backslash : c = '\\'
  · subst backslash
    cases rest with
    | nil => exact ⟨_, _, rfl, nofun⟩
    | cons d rest => exact ⟨_, _, rfl, nofun⟩
  · refine ⟨_, _, split_cons backslash rest, ?_⟩
    rintro d ⟨⟩
    rfl

end Piece

namespace Segment

def isFlagLetter (c : Char) : Bool :=
  (Flag.ofLetter? c).isSome

/-- What follows an opening parenthesis is a question mark and the start of a group that is neither
a comment nor a conditional, and that does not turn on verbose mode. Letters for flags are followed
by something other than the end of the group. -/
def isModest : List Char → Bool
  | '?' :: rest =>
    rest.head? != some '#' && rest.head? != some '(' &&
      !(rest.takeWhile isFlagLetter).contains 'x' &&
      (rest.dropWhile isFlagLetter).head?.any (· != ')')
  | _ => false

/-- The segment before the text `after` is plain: a reference has one or two ASCII digits, of which
the first is not zero, and refers to one of the first `captures` groups; a character class has a
member; a condition is a number in ASCII digits; there is no comment. -/
def isPlain (captures : Nat) (after : List Char) : Segment → Bool
  | .escape _ | .named _ | .opening => true
  | .number digits =>
    digits.all Char.isDigit && digits.length ≤ 2 && digits.head?.any (· != '0') &&
      Number.valueOf digits ≤ captures
  | .charClass text => text != ['[', ']'] && text != ['[', '^', ']']
  | .comment _ => false
  | .condition name => !name.isEmpty && name.all Char.isDigit
  | .other c => c != '\\' && c != '[' && (c != '(' || isModest after)

def arePlain (captures : Nat) : List Segment → Bool
  | [] => true
  | segment :: segments =>
    segment.isPlain captures (segments.flatMap text) && arePlain captures segments

/-- The segment before the text `after` is plain, or it is a number, a condition on a name, or a
comment whose last character is not escaped. -/
def isClear (after : List Char) : Segment → Bool
  | .number _ => true
  | .condition name => !name.isEmpty && name.all Char.isDigit || Text.isIdentifier name
  | .comment text => !(Piece.split text).contains .dangling
  | segment => segment.isPlain 0 after

def areClear : List Segment → Bool
  | [] => true
  | segment :: segments => segment.isClear (segments.flatMap text) && areClear segments

theorem isClear_of_isPlain {captures : Nat} {after : List Char} {segment : Segment}
    (plain : segment.isPlain captures after = true) : segment.isClear after = true := by
  cases segment with
  | number digits => rfl
  | condition name => exact Bool.or_eq_true_iff.mpr (.inl plain)
  | comment text => cases plain
  | _ => exact plain

theorem areClear_of_arePlain {captures : Nat} {segments : List Segment}
    (plain : arePlain captures segments = true) : areClear segments = true := by
  induction segments with
  | nil => rfl
  | cons segment segments ih =>
    rw [arePlain, Bool.and_eq_true] at plain
    rw [areClear, Bool.and_eq_true]
    exact ⟨isClear_of_isPlain plain.1, ih plain.2⟩

end Segment

theorem Aligned.plains {numbers : Renumbering} {marks : List Landmark} {s t : List Piece}
    {cs : List Char} (ordinary : ∀ c ∈ cs, c ≠ '(' ∧ c ≠ '[')
    (rest : Aligned numbers marks false s t) :
    Aligned numbers marks false (cs.map .plain ++ s) (cs.map .plain ++ t) := by
  induction cs with
  | nil => exact rest
  | cons c cs ih =>
    obtain ⟨parenthesis, bracket⟩ := ordinary c List.mem_cons_self
    exact .plain parenthesis bracket (ih fun c member => ordinary c (List.mem_cons_of_mem _ member))

def isPlainSource (source : List Char) : Bool :=
  Segment.arePlain (countCaptures source) (Segment.split source)

namespace Segment

variable {numbers : Renumbering} {marks : List Landmark} {u u' : List Char}

theorem closeClass_ne_nil (text after : List Char) : closeClass text ≠ some ([], after) := by
  fun_induction closeClass text <;> simp_all

theorem closeMembers_ne_nil (text after : List Char) : closeMembers text ≠ some ([], after) := by
  unfold closeMembers
  split
  · split <;> simp
  · exact closeClass_ne_nil _ after

theorem aligned_closeClass {text body after : List Char}
    (closed : closeClass text = some (body, after))
    (rest : Aligned numbers marks false (Piece.split u) (Piece.split u')) :
    Aligned numbers marks true (Piece.split (body ++ u)) (Piece.split (body ++ u')) := by
  fun_induction closeClass text generalizing body after with
  | case1 => cases closed
  | case2 =>
    cases closed
    exact .close rest
  | case3 => cases closed
  | case4 =>
    cases closed
    exact .close rest
  | case5 d text _ ih =>
    obtain ⟨⟨body, after⟩, inner, same⟩ := Option.map_eq_some_iff.mp closed
    cases same
    exact .member (by simp) (by simp) (ih inner)
  | case6 c d text bracket backslash ih =>
    obtain ⟨⟨body, after⟩, inner, same⟩ := Option.map_eq_some_iff.mp closed
    cases same
    rw [List.cons_append, List.cons_append, Piece.split_cons backslash, Piece.split_cons backslash]
    exact .member (by simpa using bracket) (by simp) (ih inner)

theorem aligned_closeMembers {text body after : List Char}
    (closed : closeMembers text = some (body, after)) (member : body ≠ [']'])
    (rest : Aligned numbers marks false (Piece.split u) (Piece.split u')) :
    ∃ piece s t, Piece.split (body ++ u) = piece :: s ∧ Piece.split (body ++ u') = piece :: t ∧
      piece ≠ .dangling ∧ Aligned numbers marks true s t := by
  unfold closeMembers at closed
  split at closed
  · split at closed
    · next inner =>
      cases closed
      exact ⟨_, _, _, rfl, rfl, nofun, aligned_closeClass inner rest⟩
    · cases closed
      exact absurd rfl member
  · next text bracket =>
    have inside := aligned_closeClass closed rest
    have whole := append_of_closeClass closed
    cases body with
    | nil => exact absurd closed (closeClass_ne_nil _ after)
    | cons c body =>
      have other : c ≠ ']' := fun same => bracket (body ++ after) (by rw [← whole, same]; rfl)
      cases first : Piece.split (c :: body ++ u) with
      | nil =>
        rw [first] at inside
        exact absurd rfl inside.ne_nil
      | cons piece s =>
        rw [first] at inside
        obtain ⟨t, there, ⟨rfl, -⟩ | ⟨-, dangling, inner⟩⟩ := inside.uncons_inside
        · have head : (c :: body ++ u).head? = some ']' :=
            (Piece.head?_of_split (by rw [first]; rfl)).1
          exact absurd (Option.some.inj head) other
        · exact ⟨piece, s, t, rfl, there, dangling, inner⟩

theorem aligned_charClass {rest text after : List Char}
    (closed : readClass rest = some (text, after))
    (member : text ≠ ['[', ']']) (complement : text ≠ ['[', '^', ']'])
    (onward : Aligned numbers marks false (Piece.split u) (Piece.split u')) :
    Aligned numbers marks false (Piece.split (text ++ u)) (Piece.split (text ++ u')) := by
  unfold readClass at closed
  split at closed
  · obtain ⟨⟨body, _⟩, inner, same⟩ := Option.map_eq_some_iff.mp closed
    cases same
    obtain ⟨piece, s, t, here, there, dangling, inside⟩ :=
      aligned_closeMembers inner (fun same => complement (by rw [same])) onward
    have aligned := Aligned.complement dangling inside
    rw [← here, ← there] at aligned
    exact aligned
  · next caret =>
    obtain ⟨⟨body, _⟩, inner, same⟩ := Option.map_eq_some_iff.mp closed
    cases same
    obtain ⟨piece, s, t, here, there, dangling, inside⟩ :=
      aligned_closeMembers inner (fun same => member (by rw [same])) onward
    have whole := append_of_closeMembers inner
    have first : piece ≠ .plain '^' := by
      rintro rfl
      have starts : (Piece.split (body ++ u)).head? = some (.plain '^') := by rw [here]; rfl
      obtain ⟨head, -⟩ := Piece.head?_of_split starts
      cases body with
      | nil => exact absurd inner (closeMembers_ne_nil _ _)
      | cons c body =>
        cases head
        exact caret _ whole.symm
    have aligned := Aligned.set first dangling inside
    rw [← here, ← there] at aligned
    exact aligned

/-- How a segment may be written: a reference with the digits of its number behind `shift` groups, a
condition with a number that stands for it, and any other segment as it is. -/
inductive Written (stands : List Char → List Char → Prop) (shift : Nat) :
    Segment → List Char → Prop
  | number {digits ds : List Char} (refers : Spells digits (Number.valueOf digits))
    (spelled : Spells ds (Number.valueOf digits + shift)) :
    Written stands shift (.number digits) ('\\' :: ds)
  | octal {digits : List Char} {code : Nat} (spelled : Octal digits code) :
    Written stands shift (.number digits) ('\\' :: digits)
  | literal {c : Char} {cs : List Char} (foreign : 0x7F < c.toNat) :
    Written stands shift (.number (c :: cs)) ('\\' :: c :: cs)
  | condition {name ds : List Char} (own : name.all Char.isDigit = true)
    (digits : ds.all Char.isDigit = true) (nonempty : ds ≠ []) (number : stands name ds) :
    Written stands shift (.condition name) (Segment.condition ds).text
  | named {name : List Char} (identifier : Text.isIdentifier name = true) :
    Written stands shift (.condition name) (Segment.condition name).text
  | same {segment : Segment} (reference : ∀ digits, segment ≠ .number digits)
    (condition : ∀ name, segment ≠ .condition name) : Written stands shift segment segment.text

/-- How a segment may be written where characters that are given by their numbers need not be. -/
inductive Rewritten (stands : List Char → List Char → Prop) (shift : Nat) :
    Segment → List Char → Prop
  | written {segment : Segment} {text : List Char} (how : Written stands shift segment text) :
    Rewritten stands shift segment text
  | denoted {digits : List Char} {c : Char} (spelled : Octal digits c.toNat)
    (fixed : isSpecial c = true ∨ isLoose c = true) :
    Rewritten stands shift (.number digits) (escapeLiteral [c])
  | literal {c : Char} {cs : List Char} (foreign : 0x7F < c.toNat) :
    Rewritten stands shift (.number (c :: cs)) (c :: cs)

def showsGroup (after : List Char) : Segment → Bool
  | .named _ | .opening => true
  | .other '(' => ['?', 'P', '<'].isPrefixOf after
  | _ => false

def shownGroups : List Segment → Nat
  | [] => 0
  | segment :: segments =>
    (if segment.showsGroup (segments.flatMap text) then 1 else 0) + shownGroups segments

theorem countP_opensGroup_le (segments : List Segment) :
    segments.countP opensGroup ≤ shownGroups segments := by
  induction segments with
  | nil => exact Nat.le_refl 0
  | cons segment segments ih =>
    rw [List.countP_cons, shownGroups]
    have here : (if segment.opensGroup then 1 else 0) ≤
        if segment.showsGroup (segments.flatMap text) then 1 else 0 := by
      cases segment <;> simp [opensGroup, showsGroup]
    omega

variable {stands : List Char → List Char → Prop} {shift : Nat} {render : Segment → List Char}
  {source : List Char} {segments : List Segment}

theorem split_spells {digits : List Char} {n : Nat} (spelled : Spells digits n) (rest : List Char) :
    ∃ c cs, digits = c :: cs ∧
      Piece.split ('\\' :: digits ++ rest) = .escaped c :: (cs.map .plain ++ Piece.split rest) := by
  cases spelled with
  | one => exact ⟨_, _, rfl, rfl⟩
  | two digit first second =>
    refine ⟨_, _, rfl, congrArg _ (Piece.split_append (fun member => ?_) rest)⟩
    cases List.mem_singleton.mp member
    cases second

theorem split_octal {digits : List Char} {code : Nat} (spelled : Octal digits code)
    (rest : List Char) :
    ∃ c cs, digits = c :: cs ∧
      Piece.split ('\\' :: digits ++ rest) = .escaped c :: (cs.map .plain ++ Piece.split rest) := by
  cases spelled with
  | zero octal =>
    refine ⟨_, _, rfl, congrArg _ (Piece.split_append (fun member => ?_) rest)⟩
    cases List.all_eq_true.mp octal _ member
  | three first octal =>
    refine ⟨_, _, rfl, congrArg _ (Piece.split_append (fun member => ?_) rest)⟩
    cases List.all_eq_true.mp octal _ (List.mem_cons_of_mem _ member)

theorem not_octal_of_spells {digits : List Char} {n code : Nat} (spelled : Spells digits n) :
    ¬Octal digits code := by
  intro octal
  cases octal with
  | zero =>
    cases spelled with
    | one _ first => exact first rfl
    | two _ first => exact first rfl
  | three => cases spelled

theorem not_spells_of_foreign {c : Char} {cs : List Char} {n : Nat} (foreign : 0x7F < c.toNat) :
    ¬Spells (c :: cs) n := by
  intro spelled
  cases spelled with
  | one digit => cases digit.symm.trans (isDigit_of_foreign foreign)
  | two digit => cases digit.symm.trans (isDigit_of_foreign foreign)

theorem not_octal_of_foreign {c : Char} {cs : List Char} {code : Nat} (foreign : 0x7F < c.toNat) :
    ¬Octal (c :: cs) code := by
  intro spelled
  cases spelled with
  | zero => exact absurd foreign (by decide)
  | three _ octal =>
    have digit := Escape.isDigit_of_isOctal (List.all_eq_true.mp octal c List.mem_cons_self)
    cases digit.symm.trans (isDigit_of_foreign foreign)

theorem isSpecial_of_isDigitChar {c : Char} (digit : isDigitChar c = true) :
    isSpecial c = false := by
  have other : "()[]\x7b\x7d?*+-|^$\\.&~# \t\n\r\x0b\x0c".toList.any isDigitChar = false := by
    decide
  refine Bool.eq_false_iff.mpr fun special => ?_
  exact List.any_eq_false.mp other c (List.contains_iff_mem.mp special) digit

theorem ordinary_of_isDigitChar {c : Char} (digit : isDigitChar c = true) :
    c ≠ '\\' ∧ c ≠ '(' ∧ c ≠ '[' := by
  refine ⟨?_, ?_, ?_⟩ <;>
  · rintro rfl
    cases digit

structure Refers (text : List Char) (own : List Landmark) : Prop where
  numbers : ∀ mark ∈ own, ∃ n, mark = .reference n
  spelled : ∀ ds n, text = '\\' :: ds → Spells ds n → .reference n ∈ own

theorem aligned_reference {a b : Nat} {stands' : List Char → List Char → Prop}
    {digits ds text' : List Char} (refers : Spells digits (Number.valueOf digits))
    (spelled : Spells ds (Number.valueOf digits + a))
    (how' : Rewritten stands' b (.number digits) text')
    (related : numbers.reference (Number.valueOf digits + a) (Number.valueOf digits + b))
    (stops : DigitFree (Piece.split u)) (stops' : DigitFree (Piece.split u'))
    (rest : Aligned numbers marks false (Piece.split u) (Piece.split u')) :
    Aligned numbers (.reference (Number.valueOf digits + a) :: marks) false
      (Piece.split ('\\' :: ds ++ u)) (Piece.split (text' ++ u')) := by
  cases how' with
  | denoted octal => exact absurd octal (not_octal_of_spells refers)
  | literal foreign => exact absurd refers (not_spells_of_foreign foreign)
  | written how' =>
    cases how' with
    | same other => exact absurd rfl (other digits)
    | octal octal => exact absurd octal (not_octal_of_spells refers)
    | literal foreign => exact absurd refers (not_spells_of_foreign foreign)
    | number _ spelled' =>
      obtain ⟨c, cs, rfl, one⟩ := split_spells spelled u
      obtain ⟨c', cs', rfl, other⟩ := split_spells spelled' u'
      rw [one, other]
      exact .number spelled spelled' related stops stops' rest

theorem aligned_octal {b code : Nat} {stands' : List Char → List Char → Prop}
    {digits text' : List Char} (spelled : Octal digits code)
    (how' : Rewritten stands' b (.number digits) text')
    (stops : DigitFree (Piece.split u)) (stops' : DigitFree (Piece.split u'))
    (rest : Aligned numbers marks false (Piece.split u) (Piece.split u')) :
    Aligned numbers marks false (Piece.split ('\\' :: digits ++ u))
      (Piece.split (text' ++ u')) := by
  obtain ⟨c, cs, rfl, one⟩ := split_octal spelled u
  rw [one]
  cases how' with
  | literal foreign => exact absurd spelled (not_octal_of_foreign foreign)
  | denoted spelled fixed =>
    rcases fixed with special | loose
    · rw [escapeLiteral, List.flatMap_singleton, if_pos special]
      exact .denoted spelled (.escaped special rfl) stops stops' rest
    · have plain := isSpecial_of_isLoose loose
      rw [escapeLiteral, List.flatMap_singleton, plain, if_neg (by decide), List.singleton_append,
        Piece.split_cons (ne_of_ordinary (.inl plain) (by decide))]
      exact .denoted spelled (.itself loose rfl) stops stops' rest
  | written how' =>
    cases how' with
    | same other => exact absurd rfl (other _)
    | number refers => exact absurd spelled (not_octal_of_spells refers)
    | literal foreign => exact absurd spelled (not_octal_of_foreign foreign)
    | octal spelled' =>
      obtain ⟨c', cs', same, other⟩ := split_octal spelled' u'
      cases same
      rw [other]
      exact .denoted spelled (.octal spelled) stops stops' rest

theorem aligned_foreign {b : Nat} {stands' : List Char → List Char → Prop} {c : Char}
    {cs text' : List Char} (foreign : 0x7F < c.toNat)
    (how' : Rewritten stands' b (.number (c :: cs)) text')
    (all : (c :: cs).all isDigitChar = true)
    (rest : Aligned numbers marks false (Piece.split u) (Piece.split u')) :
    Aligned numbers marks false (Piece.split ('\\' :: c :: cs ++ u))
      (Piece.split (text' ++ u')) := by
  have ordinary : ∀ d ∈ c :: cs, d ≠ '\\' ∧ d ≠ '(' ∧ d ≠ '[' :=
    fun d member => ordinary_of_isDigitChar (List.all_eq_true.mp all d member)
  have absent : '\\' ∉ cs := fun member => (ordinary _ (List.mem_cons_of_mem c member)).1 rfl
  have behind : Aligned numbers marks false (Piece.split (cs ++ u)) (Piece.split (cs ++ u')) := by
    rw [Piece.split_append absent, Piece.split_append absent]
    exact .plains (fun d member => (ordinary d (List.mem_cons_of_mem c member)).2) rest
  cases how' with
  | denoted octal => exact absurd octal (not_octal_of_foreign foreign)
  | literal =>
    rw [List.cons_append, List.cons_append, List.cons_append,
      Piece.split_cons (ordinary c List.mem_cons_self).1]
    exact .literal foreign behind
  | written how' =>
    cases how' with
    | same other => exact absurd rfl (other _)
    | number refers => exact absurd refers (not_spells_of_foreign foreign)
    | octal octal => exact absurd octal (not_octal_of_foreign foreign)
    | literal => exact .escaped (isDigit_of_foreign foreign) behind

theorem aligned_number {a b : Nat} {stands stands' : List Char → List Char → Prop}
    {digits text text' : List Char} (reference : ∀ n, numbers.reference (n + a) (n + b))
    (how : Written stands a (.number digits) text)
    (how' : Rewritten stands' b (.number digits) text')
    (all : digits.all isDigitChar = true)
    (stops : DigitFree (Piece.split u)) (stops' : DigitFree (Piece.split u'))
    (rest : Aligned numbers marks false (Piece.split u) (Piece.split u')) :
    ∃ own, Refers text own ∧ Aligned numbers (own ++ marks) false (Piece.split (text ++ u))
      (Piece.split (text' ++ u')) := by
  cases how with
  | same other => exact absurd rfl (other digits)
  | number refers spelled =>
    refine ⟨[.reference (Number.valueOf digits + a)], ⟨by simp, ?_⟩,
      aligned_reference refers spelled how' (reference _) stops stops' rest⟩
    rintro ds n ⟨⟩ spelled'
    rw [spelled.unique spelled']
    exact List.mem_singleton_self _
  | octal spelled =>
    refine ⟨[], ⟨nofun, ?_⟩, aligned_octal spelled how' stops stops' rest⟩
    rintro ds n ⟨⟩ spelled'
    exact absurd spelled (not_octal_of_spells spelled')
  | literal foreign =>
    refine ⟨[], ⟨nofun, ?_⟩, aligned_foreign foreign how' all rest⟩
    rintro ds n ⟨⟩ spelled'
    exact absurd spelled' (not_spells_of_foreign foreign)

theorem Written.of_condition {name text : List Char}
    (how : Written stands shift (.condition name) text) (own : name.all Char.isDigit = true) :
    ∃ ds, text = (Segment.condition ds).text ∧ ds.all Char.isDigit = true ∧ ds ≠ [] ∧
      stands name ds := by
  cases how with
  | condition _ digits nonempty number => exact ⟨_, rfl, digits, nonempty, number⟩
  | named identifier => cases identifier.symm.trans (Lexeme.not_isIdentifier_of_digits own)
  | same _ condition => exact absurd rfl (condition name)

theorem Written.of_name {name text : List Char} (how : Written stands shift (.condition name) text)
    (identifier : Text.isIdentifier name = true) : text = (Segment.condition name).text := by
  cases how with
  | condition own => cases identifier.symm.trans (Lexeme.not_isIdentifier_of_digits own)
  | named => rfl
  | same _ condition => exact absurd rfl (condition name)

theorem Written.of_other {segment : Segment} {text : List Char}
    (how : Written stands shift segment text) (reference : ∀ digits, segment ≠ .number digits)
    (condition : ∀ name, segment ≠ .condition name) : text = segment.text := by
  cases how with
  | number => exact absurd rfl (reference _)
  | octal => exact absurd rfl (reference _)
  | literal => exact absurd rfl (reference _)
  | condition => exact absurd rfl (condition _)
  | named => exact absurd rfl (condition _)
  | same => rfl

theorem Rewritten.of_condition {name text : List Char}
    (how : Rewritten stands shift (.condition name) text) :
    Written stands shift (.condition name) text := by
  cases how with
  | written how => exact how

theorem Rewritten.of_other {segment : Segment} {text : List Char}
    (how : Rewritten stands shift segment text) (reference : ∀ digits, segment ≠ .number digits)
    (condition : ∀ name, segment ≠ .condition name) : text = segment.text := by
  cases how with
  | written how => exact how.of_other reference condition
  | denoted => exact absurd rfl (reference _)
  | literal => exact absurd rfl (reference _)

theorem Written.head?_eq {text after written : List Char} {segment : Segment}
    (found : Found text segment after) (how : Written stands shift segment written) :
    ∃ c others rest, written = c :: others ∧ text = c :: rest := by
  cases how with
  | number => cases found; exact ⟨_, _, _, rfl, rfl⟩
  | octal => cases found; exact ⟨_, _, _, rfl, rfl⟩
  | literal => cases found; exact ⟨_, _, _, rfl, rfl⟩
  | condition => cases found; exact ⟨_, _, _, rfl, rfl⟩
  | named => cases found; exact ⟨_, _, _, rfl, rfl⟩
  | same =>
    obtain ⟨whole, nonempty⟩ := found.text_append
    obtain ⟨c, others, same⟩ := List.exists_cons_of_ne_nil nonempty
    exact ⟨c, others, others ++ after, same, by rw [← whole, same]; rfl⟩

theorem head?_flatMap (splits : Splits source segments)
    (written : ∀ segment ∈ segments, Written stands shift segment (render segment)) :
    (segments.flatMap render).head? = source.head? := by
  cases splits with
  | nil => rfl
  | cons found rest =>
    obtain ⟨c, others, _, same, rfl⟩ := (written _ List.mem_cons_self).head?_eq found
    rw [List.flatMap_cons, same]
    rfl

theorem Splits.uncons {c : Char} {rest : List Char} (splits : Splits (c :: rest) segments)
    (backslash : c ≠ '\\') (bracket : c ≠ '[') (parenthesis : c ≠ '(') :
    ∃ others, segments = .other c :: others ∧ Splits rest others := by
  cases splits with
  | cons found others =>
    cases found with
    | other => exact ⟨_, rfl, others⟩
    | dangling => exact absurd rfl backslash
    | escape => exact absurd rfl backslash
    | number => exact absurd rfl backslash
    | charClass => exact absurd rfl bracket
    | bracket => exact absurd rfl bracket
    | comment => exact absurd rfl parenthesis
    | condition => exact absurd rfl parenthesis
    | named => exact absurd rfl parenthesis
    | extension => exact absurd rfl parenthesis
    | opening => exact absurd rfl parenthesis

theorem render_other {c : Char} (written : Written stands shift (.other c) (render (.other c))) :
    render (.other c) = [c] :=
  written.of_other nofun nofun

theorem flatMap_append {letters more : List Char} {c : Char}
    (ordinary : ∀ l ∈ letters, l ≠ '\\' ∧ l ≠ '[' ∧ l ≠ '(')
    (splits : Splits (letters ++ c :: more) segments)
    (written : ∀ segment ∈ segments, Written stands shift segment (render segment)) :
    ∃ more', segments.flatMap render = letters ++ c :: more' := by
  induction letters generalizing segments with
  | nil => exact List.head?_eq_some_iff.mp (head?_flatMap splits written)
  | cons l letters ih =>
    obtain ⟨backslash, bracket, parenthesis⟩ := ordinary l List.mem_cons_self
    obtain ⟨others, rfl, rest⟩ := splits.uncons backslash bracket parenthesis
    obtain ⟨more', same⟩ := ih (fun l member => ordinary l (List.mem_cons_of_mem _ member)) rest
      (fun segment member => written segment (List.mem_cons_of_mem _ member))
    refine ⟨more', ?_⟩
    rw [List.flatMap_cons, render_other (written _ List.mem_cons_self), same]
    rfl

def Closes (text : List Char) : Prop :=
  ∀ c, text.head? = some c → c = ')' ∨ c = '|'

theorem head?_render (splits : Splits source segments)
    (written : ∀ segment ∈ segments, Written stands shift segment (render segment))
    (closes : Closes u) {c : Char} (closing : c ≠ ')' ∧ c ≠ '|')
    (head : (segments.flatMap render ++ u).head? = some c) : source.head? = some c := by
  rw [List.head?_append, head?_flatMap splits written] at head
  cases first : source.head? with
  | none =>
    rw [first] at head
    rcases closes c head with same | same
    · exact absurd same closing.1
    · exact absurd same closing.2
  | some d =>
    rw [first] at head
    exact head

theorem Rewritten.head?_eq {text after written : List Char} {segment : Segment}
    (found : Found text segment after) (how : Rewritten stands shift segment written) :
    ∃ c others, written = c :: others ∧
      (isLoose c = true ∨ c = '\\' ∨ text.head? = some c) := by
  cases how with
  | written how =>
    obtain ⟨c, others, rest, same, rfl⟩ := how.head?_eq found
    exact ⟨c, others, same, .inr (.inr rfl)⟩
  | @denoted _ c spelled fixed =>
    rw [escapeLiteral, List.flatMap_singleton]
    rcases fixed with special | loose
    · exact ⟨_, _, if_pos special, .inr (.inl rfl)⟩
    · refine ⟨c, [], if_neg ?_, .inl loose⟩
      simp [isSpecial_of_isLoose loose]
  | literal foreign => exact ⟨_, _, rfl, .inl (isLoose_of_foreign foreign)⟩

theorem head?_rewritten (splits : Splits source segments)
    (written : ∀ segment ∈ segments, Rewritten stands shift segment (render segment))
    (closes : Closes u) {c : Char} (steady : isSteady c = true) (backslash : c ≠ '\\')
    (head : (segments.flatMap render ++ u).head? = some c) : source.head? = some c := by
  simp only [isSteady, Bool.and_eq_true, Bool.not_eq_true', bne_iff_ne] at steady
  obtain ⟨⟨firm, closing⟩, bar⟩ := steady
  cases splits with
  | nil =>
    rcases closes c head with same | same
    · exact absurd same closing
    · exact absurd same bar
  | cons found rest =>
    obtain ⟨d, others, same, either⟩ := (written _ List.mem_cons_self).head?_eq found
    rw [List.flatMap_cons, same] at head
    cases head
    rcases either with loose | escape | stood
    · cases loose.symm.trans firm
    · exact absurd escape backslash
    · exact stood

theorem ordinary_of_isFlagLetter {c : Char} (letter : isFlagLetter c = true) :
    c ≠ '\\' ∧ c ≠ '[' ∧ c ≠ '(' := by
  refine ⟨?_, ?_, ?_⟩ <;>
  · rintro rfl
    cases letter

theorem split_flags (splits : Splits source segments)
    (written : ∀ segment ∈ segments, Written stands shift segment (render segment))
    {letters more : List Char} {c : Char} (whole : source = letters ++ c :: more)
    (flags : ∀ l ∈ letters, isFlagLetter l = true) (last : isFlagLetter c = false) :
    ∃ piece others,
      Piece.split (segments.flatMap render ++ u) = letters.map .plain ++ piece :: others ∧
      piece.isFlag = false ∧ ∀ d, piece = .plain d → d = c := by
  rw [whole] at splits
  obtain ⟨more', same⟩ := flatMap_append
    (fun l member => ordinary_of_isFlagLetter (flags l member)) splits written
  have backslash : '\\' ∉ letters := fun member => (ordinary_of_isFlagLetter (flags _ member)).1 rfl
  obtain ⟨piece, others, first, plain⟩ := Piece.split_head c (more' ++ u)
  refine ⟨piece, others, ?_, ?_, plain⟩
  · rw [same, List.append_assoc, Piece.split_append backslash, List.cons_append, first]
  · cases piece with
    | plain d =>
      cases plain d rfl
      exact last
    | escaped d => rfl
    | dangling => rfl

theorem modest_render (splits : Splits source segments)
    (written : ∀ segment ∈ segments, Written stands shift segment (render segment))
    (closes : Closes u) (modest : isModest ('?' :: source) = true)
    (unnamed : ∀ more, source ≠ 'P' :: '<' :: more) :
    Modest (Piece.split (segments.flatMap render ++ u)) := by
  simp only [isModest, Bool.and_eq_true, bne_iff_ne, ne_eq, Bool.not_eq_true',
    Option.any_eq_true] at modest
  obtain ⟨⟨⟨comment, condition⟩, verbose⟩, c, next, closing⟩ := modest
  obtain ⟨more, remaining⟩ := List.head?_eq_some_iff.mp next
  have whole : source = source.takeWhile isFlagLetter ++ c :: more := by
    rw [← remaining, List.takeWhile_append_dropWhile]
  have letters : ∀ l ∈ source.takeWhile isFlagLetter, isFlagLetter l = true :=
    List.all_eq_true.mp List.all_takeWhile
  have last : isFlagLetter c = false := by
    have stops := List.head?_dropWhile_not isFlagLetter source
    rwa [next] at stops
  obtain ⟨piece, others, text, stop, plain⟩ :=
    split_flags (u := u) splits written whole letters last
  have flags : ∀ piece ∈ (source.takeWhile isFlagLetter).map Piece.plain, piece.isFlag = true := by
    intro piece member
    obtain ⟨l, letter, rfl⟩ := List.mem_map.mp member
    exact letters l letter
  have before {d : Char} (closing : d ≠ ')' ∧ d ≠ '|')
      (head : (Piece.split (segments.flatMap render ++ u)).head? = some (.plain d)) :
      source.head? = some d :=
    head?_render splits written closes closing (Piece.head?_of_split head).1
  -- None of what modesty looks at is touched by the rendering: the first characters and the
  -- letters.
  constructor
  · exact fun head => comment (before (by decide) head)
  · exact fun head => condition (before (by decide) head)
  · intro head angle
    obtain ⟨rest, rfl⟩ := List.head?_eq_some_iff.mp (before (by decide) head)
    obtain ⟨behind, rfl, inner⟩ := splits.uncons (by decide) (by decide) (by decide)
    rw [List.flatMap_cons, render_other (written _ List.mem_cons_self), List.append_assoc,
      List.singleton_append, Piece.split_cons (by decide), List.tail_cons] at angle
    have second : rest.head? = some '<' := head?_render inner
      (fun segment member => written segment (List.mem_cons_of_mem _ member)) closes (by decide)
      (Piece.head?_of_split angle).1
    obtain ⟨rest, rfl⟩ := List.head?_eq_some_iff.mp second
    exact unnamed rest rfl
  · rw [text, List.takeWhile_append_of_pos flags, List.takeWhile_cons_of_neg (by simp [stop]),
      List.append_nil]
    intro member
    obtain ⟨l, member, same⟩ := List.mem_map.mp member
    cases same
    simp [member] at verbose
  · rw [text, List.dropWhile_append_of_pos flags, List.dropWhile_cons_of_neg (by simp [stop])]
    intro head
    have same := plain ')' (Option.some.inj head)
    simp [← same] at closing

/-- The landmarks are those of segments that are written like this. -/
structure Shows (render : Segment → List Char) (segments : List Segment) (own : List Landmark) :
    Prop where
  groups : own.count .group = shownGroups segments
  references : ∀ digits ds n, .number digits ∈ segments → render (.number digits) = '\\' :: ds →
    Spells ds n → .reference n ∈ own
  conditions : ∀ name, .condition name ∈ segments → name.all Char.isDigit = true →
    ∃ ds, .condition ds ∈ own ∧ render (.condition name) = (Segment.condition ds).text

namespace Shows

variable {own : List Landmark}

theorem cons (before : Shows render segments own) {segment : Segment} {more : List Landmark}
    (groups : more.count .group =
      if segment.showsGroup (segments.flatMap text) then 1 else 0)
    (references : ∀ digits, segment = .number digits → Refers (render segment) more)
    (conditions : ∀ name, segment = .condition name → name.all Char.isDigit = true →
      ∃ ds, .condition ds ∈ more ∧ render segment = (Segment.condition ds).text) :
    Shows render (segment :: segments) (more ++ own) where
  groups := by rw [List.count_append, shownGroups, groups, before.groups]
  references digits ds n member written spelled := by
    rcases List.mem_cons.mp member with same | later
    · subst same
      exact List.mem_append_left _ ((references digits rfl).spelled ds n written spelled)
    · exact List.mem_append_right _ (before.references digits ds n later written spelled)
  conditions name member digits := by
    rcases List.mem_cons.mp member with same | later
    · subst same
      obtain ⟨ds, member, written⟩ := conditions name rfl digits
      exact ⟨ds, List.mem_append_left _ member, written⟩
    · obtain ⟨ds, member, written⟩ := before.conditions name later digits
      exact ⟨ds, List.mem_append_right _ member, written⟩

theorem nothing (before : Shows render segments own) {segment : Segment}
    (hidden : segment.showsGroup (segments.flatMap text) = false)
    (reference : ∀ digits, segment ≠ .number digits)
    (condition : ∀ name, segment = .condition name → name.all Char.isDigit = false) :
    Shows render (segment :: segments) own := by
  show Shows render (segment :: segments) ([] ++ own)
  refine before.cons (by simp [hidden]) (fun digits same => absurd same (reference digits)) ?_
  intro name same digits
  cases digits.symm.trans (condition name same)

theorem group (before : Shows render segments own) {segment : Segment}
    (seen : segment.showsGroup (segments.flatMap text) = true)
    (reference : ∀ digits, segment ≠ .number digits)
    (condition : ∀ name, segment ≠ .condition name) :
    Shows render (segment :: segments) (.group :: own) := by
  show Shows render (segment :: segments) ([.group] ++ own)
  refine before.cons (by simp [seen]) (fun digits same => absurd same (reference digits)) ?_
  exact fun name same => absurd same (condition name)

theorem number (before : Shows render segments own) {digits : List Char} {more : List Landmark}
    (refers : Refers (render (.number digits)) more) :
    Shows render (.number digits :: segments) (more ++ own) := by
  refine before.cons ?_ (fun _ _ => refers) nofun
  refine List.count_eq_zero.mpr fun member => ?_
  obtain ⟨n, same⟩ := refers.numbers _ member
  cases same

theorem condition (before : Shows render segments own) {name ds : List Char}
    (written : render (.condition name) = (Segment.condition ds).text) :
    Shows render (.condition name :: segments) (.condition ds :: own) := by
  show Shows render (.condition name :: segments) ([.condition ds] ++ own)
  exact before.cons rfl nofun fun _ _ _ => ⟨ds, List.mem_singleton_self _, written⟩

end Shows

theorem isDigitChar_of_isDigit {c : Char} (digit : c.isDigit = true) : isDigitChar c = true :=
  Text.isDigit_of_ascii digit

theorem all_isDigitChar {digits : List Char} (plain : digits.all Char.isDigit = true) :
    digits.all isDigitChar = true :=
  List.all_eq_true.mpr fun c member => isDigitChar_of_isDigit (List.all_eq_true.mp plain c member)

theorem digitFree_render (splits : Splits source segments)
    (written : ∀ segment ∈ segments, Rewritten stands shift segment (render segment))
    (closes : Closes u) (stops : ∀ c, source.head? = some c → isDigitChar c = false) :
    DigitFree (Piece.split (segments.flatMap render ++ u)) := by
  intro c head
  cases digit : c.isDigit with
  | false => rfl
  | true =>
    obtain ⟨here, backslash⟩ := Piece.head?_of_split head
    have first := head?_rewritten splits written closes (isDigit_ordinary c digit).2 backslash here
    have free := stops c first
    rw [isDigitChar_of_isDigit digit] at free
    cases free

theorem split_other {c : Char} (backslash : c ≠ '\\')
    (written : Rewritten stands shift (.other c) (render (.other c))) :
    Piece.split ((Segment.other c :: segments).flatMap render ++ u) =
      .plain c :: Piece.split (segments.flatMap render ++ u) := by
  have same : render (.other c) = [c] := written.of_other nofun nofun
  rw [List.flatMap_cons, same, List.append_assoc, List.singleton_append, Piece.split_cons backslash]

theorem aligned_extension {a b : Nat} {stands stands' : List Char → List Char → Prop}
    {render render' : Segment → List Char} {own : List Landmark}
    (splits : Splits ('?' :: source) segments) (modest : isModest ('?' :: source) = true)
    (written : ∀ segment ∈ segments, Written stands a segment (render segment))
    (written' : ∀ segment ∈ segments, Rewritten stands' b segment (render' segment))
    (closes : Closes u) (before : Shows render segments own)
    (aligned : Aligned numbers (own ++ marks) false (Piece.split (segments.flatMap render ++ u))
      (Piece.split (segments.flatMap render' ++ u'))) :
    ∃ own, Shows render (.other '(' :: segments) own ∧ Aligned numbers (own ++ marks) false
      (.plain '(' :: Piece.split (segments.flatMap render ++ u))
      (.plain '(' :: Piece.split (segments.flatMap render' ++ u')) := by
  have whole := splits.flatMap_text
  obtain ⟨others, rfl, inner⟩ := splits.uncons (by decide) (by decide) (by decide)
  have later := fun segment member => written segment (List.mem_cons_of_mem _ member)
  have later' := fun segment member => written' segment (List.mem_cons_of_mem _ member)
  rw [split_other (by decide) (.written (written _ List.mem_cons_self)),
    split_other (by decide) (written' _ List.mem_cons_self)] at aligned ⊢
  obtain ⟨_, same, behind⟩ := aligned.uncons (by decide) (by decide) (by decide)
  cases same
  -- A name is a landmark, every other extension leaves none.
  by_cases named : ∃ more, source = 'P' :: '<' :: more
  · obtain ⟨more, rfl⟩ := named
    have seen : (Segment.other '(').showsGroup
        ((Segment.other '?' :: others).flatMap text) = true := by
      rw [whole]
      rfl
    obtain ⟨others, rfl, second⟩ := inner.uncons (by decide) (by decide) (by decide)
    obtain ⟨others, rfl, -⟩ := second.uncons (by decide) (by decide) (by decide)
    rw [split_other (by decide) (.written (later _ (by simp))),
      split_other (by decide) (later' _ (by simp)),
      split_other (by decide) (.written (later _ (by simp))),
      split_other (by decide) (later' _ (by simp))] at behind ⊢
    obtain ⟨_, same, behind⟩ := behind.uncons (by decide) (by decide) (by decide)
    cases same
    obtain ⟨_, same, behind⟩ := behind.uncons (by decide) (by decide) (by decide)
    cases same
    exact ⟨.group :: own, before.group seen nofun nofun, .named behind⟩
  · have unnamed : ∀ more, source ≠ 'P' :: '<' :: more := fun more same => named ⟨more, same⟩
    have hidden : (Segment.other '(').showsGroup ((Segment.other '?' :: others).flatMap text) =
        false := by
      rw [whole]
      refine Bool.eq_false_iff.mpr fun seen => ?_
      obtain ⟨more, same⟩ := List.isPrefixOf_iff_prefix.mp seen
      cases same
      exact unnamed more rfl
    exact ⟨own, before.nothing hidden nofun nofun,
      .extension (modest_render inner later closes modest unnamed) behind⟩

theorem split_comment {body : List Char} (closed : .dangling ∉ Piece.split body)
    (rest : List Char) : Piece.split ((Segment.comment body).text ++ rest) =
      .plain '(' :: .plain '?' :: .plain '#' ::
        (Piece.split body ++ .plain ')' :: Piece.split rest) := by
  have whole : (Segment.comment body).text ++ rest =
      '(' :: '?' :: '#' :: (body ++ ')' :: rest) := by
    simp [text]
  rw [whole, Piece.split_cons (by decide), Piece.split_cons (by decide),
    Piece.split_cons (by decide), Piece.split_append_of_not_dangling closed,
    Piece.split_cons (by decide)]

theorem split_condition {ds : List Char} (absent : '\\' ∉ ds) (rest : List Char) :
    Piece.split ((Segment.condition ds).text ++ rest) =
      .plain '(' :: .plain '?' :: .plain '(' ::
        (ds.map .plain ++ .plain ')' :: Piece.split rest) := by
  have backslash : '\\' ∉ (Segment.condition ds).text := by simp [text, absent]
  rw [Piece.split_append backslash]
  simp [text]

theorem ordinary_of_isWordChar {name : List Char} (word : ∀ c ∈ name, isWordChar c = true) :
    ∀ c ∈ name ++ ['>'], c ≠ '\\' ∧ c ≠ '(' ∧ c ≠ '[' := by
  have special : ['\\', '(', '['].any isWordChar = false := by decide
  intro c member
  rcases List.mem_append.mp member with inside | last
  · refine ⟨?_, ?_, ?_⟩ <;>
    · rintro rfl
      exact List.any_eq_false.mp special _ (by simp) (word _ inside)
  · cases List.mem_singleton.mp last
    decide

theorem split_named {name : List Char} (word : ∀ c ∈ name, isWordChar c = true)
    (rest : List Char) : Piece.split ((Segment.named name).text ++ rest) =
      .plain '(' :: .plain '?' :: .plain 'P' :: .plain '<' ::
        ((name ++ ['>']).map .plain ++ Piece.split rest) := by
  have absent : '\\' ∉ name ++ ['>'] := fun member =>
    (ordinary_of_isWordChar word _ member).1 rfl
  rw [← Piece.split_append absent]
  rfl

theorem aligned_comment {body : List Char} (closed : .dangling ∉ Piece.split body)
    (closing : ')' ∉ body) (onward : Aligned numbers marks false (Piece.split u) (Piece.split u')) :
    Aligned numbers marks false (Piece.split ((Segment.comment body).text ++ u))
      (Piece.split ((Segment.comment body).text ++ u')) := by
  rw [split_comment closed, split_comment closed]
  exact .comment (fun member => closing (Piece.mem_of_split member)) onward

theorem aligned_escape {c : Char} (digit : isDigitChar c = false)
    (onward : Aligned numbers marks false (Piece.split u) (Piece.split u')) :
    Aligned numbers marks false (Piece.split ((Segment.escape c).text ++ u))
      (Piece.split ((Segment.escape c).text ++ u')) := by
  refine .escaped (Bool.eq_false_iff.mpr fun ascii => ?_) onward
  rw [isDigitChar_of_isDigit ascii] at digit
  cases digit

theorem aligned_other {c : Char} (backslash : c ≠ '\\') (bracket : c ≠ '[')
    (parenthesis : c ≠ '(')
    (onward : Aligned numbers marks false (Piece.split u) (Piece.split u')) :
    Aligned numbers marks false (Piece.split ((Segment.other c).text ++ u))
      (Piece.split ((Segment.other c).text ++ u')) := by
  rw [text, List.singleton_append, List.singleton_append, Piece.split_cons backslash,
    Piece.split_cons backslash]
  exact .plain parenthesis bracket onward

theorem aligned_named {name : List Char} (word : ∀ c ∈ name, isWordChar c = true)
    (onward : Aligned numbers marks false (Piece.split u) (Piece.split u')) :
    Aligned numbers (.group :: marks) false (Piece.split ((Segment.named name).text ++ u))
      (Piece.split ((Segment.named name).text ++ u')) := by
  rw [split_named word, split_named word]
  exact .named (.plains (fun c member => (ordinary_of_isWordChar word c member).2) onward)

theorem aligned_condition {a b : Nat} {stands stands' : List Char → List Char → Prop}
    {render render' : Segment → List Char} {own : List Landmark} {name v v' : List Char}
    (condition : ∀ name ds ds', stands name ds → stands' name ds' → numbers.condition ds ds')
    (clear : isClear (segments.flatMap text) (.condition name) = true)
    (written : Written stands a (.condition name) (render (.condition name)))
    (written' : Written stands' b (.condition name) (render' (.condition name)))
    (before : Shows render segments own)
    (onward : Aligned numbers (own ++ marks) false (Piece.split v) (Piece.split v')) :
    ∃ own, Shows render (.condition name :: segments) own ∧ Aligned numbers (own ++ marks) false
      (Piece.split (render (.condition name) ++ v))
      (Piece.split (render' (.condition name) ++ v')) := by
  cases identifier : Text.isIdentifier name with
  | true =>
    rw [written.of_name identifier, written'.of_name identifier]
    refine ⟨own, before.nothing rfl nofun ?_, ?_⟩
    · rintro name ⟨⟩
      refine Bool.eq_false_iff.mpr fun digits => ?_
      cases identifier.symm.trans (Lexeme.not_isIdentifier_of_digits digits)
    · have absent := Lexeme.not_mem_identifier identifier '\\' (by simp)
      rw [split_condition absent, split_condition absent]
      exact .namedCondition identifier onward
  | false =>
    simp only [isClear, identifier, Bool.or_false, Bool.and_eq_true] at clear
    obtain ⟨ds, one, digits, some, stand⟩ := written.of_condition clear.2
    obtain ⟨ds', other, digits', some', stand'⟩ := written'.of_condition clear.2
    refine ⟨.condition ds :: own, before.condition one, ?_⟩
    rw [one, other, split_condition (Lexeme.not_mem_digits digits rfl),
      split_condition (Lexeme.not_mem_digits digits' rfl)]
    exact .condition digits digits' some some' (condition _ _ _ stand stand') onward

/-- Two renderings of clear segments are aligned. -/
theorem aligned_render {a b : Nat} {stands stands' : List Char → List Char → Prop}
    {render render' : Segment → List Char} (reference : ∀ n, numbers.reference (n + a) (n + b))
    (condition : ∀ name ds ds', stands name ds → stands' name ds' → numbers.condition ds ds')
    (splits : Splits source segments) (clear : areClear segments = true)
    (written : ∀ segment ∈ segments, Written stands a segment (render segment))
    (written' : ∀ segment ∈ segments, Rewritten stands' b segment (render' segment))
    (onward : Aligned numbers marks false (Piece.split u) (Piece.split u'))
    (closes : Closes u) (closes' : Closes u') :
    ∃ own, Shows render segments own ∧ Aligned numbers (own ++ marks) false
      (Piece.split (segments.flatMap render ++ u))
      (Piece.split (segments.flatMap render' ++ u')) := by
  -- Both texts are written from the same segments: the cases are those of how a segment is found.
  induction splits with
  | nil => exact ⟨[], ⟨rfl, nofun, nofun⟩, onward⟩
  | @cons source after segment segments found rest ih =>
    rw [areClear, Bool.and_eq_true] at clear
    obtain ⟨here, clear⟩ := clear
    have here' := written segment List.mem_cons_self
    have there := written' segment List.mem_cons_self
    have later := fun segment member => written segment (List.mem_cons_of_mem _ member)
    have later' := fun segment member => written' segment (List.mem_cons_of_mem _ member)
    obtain ⟨own, before, aligned⟩ := ih clear later later'
    rw [List.flatMap_cons, List.flatMap_cons, List.append_assoc, List.append_assoc]
    cases found with
    | dangling => cases here
    | bracket => cases here
    | @comment text _ closing =>
      have closed : .dangling ∉ Piece.split text := by
        simpa [isClear] using here
      rw [here'.of_other nofun nofun, there.of_other nofun nofun]
      exact ⟨own, before.nothing rfl nofun nofun, aligned_comment closed closing aligned⟩
    | escape digit =>
      rw [here'.of_other nofun nofun, there.of_other nofun nofun]
      exact ⟨own, before.nothing rfl nofun nofun, aligned_escape digit aligned⟩
    | number nonempty all stops =>
      -- A digit behind a number would be read as part of it.
      have free := digitFree_render rest (fun segment member => .written (later segment member))
        closes stops
      have free' := digitFree_render rest later' closes' stops
      obtain ⟨more, refers, aligned⟩ :=
        aligned_number reference here' there all free free' aligned
      refine ⟨more ++ own, before.number refers, ?_⟩
      rw [List.append_assoc]
      exact aligned
    | charClass closed =>
      rw [here'.of_other nofun nofun, there.of_other nofun nofun]
      simp only [isClear, isPlain, Bool.and_eq_true, bne_iff_ne, ne_eq] at here
      exact ⟨own, before.nothing rfl nofun nofun, aligned_charClass closed here.1 here.2 aligned⟩
    | condition => exact aligned_condition condition here here' there.of_condition before aligned
    | named word =>
      rw [here'.of_other nofun nofun, there.of_other nofun nofun]
      exact ⟨.group :: own, before.group rfl nofun nofun, aligned_named word aligned⟩
    | extension =>
      have modest : isModest (segments.flatMap text) = true := here
      rw [rest.flatMap_text] at modest
      rw [here'.of_other nofun nofun, there.of_other nofun nofun]
      exact aligned_extension rest modest later later' closes before aligned
    | opening simple =>
      rw [here'.of_other nofun nofun, there.of_other nofun nofun]
      refine ⟨.group :: own, before.group rfl nofun nofun, .opening (fun head => ?_) aligned⟩
      exact simple (head?_render rest later closes (by decide) (Piece.head?_of_split head).1)
    | other backslash bracket parenthesis =>
      rw [here'.of_other nofun nofun, there.of_other nofun nofun]
      refine ⟨own, before.nothing ?_ nofun nofun,
        aligned_other backslash bracket parenthesis aligned⟩
      unfold showsGroup
      split <;> simp_all

end Segment

end RuleLexer
