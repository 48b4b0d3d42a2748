import RuleLexer.Proofs.Source.Expression
import RuleLexer.Proofs.Source.Sites

namespace RuleLexer

namespace Segment

theorem split_of_read {c : Char} {rest after : List Char} {segment : Segment}
    (reads : read c rest = (segment, after)) : split (c :: rest) = segment :: split after := by
  rw [split_cons, reads]

theorem split_plain {c : Char} (mute : (Piece.plain c).isMute = true) (rest : List Char) :
    split (c :: rest) = .other c :: split rest := by
  obtain ⟨parenthesis, bracket, backslash⟩ := Piece.isMute_plain.mp mute
  exact split_of_read (by simp [read])

theorem split_chars {cs : List Char} (mute : ∀ c ∈ cs, (Piece.plain c).isMute = true)
    (rest : List Char) : split (cs ++ rest) = cs.map .other ++ split rest := by
  induction cs with
  | nil => rfl
  | cons c cs ih =>
    obtain ⟨here, mute⟩ := List.forall_mem_cons.mp mute
    rw [List.cons_append, split_plain here, ih mute]
    rfl

theorem split_escape {c : Char} (digit : isDigitChar c = false) (rest : List Char) :
    split ('\\' :: c :: rest) = .escape c :: split rest :=
  split_of_read (by simp [read, readBackslash, digit])

theorem split_number {digits : List Char} (nonempty : digits ≠ [])
    (all : ∀ c ∈ digits, isDigitChar c = true) {rest : List Char}
    (ends : Number.startsWithDigit rest = false) :
    split ('\\' :: (digits ++ rest)) = .number digits :: split rest := by
  obtain ⟨c, digits, rfl⟩ := List.exists_cons_of_ne_nil nonempty
  obtain ⟨first, all⟩ := List.forall_mem_cons.mp all
  have front : rest.takeWhile isDigitChar = [] ∧ rest.dropWhile isDigitChar = rest := by
    cases rest with
    | nil => exact ⟨rfl, rfl⟩
    | cons d rest =>
      have other : ¬isDigitChar d = true := Bool.eq_false_iff.mp ends
      exact ⟨List.takeWhile_cons_of_neg other, List.dropWhile_cons_of_neg other⟩
  refine split_of_read ?_
  show readBackslash (c :: (digits ++ rest)) = _
  rw [readBackslash, if_pos first, List.takeWhile_append_of_pos all,
    List.dropWhile_append_of_pos all, front.1, front.2, List.append_nil]

theorem isWordChar_of_isDigit {c : Char} (digit : c.isDigit = true) : isWordChar c = true :=
  Number.of_isDigit (p := isWordChar) (by decide) digit

theorem split_class (set : CharClass) (rest : List Char) :
    split (set.text ++ rest) = .charClass set.text :: split rest := by
  cases set with
  | mk complemented members proper nonempty inner caret =>
    refine split_of_read ?_
    cases complemented with
    | true =>
      have closed := readClass_of_complement proper inner nonempty rest
      simp [read, closed, CharClass.text]
    | false =>
      have closed := readClass_of_members proper inner nonempty (caret rfl) rest
      simp [read, closed, CharClass.text]

end Segment

theorem Quantifier.mute {quantifier : Quantifier} (decimal : quantifier.IsDecimal) :
    ∀ c ∈ quantifier.text, (Piece.plain c).isMute = true := by
  have digits {ds : List Char} (all : ds.all Char.isDigit = true) :
      ∀ c ∈ ds, (Piece.plain c).isMute = true := fun c member =>
    Segment.mute_of_isDigitChar (Segment.isDigitChar_of_isDigit (List.all_eq_true.mp all c member))
  cases quantifier with
  | counts low high =>
    cases high with
    | none =>
      simp only [text, List.forall_mem_cons, List.forall_mem_append]
      exact ⟨rfl, digits decimal.1, rfl, List.forall_mem_nil _⟩
    | some high =>
      simp only [text, List.forall_mem_cons, List.forall_mem_append]
      exact ⟨rfl, digits decimal.1, rfl, digits decimal.2, rfl, List.forall_mem_nil _⟩
  | _ => exact List.all_eq_true.mp rfl

theorem Repetition.mute (times : Repetition) :
    ∀ c ∈ times.text, (Piece.plain c).isMute = true := by
  have greed : ∀ c ∈ times.greed.text, (Piece.plain c).isMute = true := by
    cases times.greed <;> exact List.all_eq_true.mp rfl
  exact List.forall_mem_append.mpr ⟨Quantifier.mute times.decimal, greed⟩

def Anchor.segment : Anchor → Segment
  | .lineStart => .other '^'
  | .lineEnd => .other '$'
  | .textStart => .escape 'A'
  | .textEnd => .escape 'Z'
  | .boundary => .escape 'b'
  | .notBoundary => .escape 'B'

def Atom.segment : Atom → Segment
  | .literal c => if isSpecial c then .escape c else .other c
  | .any => .other '.'
  | .anchor place => place.segment
  | .category kind negated => .escape (kind.letter negated)
  | .charClass set => .charClass set.text
  | .reference group => .number (Nat.toDigits 10 group)

def Enclosure.segments : Enclosure → List Segment
  | .capturing => [.opening]
  | .named name => [.named name.text]
  | .conditional group => [.condition (Nat.toDigits 10 group)]
  | kind => ('(' :: kind.sign).map .other

namespace Expression

def segments : Expression → List Segment
  | .empty => []
  | .atom item times => item.segment :: times.text.map .other
  | .enclosed kind body times =>
    kind.segments ++ (body.segments ++ (')' :: times.text).map .other)
  | .append first second => first.segments ++ second.segments
  | .either first second => first.segments ++ .other '|' :: second.segments

end Expression

open Segment

theorem Atom.literal_cases (c : Char) :
    (literal c).text = ['\\', c] ∧ (literal c).segment = .escape c ∧ isDigitChar c = false ∨
      (literal c).text = [c] ∧ (literal c).segment = .other c ∧ isSpecial c = false := by
  cases special : isSpecial c with
  | true =>
    refine .inl ⟨by simp [text, escapeLiteral, special], if_pos special, ?_⟩
    refine Bool.eq_false_iff.mpr fun digit => ?_
    cases special.symm.trans (isSpecial_of_isDigitChar digit)
  | false =>
    refine .inr ⟨by simp [text, escapeLiteral, special], if_neg ?_, rfl⟩
    exact Bool.eq_false_iff.mp special

theorem Atom.split_text (item : Atom) {rest : List Char}
    (apart : item.reference?.isNone = true ∨ Number.startsWithDigit rest = false) :
    split (item.text ++ rest) = item.segment :: split rest := by
  cases item with
  | literal c =>
    rcases literal_cases c with ⟨written, same, digit⟩ | ⟨written, same, plain⟩
    · rw [written, same]
      exact split_escape digit rest
    · have mute : (Piece.plain c).isMute = true :=
        Piece.isMute_plain.mpr ⟨ne_of_ordinary (.inl plain) (by decide),
          ne_of_ordinary (.inl plain) (by decide), ne_of_ordinary (.inl plain) (by decide)⟩
      rw [written, same]
      exact split_plain mute rest
  | any => exact split_plain rfl rest
  | anchor place =>
    cases place with
    | lineStart | lineEnd => exact split_plain rfl rest
    | textStart | textEnd | boundary | notBoundary => exact split_escape (by decide) rest
  | category kind negated =>
    refine split_escape ?_ rest
    cases kind <;> cases negated <;> decide
  | charClass set => exact split_class set rest
  | reference group =>
    have digits : ∀ c ∈ Nat.toDigits 10 group, isDigitChar c = true := fun c member =>
      isDigitChar_of_isDigit (List.all_eq_true.mp (Number.all_isDigit_toDigits group) c member)
    exact split_number (Number.toDigits_ne_nil group) digits (apart.resolve_left nofun)

theorem Enclosure.split_sign (kind : Enclosure) {rest : List Char} (simple : rest.head? ≠ some '?') :
    split ('(' :: (kind.sign ++ rest)) = kind.segments ++ split rest := by
  have looks {sign : List Char} (mute : sign.all (fun c => (Piece.plain c).isMute) = true)
      (reads : readParenthesis (sign ++ rest) = (.other '(', sign ++ rest)) :
      split ('(' :: (sign ++ rest)) = ('(' :: sign).map .other ++ split rest := by
    have next : read '(' (sign ++ rest) = (.other '(', sign ++ rest) := reads
    rw [split_of_read next, split_chars (List.all_eq_true.mp mute)]
    rfl
  cases kind with
  | capturing => exact split_of_read (readParenthesis_opening simple)
  | named name =>
    refine split_of_read ?_
    have found := readName_of_word name.nonempty name.word (by decide : isWordChar '>' = false) rest
    have whole : (named name).sign ++ rest = '?' :: 'P' :: '<' :: (name.text ++ '>' :: rest) := by
      simp [sign]
    show readParenthesis ((named name).sign ++ rest) = (.named name.text, rest)
    rw [whole, readParenthesis, found]
  | conditional group =>
    refine split_of_read ?_
    have word : ∀ c ∈ Nat.toDigits 10 group, isWordChar c = true := fun c member =>
      isWordChar_of_isDigit (List.all_eq_true.mp (Number.all_isDigit_toDigits group) c member)
    have found := readName_of_word (Number.toDigits_ne_nil group) word
      (by decide : isWordChar ')' = false) rest
    have whole : (conditional group).sign ++ rest =
        '?' :: '(' :: (Nat.toDigits 10 group ++ ')' :: rest) := by
      simp [sign]
    show readParenthesis ((conditional group).sign ++ rest) = (.condition _, rest)
    rw [whole, readParenthesis, found]
  | plain => exact looks rfl rfl
  | ahead negated => cases negated <;> exact looks rfl rfl
  | behind negated => cases negated <;> exact looks rfl rfl

theorem Atom.head?_ne (item : Atom) (rest : List Char) : (item.text ++ rest).head? ≠ some '?' := by
  cases item with
  | literal c =>
    rcases literal_cases c with ⟨written, -, -⟩ | ⟨written, -, plain⟩
    · rw [written]
      nofun
    · rw [written]
      exact fun same => ne_of_ordinary (.inl plain) (by decide) (Option.some.inj same)
  | anchor place => cases place <;> nofun
  | _ => nofun

namespace Expression

theorem head?_ne (expression : Expression) {rest : List Char} (simple : rest.head? ≠ some '?') :
    (expression.text ++ rest).head? ≠ some '?' := by
  induction expression generalizing rest with
  | empty => exact simple
  | atom item times =>
    rw [text, List.append_assoc]
    exact item.head?_ne _
  | enclosed => nofun
  | append first second ihFirst ihSecond =>
    rw [text, List.append_assoc]
    exact ihFirst (ihSecond simple)
  | either first second ihFirst =>
    rw [text, List.append_assoc]
    exact ihFirst nofun

theorem split_text {expression : Expression} {rest : List Char}
    (apart : expression.isApart rest = true) :
    split (expression.text ++ rest) = expression.segments ++ split rest := by
  induction expression generalizing rest with
  | empty => rfl
  | atom item times =>
    have apart : item.reference?.isNone = true ∨
        Number.startsWithDigit (times.text ++ rest) = false := by
      simpa [isApart] using apart
    rw [text, List.append_assoc, item.split_text apart, split_chars times.mute]
    rfl
  | enclosed kind body times ih =>
    -- The parenthesis that closes the group stands behind its body, so the opening is not taken for
    -- another one even if the body is empty.
    have closing : ∀ c ∈ ')' :: times.text, (Piece.plain c).isMute = true :=
      List.forall_mem_cons.mpr ⟨rfl, times.mute⟩
    have simple : (body.text ++ ((')' :: times.text) ++ rest)).head? ≠ some '?' :=
      body.head?_ne nofun
    have whole : (enclosed kind body times).text ++ rest =
        '(' :: (kind.sign ++ (body.text ++ ((')' :: times.text) ++ rest))) := by
      simp [text]
    have inside : split (body.text ++ ((')' :: times.text) ++ rest)) =
        body.segments ++ split ((')' :: times.text) ++ rest) := ih apart
    rw [whole, kind.split_sign simple, inside, split_chars closing, segments]
    simp only [List.append_assoc]
  | append first second ihFirst ihSecond =>
    obtain ⟨before, after⟩ := Bool.and_eq_true_iff.mp apart
    rw [text, List.append_assoc, ihFirst before, ihSecond after, segments, List.append_assoc]
  | either first second ihFirst ihSecond =>
    obtain ⟨before, after⟩ := Bool.and_eq_true_iff.mp apart
    rw [text, List.append_assoc, List.cons_append, ihFirst before, split_plain rfl,
      ihSecond after, segments, List.append_assoc, List.cons_append]

/-- Only parentheses open groups and name them. -/
theorem account_segments (expression : Expression) :
    expression.segments.countP opensGroup = expression.captures ∧
      expression.segments.filterMap Segment.name? = expression.names := by
  have others (cs : List Char) : (cs.map Segment.other).countP opensGroup = 0 ∧
      (cs.map Segment.other).filterMap Segment.name? = [] := by
    simp [opensGroup, Segment.name?]
  have single (item : Atom) : item.segment.opensGroup = false ∧ item.segment.name? = none := by
    cases item with
    | literal c =>
      rcases Atom.literal_cases c with ⟨-, same, -⟩ | ⟨-, same, -⟩ <;>
      · rw [same]
        exact ⟨rfl, rfl⟩
    | anchor place => cases place <;> exact ⟨rfl, rfl⟩
    | _ => exact ⟨rfl, rfl⟩
  have start (kind : Enclosure) :
      kind.segments.countP opensGroup = (if kind.captures then 1 else 0) ∧
        kind.segments.filterMap Segment.name? = kind.name?.toList := by
    cases kind with
    | capturing | named | conditional => exact ⟨rfl, rfl⟩
    | plain | ahead | behind => exact others _
  unfold captures names
  -- Single segments are silent but for openings, and flattening only appends.
  induction expression with
  | empty => exact ⟨rfl, rfl⟩
  | atom item times =>
    have silent := single item
    have behind := others times.text
    simp [segments, enclosures, silent, behind]
  | enclosed kind body times ih =>
    obtain ⟨counted, named⟩ := start kind
    have behind := others (')' :: times.text)
    simp only [segments, enclosures, List.countP_append, List.filterMap_append, counted, named, ih,
      behind, List.countP_cons, List.append_nil]
    refine ⟨by omega, ?_⟩
    cases name : kind.name? <;> simp [name]
  | append first second ihFirst ihSecond =>
    simp only [segments, enclosures, List.countP_append, List.filterMap_append, ihFirst, ihSecond,
      and_self]
  | either first second ihFirst ihSecond =>
    have bar : (Segment.other '|' :: second.segments).countP opensGroup =
        second.segments.countP opensGroup ∧
        (Segment.other '|' :: second.segments).filterMap Segment.name? =
          second.segments.filterMap Segment.name? := ⟨rfl, rfl⟩
    simp only [segments, enclosures, List.countP_append, List.filterMap_append, bar, ihFirst,
      ihSecond, and_self]

theorem forall_segments {condition : Segment → Prop} {expression : Expression}
    (plain : ∀ c, condition (.other c)) (single : ∀ item ∈ expression.atoms, condition item.segment)
    (start : ∀ kind ∈ expression.enclosures, ∀ segment ∈ kind.segments, condition segment) :
    ∀ segment ∈ expression.segments, condition segment := by
  have others (cs : List Char) : ∀ segment ∈ cs.map Segment.other, condition segment :=
    List.forall_mem_map.mpr fun c _ => plain c
  induction expression with
  | empty => nofun
  | atom item times =>
    exact List.forall_mem_cons.mpr ⟨single item (List.mem_singleton_self _), others _⟩
  | enclosed kind body times ih =>
    obtain ⟨first, start⟩ := List.forall_mem_cons.mp start
    have inside := ih single start
    exact List.forall_mem_append.mpr ⟨first, List.forall_mem_append.mpr ⟨inside, others _⟩⟩
  | append first second ihFirst ihSecond =>
    obtain ⟨single, single'⟩ := List.forall_mem_append.mp single
    obtain ⟨start, start'⟩ := List.forall_mem_append.mp start
    exact List.forall_mem_append.mpr ⟨ihFirst single start, ihSecond single' start'⟩
  | either first second ihFirst ihSecond =>
    obtain ⟨single, single'⟩ := List.forall_mem_append.mp single
    obtain ⟨start, start'⟩ := List.forall_mem_append.mp start
    have behind := List.forall_mem_cons.mpr ⟨plain '|', ihSecond single' start'⟩
    exact List.forall_mem_append.mpr ⟨ihFirst single start, behind⟩

end Expression

def Segment.part : Segment → Part
  | .number digits => .reference (Number.valueOf digits)
  | .condition name => .condition (Number.valueOf name)
  | segment => .fixed segment.text

/-- Segments that hold no number of a group. -/
def Segment.isFixed : Segment → Bool
  | .number _ | .condition _ => false
  | _ => true

variable {offset : Int} {shift captures : Nat}

theorem Segment.part_of_isFixed {segment : Segment} (fixed : segment.isFixed = true) :
    Part.Of captures segment segment.part ∧ segment.part.fault? offset = none := by
  cases segment with
  | number | condition => cases fixed
  | _ => exact ⟨.same (by simp) (by simp), rfl⟩

theorem Atom.part_text (place : (shift : Int) = offset + 1) (item : Atom) :
    item.segment.part.text offset = (item.shift shift).text := by
  cases item with
  | literal c =>
    show _ = (literal c).text
    rcases literal_cases c with ⟨written, same, -⟩ | ⟨written, same, -⟩ <;>
    · rw [written, same]
      rfl
  | anchor place => cases place <;> rfl
  | reference group =>
    show '\\' :: Number.intText (Number.valueOf _ + offset + 1) = '\\' :: Nat.toDigits 10 _
    rw [Number.valueOf_toDigits, intText_shifted _ place]
  | _ => rfl

theorem part_text_others (cs : List Char) :
    (cs.map Segment.other).flatMap (fun segment => segment.part.text offset) = cs := by
  induction cs with
  | nil => rfl
  | cons c cs ih => exact congrArg (c :: ·) ih

theorem Enclosure.part_text (place : (shift : Int) = offset + 1) (kind : Enclosure) :
    kind.segments.flatMap (fun segment => segment.part.text offset) =
      '(' :: (kind.shift shift).sign := by
  cases kind with
  | capturing => rfl
  | named name => exact List.append_nil _
  | conditional group =>
    show (Segment.condition (Number.intText (Number.valueOf _ + offset + 1))).text ++ [] = _
    rw [Number.valueOf_toDigits, intText_shifted _ place, List.append_nil]
    rfl
  | plain | ahead | behind => exact part_text_others _

theorem Expression.part_text (place : (shift : Int) = offset + 1) (expression : Expression) :
    expression.segments.flatMap (fun segment => segment.part.text offset) =
      (expression.shift shift).text := by
  induction expression with
  | empty => rfl
  | atom item times =>
    rw [segments, List.flatMap_cons, item.part_text place, part_text_others]
    rfl
  | enclosed kind body times ih =>
    rw [segments, List.flatMap_append, List.flatMap_append, kind.part_text place, ih,
      part_text_others]
    rfl
  | append first second ihFirst ihSecond =>
    rw [segments, List.flatMap_append, ihFirst, ihSecond]
    rfl
  | either first second ihFirst ihSecond =>
    rw [segments, List.flatMap_append, List.flatMap_cons, ihFirst, ihSecond]
    rfl

theorem Atom.part_of (item : Atom) (within : ∀ group, item.reference? = some group →
    (1 ≤ group ∧ group ≤ captures) ∧ group + offset + 1 ≤ 99) (place : -1 ≤ offset) :
    Part.Of captures item.segment item.segment.part ∧ item.segment.part.fault? offset = none := by
  cases item with
  | reference group =>
    obtain ⟨own, small⟩ := within group rfl
    have short : (Nat.toDigits 10 group).length ≤ Number.digitLimit := by
      refine Nat.le_trans ((Nat.length_toDigits_le_iff (by omega) (by decide)).mpr ?_)
        (by decide : 2 ≤ Number.digitLimit)
      omega
    have value := Number.valueOf_toDigits group
    refine ⟨.reference short (by rwa [value]), if_neg ?_⟩
    rw [value, referenceLimit]
    omega
  | literal c =>
    rcases literal_cases c with ⟨-, same, -⟩ | ⟨-, same, -⟩ <;>
    · rw [same]
      exact part_of_isFixed rfl
  | anchor place => cases place <;> exact part_of_isFixed rfl
  | _ => exact part_of_isFixed rfl

theorem Enclosure.part_of (kind : Enclosure) (within : ∀ group, kind.condition? = some group →
    (1 ≤ group ∧ group ≤ captures) ∧ group < 10 ^ Number.digitLimit) :
    ∀ segment ∈ kind.segments,
      Part.Of captures segment segment.part ∧ segment.part.fault? offset = none := by
  have others (cs : List Char) : ∀ segment ∈ cs.map Segment.other,
      Part.Of captures segment segment.part ∧ segment.part.fault? offset = none :=
    List.forall_mem_map.mpr fun c _ => part_of_isFixed rfl
  cases kind with
  | conditional group =>
    obtain ⟨own, small⟩ := within group rfl
    have short : (Nat.toDigits 10 group).length ≤ Number.digitLimit :=
      (Nat.length_toDigits_le_iff (by omega) (by decide)).mpr small
    have digits := all_isDigitChar (Number.all_isDigit_toDigits group)
    refine List.forall_mem_singleton.mpr ⟨.condition digits short ?_, rfl⟩
    rwa [Number.valueOf_toDigits]
  | capturing | named => exact List.forall_mem_singleton.mpr (part_of_isFixed rfl)
  | plain | ahead | behind => exact others _

namespace Expression

/-- The text of an expression is accounted for as the expression says: as many groups are counted as
it has, their names are found in the order in which they open, and behind `offset + 1` other groups it
becomes the text of the expression whose references and conditions have moved on, and that differs in
nothing else. Digits directly behind a reference would be read as part of it. A reference can be moved
up to the greatest number that a backslash can refer to; a condition's number is read if it has no more
than 4300 digits, so it is if there are fewer than `10 ^ 4300` groups. -/
theorem account_text (expression : Expression) (apart : expression.isApart [] = true)
    (own : ∀ group ∈ expression.references ++ expression.conditions,
      1 ≤ group ∧ group ≤ expression.captures) :
    countCaptures expression.text = expression.captures ∧
      groupNames expression.text = expression.names ∧
      ∀ offset : Int, -1 ≤ offset →
        (∀ group ∈ expression.references, group + offset + 1 ≤ 99) →
        (∀ group ∈ expression.conditions, group < 10 ^ Number.digitLimit) →
        renumber expression.text expression.captures offset =
          .ok (expression.shift (offset + 1).toNat).text := by
  have whole : split expression.text = expression.segments := by
    have parts := split_text apart
    rwa [List.append_nil, show split [] = [] from rfl, List.append_nil] at parts
  obtain ⟨counted, named⟩ := expression.account_segments
  refine ⟨by rw [countCaptures, whole, counted], by rw [groupNames, whole, named], ?_⟩
  intro offset place small short
  obtain ⟨references, conditions⟩ := List.forall_mem_append.mp own
  -- Every segment is a part that can be written behind `offset` groups, and it is written as the
  -- shifted expression has it.
  have segments : ∀ segment ∈ expression.segments,
      Part.Of expression.captures segment segment.part ∧
        segment.part.fault? offset = none := by
    refine forall_segments (fun c => part_of_isFixed rfl) (fun item member => ?_)
      fun kind member => kind.part_of fun group asked => ?_
    · refine item.part_of (fun group refers => ?_) place
      have inside : group ∈ expression.references := List.mem_filterMap.mpr ⟨item, member, refers⟩
      exact ⟨references group inside, small group inside⟩
    · have inside : group ∈ expression.conditions := List.mem_filterMap.mpr ⟨kind, member, asked⟩
      exact ⟨conditions group inside, short group inside⟩
  have become : List.Forall₂ (Part.Of expression.captures) (split expression.text)
      (expression.segments.map Segment.part) := by
    rw [whole, List.forall₂_map_right_iff, List.forall₂_same]
    exact fun segment member => (segments segment member).1
  have sound : (expression.segments.map Segment.part).findSome? (Part.fault? offset) = none := by
    refine List.findSome?_eq_none_iff.mpr (List.forall_mem_map.mpr fun segment member => ?_)
    exact (segments segment member).2
  rw [Part.renumber_eq become, sound, List.flatMap_map]
  have moved : ((offset + 1).toNat : Int) = offset + 1 := Int.toNat_of_nonneg (by omega)
  exact congrArg Except.ok (part_text moved expression)

/-- The expression `(?P<open>[](])(\({2,3}?)(?(1)\1[^\d)]|(?<!\))\b)\2+`. -/
def bracketed : Expression :=
  .append (.enclosed (.named ⟨"open".toList, by decide, List.all_eq_true.mp rfl⟩)
    (.atom (.charClass ⟨false, [.plain ']', .plain '('], ⟨by decide, by decide⟩, by decide,
      by decide, by decide⟩) .once) .once) <|
  .append (.enclosed .capturing (.atom (.literal '(')
    ⟨.counts ['2'] (some ['3']), .lazy, ⟨rfl, rfl⟩, nofun⟩) .once) <|
  .append (.enclosed (.conditional 1) (.either
    (.append (.atom (.reference 1) .once) (.atom (.charClass ⟨true, [.escaped 'd', .plain ')'],
      ⟨by decide, by decide⟩, by decide, by decide, nofun⟩) .once))
    (.append (.enclosed (.behind true) (.atom (.literal ')') .once) .once)
      (.atom (.anchor .boundary) .once))) .once)
  (.atom (.reference 2) ⟨.plus, .greedy, trivial, nofun⟩)

theorem account_text_bracketed : bracketed.isApart [] = true ∧
    (∀ group ∈ bracketed.references ++ bracketed.conditions,
      1 ≤ group ∧ group ≤ bracketed.captures) ∧
    countCaptures "(?P<open>[](])(\\(\x7b2,3\x7d?)(?(1)\\1[^\\d)]|(?<!\\))\\b)\\2+".toList = 2 ∧
    groupNames bracketed.text = ["open".toList] ∧
    renumber bracketed.text 2 7 =
      .ok "(?P<open>[](])(\\(\x7b2,3\x7d?)(?(9)\\9[^\\d)]|(?<!\\))\\b)\\10+".toList := by
  have small : ∀ group ∈ bracketed.conditions, group < 10 ^ Number.digitLimit :=
    List.forall_mem_singleton.mpr (Nat.one_lt_pow (by decide) (by decide))
  obtain ⟨counted, named, moved⟩ := account_text bracketed (by decide) (by decide)
  exact ⟨by decide, by decide, counted, named, moved 7 (by decide) (by decide) small⟩

end Expression

end RuleLexer
