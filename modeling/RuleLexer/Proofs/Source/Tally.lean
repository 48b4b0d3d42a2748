import RuleLexer.Proofs.Source.Rendering

namespace RuleLexer

namespace Piece

def AreProper (pieces : List Piece) : Prop :=
  .plain '\\' ∉ pieces ∧ .dangling ∉ pieces

theorem backslash_not_mem_split (text : List Char) : .plain '\\' ∉ split text := by
  fun_induction split text with
  | case4 c text dangling escaped ih =>
    intro member
    rcases List.mem_cons.mp member with same | later
    · cases same
      cases text with
      | nil => exact dangling rfl rfl
      | cons d text => exact escaped d text rfl rfl
    · exact ih later
  | _ => simp_all

theorem dangling_not_mem_front {text : List Char} {front back : List Piece} {piece : Piece}
    (whole : split text = front ++ piece :: back) : .dangling ∉ front := by
  fun_induction split text generalizing front with
  | case1 => cases front <;> cases whole
  | case2 =>
    cases front with
    | nil => exact List.not_mem_nil
    | cons first front => cases front <;> cases whole
  | case3 c text ih =>
    cases front with
    | nil => exact List.not_mem_nil
    | cons first front =>
      obtain ⟨rfl, rest⟩ := List.cons.inj whole
      simpa using ih rest
  | case4 c text _ _ ih =>
    cases front with
    | nil => exact List.not_mem_nil
    | cons first front =>
      obtain ⟨rfl, rest⟩ := List.cons.inj whole
      simpa using ih rest

theorem proper_of_suffix {text : List Char} {front back : List Piece} {piece : Piece}
    (suffix : front ++ piece :: back <:+ split text) : AreProper front := by
  obtain ⟨before, whole⟩ := suffix
  have dangling : .dangling ∉ before ++ front :=
    dangling_not_mem_front (whole.symm.trans (List.append_assoc ..).symm)
  refine ⟨fun member => backslash_not_mem_split text ?_, fun member => ?_⟩
  · rw [← whole]
    simp [member]
  · exact dangling (List.mem_append_right _ member)

theorem AreProper.tail {piece : Piece} {pieces : List Piece} (proper : AreProper (piece :: pieces)) :
    AreProper pieces :=
  ⟨fun member => proper.1 (List.mem_cons_of_mem _ member),
    fun member => proper.2 (List.mem_cons_of_mem _ member)⟩

theorem AreProper.front {front back : List Piece} (proper : AreProper (front ++ back)) :
    AreProper front :=
  ⟨fun member => proper.1 (List.mem_append_left _ member),
    fun member => proper.2 (List.mem_append_left _ member)⟩

theorem AreProper.split_append {pieces : List Piece} (proper : AreProper pieces)
    (rest : List Char) : split (pieces.flatMap text ++ rest) = pieces ++ split rest := by
  induction pieces with
  | nil => rfl
  | cons piece pieces ih =>
    have later := ih proper.tail
    cases piece with
    | plain c =>
      have other : c ≠ '\\' := by
        rintro rfl
        exact proper.1 List.mem_cons_self
      rw [List.flatMap_cons, List.append_assoc]
      show split (c :: (pieces.flatMap text ++ rest)) = _
      rw [split_cons other, later]
      rfl
    | escaped c =>
      rw [List.flatMap_cons, List.append_assoc]
      show split ('\\' :: c :: (pieces.flatMap text ++ rest)) = _
      rw [split, later]
      rfl
    | dangling => exact absurd List.mem_cons_self proper.2

end Piece

/-- What the accounting of groups notices in a pattern's text. -/
inductive Notice where
  | group (name : Option (List Char))
  | hidden
  /-- A condition that is no run of word characters: its parenthesis is counted as a group. -/
  | stray
  /-- A comment that goes on behind its first closing parenthesis, which is escaped. -/
  | veiled
  | verbose
deriving DecidableEq, Repr

namespace Notice

def isGroup : Notice → Bool
  | .group _ => true
  | _ => false

def name? : Notice → Option (List Char)
  | .group name => name
  | _ => none

def ofExtension : List Char → List Notice
  | '?' :: 'P' :: '<' :: _ => [.hidden]
  | '?' :: '(' :: _ => [.stray]
  | '?' :: rest => if (rest.takeWhile Segment.isFlagLetter).contains 'x' then [.verbose] else []
  | _ => []

end Notice

namespace Segment

def notices (after : List Char) : Segment → List Notice
  | .opening => [.group none]
  | .named name => [.group (some name)]
  | .comment text => if (Piece.split text).contains .dangling then [.veiled] else []
  | .other '(' => Notice.ofExtension after
  | _ => []

def noticesOf : List Segment → List Notice
  | [] => []
  | segment :: segments => segment.notices (segments.flatMap text) ++ noticesOf segments

def tally (source : List Char) : List Notice :=
  noticesOf (split source)

theorem ofExtension_silent (after : List Char) :
    (Notice.ofExtension after).countP Notice.isGroup = 0 ∧
      (Notice.ofExtension after).filterMap Notice.name? = [] := by
  unfold Notice.ofExtension
  split
  · exact ⟨rfl, rfl⟩
  · exact ⟨rfl, rfl⟩
  · split <;> exact ⟨rfl, rfl⟩
  · exact ⟨rfl, rfl⟩

/-- A segment's notice shows the group that it opens, and its name. -/
theorem notices_counts (after : List Char) (segment : Segment) :
    (segment.notices after).countP Notice.isGroup = (if segment.opensGroup then 1 else 0) ∧
      (segment.notices after).filterMap Notice.name? = segment.name?.toList := by
  unfold notices
  split
  · exact ⟨rfl, rfl⟩
  · exact ⟨rfl, rfl⟩
  · split <;> exact ⟨rfl, rfl⟩
  · exact ofExtension_silent after
  · cases segment <;> simp_all [opensGroup, name?]

theorem noticesOf_counts (segments : List Segment) :
    segments.countP opensGroup = (noticesOf segments).countP Notice.isGroup ∧
      segments.filterMap name? = (noticesOf segments).filterMap Notice.name? := by
  induction segments with
  | nil => exact ⟨rfl, rfl⟩
  | cons segment segments ih =>
    obtain ⟨count, name⟩ := notices_counts (segments.flatMap text) segment
    rw [noticesOf, List.countP_append, List.filterMap_append, count, name, ← ih.1, ← ih.2]
    refine ⟨by rw [List.countP_cons, Nat.add_comm], ?_⟩
    cases named : segment.name? <;> simp [named]

theorem splitUpTo_of_length_le {count : Nat} {source : List Char} (enough : source.length ≤ count) :
    splitUpTo count source = split source := by
  have congr {one other : Nat} {source : List Char} (enough : source.length ≤ one)
      (alsoEnough : source.length ≤ other) : splitUpTo one source = splitUpTo other source := by
    induction one generalizing other source with
    | zero =>
      cases List.eq_nil_of_length_eq_zero (Nat.le_zero.mp enough)
      rw [splitUpTo, splitUpTo]
    | succ one ih =>
      cases source with
      | nil => rw [splitUpTo, splitUpTo]
      | cons c rest =>
        have shorter := length_read_le c rest
        simp only [List.length_cons] at enough alsoEnough
        obtain ⟨other, rfl⟩ : ∃ less, other = less + 1 := ⟨other - 1, by omega⟩
        simp only [splitUpTo]
        exact congrArg _ (ih (by omega) (by omega))
  exact congr enough (Nat.le_refl _)

theorem split_cons (c : Char) (rest : List Char) :
    split (c :: rest) = (read c rest).1 :: split (read c rest).2 := by
  have shorter := length_read_le c rest
  rw [← splitUpTo_of_length_le shorter]
  rfl

theorem tally_cons (c : Char) (rest : List Char) :
    tally (c :: rest) = (read c rest).1.notices (read c rest).2 ++ tally (read c rest).2 := by
  rw [tally, split_cons, noticesOf, flatMap_text_split]
  rfl

theorem tally_of_read {c : Char} {rest after : List Char} {segment : Segment}
    (reads : read c rest = (segment, after)) :
    tally (c :: rest) = segment.notices after ++ tally after := by
  rw [tally_cons, reads]

theorem tally_plain {c : Char} (mute : (Piece.plain c).isMute = true) (rest : List Char) :
    tally (c :: rest) = tally rest := by
  obtain ⟨parenthesis, bracket, backslash⟩ := Piece.isMute_plain.mp mute
  have reads : read c rest = (.other c, rest) := by simp [read]
  have silent : (Segment.other c).notices rest = [] := by
    unfold notices
    split <;> simp_all
  rw [tally_of_read reads, silent, List.nil_append]

theorem mute_of_isDigitChar {c : Char} (digit : isDigitChar c = true) :
    (Piece.plain c).isMute = true := by
  have none : ['(', '[', '\\'].any isDigitChar = false := by decide
  refine Piece.isMute_plain.mpr ⟨?_, ?_, ?_⟩ <;>
  · rintro rfl
    exact List.any_eq_false.mp none _ (by simp) digit

theorem tally_dropWhile (rest : List Char) : tally (rest.dropWhile isDigitChar) = tally rest := by
  induction rest with
  | nil => rfl
  | cons c rest ih =>
    rw [List.dropWhile_cons]
    split
    · next digit => rw [ih, tally_plain (mute_of_isDigitChar digit)]
    · rfl

theorem tally_escape (c : Char) (rest : List Char) : tally ('\\' :: c :: rest) = tally rest := by
  cases digit : isDigitChar c with
  | true =>
    have reads : read '\\' (c :: rest) =
        (.number (c :: rest.takeWhile isDigitChar), rest.dropWhile isDigitChar) := by
      simp [read, readBackslash, digit]
    rw [tally_of_read reads, tally_dropWhile]
    rfl
  | false =>
    have reads : read '\\' (c :: rest) = (.escape c, rest) := by simp [read, readBackslash, digit]
    rw [tally_of_read reads]
    rfl

theorem tally_mute {pieces : List Piece} (mute : ∀ piece ∈ pieces, piece.isMute = true)
    (rest : List Char) : tally (pieces.flatMap Piece.text ++ rest) = tally rest := by
  induction pieces with
  | nil => rfl
  | cons piece pieces ih =>
    rw [List.flatMap_cons, List.append_assoc,
      ← ih fun piece member => mute piece (List.mem_cons_of_mem _ member)]
    have here := mute piece List.mem_cons_self
    cases piece with
    | plain c => exact tally_plain here _
    | escaped c => exact tally_escape c _
    | dangling => cases here

theorem tally_chars {cs : List Char} (mute : ∀ c ∈ cs, (Piece.plain c).isMute = true)
    (rest : List Char) : tally (cs ++ rest) = tally rest := by
  induction cs with
  | nil => rfl
  | cons c cs ih =>
    rw [List.cons_append, tally_plain (mute c List.mem_cons_self),
      ih fun d member => mute d (List.mem_cons_of_mem _ member)]

theorem closeClass_of_members {members : List Piece} (proper : Piece.AreProper members)
    (inner : ∀ piece ∈ members, piece ≠ .plain ']') (after : List Char) :
    closeClass (members.flatMap Piece.text ++ ']' :: after) =
      some (members.flatMap Piece.text ++ [']'], after) := by
  induction members with
  | nil => cases after <;> simp [closeClass]
  | cons piece members ih =>
    have later := ih proper.tail fun piece member => inner piece (List.mem_cons_of_mem _ member)
    cases piece with
    | plain c =>
      have backslash : c ≠ '\\' := by
        rintro rfl
        exact proper.1 List.mem_cons_self
      have bracket : c ≠ ']' := by
        rintro rfl
        exact inner _ List.mem_cons_self rfl
      rw [List.flatMap_cons, List.append_assoc]
      show closeClass (c :: (members.flatMap Piece.text ++ ']' :: after)) = _
      obtain ⟨d, rest, whole⟩ : ∃ d rest,
          members.flatMap Piece.text ++ ']' :: after = d :: rest :=
        List.exists_cons_of_ne_nil (by simp)
      rw [whole] at later ⊢
      rw [closeClass, if_neg bracket, if_neg backslash, later]
      rfl
    | escaped c =>
      rw [List.flatMap_cons, List.append_assoc]
      show closeClass ('\\' :: c :: (members.flatMap Piece.text ++ ']' :: after)) = _
      rw [closeClass, if_neg (by decide), if_pos rfl, later]
      rfl
    | dangling => exact absurd List.mem_cons_self proper.2

theorem closeMembers_of_members {members : List Piece} (proper : Piece.AreProper members)
    (inner : ∀ piece ∈ members.tail, piece ≠ .plain ']') (some : members ≠ []) (after : List Char) :
    closeMembers (members.flatMap Piece.text ++ ']' :: after) =
      .some (members.flatMap Piece.text ++ [']'], after) := by
  by_cases bracket : members.head? = .some (.plain ']')
  · obtain ⟨members, rfl⟩ := List.head?_eq_some_iff.mp bracket
    show closeMembers (']' :: (members.flatMap Piece.text ++ ']' :: after)) = _
    rw [closeMembers, closeClass_of_members proper.tail inner]
    rfl
  · have others : ∀ piece ∈ members, piece ≠ .plain ']' := by
      obtain ⟨first, members, rfl⟩ := List.exists_cons_of_ne_nil some
      intro piece member
      rcases List.mem_cons.mp member with rfl | later
      · exact fun same => bracket (congrArg Option.some same)
      · exact inner piece later
    have closed := closeClass_of_members proper others after
    unfold closeMembers
    split
    · next head => exact absurd (Piece.head?_of_text some (by decide) (by rw [head]; rfl)) bracket
    · exact closed

theorem tally_charClass {rest text after : List Char}
    (closed : readClass rest = some (text, after)) : tally ('[' :: rest) = tally after := by
  have reads : read '[' rest = (.charClass text, after) := by simp [read, closed]
  rw [tally_of_read reads]
  rfl

theorem readClass_of_members {members : List Piece} (proper : Piece.AreProper members)
    (inner : ∀ piece ∈ members.tail, piece ≠ .plain ']') (some : members ≠ [])
    (first : members.head? ≠ .some (.plain '^')) (after : List Char) :
    readClass (members.flatMap Piece.text ++ ']' :: after) =
      .some ('[' :: (members.flatMap Piece.text ++ [']']), after) := by
  unfold readClass
  split
  · next head => exact absurd (Piece.head?_of_text some (by decide) (by rw [head]; rfl)) first
  · rw [closeMembers_of_members proper inner some]
    rfl

theorem readClass_of_complement {members : List Piece} (proper : Piece.AreProper members)
    (inner : ∀ piece ∈ members.tail, piece ≠ .plain ']') (some : members ≠ [])
    (after : List Char) :
    readClass ('^' :: (members.flatMap Piece.text ++ ']' :: after)) =
      .some ('[' :: '^' :: (members.flatMap Piece.text ++ [']']), after) := by
  rw [readClass, closeMembers_of_members proper inner some]
  rfl

theorem tally_class {members : List Piece} (proper : Piece.AreProper members)
    (inner : ∀ piece ∈ members.tail, piece ≠ .plain ']') (some : members ≠ [])
    (first : members.head? ≠ .some (.plain '^')) (after : List Char) :
    tally ('[' :: (members.flatMap Piece.text ++ ']' :: after)) = tally after :=
  tally_charClass (readClass_of_members proper inner some first after)

theorem tally_complement {members : List Piece} (proper : Piece.AreProper members)
    (inner : ∀ piece ∈ members.tail, piece ≠ .plain ']') (some : members ≠ [])
    (after : List Char) :
    tally ('[' :: '^' :: (members.flatMap Piece.text ++ ']' :: after)) = tally after :=
  tally_charClass (readClass_of_complement proper inner some after)

theorem tally_parenthesis (rest : List Char) : tally ('(' :: rest) =
    (readParenthesis rest).1.notices (readParenthesis rest).2 ++
      tally (readParenthesis rest).2 :=
  tally_cons '(' rest

theorem readParenthesis_opening {rest : List Char} (simple : rest.head? ≠ some '?') :
    readParenthesis rest = (.opening, rest) := by
  unfold readParenthesis
  split <;> simp_all

theorem tally_opening {rest : List Char} (simple : rest.head? ≠ some '?') :
    tally ('(' :: rest) = .group none :: tally rest := by
  rw [tally_parenthesis, readParenthesis_opening simple]
  rfl

theorem tally_question (rest : List Char) : tally ('?' :: rest) = tally rest :=
  tally_plain rfl rest

theorem readParenthesis_extension {rest : List Char} (comment : rest.head? ≠ some '#')
    (condition : rest.head? ≠ some '(')
    (named : ∀ after, rest = 'P' :: '<' :: after → readName '>' after = none) :
    readParenthesis ('?' :: rest) = (.other '(', '?' :: rest) := by
  unfold readParenthesis
  split <;> simp_all

theorem tally_extension {rest : List Char} (comment : rest.head? ≠ some '#')
    (condition : rest.head? ≠ some '(') (named : ∀ after, rest ≠ 'P' :: '<' :: after) :
    tally ('(' :: '?' :: rest) =
      (if (rest.takeWhile isFlagLetter).contains 'x' then [.verbose] else []) ++ tally rest := by
  have reads := readParenthesis_extension comment condition fun after same =>
    absurd same (named after)
  have notice : Notice.ofExtension ('?' :: rest) =
      if (rest.takeWhile isFlagLetter).contains 'x' then [.verbose] else [] := by
    unfold Notice.ofExtension
    split <;> simp_all
  rw [tally_parenthesis, reads, tally_question]
  exact congrArg (· ++ tally rest) notice

theorem readComment_of_not_mem {body : List Char} (absent : ')' ∉ body) (after : List Char) :
    readComment (body ++ ')' :: after) = some (body, after) := by
  have inside : ∀ c ∈ body, (c != ')') = true := fun c member =>
    bne_iff_ne.mpr fun same => absent (same ▸ member)
  unfold readComment
  rw [List.dropWhile_append_of_pos inside, List.takeWhile_append_of_pos inside]
  simp

theorem not_mem_text {c : Char} (backslash : c ≠ '\\') {pieces : List Piece}
    (proper : Piece.AreProper pieces) (plain : .plain c ∉ pieces) (escaped : .escaped c ∉ pieces) :
    c ∉ pieces.flatMap Piece.text := by
  intro member
  obtain ⟨piece, inside, here⟩ := List.mem_flatMap.mp member
  cases piece with
  | plain d =>
    cases List.mem_singleton.mp here
    exact plain inside
  | escaped d =>
    have same := (List.mem_cons.mp here).resolve_left backslash
    cases List.mem_singleton.mp same
    exact escaped inside
  | dangling => exact proper.2 inside

theorem tally_of_readComment {rest body after : List Char} (closing : ')' ∉ body)
    (whole : rest = body ++ ')' :: after) : tally ('(' :: '?' :: '#' :: rest) =
      (if (Piece.split body).contains .dangling then [.veiled] else []) ++ tally after := by
  have reads : readParenthesis ('?' :: '#' :: rest) = (.comment body, after) := by
    rw [readParenthesis, whole, readComment_of_not_mem closing]
  rw [tally_parenthesis, reads]
  rfl

theorem tally_comment {pieces : List Piece} (proper : Piece.AreProper pieces)
    (absent : .plain ')' ∉ pieces) {rest after : List Char}
    (whole : rest = pieces.flatMap Piece.text ++ ')' :: after) :
    tally ('(' :: '?' :: '#' :: rest) = tally after ∨
      .veiled ∈ tally ('(' :: '?' :: '#' :: rest) := by
  by_cases escaped : .escaped ')' ∈ pieces
  · right
    obtain ⟨front, back, rfl, first⟩ := List.eq_append_cons_of_mem escaped
    have proper := proper.front
    have absent : .plain ')' ∉ front := fun member => absent (List.mem_append_left _ member)
    have closing : ')' ∉ front.flatMap Piece.text ++ ['\\'] := by
      simpa using not_mem_text (by decide) proper absent first
    have whole : rest = (front.flatMap Piece.text ++ ['\\']) ++ ')' ::
        (back.flatMap Piece.text ++ ')' :: after) := by
      simpa [Piece.text] using whole
    rw [tally_of_readComment closing whole, proper.split_append]
    simp [Piece.split]
  · left
    have closing := not_mem_text (by decide) proper absent escaped
    have same := proper.split_append []
    rw [List.append_nil, show Piece.split [] = [] from rfl, List.append_nil] at same
    rw [tally_of_readComment closing whole, same, if_neg (by simpa using proper.2),
      List.nil_append]

theorem readName_eq {stop : Char} {name after found rest : List Char} (absent : stop ∉ name)
    (other : isWordChar stop = false)
    (reads : readName stop (name ++ stop :: after) = some (found, rest)) :
    found = name ∧ rest = after := by
  have whole := append_of_readName reads
  have clean : stop ∉ found := fun member => by
    cases other.symm.trans (word_of_readName reads stop member)
  have front {name : List Char} (absent : stop ∉ name) (after : List Char) :
      (name ++ stop :: after).takeWhile (· != stop) = name := by
    have inside : ∀ c ∈ name, (c != stop) = true := fun c member =>
      bne_iff_ne.mpr fun same => absent (same ▸ member)
    rw [List.takeWhile_append_of_pos inside, List.takeWhile_cons_of_neg (by simp), List.append_nil]
  have same : found = name := by
    rw [← front clean rest, whole, front absent]
  subst same
  exact ⟨rfl, (List.cons.inj (List.append_cancel_left whole)).2⟩

/-- A name leaves the notice of a group, or of a group that is not counted. -/
theorem tally_named {name : List Char} (mute : ∀ c ∈ name, (Piece.plain c).isMute = true)
    (absent : '>' ∉ name) (after : List Char) :
    let text := '(' :: '?' :: 'P' :: '<' :: (name ++ '>' :: after)
    tally text = .group (some name) :: tally after ∨ tally text = .hidden :: tally after := by
  intro text
  cases found : readName '>' (name ++ '>' :: after) with
  | some pair =>
    left
    obtain ⟨sameName, sameAfter⟩ := readName_eq absent (by decide) found
    have reads : readParenthesis ('?' :: 'P' :: '<' :: (name ++ '>' :: after)) =
        (.named name, after) := by
      rw [readParenthesis, found, ← sameName, ← sameAfter]
    rw [tally_parenthesis, reads]
    rfl
  | none =>
    right
    have reads : readParenthesis ('?' :: 'P' :: '<' :: (name ++ '>' :: after)) =
        (.other '(', '?' :: 'P' :: '<' :: (name ++ '>' :: after)) := by
      rw [readParenthesis, found]
    rw [tally_parenthesis, reads]
    refine congrArg (Notice.hidden :: ·) ?_
    rw [tally_plain rfl, tally_plain rfl, tally_plain rfl, tally_chars mute, tally_plain rfl]
    rfl

theorem tally_condition {name : List Char} (mute : ∀ c ∈ name, (Piece.plain c).isMute = true)
    (absent : ')' ∉ name) (nonempty : name ≠ []) (first : name.head? ≠ some '?')
    (after : List Char) :
    let text := '(' :: '?' :: '(' :: (name ++ ')' :: after)
    tally text = tally after ∨ tally text = .stray :: .group none :: tally after := by
  intro text
  cases found : readName ')' (name ++ ')' :: after) with
  | some pair =>
    left
    obtain ⟨sameName, sameAfter⟩ := readName_eq absent (by decide) found
    have reads : readParenthesis ('?' :: '(' :: (name ++ ')' :: after)) =
        (.condition name, after) := by
      rw [readParenthesis, found, ← sameName, ← sameAfter]
    rw [tally_parenthesis, reads]
    rfl
  | none =>
    right
    have reads : readParenthesis ('?' :: '(' :: (name ++ ')' :: after)) =
        (.other '(', '?' :: '(' :: (name ++ ')' :: after)) := by
      rw [readParenthesis, found]
    have simple : (name ++ ')' :: after).head? ≠ some '?' := by
      obtain ⟨c, cs, rfl⟩ := List.exists_cons_of_ne_nil nonempty
      exact first
    rw [tally_parenthesis, reads]
    refine congrArg (Notice.stray :: ·) ?_
    rw [tally_question, tally_opening simple, tally_chars mute, tally_plain rfl]
    rfl

end Segment

theorem countCaptures_eq_tally (source : List Char) :
    countCaptures source = (Segment.tally source).countP Notice.isGroup :=
  (Segment.noticesOf_counts _).1

theorem groupNames_eq_tally (source : List Char) :
    groupNames source = (Segment.tally source).filterMap Notice.name? :=
  (Segment.noticesOf_counts _).2

end RuleLexer
