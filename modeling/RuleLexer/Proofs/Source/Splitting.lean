import RuleLexer.Source.Segment.Lemmas

namespace RuleLexer.Segment

/-- The segment with which a text starts, and the text behind it. -/
inductive Found : List Char → Segment → List Char → Prop
  | dangling : Found ['\\'] (.other '\\') []
  | escape {c : Char} {after : List Char} (digit : isDigitChar c = false) :
    Found ('\\' :: c :: after) (.escape c) after
  | number {digits after : List Char} (nonempty : digits ≠ [])
    (all : digits.all isDigitChar = true)
    (stops : ∀ c, after.head? = some c → isDigitChar c = false) :
    Found ('\\' :: digits ++ after) (.number digits) after
  | charClass {rest text after : List Char} (closed : readClass rest = some (text, after)) :
    Found ('[' :: rest) (.charClass text) after
  | bracket {after : List Char} : Found ('[' :: after) (.other '[') after
  | comment {text after : List Char} (closing : ')' ∉ text) :
    Found ('(' :: '?' :: '#' :: text ++ ')' :: after) (.comment text) after
  | condition {name after : List Char} :
    Found ('(' :: '?' :: '(' :: name ++ ')' :: after) (.condition name) after
  | named {name after : List Char} (word : ∀ c ∈ name, isWordChar c = true) :
    Found ('(' :: '?' :: 'P' :: '<' :: name ++ '>' :: after) (.named name) after
  | extension {after : List Char} : Found ('(' :: '?' :: after) (.other '(') ('?' :: after)
  | opening {after : List Char} (simple : after.head? ≠ some '?') :
    Found ('(' :: after) .opening after
  | other {c : Char} {after : List Char} (backslash : c ≠ '\\') (bracket : c ≠ '[')
    (parenthesis : c ≠ '(') : Found (c :: after) (.other c) after

theorem word_of_readName {stop : Char} {text name after : List Char}
    (found : readName stop text = some (name, after)) : ∀ c ∈ name, isWordChar c = true := by
  unfold readName at found
  dsimp only at found
  split at found
  · split at found
    · cases found
      exact fun c member => List.all_eq_true.mp List.all_takeWhile c member
    · cases found
  · cases found

theorem ne_nil_of_readName {stop : Char} {text name after : List Char}
    (found : readName stop text = some (name, after)) : name ≠ [] := by
  unfold readName at found
  grind

theorem readName_of_word {stop : Char} {name : List Char} (nonempty : name ≠ [])
    (word : ∀ c ∈ name, isWordChar c = true) (other : isWordChar stop = false)
    (after : List Char) : readName stop (name ++ stop :: after) = some (name, after) := by
  have front : (name ++ stop :: after).takeWhile isWordChar = name := by
    rw [List.takeWhile_append_of_pos word, List.takeWhile_cons_of_neg (by simp [other]),
      List.append_nil]
  have behind : (name ++ stop :: after).dropWhile isWordChar = stop :: after := by
    rw [List.dropWhile_append_of_pos word, List.dropWhile_cons_of_neg (by simp [other])]
  unfold readName
  dsimp only
  rw [front, behind]
  simp [nonempty]

theorem not_mem_of_readComment {text comment after : List Char}
    (found : readComment text = some (comment, after)) : ')' ∉ comment := by
  unfold readComment at found
  split at found
  · cases found
    intro member
    simpa using List.all_eq_true.mp List.all_takeWhile _ member
  · cases found

theorem found_readParenthesis (rest : List Char) :
    Found ('(' :: rest) (readParenthesis rest).1 (readParenthesis rest).2 := by
  unfold readParenthesis
  split
  · split
    · next found =>
      rw [← append_of_readComment found]
      exact .comment (not_mem_of_readComment found)
    · exact .extension
  · split
    · next found =>
      rw [← append_of_readName found]
      exact .condition
    · exact .extension
  · split
    · next found =>
      rw [← append_of_readName found]
      exact .named (word_of_readName found)
    · exact .extension
  · exact .extension
  · next simple =>
    refine .opening fun same => ?_
    obtain ⟨after, rfl⟩ := List.head?_eq_some_iff.mp same
    exact simple after rfl

theorem found_readBackslash (rest : List Char) :
    Found ('\\' :: rest) (readBackslash rest).1 (readBackslash rest).2 := by
  unfold readBackslash
  split
  · exact .dangling
  · next c rest =>
    split
    · have whole : rest.takeWhile isDigitChar ++ rest.dropWhile isDigitChar = rest :=
        List.takeWhile_append_dropWhile
      have found : Found ('\\' :: (c :: rest.takeWhile isDigitChar) ++ rest.dropWhile isDigitChar)
          (.number (c :: rest.takeWhile isDigitChar)) (rest.dropWhile isDigitChar) := by
        refine .number nofun ?_ fun d head => ?_
        · rw [List.all_cons, List.all_takeWhile, Bool.and_true]
          assumption
        have stops := List.head?_dropWhile_not isDigitChar rest
        rw [head] at stops
        exact stops
      rwa [List.cons_append, List.cons_append, whole] at found
    · next digit => exact .escape (by simpa using digit)

theorem found_read (c : Char) (rest : List Char) :
    Found (c :: rest) (read c rest).1 (read c rest).2 := by
  unfold read
  split
  · exact found_readBackslash rest
  · split
    · next closed => exact .charClass closed
    · exact .bracket
  · exact found_readParenthesis rest
  · next backslash bracket parenthesis => exact .other backslash bracket parenthesis

theorem Found.text_append {source after : List Char} {segment : Segment}
    (found : Found source segment after) : segment.text ++ after = source ∧ segment.text ≠ [] := by
  cases found with
  | charClass closed => exact ⟨append_of_readClass closed, ne_nil_of_readClass closed⟩
  | _ => simp [text]

inductive Splits : List Char → List Segment → Prop
  | nil : Splits [] []
  | cons {text after : List Char} {segment : Segment} {segments : List Segment}
    (found : Found text segment after) (rest : Splits after segments) :
    Splits text (segment :: segments)

theorem Splits.flatMap_text {source : List Char} {segments : List Segment}
    (splits : Splits source segments) : segments.flatMap text = source := by
  induction splits with
  | nil => rfl
  | cons found _ ih => rw [List.flatMap_cons, ih, found.text_append.1]

theorem Splits.all_isDigitChar {source : List Char} {segments : List Segment}
    (splits : Splits source segments) {digits : List Char} (member : .number digits ∈ segments) :
    digits.all isDigitChar = true := by
  induction splits with
  | nil => cases member
  | cons found _ ih =>
    rcases List.mem_cons.mp member with same | later
    · cases same
      cases found with
      | number _ all => exact all
    · exact ih later

theorem splits_splitUpTo {count : Nat} {source : List Char} (enough : source.length ≤ count) :
    Splits source (splitUpTo count source) := by
  induction count generalizing source with
  | zero =>
    cases List.eq_nil_of_length_eq_zero (Nat.le_zero.mp enough)
    exact .nil
  | succ count ih =>
    cases source with
    | nil => exact .nil
    | cons c rest =>
      have shorter := length_read_le c rest
      have bound : (read c rest).2.length ≤ count := by
        simp only [List.length_cons] at enough
        omega
      exact .cons (found_read c rest) (ih bound)

theorem splits_split (source : List Char) : Splits source (split source) :=
  splits_splitUpTo (Nat.le_refl _)

end RuleLexer.Segment
