import RuleLexer.Source.Segment

namespace RuleLexer.Segment

theorem append_of_closeClass {text body after : List Char}
    (closed : closeClass text = some (body, after)) : body ++ after = text := by
  fun_induction closeClass text generalizing body after with
  | case1 => simp at closed
  | case2 => simp_all
  | case3 => simp at closed
  | case4 => grind
  | case5 d rest _ ih =>
    obtain ⟨pair, inner, same⟩ := Option.map_eq_some_iff.1 closed
    have := ih inner
    grind
  | case6 c d rest _ _ ih =>
    obtain ⟨pair, inner, same⟩ := Option.map_eq_some_iff.1 closed
    have := ih inner
    grind

theorem append_of_closeMembers {text body after : List Char}
    (closed : closeMembers text = some (body, after)) : body ++ after = text := by
  unfold closeMembers at closed
  split at closed
  · split at closed
    · next inner =>
      have := append_of_closeClass inner
      grind
    · grind
  · exact append_of_closeClass closed

theorem append_of_readClass {text body after : List Char}
    (closed : readClass text = some (body, after)) : body ++ after = '[' :: text := by
  unfold readClass at closed
  split at closed <;>
  · obtain ⟨pair, inner, same⟩ := Option.map_eq_some_iff.1 closed
    have := append_of_closeMembers inner
    grind

theorem append_of_readName {stop : Char} {text name after : List Char}
    (found : readName stop text = some (name, after)) : name ++ stop :: after = text := by
  have whole := List.takeWhile_append_dropWhile (p := isWordChar) (l := text)
  unfold readName at found
  grind

theorem append_of_readComment {text body after : List Char}
    (found : readComment text = some (body, after)) : body ++ ')' :: after = text := by
  have whole := List.takeWhile_append_dropWhile (p := (· != ')')) (l := text)
  have head := List.head?_dropWhile_not (· != ')') text
  unfold readComment at found
  grind

theorem text_append_readParenthesis (text : List Char) :
    (readParenthesis text).1.text ++ (readParenthesis text).2 = '(' :: text := by
  unfold readParenthesis
  split
  · split
    · next found => simp [Segment.text, append_of_readComment found]
    · rfl
  · split
    · next found => simp [Segment.text, append_of_readName found]
    · rfl
  · split
    · next found => simp [Segment.text, append_of_readName found]
    · rfl
  · rfl
  · rfl

theorem text_append_readBackslash (text : List Char) :
    (readBackslash text).1.text ++ (readBackslash text).2 = '\\' :: text := by
  cases text with
  | nil => rfl
  | cons c rest => by_cases digit : isDigitChar c <;> simp [readBackslash, digit, Segment.text]

theorem text_append_read (c : Char) (rest : List Char) :
    (read c rest).1.text ++ (read c rest).2 = c :: rest := by
  unfold read
  split
  · exact text_append_readBackslash rest
  · split
    · next found => simp [Segment.text, append_of_readClass found]
    · rfl
  · exact text_append_readParenthesis rest
  · rfl

theorem ne_nil_of_readClass {text body after : List Char}
    (closed : readClass text = some (body, after)) : body ≠ [] := by
  unfold readClass at closed
  split at closed <;>
  · obtain ⟨pair, _, same⟩ := Option.map_eq_some_iff.1 closed
    grind

theorem text_read_ne_nil (c : Char) (rest : List Char) : (read c rest).1.text ≠ [] := by
  unfold read
  split
  · unfold readBackslash
    grind [Segment.text]
  · split
    · next found => exact ne_nil_of_readClass found
    · simp [Segment.text]
  · unfold readParenthesis
    grind [Segment.text]
  · simp [Segment.text]

theorem length_read_le (c : Char) (rest : List Char) : (read c rest).2.length ≤ rest.length := by
  have whole := congrArg List.length (text_append_read c rest)
  have taken := List.length_pos_iff.2 (text_read_ne_nil c rest)
  simp only [List.length_append, List.length_cons] at whole
  omega

theorem flatMap_text_splitUpTo {count : Nat} {source : List Char}
    (enough : source.length ≤ count) : (splitUpTo count source).flatMap text = source := by
  induction count generalizing source with
  | zero => simp_all [splitUpTo]
  | succ count ih =>
    cases source with
    | nil => rfl
    | cons c rest =>
      have shorter := length_read_le c rest
      have bound : (read c rest).2.length ≤ count := by
        simp only [List.length_cons] at enough
        omega
      simp [splitUpTo, ih bound, text_append_read]

theorem flatMap_text_split (source : List Char) : (split source).flatMap text = source :=
  flatMap_text_splitUpTo (Nat.le_refl _)

end RuleLexer.Segment
