import RuleLexer.Proofs.Rule.Spelling

namespace RuleLexer

def Piece.entity? : Piece → Option (List Char)
  | .plain c | .escaped c => RuleLexer.entity? c
  | .dangling => none

namespace Entities

/-- What follows the parenthesis of an opening that is left alone. -/
inductive Kept : List Char → Prop
  | name {name : List Char} (some : name ≠ []) (word : ∀ c ∈ name, isWordChar c = true) :
    Kept ('?' :: 'P' :: '<' :: (name ++ ['>']))
  | behind {sign : Char} (signed : sign = '=' ∨ sign = '!') : Kept ['?', '<', sign]

def Bounds (c : Char) : Prop :=
  c ∈ ['[', ']', '(', ')', ':', '\\', '\n']

instance : DecidablePred Bounds := fun _ => inferInstanceAs (Decidable (_ ∈ _))

theorem Kept.absent {opening : List Char} (kept : Kept opening) {c : Char} (bounds : Bounds c) :
    c ∉ opening := by
  have other : ['[', ']', '(', ')', ':', '\\', '\n'].all (fun c =>
      !isWordChar c && !"?P<>=!".toList.contains c) = true := by decide
  have apart := List.all_eq_true.mp other c bounds
  simp only [Bool.and_eq_true, Bool.not_eq_true', List.contains_eq_mem, decide_eq_false_iff_not]
    at apart
  obtain ⟨unworded, apart⟩ := apart
  intro member
  cases kept with
  | @name name some word =>
    simp only [List.mem_cons, List.mem_append, List.not_mem_nil, or_false] at member
    rcases member with rfl | rfl | rfl | inside | rfl
    · exact apart (by decide)
    · exact apart (by decide)
    · exact apart (by decide)
    · cases unworded.symm.trans (word c inside)
    · exact apart (by decide)
  | @behind sign signed =>
    simp only [List.mem_cons, List.not_mem_nil, or_false] at member
    rcases member with rfl | rfl | rfl
    · exact apart (by decide)
    · exact apart (by decide)
    · rcases signed with rfl | rfl <;> exact apart (by decide)

theorem Kept.not_mem {opening : List Char} (kept : Kept opening) {c : Char} (bounds : Bounds c) :
    .plain c ∉ opening.map Piece.plain := by
  intro member
  obtain ⟨d, inside, same⟩ := List.mem_map.mp member
  cases same
  exact kept.absent bounds inside

theorem Kept.angle {opening : List Char} (kept : Kept opening) : '<' ∈ opening := by
  cases kept <;> simp

theorem takeWhile_append_of_not {kind : Char → Bool} {front : List Char}
    (all : ∀ c ∈ front, kind c = true) {c : Char} (other : kind c = false) (rest : List Char) :
    (front ++ c :: rest).takeWhile kind = front ∧ (front ++ c :: rest).dropWhile kind = c :: rest := by
  induction front with
  | nil => simp [other]
  | cons d front ih =>
    obtain ⟨own, all⟩ := List.forall_mem_cons.mp all
    simp [own, ih all]

theorem openingLength_of_kept {opening : List Char} (kept : Kept opening) (rest : List Char) :
    openingLength (opening ++ rest) = opening.length := by
  cases kept with
  | @name name some word =>
    have other : isWordChar '>' = false := by decide
    obtain ⟨front, back⟩ := takeWhile_append_of_not word other rest
    have same : (name ++ ['>']) ++ rest = name ++ '>' :: rest := by simp
    simp only [List.cons_append, openingLength, same, front, back]
    simp [some]
  | behind signed => rcases signed with rfl | rfl <;> rfl

theorem Kept.unique {opening opening' : List Char} (kept : Kept opening) (kept' : Kept opening')
    {s s' : List Piece} (same : opening.map Piece.plain ++ s = opening'.map Piece.plain ++ s') :
    opening = opening' ∧ s = s' := by
  have texts := congrArg (List.flatMap Piece.text) same
  simp only [List.flatMap_append, Piece.flatMap_text_plain] at texts
  have lengths := congrArg openingLength texts
  rw [openingLength_of_kept kept, openingLength_of_kept kept'] at lengths
  obtain ⟨openings, rest⟩ := List.append_inj same (by simpa using lengths)
  exact ⟨List.map_injective_iff.mpr (fun _ _ => Piece.plain.inj) openings, rest⟩

/-- The opening behind a parenthesis is left alone or has no length. -/
theorem openingLength_cases (rest : List Char) :
    openingLength rest = 0 ∨ ∃ opening back, rest = opening ++ back ∧ Kept opening ∧
      openingLength rest = opening.length := by
  unfold openingLength
  split
  · next rest =>
    dsimp only
    split
    · next named =>
      simp only [Bool.and_eq_true, Bool.not_eq_true', List.isEmpty_eq_false_iff,
        decide_eq_true_eq] at named
      obtain ⟨some, closed⟩ := named
      obtain ⟨back, split⟩ := List.head?_eq_some_iff.mp closed
      refine .inr ⟨_, back, ?_, .name some fun c member => ?_, ?_⟩
      · conv => lhs; rw [← List.takeWhile_append_dropWhile (p := isWordChar) (l := rest), split]
        simp
      · exact List.all_eq_true.mp List.all_takeWhile c member
      · simp
    · exact .inl rfl
  · next rest => exact .inr ⟨_, rest, rfl, .behind (.inl rfl), rfl⟩
  · next rest => exact .inr ⟨_, rest, rfl, .behind (.inr rfl), rfl⟩
  · exact .inl rfl

theorem substitute_verbatim (front rest : List Char) :
    substitute front.length (front ++ rest) = front ++ substitute 0 rest := by
  induction front with
  | nil => rfl
  | cons c front ih => rw [List.length_cons, List.cons_append, substitute, ih, List.cons_append]

theorem substitute_kept {opening : List Char} (kept : Kept opening) (rest : List Char) :
    substitute 0 ('(' :: (opening ++ rest)) = '(' :: (opening ++ substitute 0 rest) := by
  show '(' :: substitute (openingLength (opening ++ rest)) (opening ++ rest) = _
  rw [openingLength_of_kept kept, substitute_verbatim]

theorem substitute_char {c : Char} {rest : List Char} (backslash : c ≠ '\\')
    (simple : c = '(' → openingLength rest = 0) :
    substitute 0 (c :: rest) = (entity? c).getD [c] ++ substitute 0 rest := by
  by_cases parenthesis : c = '('
  · subst parenthesis
    show '(' :: substitute (openingLength rest) rest = '(' :: substitute 0 rest
    rw [simple rfl]
  · exact substitute_plain backslash parenthesis rest

theorem substitute_induction {motive : List Char → Prop} (nil : motive []) (dangling : motive ['\\'])
    (pair : ∀ c rest, motive rest → motive ('\\' :: c :: rest))
    (kept : ∀ opening rest, Kept opening → motive rest → motive ('(' :: (opening ++ rest)))
    (char : ∀ c rest, c ≠ '\\' → (c = '(' → openingLength rest = 0) → motive rest →
      motive (c :: rest)) (text : List Char) : motive text := by
  induction size : text.length using Nat.strongRecOn generalizing text with
  | _ size ih =>
    subst size
    cases text with
    | nil => exact nil
    | cons c rest =>
      have next : motive rest := ih _ (Nat.lt_succ_self _) rest rfl
      by_cases backslash : c = '\\'
      · subst backslash
        cases rest with
        | nil => exact dangling
        | cons c rest =>
          refine pair c rest (ih _ ?_ rest rfl)
          simp only [List.length_cons]
          omega
      · by_cases simple : c = '(' → openingLength rest = 0
        · exact char c rest backslash simple next
        · obtain ⟨rfl, long⟩ := Classical.not_imp.mp simple
          obtain ⟨opening, back, rfl, opens, -⟩ := (openingLength_cases rest).resolve_left long
          refine kept opening back opens (ih _ ?_ back rfl)
          simp only [List.length_cons, List.length_append]
          omega

theorem absent_of_entity? {c d : Char} {entity : List Char} (found : entity? d = some entity)
    (bounds : Bounds c) : c ∉ entity := by
  have absent : ['[', ']', '(', ')', ':', '\\', '\n'].all (fun c =>
      !"&amp;".toList.contains c && !"&lt;".toList.contains c && !"&gt;".toList.contains c) =
      true := by decide
  have absent := List.all_eq_true.mp absent c bounds
  unfold entity? at found
  split at found <;> cases found <;> simp_all

theorem head?_of_entity? {c : Char} {entity : List Char} (found : entity? c = some entity)
    (rest : List Char) : (entity ++ rest).head? = some '&' := by
  unfold entity? at found
  split at found <;> cases found <;> rfl

def Simple (rest : List Piece) : Prop :=
  ∀ opening back, Kept opening → rest ≠ opening.map .plain ++ back

/-- The second pieces are those of the first text with its entities substituted. -/
inductive Marked : List Piece → List Piece → Prop
  | nil : Marked [] []
  | kept {opening : List Char} {s t : List Piece} (kept : Kept opening) (rest : Marked s t) :
    Marked (.plain '(' :: (opening.map .plain ++ s)) (.plain '(' :: (opening.map .plain ++ t))
  | entity {piece : Piece} {entity : List Char} {s t : List Piece}
    (found : piece.entity? = some entity) (rest : Marked s t) :
    Marked (piece :: s) (entity.map .plain ++ t)
  | copied {piece : Piece} {s t : List Piece} (none : piece.entity? = none)
    (simple : piece = .plain '(' → Simple s) (rest : Marked s t) : Marked (piece :: s) (piece :: t)

variable {s t : List Piece} {piece : Piece}

theorem append_of_not_mem {front body back : List Piece} (absent : piece ∉ front)
    (same : body ++ piece :: s = front ++ back) :
    ∃ more, body = front ++ more ∧ back = more ++ piece :: s := by
  rcases List.append_eq_append_iff.mp same with ⟨more, split, rest⟩ | ⟨more, split, rest⟩
  · cases more with
    | nil => exact ⟨[], by simpa using split.symm, by simpa using rest.symm⟩
    | cons first more =>
      obtain ⟨rfl, -⟩ := List.cons.inj rest
      exact absurd (split ▸ List.mem_append_right _ List.mem_cons_self) absent
  · exact ⟨more, split, rest⟩

theorem entity?_of_bounds {c : Char} (bounds : Bounds c) : (Piece.plain c).entity? = none := by
  have each : ['[', ']', '(', ')', ':', '\\', '\n'].all (fun c => (RuleLexer.entity? c).isNone) = true := by
    decide
  exact Option.isNone_iff_eq_none.mp (List.all_eq_true.mp each c bounds)

theorem entity?_of_isBare (bare : piece.isBare = true) : piece.entity? = none := by
  cases piece with
  | plain c =>
    obtain ⟨-, -, -, ampersand, less, greater⟩ := Piece.isBare_plain.mp bare
    unfold Piece.entity? RuleLexer.entity?
    split <;> simp_all
  | escaped c => cases bare
  | dangling => rfl

namespace Marked

theorem uncons (marked : Marked (piece :: s) t) (none : piece.entity? = none)
    (other : piece ≠ .plain '(') : ∃ t', t = piece :: t' ∧ Marked s t' := by
  cases marked with
  | kept => exact absurd rfl other
  | entity found => cases none.symm.trans found
  | copied _ _ rest => exact ⟨_, rfl, rest⟩

theorem of_simple (marked : Marked (.plain '(' :: s) t) (simple : Simple s) :
    ∃ t', t = .plain '(' :: t' ∧ Marked s t' := by
  cases marked with
  | kept kept => exact absurd rfl (simple _ _ kept)
  | entity found => cases found
  | copied _ _ rest => exact ⟨_, rfl, rest⟩

theorem of_kept {opening : List Char} (marked : Marked (.plain '(' :: (opening.map .plain ++ s)) t)
    (kept : Kept opening) : ∃ t', t = .plain '(' :: (opening.map .plain ++ t') ∧ Marked s t' := by
  generalize same : opening.map Piece.plain ++ s = behind at marked
  cases marked with
  | kept kept' rest =>
    obtain ⟨rfl, rfl⟩ := kept.unique kept' same
    exact ⟨_, rfl, rest⟩
  | entity found => cases found
  | copied _ simple => exact absurd same.symm (simple rfl _ _ kept)

theorem of_entity {entity : List Char} (marked : Marked (piece :: s) t)
    (found : piece.entity? = some entity) : ∃ t', t = entity.map .plain ++ t' ∧ Marked s t' := by
  cases marked with
  | kept => cases found
  | entity found' rest =>
    cases found.symm.trans found'
    exact ⟨_, rfl, rest⟩
  | copied none => cases none.symm.trans found

theorem bare {chunk : List Piece} (bare : ∀ piece ∈ chunk, piece.isBare = true)
    (marked : Marked (chunk ++ s) t) : ∃ t', t = chunk ++ t' ∧ Marked s t' := by
  induction chunk generalizing t with
  | nil => exact ⟨t, rfl, marked⟩
  | cons piece chunk ih =>
    obtain ⟨first, bare⟩ := List.forall_mem_cons.mp bare
    have other : piece ≠ .plain '(' := by
      rintro rfl
      cases first
    obtain ⟨t', rfl, onward⟩ := marked.uncons (entity?_of_isBare first) other
    obtain ⟨t'', rfl, rest⟩ := ih bare onward
    exact ⟨t'', rfl, rest⟩

theorem simple_of_free {chunk : List Piece} {c : Char}
    (free : ∀ piece ∈ chunk, piece.entity? = none) (bounds : Bounds c) :
    Simple (chunk ++ .plain c :: s) := by
  intro opening back kept same
  obtain ⟨more, rfl, -⟩ := append_of_not_mem (kept.not_mem bounds) same
  have angle : Piece.plain '<' ∈ opening.map Piece.plain := List.mem_map_of_mem kept.angle
  cases free _ (List.mem_append_left more angle)

theorem through {chunk : List Piece} {c : Char} (free : ∀ piece ∈ chunk, piece.entity? = none)
    (bounds : Bounds c) (opens : c ≠ '(') (marked : Marked (chunk ++ .plain c :: s) t) :
    ∃ t', t = chunk ++ .plain c :: t' ∧ Marked s t' := by
  induction chunk generalizing t with
  | nil => exact marked.uncons (entity?_of_bounds bounds) (by simpa using opens)
  | cons piece chunk ih =>
    obtain ⟨first, others⟩ := List.forall_mem_cons.mp free
    have next : ∃ t', t = piece :: t' ∧ Marked (chunk ++ .plain c :: s) t' := by
      by_cases parenthesis : piece = .plain '('
      · subst parenthesis
        exact marked.of_simple (simple_of_free others bounds)
      · exact marked.uncons first parenthesis
    obtain ⟨t', rfl, onward⟩ := next
    obtain ⟨t'', rfl, rest⟩ := ih others onward
    exact ⟨t'', rfl, rest⟩

theorem not_mem_entity {entity : List Char} (found : piece.entity? = some entity) {c : Char}
    (bounds : Bounds c) : .plain c ∉ entity.map Piece.plain := by
  have plain {d : Char} (found : RuleLexer.entity? d = some entity) :
      .plain c ∉ entity.map Piece.plain := by
    intro member
    obtain ⟨e, inside, same⟩ := List.mem_map.mp member
    cases same
    exact absent_of_entity? found bounds inside
  cases piece with
  | plain d => exact plain found
  | escaped d => exact plain found
  | dangling => cases found

theorem behind {body : List Piece} {c : Char} (marked : Marked (body ++ .plain c :: s) t)
    (bounds : Bounds c) (opens : c ≠ '(') :
    ∃ body' t', t = body' ++ .plain c :: t' ∧ Marked body body' ∧ Marked s t' := by
  generalize same : body ++ .plain c :: s = text at marked
  -- A bound is neither part of an opening that is left alone nor replaced by an entity.
  induction marked generalizing body with
  | nil => simp at same
  | @kept opening _ _ kept _ ih =>
    have unopened : .plain c ∉ .plain '(' :: opening.map Piece.plain := by
      exact List.not_mem_cons_of_ne_of_not_mem (by simpa using opens) (kept.not_mem bounds)
    obtain ⟨more, rfl, rfl⟩ := append_of_not_mem unopened same
    obtain ⟨body', t', rfl, within, rest⟩ := ih rfl
    have front : Marked (.plain '(' :: (opening.map .plain ++ more))
      (.plain '(' :: (opening.map .plain ++ body')) := .kept kept within
    exact ⟨_, t', by simp, front, rest⟩
  | @entity piece entity _ _ found _ ih =>
    have other : .plain c ∉ [piece] := by
      intro member
      cases List.mem_singleton.mp member
      cases (entity?_of_bounds bounds).symm.trans found
    obtain ⟨more, rfl, rfl⟩ := append_of_not_mem other same
    obtain ⟨body', t', rfl, within, rest⟩ := ih rfl
    have front : Marked (piece :: more) (entity.map .plain ++ body') := .entity found within
    exact ⟨_, t', by simp, front, rest⟩
  | @copied piece _ _ none simple rest ih =>
    by_cases here : body = []
    · subst here
      obtain ⟨rfl, rfl⟩ := List.cons.inj same
      exact ⟨[], _, rfl, .nil, rest⟩
    · obtain ⟨first, body, rfl⟩ := List.exists_cons_of_ne_nil here
      obtain ⟨rfl, rfl⟩ := List.cons.inj same
      obtain ⟨body', t', rfl, within, rest⟩ := ih rfl
      refine ⟨first :: body', t', rfl, .copied none (fun parenthesis => ?_) within, rest⟩
      intro opening back kept split
      apply simple parenthesis opening (back ++ .plain c :: s) kept
      show body ++ _ = _
      rw [split, List.append_assoc]

theorem not_mem {c : Char} (marked : Marked s t) (bounds : Bounds c) (absent : .plain c ∉ s) :
    .plain c ∉ t := by
  induction marked with
  | nil => exact List.not_mem_nil
  | kept _ _ ih =>
    simp only [List.mem_cons, List.mem_append, not_or] at absent ⊢
    exact ⟨absent.1, absent.2.1, ih absent.2.2⟩
  | entity found _ ih =>
    rw [List.mem_append, not_or]
    exact ⟨not_mem_entity found bounds, ih fun member => absent (List.mem_cons_of_mem _ member)⟩
  | copied _ _ _ ih =>
    rw [List.mem_cons, not_or] at absent ⊢
    exact ⟨absent.1, ih absent.2⟩

theorem closed (marked : Marked s t) (closed : .dangling ∉ s) : .dangling ∉ t := by
  have plain (cs : List Char) : Piece.dangling ∉ cs.map Piece.plain := by simp
  induction marked with
  | nil => exact List.not_mem_nil
  | kept _ _ ih =>
    simp only [List.mem_cons, List.mem_append, not_or] at closed ⊢
    exact ⟨closed.1, plain _, ih closed.2.2⟩
  | entity _ _ ih =>
    rw [List.mem_append, not_or]
    exact ⟨plain _, ih fun member => closed (List.mem_cons_of_mem _ member)⟩
  | copied _ _ _ ih =>
    rw [List.mem_cons, not_or] at closed ⊢
    exact ⟨closed.1, ih closed.2⟩

theorem resembles (marked : Marked s t) (closed : .dangling ∉ s) : Resembles s t := by
  have after := marked.closed closed
  induction marked with
  | nil => exact .refl closed
  | @kept opening _ _ _ _ ih =>
    simp only [List.mem_cons, List.mem_append, not_or] at closed after
    have chunk : .dangling ∉ .plain '(' :: opening.map Piece.plain := by simp
    exact .append chunk (ih closed.2.2 after.2.2)
  | @entity piece entity s t found _ _ =>
    refine ⟨after, [], piece :: s, entity.map .plain ++ t, rfl, rfl, ?_⟩
    have first : entity.head? = some '&' := by
      rw [← List.append_nil entity]
      cases piece with
      | plain d => exact head?_of_entity? found []
      | escaped d => exact head?_of_entity? found []
      | dangling => cases found
    obtain ⟨others, rfl⟩ := List.head?_eq_some_iff.mp first
    rintro piece ⟨⟩
    rfl
  | @copied piece _ _ _ _ _ ih =>
    rw [List.mem_cons, not_or] at closed after
    have chunk : .dangling ∉ [piece] := by simpa using closed.1
    exact .append chunk (ih closed.2 after.2)

end Marked

theorem split_entity {c : Char} {entity : List Char} (found : RuleLexer.entity? c = some entity)
    (rest : List Char) : Piece.split (entity ++ rest) = entity.map .plain ++ Piece.split rest := by
  apply Piece.split_append
  intro member
  rcases ordinary_of_entity? found _ member with ordinary | same
  · cases ordinary
  · cases same

theorem simple_of_openingLength {rest : List Char} (zero : openingLength rest = 0) :
    Simple (Piece.split rest) := by
  intro opening back kept same
  have text := congrArg (List.flatMap Piece.text) same
  rw [Piece.flatMap_text_split, List.flatMap_append, Piece.flatMap_text_plain] at text
  rw [text, openingLength_of_kept kept] at zero
  cases kept <;> cases zero

/-- The pieces of the text with its entities substituted. -/
theorem marked_split (source : List Char) :
    Marked (Piece.split source) (Piece.split (escapeEntities source)) := by
  unfold escapeEntities
  induction source using substitute_induction with
  | nil => exact .nil
  | dangling => exact .copied rfl (fun same => by cases same) .nil
  | pair c rest ih =>
    rw [Piece.split, substitute_pair]
    cases found : RuleLexer.entity? c with
    | some entity =>
      rw [Option.getD_some, split_entity found]
      exact .entity found ih
    | none => exact .copied found (fun same => by cases same) ih
  | kept opening rest kept ih =>
    have backslash : '\\' ∉ opening := kept.absent (by simp [Bounds])
    rw [substitute_kept kept, Piece.split_cons (by decide), Piece.split_cons (by decide),
      Piece.split_append backslash, Piece.split_append backslash]
    exact .kept kept ih
  | char c rest backslash simple ih =>
    rw [substitute_char backslash simple, Piece.split_cons backslash]
    cases found : RuleLexer.entity? c with
    | some entity =>
      rw [Option.getD_some, split_entity found]
      exact .entity found ih
    | none =>
      show Marked _ (Piece.split (c :: _))
      rw [Piece.split_cons backslash]
      refine .copied found (fun same => ?_) ih
      exact simple_of_openingLength (simple (Piece.plain.inj same))

end Entities

end RuleLexer
