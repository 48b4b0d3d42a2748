import Mathlib.Data.Set.List
import RuleLexer.Proofs.Regex.Counting
import RuleLexer.Proofs.Regex.Lockstep
import RuleLexer.Proofs.Source.Markup

namespace RuleLexer

def Piece.isMarkup (piece : Piece) : Bool :=
  piece.entity?.isSome

theorem Piece.entity?_eq_none {piece : Piece} (plain : piece.isMarkup = false) :
    piece.entity? = none :=
  Option.isSome_eq_false_iff.mp plain |> Option.isNone_iff_eq_none.mp

/-- The lexeme is an opening in which the substitution finds a markup character. -/
def Lexeme.isCorrupted : Lexeme → Bool
  | .opening .atomic => true
  | .opening (.capture (some name)) => !name.all Entities.isWordChar
  | _ => false

theorem Lexeme.Inert.not_corrupted {lexeme : Lexeme} (inert : lexeme.Inert) :
    lexeme.isCorrupted = false := by
  cases lexeme with
  | opening => cases inert
  | _ => rfl

namespace Entities

variable {rest : List Piece}

theorem Kept.starts {opening : List Char} (kept : Kept opening) :
    ∃ behind, opening = '?' :: 'P' :: '<' :: behind ∨ opening = '?' :: '<' :: behind := by
  cases kept with
  | name => exact ⟨_, .inl rfl⟩
  | behind => exact ⟨_, .inr rfl⟩

theorem simple_of_head (other : rest.head? ≠ some (.plain '?')) : Simple rest := by
  rintro opening back kept rfl
  obtain ⟨behind, rfl | rfl⟩ := kept.starts <;> exact other rfl

theorem simple_of_second {piece : Piece} (named : piece ≠ .plain 'P') (angle : piece ≠ .plain '<') :
    Simple (.plain '?' :: piece :: rest) := by
  intro opening back kept same
  obtain ⟨behind, rfl | rfl⟩ := kept.starts
  · cases same
    exact named rfl
  · cases same
    exact angle rfl

theorem simple_of_name {name : List Char} (angle : '>' ∉ name)
    (unseen : name.all isWordChar = false) :
    Simple (.plain '?' :: .plain 'P' :: .plain '<' :: (name.map .plain ++ .plain '>' :: rest)) := by
  intro opening back kept same
  have texts := congrArg (List.flatMap Piece.text) same
  simp only [List.flatMap_cons, List.flatMap_append, Piece.flatMap_text_plain] at texts
  have lengths := congrArg openingLength texts
  rw [openingLength_of_kept kept] at lengths
  have other : isWordChar '>' = false := by decide
  cases kept with
  | @name seen some word =>
    simp only [Piece.text, List.cons_append, List.nil_append, List.append_assoc,
      List.cons.injEq, true_and] at texts
    have upTo {front : List Char} (absent : '>' ∉ front) (rest : List Char) :
        (front ++ '>' :: rest).takeWhile (· != '>') = front :=
      (takeWhile_append_of_not (fun c member => by
        simpa using fun same : c = '>' => absent (same ▸ member)) rfl rest).1
    have absent : '>' ∉ seen := fun member => by cases other.symm.trans (word _ member)
    have same := congrArg (List.takeWhile (· != '>')) texts
    rw [upTo angle, upTo absent] at same
    subst same
    exact absurd (List.all_eq_true.mpr word) (by simp [unseen])
  | behind => cases same

end Entities

open Entities

namespace Lexeme

theorem readOpening_of_entity (alphabet : Alphabet) (start : Nat) {input : Input} {t : List Piece}
    (text : input.rest = .plain '?' :: .plain '&' :: t) :
    Ensures (readOpening alphabet start input) fun _ => False := by
  rw [readOpening_of_extension alphabet start (by simp) text, readExtension, Input.take_bind rfl]
  exact (Ensures.trivial _).bind fun _ _ => .error

theorem readOpening_of_entityName (alphabet : Alphabet) (start : Nat) {input : Input}
    {t : List Piece} (text : input.rest = .plain '?' :: .plain 'P' :: .plain '&' :: t) :
    Ensures (readOpening alphabet start input) fun _ => False := by
  rw [readOpening_of_extension alphabet start (by simp) text, readExtension, Input.take_bind rfl]
  refine (Input.goTo_rest _ _).bind fun named same => ?_
  have other {c : Char} (distinct : c ≠ '&') : named.accept c = .ok (false, named) :=
    Input.accept_of_other (by simpa [same] using Ne.symm distinct)
  show Ensures (readNamed named) _
  unfold readNamed
  rw [other (by decide), ok_bind]
  dsimp only
  rw [if_neg Bool.false_ne_true, other (by decide), ok_bind]
  dsimp only
  rw [if_neg Bool.false_ne_true]
  refine (Ensures.trivial _).bind fun next _ => ?_
  cases next.1 <;> exact .error

/-- How the substitution treats what follows an opening parenthesis, up to the end of the lexeme. -/
inductive Fares (input : Input) : Lexeme → Input → Prop
  | bare {lexeme : Lexeme} {after : Input} (chunk : List Piece) (whole : lexeme.isCorrupted = false)
    (split : input.rest = chunk ++ after.rest) (bare : ∀ piece ∈ chunk, piece.isBare = true)
    (simple : Simple input.rest) : Fares input lexeme after
  | kept {lexeme : Lexeme} {after : Input} {opening : List Char}
    (whole : lexeme.isCorrupted = false) (kept : Kept opening)
    (split : input.rest = opening.map .plain ++ after.rest) : Fares input lexeme after
  | named {lexeme : Lexeme} {after : Input} (chunk : List Piece)
    (whole : lexeme.isCorrupted = false)
    (split : input.rest = chunk ++ .plain ')' :: after.rest)
    (free : ∀ piece ∈ chunk, piece.entity? = none) : Fares input lexeme after
  | comment {after : Input} {body : List Piece}
    (split : input.rest = .plain '?' :: .plain '#' :: (body ++ .plain ')' :: after.rest))
    (absent : .plain ')' ∉ body) : Fares input .blank after
  | atomic {after : Input} (split : input.rest = .plain '?' :: .plain '>' :: after.rest) :
    Fares input (.opening .atomic) after
  | unseen {name : List Char} {after : Input} {rest : List Piece}
    (corrupted : (Lexeme.opening (.capture (some name))).isCorrupted = true)
    (split : input.rest = .plain '?' :: .plain 'P' :: .plain '<' :: rest)
    (simple : Simple input.rest) : Fares input (.opening (.capture (some name))) after

theorem Names.free {pieces : List Piece} (names : Names (pieces.flatMap Piece.text)) :
    pieces = (pieces.flatMap Piece.text).map .plain ∧ ∀ piece ∈ pieces, piece.entity? = none := by
  have absent := names.absent
  have backslash := absent '\\' (by simp)
  have plain : pieces ∈ Set.range (List.map Piece.plain) := by
    rw [Set.range_list_map]
    intro piece member
    have inside : ∀ c ∈ piece.text, c ∈ pieces.flatMap Piece.text := fun c inside =>
      List.mem_flatMap.mpr ⟨piece, member, inside⟩
    cases piece with
    | plain c => exact ⟨c, rfl⟩
    | escaped c => exact absurd (inside '\\' (by simp [Piece.text])) backslash
    | dangling => exact absurd (inside '\\' (by simp [Piece.text])) backslash
  obtain ⟨name, rfl⟩ := plain
  rw [Piece.flatMap_text_plain] at absent ⊢
  refine ⟨rfl, fun piece member => ?_⟩
  obtain ⟨c, inside, rfl⟩ := List.mem_map.mp member
  have other : c ≠ '&' ∧ c ≠ '<' ∧ c ≠ '>' := by
    refine ⟨?_, ?_, ?_⟩ <;>
    · rintro rfl
      exact absent _ (by simp) inside
  unfold Piece.entity? entity?
  split <;> simp_all

theorem readFlags_whole (alphabet : Alphabet) (flag? : Option Flag) (input : Input) :
    Ensures (readFlags alphabet flag? input) fun (lexeme, _) => lexeme.isCorrupted = false := by
  rw [readFlags_eq]
  refine (Ensures.trivial _).bind fun (on, stop, middle) _ => ?_
  refine (flagGroup_skips on stop middle).mono fun (lexeme, after) ⟨turns, _⟩ => ?_
  rcases turns with ⟨-, rfl⟩ | ⟨off, rfl⟩
  · rfl
  · rfl

theorem readFlags_fares (alphabet : Alphabet) (flag? : Option Flag) {input middle : Input} {c : Char}
    (split : input.rest = .plain '?' :: .plain c :: middle.rest) (named : c ≠ 'P')
    (bare : (Piece.plain c).isBare = true) (closed : .dangling ∉ middle.rest) :
    Ensures (readFlags alphabet flag? middle) fun (lexeme, after) => Fares input lexeme after := by
  intro (lexeme, after) returned
  have whole := readFlags_whole alphabet flag? middle _ returned
  obtain ⟨-, chunk, behind, -, own, -⟩ :=
    readFlags_local alphabet flag? (.of_not_mem closed) _ returned
  have angle : c ≠ '<' := (Piece.isBare_plain.mp bare).2.2.2.2.1
  refine .bare (.plain '?' :: .plain c :: chunk) whole ?_ ?_ ?_
  · rw [split, behind]
    rfl
  · exact List.forall_mem_cons.mpr ⟨rfl, List.forall_mem_cons.mpr ⟨bare, own⟩⟩
  · rw [split]
    exact simple_of_second (by simpa using named) (by simpa using angle)

theorem readNamed_fares (alphabet : Alphabet) {input opened : Input}
    (first : input.rest = .plain '?' :: .plain 'P' :: opened.rest) :
    Ensures (readNamed opened) fun (lexeme, after) => Fares input lexeme after := by
  refine (readNamed_opens alphabet first).mono fun (lexeme, after) opens => ?_
  have other {c : Char} {rest : List Piece} (split : input.rest = .plain '?' :: .plain c :: rest) :
      c = 'P' := by
    cases first.symm.trans split
    rfl
  cases opens with
  | group simple => exact absurd (by rw [first]; rfl) simple
  | @named pieces _ split identifier =>
    obtain ⟨plain, free⟩ := Names.free (.inl identifier)
    generalize pieces.flatMap Piece.text = name at plain identifier ⊢
    subst plain
    cases seen : name.all isWordChar with
    | true =>
      have some : name ≠ [] := ne_nil_of_identifier identifier
      refine .kept (by simp [isCorrupted, seen]) (.name some (List.all_eq_true.mp seen)) ?_
      simp [split]
    | false =>
      have absent : '>' ∉ name := not_mem_identifier identifier '>' (by simp)
      refine .unseen (by simp [isCorrupted, seen]) split ?_
      rw [split]
      exact simple_of_name absent seen
  | @reference pieces _ split identifier =>
    obtain ⟨-, free⟩ := Names.free (.inl identifier)
    refine .named (.plain '?' :: .plain 'P' :: .plain '=' :: pieces) rfl ?_ ?_
    · simp [split]
    · simpa using ⟨rfl, rfl, rfl, free⟩
  | comment split => cases other split
  | condition split => cases other split
  | kind split distinct => exact absurd (other split) distinct.2.2
  | flags letters split all _ some =>
    cases letters with
    | nil =>
      cases some rfl
      cases other split
    | cons c letters =>
      cases other split
      cases all 'P' List.mem_cons_self

theorem readBehind_fares {input opened : Input}
    (first : input.rest = .plain '?' :: .plain '<' :: opened.rest) :
    Ensures (readBehind opened) fun (lexeme, after) => Fares input lexeme after := by
  refine opened.take_takes.bind fun (piece?, after) takes => ?_
  cases piece? with
  | none => exact .error
  | some piece =>
    have takes : opened.rest = piece :: after.rest := takes
    dsimp only
    split
    · exact .ok (.kept rfl (.behind (.inl rfl)) (by rw [first, takes]; rfl))
    · exact .ok (.kept rfl (.behind (.inr rfl)) (by rw [first, takes]; rfl))
    · exact .error

theorem readOpening_fares (alphabet : Alphabet) (start : Nat) {input : Input}
    (closed : .dangling ∉ input.rest) : Ensures (readOpening alphabet start input)
      fun (lexeme, after) => (∀ name, lexeme = .opening (.condition name) → Names name) →
        Fares input lexeme after := by
  refine (input.accept_accepts '?').bind fun (question, opened) atQuestion => ?_
  cases question with
  | false =>
    obtain ⟨rfl, simple⟩ := atQuestion
    exact .ok fun _ => .bare [] rfl rfl nofun (simple_of_head simple)
  | true =>
    have atQuestion : input.rest = .plain '?' :: opened.rest := atQuestion
    simp only [Bool.not_true, Bool.false_eq_true, if_false]
    refine opened.take_takes.bind fun (piece?, middle) takes => ?_
    cases piece? with
    | none => exact .error
    | some piece =>
      have first : input.rest = .plain '?' :: piece :: middle.rest := by
        rw [atQuestion, show opened.rest = piece :: middle.rest from takes]
      have closed : .dangling ∉ middle.rest := fun member => closed (by simp [first, member])
      have single {lexeme : Lexeme} {c : Char} (whole : lexeme.isCorrupted = false)
          (bare : (Piece.plain c).isBare = true) (named : c ≠ 'P') (same : piece = .plain c) :
          Fares input lexeme middle := by
        subst same
        have angle : c ≠ '<' := (Piece.isBare_plain.mp bare).2.2.2.2.1
        refine .bare [.plain '?', .plain c] whole first (by simp [bare]; rfl) ?_
        rw [first]
        exact simple_of_second (by simpa using named) (by simpa using angle)
      dsimp only
      split
      · exact (readNamed_fares alphabet first).mono fun _ fares _ => fares
      · exact .ok fun _ => single rfl rfl (by decide) rfl
      · refine (Input.skipPast_reads ')' _ middle.rest).bind fun (found, after) reads => ?_
        cases found with
        | false => exact .error
        | true =>
          obtain ⟨body, split, absent⟩ := reads
          exact .ok fun _ => .comment (by rw [first, split]) absent
      · exact .ok fun _ => single rfl rfl (by decide) rfl
      · exact .ok fun _ => single rfl rfl (by decide) rfl
      · exact (readBehind_fares first).mono fun _ fares _ => fares
      · refine (middle.takeUntil_reads ')' _).bind
          fun (name, after) ⟨pieces, split, _, same, _⟩ => .ok fun names => ?_
        subst same
        obtain ⟨-, free⟩ := (names _ rfl).free
        refine .named (.plain '?' :: .plain '(' :: pieces) rfl ?_ ?_
        · rw [first, split]
          rfl
        · simpa using ⟨rfl, rfl, free⟩
      · exact .ok fun _ => .atomic first
      · exact (readFlags_fares alphabet none first (by decide) rfl closed).mono fun _ fares _ => fares
      · split
        · next flag found =>
          obtain ⟨c, rfl, letter⟩ := letter_of_flagOf? found
          have named : c ≠ 'P' := by
            rintro rfl
            cases letter
          exact (readFlags_fares alphabet (some flag) first named (isBare_of_letter letter)
            closed).mono fun _ fares _ => fares
        · exact .error

end Lexeme

theorem Input.skipPast_whole {last : Char} {rest : List Piece} (absent : .plain last ∉ rest)
    (closed : .dangling ∉ rest) (position : Nat) :
    ∃ place, skipPast last position rest = .ok (false, ⟨place, []⟩) := by
  induction rest generalizing position with
  | nil => exact ⟨position, rfl⟩
  | cons piece rest ih =>
    rw [List.mem_cons, not_or] at absent closed
    have more : rest ≠ [.dangling] := by
      rintro rfl
      exact closed.2 List.mem_cons_self
    obtain ⟨place, skipped⟩ := ih absent.2 closed.2 (position + piece.length)
    exact ⟨place, by rw [skipPast, goTo, if_neg more, ok_bind, if_neg (Ne.symm absent.1), skipped]⟩

namespace Parser

def atMarkup (parser : Parser) : Bool :=
  parser.input.rest.head?.any Piece.isMarkup

variable {alphabet : Alphabet} {p q : Parser} {lexeme : Lexeme} {after : Input}

theorem entity?_of_not_atMarkup (plain : p.atMarkup = false) {piece : Piece} {rest : List Piece}
    (head : p.input.rest = piece :: rest) : piece.entity? = none :=
  Piece.entity?_eq_none (by simpa [atMarkup, head] using plain)

theorem Reads.copied (reads : p.Reads alphabet lexeme after) (closed : .dangling ∉ p.input.rest)
    (mode : q.level.verbose = p.level.verbose)
    (comment : ¬(p.level.verbose = true ∧ p.input.rest.head? = some (.plain '#')))
    (chunk : List Piece) {t : List Piece} (split : p.input.rest = chunk ++ after.rest)
    (there : q.input.rest = chunk ++ t) (marked : Marked after.rest t) :
    ∃ after', q.Reads alphabet lexeme after' ∧ Marked after.rest after'.rest := by
  have locally (piece : Piece) (start start' : Nat) (input : Input)
      (head : p.input.rest.head? = some piece) : Local (fun _ => true) input
        (Lexeme.read alphabet p.level.verbose piece start input)
        fun _ twin => Lexeme.read alphabet p.level.verbose piece start' twin :=
    Lexeme.read_local alphabet start start' fun ⟨verbose, same⟩ => comment ⟨verbose, same ▸ head⟩
  obtain ⟨piece, pieces, split', -, -, again⟩ := reads.again (.of_not_mem closed) locally
  have same : chunk = piece :: pieces :=
    List.append_cancel_right (split.symm.trans split')
  subst same
  have closed' : .dangling ∉ after.rest := fun member => closed (split ▸ List.mem_append_right _ member)
  obtain ⟨after', reads', rest⟩ := again q t mode there (marked.resembles closed')
  exact ⟨after', reads', rest ▸ marked⟩

theorem Reads.comment_marked (reads : p.Reads alphabet lexeme after)
    (closed : .dangling ∉ p.input.rest) (marked : Marked p.input.rest q.input.rest)
    (mode : q.level.verbose = p.level.verbose) (verbose : p.level.verbose = true)
    (starts : p.input.rest.head? = some (.plain '#')) :
    lexeme = .blank ∧ ∃ after', q.Reads alphabet lexeme after' ∧ Marked after.rest after'.rest := by
  obtain ⟨rest, head⟩ := List.head?_eq_some_iff.mp starts
  obtain ⟨rfl, spot⟩ := reads.of_comment verbose head
  refine ⟨rfl, ?_⟩
  rw [head] at closed marked
  obtain ⟨t, there, onward⟩ := marked.uncons rfl (by decide)
  have closed : .dangling ∉ rest := fun member => closed (List.mem_cons_of_mem _ member)
  have closed' : .dangling ∉ t := onward.closed closed
  have more : t ≠ [.dangling] := fun same => closed' (same ▸ List.mem_singleton_self _)
  have bounds : Bounds '\n' := by simp [Bounds]
  rw [verbose] at mode
  rcases spot with ⟨body, rfl, absent⟩ | ⟨absent, none⟩
  · obtain ⟨body', t', rfl, within, behind⟩ := onward.behind bounds (by decide)
    have last : t' ≠ [.dangling] := by
      rintro rfl
      exact closed' (by simp)
    obtain ⟨place, again⟩ :=
      Input.skipPast_body (within.not_mem bounds absent) last (q.input.position + 1)
    exact ⟨⟨place, t'⟩, reads_comment mode there more again, behind⟩
  · obtain ⟨place, again⟩ :=
      Input.skipPast_whole (onward.not_mem bounds absent) closed' (q.input.position + 1)
    refine ⟨⟨place, []⟩, reads_comment mode there more again, ?_⟩
    rw [none]
    exact .nil

theorem Reads.parenthesized_marked {body t : List Piece}
    (closed : .dangling ∉ after.rest) (there : q.input.rest = .plain '(' :: t)
    (marked : Marked (.plain '?' :: .plain '#' :: (body ++ .plain ')' :: after.rest)) t)
    (absent : .plain ')' ∉ body) :
    ∃ after', q.Reads alphabet .blank after' ∧ Marked after.rest after'.rest := by
  obtain ⟨_, rfl, onward⟩ := marked.uncons rfl (by decide)
  obtain ⟨_, rfl, within⟩ := onward.uncons rfl (by decide)
  have bounds : Bounds ')' := by simp [Bounds]
  obtain ⟨body', t', rfl, within, rest⟩ := within.behind bounds (by decide)
  have last : t' ≠ [.dangling] := by
    rintro rfl
    exact rest.closed closed (by simp)
  let behind : Input := ⟨q.input.position + 1, .plain '?' :: .plain '#' :: (body' ++ .plain ')' :: t')⟩
  obtain ⟨place, read⟩ := Lexeme.readOpening_of_comment alphabet q.input.position
    (within.not_mem bounds absent) last (rfl : behind.rest = _)
  have more : behind.rest ≠ [.dangling] := by simp [behind]
  refine ⟨⟨place, t'⟩, ⟨_, _, behind, there, by decide, by decide, if_neg more, ?_⟩, rest⟩
  rw [Lexeme.read_parenthesis]
  exact read

theorem stuck_of_readOpening {rest : List Piece} (head : q.input.rest = .plain '(' :: rest)
    (never : ∀ start input, input.rest = rest →
      Ensures (Lexeme.readOpening alphabet start input) fun _ => False) :
    ∃ failure, q.step alphabet = .error failure := by
  have stuck : Ensures (q.step alphabet) fun _ => False := by
    rw [step_lexeme alphabet head nofun nofun]
    refine Ensures.bind (?_ : Ensures _ fun _ => False) fun _ => False.elim
    refine (Input.goTo_rest _ rest).bind fun input same => ?_
    rw [Lexeme.read_parenthesis]
    exact (never _ input same).bind fun _ => False.elim
  cases taken : q.step alphabet with
  | error failure => exact ⟨failure, rfl⟩
  | ok next => exact (stuck next taken).elim

/-- An opening is read in both texts, or it is corrupted and stops the second parser. -/
theorem Reads.opening_marked (reads : p.Reads alphabet lexeme after)
    (closed : .dangling ∉ p.input.rest) (marked : Marked p.input.rest q.input.rest)
    (mode : q.level.verbose = p.level.verbose) {s : List Piece}
    (starts : p.input.rest = .plain '(' :: s) {input : Input} (behind : input.rest = s)
    (fares : Lexeme.Fares input lexeme after) :
    (lexeme.isCorrupted = true ∧ ∃ failure, q.step alphabet = .error failure) ∨
      lexeme.isCorrupted = false ∧
        ∃ after', q.Reads alphabet lexeme after' ∧ Marked after.rest after'.rest := by
  have comment : ¬(p.level.verbose = true ∧ p.input.rest.head? = some (.plain '#')) := by
    simp [starts]
  have again (chunk : List Piece) {t : List Piece} (split : s = chunk ++ after.rest)
      (there : q.input.rest = .plain '(' :: (chunk ++ t)) (rest : Marked after.rest t) :
      ∃ after', q.Reads alphabet lexeme after' ∧ Marked after.rest after'.rest :=
    reads.copied closed mode comment (.plain '(' :: chunk) (by rw [starts, split]; rfl)
      there rest
  rw [starts] at marked closed
  subst behind
  -- The cases are what an opening may look like. Two of them go on with an angle bracket, whose
  -- entity no opening goes on with.
  cases fares with
  | bare _ whole split bare simple =>
    obtain ⟨_, there, onward⟩ := marked.of_simple simple
    rw [split] at onward
    obtain ⟨t, rfl, rest⟩ := onward.bare bare
    exact .inr ⟨whole, again _ split there rest⟩
  | kept whole kept split =>
    rw [split] at marked
    obtain ⟨t, there, rest⟩ := marked.of_kept kept
    exact .inr ⟨whole, again _ split there rest⟩
  | named chunk whole split free =>
    have bounds : Bounds ')' := by simp [Bounds]
    obtain ⟨_, there, onward⟩ := marked.of_simple (split ▸ Marked.simple_of_free free bounds)
    rw [split] at onward
    obtain ⟨t, rfl, rest⟩ := onward.through free bounds (by decide)
    refine .inr ⟨whole, again (chunk ++ [.plain ')']) ?_ ?_ rest⟩
    · rw [split, List.append_assoc]
      rfl
    · rw [there, List.append_assoc]
      rfl
  | comment split absent =>
    obtain ⟨_, there, onward⟩ :=
      marked.of_simple (split ▸ simple_of_second (by decide) (by decide))
    rw [split] at onward
    have closed' : .dangling ∉ after.rest := fun member => closed (by simp [split, member])
    exact .inr ⟨rfl, Reads.parenthesized_marked closed' there onward absent⟩
  | atomic split =>
    obtain ⟨_, there, onward⟩ :=
      marked.of_simple (split ▸ simple_of_second (by decide) (by decide))
    rw [split] at onward
    obtain ⟨_, rfl, behind⟩ := onward.uncons rfl (by decide)
    obtain ⟨_, rfl, -⟩ := behind.of_entity (rfl : _ = some "&gt;".toList)
    exact .inl ⟨rfl, stuck_of_readOpening there fun _ _ same =>
      Lexeme.readOpening_of_entity alphabet _ same⟩
  | unseen corrupted split simple =>
    obtain ⟨_, there, onward⟩ := marked.of_simple simple
    rw [split] at onward
    obtain ⟨_, rfl, behind⟩ := onward.uncons rfl (by decide)
    obtain ⟨_, rfl, angle⟩ := behind.uncons rfl (by decide)
    obtain ⟨_, rfl, -⟩ := angle.of_entity (rfl : _ = some "&lt;".toList)
    exact .inl ⟨corrupted, stuck_of_readOpening there fun _ _ same =>
      Lexeme.readOpening_of_entityName alphabet _ same⟩

def taken (parser : Parser) (after : Input) : List Piece :=
  parser.input.rest.take (parser.input.rest.length - after.rest.length)

theorem taken_eq {chunk : List Piece} (split : p.input.rest = chunk ++ after.rest) :
    p.taken after = chunk := by
  rw [taken, split]
  simp

theorem Reads.set_marked (reads : p.Reads alphabet lexeme after)
    (closed : .dangling ∉ p.input.rest) (marked : Marked p.input.rest q.input.rest)
    (mode : q.level.verbose = p.level.verbose)
    (starts : p.input.rest.head? = some (.plain '['))
    (plain : ∀ piece ∈ p.taken after, piece.isMarkup = false) :
    lexeme.isCorrupted = false ∧
      ∃ after', q.Reads alphabet lexeme after' ∧ Marked after.rest after'.rest := by
  have comment : ¬(p.level.verbose = true ∧ p.input.rest.head? = some (.plain '#')) := by
    simp [starts]
  have closes : lexeme.Inert ∧ ∃ members, p.input.rest = members ++ .plain ']' :: after.rest := by
    obtain ⟨piece, rest, input, head, -, -, moved, read⟩ := reads
    rw [head] at starts
    cases starts
    have same : input.rest = rest := Input.goTo_rest _ _ input moved
    rw [Lexeme.read_bracket] at read
    obtain ⟨-, inert, closes⟩ := Lexeme.readSet_closes alphabet _ input _ read
    refine ⟨inert, ?_⟩
    rw [head, ← same]
    rcases closes with ⟨⟨members, split, -⟩, -⟩ | ⟨middle, caret, members, split, -⟩
    · exact ⟨.plain '[' :: members, by rw [split]; rfl⟩
    · exact ⟨.plain '[' :: .plain '^' :: members, by rw [caret, split]; rfl⟩
  obtain ⟨inert, members, split⟩ := closes
  have split' : p.input.rest = (members ++ [.plain ']']) ++ after.rest := by
    rw [split, List.append_assoc]
    rfl
  rw [taken_eq split'] at plain
  have free : ∀ piece ∈ members, piece.entity? = none := fun piece member =>
    Piece.entity?_eq_none (plain piece (List.mem_append_left _ member))
  rw [split] at marked
  obtain ⟨t, there, rest⟩ := marked.through free (by simp [Bounds]) (by decide)
  refine ⟨inert.not_corrupted, reads.copied closed mode comment _ split' ?_ rest⟩
  rw [there, List.append_assoc]
  rfl

/-- The second parser reads the lexeme that the first one reads, unless the lexeme is corrupted, which
stops it. -/
theorem Reads.marked (reads : p.Reads alphabet lexeme after)
    (closed : .dangling ∉ p.input.rest) (marked : Marked p.input.rest q.input.rest)
    (mode : q.level.verbose = p.level.verbose) (plain : p.atMarkup = false)
    (sets : p.input.rest.head? = some (.plain '[') →
      ∀ piece ∈ p.taken after, piece.isMarkup = false)
    (names : ∀ name, lexeme = .opening (.condition name) → Lexeme.Names name) :
    (lexeme.isCorrupted = true ∧ ∃ failure, q.step alphabet = .error failure) ∨
      lexeme.isCorrupted = false ∧
        ∃ after', q.Reads alphabet lexeme after' ∧ Marked after.rest after'.rest := by
  by_cases comment : p.level.verbose = true ∧ p.input.rest.head? = some (.plain '#')
  · obtain ⟨rfl, again⟩ := reads.comment_marked closed marked mode comment.1 comment.2
    exact .inr ⟨rfl, again⟩
  by_cases bracket : p.input.rest.head? = some (.plain '[')
  · exact .inr (reads.set_marked closed marked mode bracket (sets bracket))
  obtain ⟨piece, rest, input, head, closing, bar, moved, read⟩ := id reads
  have same : input.rest = rest := Input.goTo_rest _ _ input moved
  by_cases parenthesis : piece = .plain '('
  · subst parenthesis
    rw [Lexeme.read_parenthesis] at read
    have closed' : .dangling ∉ input.rest := fun member => closed (by simp [head, ← same, member])
    exact reads.opening_marked closed marked mode head same
      (Lexeme.readOpening_fares alphabet _ closed' _ read names)
  · have locally (other : Piece) (start start' : Nat) (input : Input)
        (first : p.input.rest.head? = some other) : Local Piece.isBare input
          (Lexeme.read alphabet p.level.verbose other start input)
          fun _ twin => Lexeme.read alphabet p.level.verbose other start' twin := by
      have here : other = piece := by simpa [head, eq_comm] using first
      refine Lexeme.read_bare alphabet start start' (here ▸ parenthesis) ?_ ?_
      · rintro rfl
        exact bracket first
      · rintro ⟨verbose, rfl⟩
        exact comment ⟨verbose, first⟩
    obtain ⟨first, pieces, split, -, bare, -⟩ := reads.again (.of_not_mem closed) locally
    have here : first = piece := (List.cons.inj (split.symm.trans head)).1
    subst here
    have none := entity?_of_not_atMarkup plain split
    rw [split] at marked
    obtain ⟨_, there, onward⟩ := marked.uncons none parenthesis
    obtain ⟨t, rfl, behind⟩ := onward.bare bare
    refine .inr ⟨?_, reads.copied closed mode comment (first :: pieces) split there behind⟩
    rcases (Lexeme.read_verbose alphabet _ first _ input _ read).2 with consumes | ⟨-, rfl, -⟩
    · cases consumes with
      | opens => exact absurd rfl parenthesis
      | set inert => exact inert.not_corrupted
      | skips _ _ _ inert => exact inert.not_corrupted
    · rfl

end Parser

namespace Lexeme

theorem read_of_markup (alphabet : Alphabet) {piece : Piece} (markup : piece.isMarkup = true) :
    ∃ code, ∀ verbose start input,
      read alphabet verbose piece start input = .ok (.item (.char code), input) := by
  have three {c : Char} (markup : (RuleLexer.entity? c).isSome = true) :
      c = '&' ∨ c = '<' ∨ c = '>' := by
    unfold RuleLexer.entity? at markup
    split at markup <;> simp_all
  cases piece with
  | plain c =>
    refine ⟨c.toNat, fun verbose start input => ?_⟩
    rcases three markup with rfl | rfl | rfl <;> cases verbose <;> rfl
  | escaped c =>
    refine ⟨c.toNat, fun verbose start input => ?_⟩
    rcases three markup with rfl | rfl | rfl <;> cases alphabet <;> rfl
  | dangling => cases markup

theorem read_of_entity (alphabet : Alphabet) {c : Char} {entity : List Char}
    (found : RuleLexer.entity? c = some entity) : ∀ d ∈ entity, d ≠ ')' ∧ d ≠ '|' ∧
      ∀ verbose start input,
        read alphabet verbose (.plain d) start input = .ok (.item (.char d.toNat), input) := by
  have each : entity.all (fun d => !isVerboseBlank d && d != '#') = true := by
    unfold RuleLexer.entity? at found
    split at found <;> cases found <;> rfl
  intro d member
  have ordinary := ordinary_of_entity? found d member
  refine ⟨ne_of_ordinary ordinary (by decide), ne_of_ordinary ordinary (by decide),
    fun verbose start input => ?_⟩
  have plainly := readPlain_of_ordinary ordinary alphabet start input
  cases verbose with
  | false => exact plainly
  | true =>
    obtain ⟨blank, hash⟩ : isVerboseBlank d = false ∧ d ≠ '#' := by
      simpa using List.all_eq_true.mp each d member
    show readPlain alphabet true d start input = _
    unfold readPlain at plainly ⊢
    rw [blank, beq_false_of_ne hash]
    exact plainly

end Lexeme

namespace Parser

variable {alphabet : Alphabet} {p q : Parser} {lexeme : Lexeme} {after : Input}

theorem Reads.of_atMarkup (reads : p.Reads alphabet lexeme after) (markup : p.atMarkup = true) :
    ∃ piece, p.input.rest = piece :: after.rest ∧ piece.isMarkup = true ∧
      ∃ code, lexeme = .item (.char code) := by
  obtain ⟨piece, rest, input, head, -, -, moved, read⟩ := reads
  have markup : piece.isMarkup = true := by simpa [atMarkup, head] using markup
  obtain ⟨code, alone⟩ := Lexeme.read_of_markup alphabet markup
  rw [alone] at read
  cases read
  refine ⟨piece, ?_, markup, code, rfl⟩
  rw [head, Input.goTo_rest _ _ _ moved]

theorem parse_characters {cs : List Char} {t : List Piece}
    (characters : ∀ d ∈ cs, d ≠ ')' ∧ d ≠ '|' ∧ ∀ verbose start input,
      Lexeme.read .text verbose (.plain d) start input = .ok (.item (.char d.toNat), input))
    (text : q.input.rest = cs.map .plain ++ t) (closed : .dangling ∉ t) :
    ∃ place, q.parse .text = Parser.parse .text { q with
      input := ⟨place, t⟩
      level := { q.level with
        items := (cs.map fun c => Regex.char c.toNat).reverse ++ q.level.items } } := by
  induction cs generalizing q with
  | nil =>
    refine ⟨q.input.position, ?_⟩
    have text : q.input.rest = t := text
    rw [← text]
    rfl
  | cons d cs ih =>
    obtain ⟨⟨closing, bar, read⟩, characters⟩ := List.forall_mem_cons.mp characters
    have onward : cs.map Piece.plain ++ t ≠ [.dangling] := by
      cases cs with
      | nil =>
        rintro rfl
        exact closed List.mem_cons_self
      | cons => simp
    obtain ⟨place, parses⟩ := ih (q := { q with
      input := ⟨q.input.position + 1, cs.map .plain ++ t⟩
      level := q.level.push (.char d.toNat) }) characters rfl
    refine ⟨place, ?_⟩
    rw [SpellsOut.parse_character text onward (by simpa using closing) (by simpa using bar)
      fun start input _ => read q.level.verbose start input]
    refine parses.trans ?_
    simp [Level.push]

end Parser

end RuleLexer
