import RuleLexer.Proofs.Regex.Beside
import RuleLexer.Proofs.Rule.Embedding
import RuleLexer.Source.Normal

namespace RuleLexer

namespace Lexeme

variable {entries : List (Flag × Char)} {stop : Char} {rest : List Piece}

theorem ne_mark_of_letter {c : Char} {flag : Flag} (letter : Flag.ofLetter? c = some flag) :
    c ≠ ')' ∧ c ≠ '-' ∧ c ≠ ':' := by
  refine ⟨?_, ?_, ?_⟩ <;>
  · rintro rfl
    cases letter

theorem turnedOn_reads (letters : ∀ entry ∈ entries, Flag.ofLetter? entry.2 = some entry.1)
    (mark : stop = ')' ∨ stop = ':') (fuel : Nat) (flag : Flag) (flags : Flags) {input : Input}
    (text : input.rest = entries.map (fun entry => .plain entry.2) ++ .plain stop :: rest) :
    Ensures (turnedOn .text fuel flag flags input) fun ((on, stop'), after) =>
      on = (entries.map Prod.fst).foldl Flags.insert (flags.insert flag) ∧ stop' = stop ∧
        after.rest = rest := by
  induction entries generalizing fuel flag flags input with
  | nil =>
    cases fuel with
    | zero => exact .error
    | succ fuel =>
      cases suited : suits .text flag flags with
      | false => exact (turnedOn_never suited _ input).mono fun _ => False.elim
      | true =>
        rw [turnedOn_succ suited, Input.take_bind text]
        refine (Input.goTo_rest _ rest).bind fun after same => ?_
        rcases mark with rfl | rfl
        · exact .ok ⟨rfl, rfl, same⟩
        · exact .ok ⟨rfl, rfl, same⟩
  | cons entry entries ih =>
    obtain ⟨letter, letters⟩ := List.forall_mem_cons.mp letters
    cases fuel with
    | zero => exact .error
    | succ fuel =>
      cases suited : suits .text flag flags with
      | false => exact (turnedOn_never suited _ input).mono fun _ => False.elim
      | true =>
        rw [turnedOn_succ suited, Input.take_bind text]
        refine (Input.goTo_rest _ _).bind fun after same => ?_
        obtain ⟨closing, minus, colon⟩ := ne_mark_of_letter letter
        have found : flagOf? (.plain entry.2) = some entry.1 := letter
        dsimp only
        rw [if_neg (by simpa using closing), if_neg (by simpa using minus),
          if_neg (by simpa using colon), found]
        exact ih letters fuel entry.1 _ same

theorem suits_of_ordinary {flag : Flag} (ordinary : flag.isCharacterType = false) (flags : Flags) :
    suits .text flag flags = true := by
  cases flag <;> first | rfl | cases ordinary

theorem turnedOn_total (letters : ∀ entry ∈ entries, Flag.ofLetter? entry.2 = some entry.1)
    (ordinary : ∀ entry ∈ entries, entry.1.isCharacterType = false) (more : rest ≠ [.dangling])
    {fuel : Nat} (enough : entries.length < fuel) {flag : Flag} {flags : Flags}
    (suited : suits .text flag flags = true) {input : Input}
    (text : input.rest = entries.map (fun entry => .plain entry.2) ++ .plain ':' :: rest) :
    ∃ result, turnedOn .text fuel flag flags input = .ok result := by
  induction entries generalizing fuel flag flags input with
  | nil =>
    obtain ⟨fuel, rfl⟩ := Nat.exists_eq_add_one.mpr enough
    refine ⟨((flags.insert flag, ':'), ⟨input.position + 1, rest⟩), ?_⟩
    rw [turnedOn_succ suited, Input.take_bind text, Input.goTo, if_neg more]
    rfl
  | cons entry entries ih =>
    obtain ⟨letter, letters⟩ := List.forall_mem_cons.mp letters
    obtain ⟨first, ordinary⟩ := List.forall_mem_cons.mp ordinary
    obtain ⟨fuel, rfl⟩ := Nat.exists_eq_add_one.mpr (Nat.zero_lt_of_lt enough)
    let behind : List Piece := entries.map (fun entry => .plain entry.2) ++ .plain ':' :: rest
    have text : input.rest = .plain entry.2 :: behind := text
    have onward : behind ≠ [.dangling] := by
      cases entries <;> simp [behind]
    obtain ⟨closing, minus, colon⟩ := ne_mark_of_letter letter
    have found : flagOf? (.plain entry.2) = some entry.1 := letter
    rw [turnedOn_succ suited, Input.take_bind text, Input.goTo, if_neg onward, ok_bind]
    dsimp only
    rw [if_neg (by simpa using closing), if_neg (by simpa using minus),
      if_neg (by simpa using colon), found]
    exact ih letters ordinary (Nat.lt_of_succ_lt_succ enough) (suits_of_ordinary first _) rfl

theorem readExtension_letter (start : Nat) {c : Char} {flag : Flag}
    (letter : Flag.ofLetter? c = some flag) {input : Input} {rest : List Piece}
    (text : input.rest = .plain c :: rest) : readExtension .text start input =
      Input.goTo (input.position + 1) rest >>= fun after =>
        turnedOn .text (after.rest.length + 1) flag .none after >>= fun ((on, stop), after) =>
          flagGroup on stop after := by
  rw [readExtension, Input.take_bind text]
  refine bind_congr fun after => ?_
  unfold Flag.ofLetter? at letter
  split at letter
  iterate 8 cases letter; exact readFlags_some .text _ after
  cases letter

theorem read_flags {c : Char} {flag : Flag} (letter : Flag.ofLetter? c = some flag) (verbose : Bool)
    (start : Nat) {input : Input} {behind : List Piece} (more : behind ≠ [.dangling])
    (text : input.rest = .plain '?' :: .plain c :: behind) :
    ∃ middle, middle.rest = behind ∧ read .text verbose (.plain '(') start input =
      turnedOn .text (behind.length + 1) flag .none middle >>= fun ((on, stop), after) =>
        flagGroup on stop after := by
  have onward : Piece.plain c :: behind ≠ [.dangling] := nofun
  refine ⟨⟨input.position + 1 + 1, behind⟩, rfl, ?_⟩
  rw [read_parenthesis, readOpening_eq, Input.accept_of_plain onward text, ok_bind]
  show readExtension .text start _ = _
  rw [readExtension_letter start letter rfl, Input.goTo, if_neg more]
  rfl

theorem exists_entries {letters : List Char}
    (known : ∀ c ∈ letters, (Flag.ofLetter? c).isSome = true) :
    ∃ entries : List (Flag × Char), entries.map Prod.snd = letters ∧
      ∀ entry ∈ entries, Flag.ofLetter? entry.2 = some entry.1 := by
  induction letters with
  | nil => exact ⟨[], rfl, nofun⟩
  | cons c letters ih =>
    obtain ⟨first, known⟩ := List.forall_mem_cons.mp known
    obtain ⟨entries, rfl, letters⟩ := ih known
    obtain ⟨flag, letter⟩ := Option.isSome_iff_exists.mp first
    exact ⟨(flag, c) :: entries, rfl, List.forall_mem_cons.mpr ⟨letter, letters⟩⟩

theorem letters_ne_dangling (entries : List (Flag × Char)) (stop : Char) (rest : List Piece) :
    entries.map (fun entry => Piece.plain entry.2) ++ .plain stop :: rest ≠ [.dangling] := by
  cases entries <;> simp

theorem read_globalFlags {letters : List Char} (some : letters ≠ [])
    (known : ∀ c ∈ letters, (Flag.ofLetter? c).isSome = true) (verbose : Bool) (start : Nat)
    {input : Input}
    (text : input.rest = .plain '?' :: (letters.map .plain ++ .plain ')' :: rest)) :
    Ensures (read .text verbose (.plain '(') start input) fun (lexeme, after) =>
      (∃ on, lexeme = .globalFlags on) ∧ after.rest = rest := by
  obtain ⟨entries, rfl, letters⟩ := exists_entries known
  obtain ⟨entry, entries, rfl⟩ := List.exists_cons_of_ne_nil fun none : entries = [] =>
    some (by rw [none]; rfl)
  obtain ⟨letter, letters⟩ := List.forall_mem_cons.mp letters
  rw [List.map_map] at text
  obtain ⟨middle, behind, same⟩ :=
    read_flags letter verbose start (letters_ne_dangling entries ')' rest) text
  rw [same]
  refine (turnedOn_reads letters (.inl rfl) _ _ _ behind).bind ?_
  rintro ⟨⟨on, stop⟩, after⟩ ⟨-, rfl, last⟩
  exact .ok ⟨⟨on, rfl⟩, last⟩

theorem scopedFlags_letters : ∀ entry ∈ Normal.scopedFlags,
    Flag.ofLetter? entry.2 = some entry.1 ∧ suits .text entry.1 .none = true := by
  decide

theorem meets_none (flags : Flags) : flags.meets .none = false := by
  simp [Flags.meets, Flags.none]

theorem flagGroup_scoped {on : Flags} (known : ∀ flag, on.has flag = true →
    flag ∈ Normal.scopedFlags.map Prod.fst) (input : Input) :
    flagGroup on ':' input = .ok (.opening (.scoped on .none), input) := by
  have foreign (flag : Flag) (other : flag ∉ Normal.scopedFlags.map Prod.fst) :
      on.has flag = false := Bool.eq_false_iff.mpr fun has => other (known flag has)
  have none (flag : Flag) : Flags.none.has flag = false := by cases flag <;> rfl
  unfold flagGroup scopedFlags
  rw [foreign .template (by decide), foreign .debug (by decide), none .template, none .debug,
    meets_none]
  rfl

theorem read_scoped (flags : Flags) (some : Normal.flagLetters flags ≠ [])
    (more : rest ≠ [.dangling]) (start : Nat) {input : Input}
    (text : input.rest =
      .plain '?' :: ((Normal.flagLetters flags).map .plain ++ .plain ':' :: rest)) :
    ∃ on after, read .text false (.plain '(') start input = .ok (.opening (.scoped on .none), after) ∧
      after.rest = rest ∧ ∀ flag, on.has flag = true ↔
        flag ∈ Normal.scopedFlags.map Prod.fst ∧ flags.has flag = true := by
  let all := Normal.scopedFlags.filter fun entry => flags.has entry.1
  have chosen (flag : Flag) : flag ∈ all.map Prod.fst ↔
      flag ∈ Normal.scopedFlags.map Prod.fst ∧ flags.has flag = true := by
    simp only [all, List.mem_map, List.mem_filter]
    constructor
    · rintro ⟨entry, ⟨member, has⟩, rfl⟩
      exact ⟨⟨entry, member, rfl⟩, has⟩
    · rintro ⟨⟨entry, member, rfl⟩, has⟩
      exact ⟨entry, ⟨member, has⟩, rfl⟩
  have sublist : all.Sublist Normal.scopedFlags := List.filter_sublist
  have written : Normal.flagLetters flags = all.map Prod.snd := rfl
  rw [written] at some text
  obtain ⟨entry, entries, split⟩ := List.exists_cons_of_ne_nil fun none : all = [] =>
    some (by rw [none]; rfl)
  rw [split] at sublist text chosen
  rw [List.map_map] at text
  obtain ⟨⟨letter, suited⟩, letters⟩ := List.forall_mem_cons.mp fun other here =>
    scopedFlags_letters other (sublist.subset here)
  have letters : ∀ other ∈ entries, Flag.ofLetter? other.2 = Option.some other.1 :=
    fun other here => (letters other here).1
  -- Only the first of the flags that a group can turn on chooses what letters are.
  have ordinary : ∀ other ∈ entries, other.1.isCharacterType = false := by
    have later : ∀ other ∈ Normal.scopedFlags.tail, other.1.isCharacterType = false := by decide
    exact fun other here => later other (sublist.tail.subset here)
  obtain ⟨middle, behind, same⟩ :=
    read_flags letter false start (letters_ne_dangling entries ':' rest) text
  have enough : entries.length < (entries.map (fun entry => Piece.plain entry.2) ++
      .plain ':' :: rest).length + 1 := by
    simp only [List.length_append, List.length_map]
    omega
  obtain ⟨⟨⟨on, stop⟩, after⟩, turned⟩ := turnedOn_total letters ordinary more enough suited behind
  obtain ⟨rfl, rfl, last⟩ := turnedOn_reads letters (.inr rfl) _ _ _ behind _ turned
  have has (flag : Flag) : ((entries.map Prod.fst).foldl Flags.insert
      (Flags.none.insert entry.1)).has flag = true ↔ flag ∈ (entry :: entries).map Prod.fst := by
    show (Flags.ofList ((entry :: entries).map Prod.fst)).has flag = true ↔ _
    exact Flags.has_ofList
  refine ⟨_, after, ?_, last, fun flag => (has flag).trans (chosen flag)⟩
  rw [same, turned]
  exact flagGroup_scoped (fun flag known => ((chosen flag).mp ((has flag).mp known)).1) after

end Lexeme

namespace Normal

variable {text rest : List Char}

theorem isSome_of_isFlagLetter {c : Char} (letter : isFlagLetter c = true) :
    (Flag.ofLetter? c).isSome = true ∧ c ≠ '\\' := by
  have known : ∀ d ∈ ['a', 'i', 'L', 'm', 's', 'u', 'x'],
      (Flag.ofLetter? d).isSome = true ∧ d ≠ '\\' := by
    simp [Flag.ofLetter?]
  have spelled : "aiLmsux".toList = ['a', 'i', 'L', 'm', 's', 'u', 'x'] := rfl
  rw [isFlagLetter, spelled] at letter
  exact known c (List.contains_iff_mem.mp letter)

theorem split_of_dropFlagGroup (dropped : dropFlagGroup text = some rest) :
    ∃ letters, letters ≠ [] ∧ (∀ c ∈ letters, (Flag.ofLetter? c).isSome = true) ∧
      Piece.split text = .plain '(' :: .plain '?' ::
        (letters.map .plain ++ .plain ')' :: Piece.split rest) := by
  unfold dropFlagGroup at dropped
  split at dropped
  · next behind =>
    have parts := List.takeWhile_append_dropWhile (p := isFlagLetter) (l := behind)
    have own (c : Char) (member : c ∈ behind.takeWhile isFlagLetter) : isFlagLetter c = true :=
      List.all_eq_true.mp List.all_takeWhile c member
    generalize behind.takeWhile isFlagLetter = letters at dropped parts own
    generalize behind.dropWhile isFlagLetter = later at dropped parts
    split at dropped
    · next letter letters after =>
      cases dropped
      refine ⟨letter :: letters, List.cons_ne_nil _ _,
        fun c member => (isSome_of_isFlagLetter (own c member)).1, ?_⟩
      have absent : '\\' ∉ letter :: letters := fun member =>
        (isSome_of_isFlagLetter (own _ member)).2 rfl
      rw [← parts, Piece.split_cons (by decide), Piece.split_cons (by decide),
        Piece.split_append absent, Piece.split_cons (by decide)]
    · cases dropped
  · cases dropped

variable {position : Nat} {flags : Flags} {stopped : Parser}

/-- The parser takes a group that is dropped, and then stands at the start of a pattern again. -/
theorem step_dropFlagGroup (dropped : dropFlagGroup text = some rest)
    (parsed : (Parser.start ⟨position, Piece.split text⟩ flags).parse .text = .ok stopped) :
    ∃ position' flags', (Parser.start ⟨position, Piece.split text⟩ flags).step .text =
      .ok (some (.start ⟨position', Piece.split rest⟩ flags')) := by
  obtain ⟨letters, some, known, split⟩ := split_of_dropFlagGroup dropped
  obtain ⟨next, lexeme, after, taken, reads, pushed⟩ :=
    Parser.lexeme_of_parse split (by decide) (by decide) parsed
  obtain ⟨piece, behind, input, head, -, -, moved, read⟩ := reads
  cases split.symm.trans head
  obtain ⟨⟨on, rfl⟩, left⟩ :=
    Lexeme.read_globalFlags some known _ _ (Input.goTo_rest _ _ input moved) _ read
  cases pushed
  obtain ⟨place, behind⟩ := after
  cases left
  exact ⟨place, _, taken⟩

theorem comes_dropFlagGroupsUpTo (count : Nat)
    (parsed : (Parser.start ⟨position, Piece.split text⟩ flags).parse .text = .ok stopped) :
    ∃ position' flags', (Parser.start ⟨position, Piece.split text⟩ flags).Comes .text
      (.start ⟨position', Piece.split (dropFlagGroupsUpTo count text)⟩ flags') := by
  induction count generalizing text position flags with
  | zero => exact ⟨position, flags, .refl⟩
  | succ count ih =>
    unfold dropFlagGroupsUpTo
    split
    · next rest dropped =>
      obtain ⟨place, turned, taken⟩ := step_dropFlagGroup dropped parsed
      have onward : (Parser.start ⟨place, Piece.split rest⟩ turned).parse .text = .ok stopped := by
        rw [Parser.parse_eq, taken] at parsed
        exact parsed
      obtain ⟨position', flags', comes⟩ := ih onward
      exact ⟨position', flags', .head taken comes⟩
    · exact ⟨position, flags, .refl⟩

end Normal

end RuleLexer
