import RuleLexer.Proofs.Regex.Locality

namespace RuleLexer

variable {α : Type}

def Piece.isBare : Piece → Bool
  | .plain c => c != '(' && c != '[' && c != '\\' && c != '&' && c != '<' && c != '>'
  | _ => false

theorem Piece.isBare_plain {c : Char} : (Piece.plain c).isBare = true ↔
    c ≠ '(' ∧ c ≠ '[' ∧ c ≠ '\\' ∧ c ≠ '&' ∧ c ≠ '<' ∧ c ≠ '>' := by
  simp [isBare, and_assoc]

namespace Escape

open Piece (isBare)

variable {input : Input}

theorem isBare_of_isNameChar {c : Char} (own : Text.isNameChar c = true) :
    (Piece.plain c).isBare = true := by
  refine Piece.isBare_plain.mpr ⟨?_, ?_, ?_, ?_, ?_, ?_⟩ <;>
  · rintro rfl
    cases own

theorem isBare_of_isHex {c : Char} (hex : isHex c = true) : (Piece.plain c).isBare = true :=
  isBare_of_isNameChar (isNameChar_of_isHex hex)

theorem isIdle_of_isHex {c : Char} (hex : isHex c = true) : (Piece.plain c).isIdle = false := by
  simp only [Piece.isIdle, Bool.or_eq_false_iff, decide_eq_false_iff_not]
  refine ⟨⟨⟨?_, ?_⟩, ?_⟩, ?_⟩ <;>
  · rintro rfl
    cases hex

theorem takeSome_local {test : Char → Bool} (hex : ∀ c, test c = true → isHex c = true)
    (count : Nat) : Local isBare input (input.takeSome test count)
      fun _ twin => twin.takeSome test count :=
  .takeSome (fun c holds => isBare_of_isHex (hex c holds))
    (fun c holds => isIdle_of_isHex (hex c holds)) count

theorem readHex_local (letter : Char) (count start start' : Nat) :
    Local isBare input (readHex letter count start input)
      fun _ twin => readHex letter count start' twin := by
  unfold readHex
  refine .bind (takeSome_local (fun _ => id) count) fun digits middle twin => ?_
  exact .ite (fun _ => .error) fun _ => .ite (fun _ => .error) fun _ => .ok _

theorem readName_local (start start' : Nat) :
    Local isBare input (readName start input) fun _ twin => readName start' twin := by
  have reads : Local (fun _ => true) input (readName start input) fun _ twin => readName start' twin := by
    unfold readName
    refine .bind (.accept rfl rfl) fun braced middle twin => ?_
    cases braced with
    | false => exact .error
    | true =>
      refine .bind (.takeUntil '\x7d' _) fun name after twin => ?_
      dsimp only
      split
      · exact .ok _
      · exact .error
  rintro sound ⟨code, after⟩ returned
  obtain ⟨sound, chunk, split, closed, -, repeats⟩ := reads sound _ returned
  refine ⟨sound, chunk, split, closed, ?_, repeats⟩
  -- What stands between the braces is known from the name.
  obtain ⟨name, own, whole⟩ := readName_reads start input _ returned
  have same : chunk ++ after.rest =
      .plain '\x7b' :: (name.map .plain ++ [.plain '\x7d']) ++ after.rest := by
    rw [← split, whole]
    simp
  intro piece member
  rw [List.append_cancel_right same] at member
  simp only [List.mem_cons, List.mem_append, List.mem_map, List.not_mem_nil, or_false] at member
  rcases member with rfl | ⟨c, member, rfl⟩ | rfl
  · rfl
  · exact isBare_of_isNameChar (own c member)
  · rfl

theorem code_local (alphabet : Alphabet) (letter : Char) (start start' : Nat)
    {next : Option (Nat × Input) → Except Rejection (α × Input)}
    {next' : Nat → Input → Option (Nat × Input) → Except Rejection (α × Input)}
    (found : ∀ code middle twin, Local isBare middle (next (some (code, middle)))
      fun fuel x => next' fuel twin (some (code, x)))
    (none : Local isBare input (next none) fun fuel twin => next' fuel twin none) :
    Local isBare input (readCode? alphabet letter start input >>= next)
      fun fuel twin => readCode? alphabet letter start' twin >>= next' fuel twin := by
  have given {read : Except Rejection (Nat × Input)} (next : Option (Nat × Input) →
      Except Rejection (α × Input)) : (some <$> read) >>= next = read >>= fun found => next (some found) := by
    cases read <;> rfl
  rcases readCode?_eq alphabet letter with ⟨count, hex⟩ | named | absent
  · simp only [hex, given]
    exact .bind (readHex_local letter count start start') fun code middle twin =>
      found code middle twin
  · simp only [named, given]
    exact .bind (readName_local start start') fun code middle twin => found code middle twin
  · simp only [absent]
    exact none

theorem readLiteral_eq {c : Char} {start code : Nat} (read : readLiteral c start = .ok code)
    (start' : Nat) : readLiteral c start' = .ok code := by
  unfold readLiteral at read ⊢
  split at read
  · cases read
  · next plain =>
    rw [if_neg plain]
    exact read

theorem octal_eq {digits : List Char} {start code : Nat} (read : octal digits start = .ok code)
    (start' : Nat) : octal digits start' = .ok code := by
  unfold octal at read ⊢
  split at read
  · cases read
  · next small =>
    rw [if_neg small]
    exact read

theorem readInSet_local (alphabet : Alphabet) (c : Char) (start start' : Nat) :
    Local isBare input (readInSet alphabet c start input)
      fun _ twin => readInSet alphabet c start' twin := by
  unfold readInSet
  refine .ite (fun _ => .ok _) fun _ => ?_
  cases control? c with
  | some code => exact .ok _
  | none =>
  cases category? c with
  | some item => exact .ok _
  | none =>
  refine code_local alphabet c start start' (fun code middle twin => .ok _) ?_
  refine .ite (fun _ => ?_) fun _ => ?_
  · refine .bind (takeSome_local (fun _ => isHex_of_isOctal) 2) fun digits middle twin => ?_
    exact .value (fun code read _ _ => octal_eq read start') fun code => .ok _
  · exact .value (fun code read _ _ => readLiteral_eq read start') fun code => .ok _

theorem takeSome_none (test : Char → Bool) (count : Nat) (input : Input) :
    Ensures (input.takeSome test count) fun (taken, after) => taken = [] → after = input := by
  cases count with
  | zero => exact .ok fun _ => rfl
  | succ count =>
    unfold Input.takeSome
    split
    · split
      · exact (Ensures.trivial _).bind fun _ _ => (Ensures.trivial _).bind fun _ _ => .ok nofun
      · exact .ok fun _ => rfl
    · exact .ok fun _ => rfl

def thirdDigit (c d : Char) (input : Input) : Except Rejection (List Char × Input) :=
  if isOctal c && isOctal d then input.takeSome isOctal 1 else .ok ([], input)

theorem thirdDigit_none (c d : Char) (input : Input) :
    Ensures (thirdDigit c d input) fun (third, after) => third = [] → after = input := by
  unfold thirdDigit
  split
  · exact takeSome_none _ _ _
  · exact .ok fun _ => rfl

theorem readNumber_eq (c : Char) (start : Nat) (input : Input) : readNumber c start input = (do
    let (second, input) ← input.takeSome Char.isDigit 1
    match second with
    | [d] =>
      let (third, input) ← thirdDigit c d input
      if third.isEmpty then .ok (.reference (number 10 [c, d]), input)
      else
        let code ← octal (c :: d :: third) start
        .ok (.item (.char code), input)
    | _ => .ok (.reference (number 10 [c]), input)) := by
  refine bind_congr fun (second, middle) => ?_
  -- With a third digit the number is that of a character, without one nothing more is taken.
  rcases second with _ | ⟨d, _ | ⟨e, more⟩⟩
  · rfl
  · have none := thirdDigit_none c d middle
    have same : (do
        let (third, after) ← thirdDigit c d middle
        if third.isEmpty then return (Meaning.reference (number 10 [c, d]), middle)
        let code ← octal (c :: d :: third) start
        return (.item (.char code), after)) = (do
        let (third, after) ← thirdDigit c d middle
        if third.isEmpty then .ok (.reference (number 10 [c, d]), after)
        else
          let code ← octal (c :: d :: third) start
          .ok (.item (.char code), after)) := by
      cases taken : thirdDigit c d middle with
      | error failure => rfl
      | ok result =>
        obtain ⟨third, after⟩ := result
        cases third with
        | nil =>
          rw [none _ taken rfl]
          rfl
        | cons digit third => rfl
    refine Eq.trans ?_ same
    rw [thirdDigit]
    dsimp only
    split <;> rfl
  · rfl

theorem readNumber_local (c : Char) (start start' : Nat) :
    Local isBare input (readNumber c start input) fun _ twin => readNumber c start' twin := by
  simp only [readNumber_eq]
  refine .bind (takeSome_local (fun _ => isHex_of_isDigit) 1) fun second middle twin => ?_
  rcases second with _ | ⟨d, _ | ⟨e, more⟩⟩
  · exact .ok _
  · have third : Local isBare middle (thirdDigit c d middle) fun _ twin => thirdDigit c d twin :=
      .ite (fun _ => takeSome_local (fun _ => isHex_of_isOctal) 1) fun _ => .ok []
    refine .bind third fun third after twin => .ite (fun _ => .ok _) fun _ => ?_
    exact .value (fun code read _ _ => octal_eq read start') fun code => .ok _
  · exact .ok _

theorem readOutside_local (alphabet : Alphabet) (c : Char) (start start' : Nat) :
    Local isBare input (readOutside alphabet c start input)
      fun _ twin => readOutside alphabet c start' twin := by
  unfold readOutside
  cases anchor? c with
  | some anchor => exact .ok _
  | none =>
  cases category? c with
  | some item => exact .ok _
  | none =>
  cases control? c with
  | some code => exact .ok _
  | none =>
  refine code_local alphabet c start start' (fun code middle twin => .ok _) ?_
  refine .ite (fun _ => ?_) fun _ => .ite (fun _ => ?_) fun _ => ?_
  · refine .bind (takeSome_local (fun _ => isHex_of_isOctal) 2) fun digits middle twin => ?_
    exact .ok _
  · exact readNumber_local c start start'
  · exact .value (fun code read _ _ => readLiteral_eq read start') fun code => .ok _

end Escape

namespace SetItem

variable {input : Input}

theorem readMember_local (alphabet : Alphabet) (start start' : Nat) (piece : Piece) :
    Local (fun _ => true) input (readMember alphabet start piece input)
      fun _ twin => readMember alphabet start' piece twin := by
  cases piece with
  | plain c => exact .ok _
  | escaped c => exact (Escape.readInSet_local alphabet c start start').mono fun _ _ => rfl
  | dangling => exact .error

theorem ofEnds_eq {low high range : SetItem} {lowPiece highPiece : Piece} {input : Input}
    (joined : ofEnds low high lowPiece highPiece input = .ok range) (twin : Input) :
    ofEnds low high lowPiece highPiece twin = .ok range := by
  unfold ofEnds at joined ⊢
  dsimp only at joined ⊢
  split at joined
  · split at joined
    · cases joined
    · next ordered =>
      rw [if_neg ordered]
      exact joined
  · cases joined

theorem readAll_local (alphabet : Alphabet) (start start' fuel : Nat) (items : List SetItem) :
    Local (fun _ => true) input (readAll alphabet start fuel items input)
      fun fuel twin => readAll alphabet start' fuel items twin := by
  induction fuel generalizing items input with
  | zero => exact .error
  | succ fuel ih =>
    refine .loop (fun _ _ => rfl) (fun _ => .error) (fun _ _ _ _ => rfl) fun piece opened twin => ?_
    refine .ite (fun _ => .ok _) fun _ => ?_
    refine .bind (readMember_local alphabet _ _ piece) fun low lower twin => ?_
    refine .bind (.accept rfl (by decide)) fun dash dashed twin => ?_
    cases dash with
    | false => exact ih _
    | true =>
      refine .take (fun _ => .error) (fun _ _ _ _ => rfl) fun highPiece reopened twin => ?_
      refine .ite (fun _ => .ok _) fun _ => ?_
      refine .bind (readMember_local alphabet _ _ highPiece) fun high upper twin => ?_
      exact .value (fun range joined _ twin => ofEnds_eq joined twin) fun range => ih _

end SetItem

namespace Lexeme

open Piece (isBare)

variable {input : Input}

theorem readSet_local (alphabet : Alphabet) (start start' : Nat) :
    Local (fun _ => true) input (readSet alphabet start input)
      fun _ twin => readSet alphabet start' twin := by
  unfold readSet
  refine .bind (.accept rfl (by decide)) fun negated opened twin => ?_
  refine .bind (SetItem.readAll_local alphabet start start' _ []).fueled fun items after twin => ?_
  exact .ok _

theorem isBare_of_letter {c : Char} {flag : Flag} (letter : Flag.ofLetter? c = some flag) :
    (Piece.plain c).isBare = true := by
  unfold Flag.ofLetter? at letter
  split at letter
  iterate 8 rfl
  cases letter

def suits (alphabet : Alphabet) (flag : Flag) (flags : Flags) : Bool :=
  !(flag = .locale && alphabet = .text) && !(flag = .unicode && alphabet = .bytes) &&
    !(flag.isCharacterType && (flags.insert flag).characterTypes ≠ Flags.none.insert flag)

def turnedOn (alphabet : Alphabet) (fuel : Nat) (flag : Flag) (flags : Flags) (input : Input) :
    Except Rejection ((Flags × Char) × Input) := do
  let (on, stop, after) ← readFlagsOn alphabet fuel flag flags input
  .ok ((on, stop), after)

theorem turnedOn_succ {alphabet : Alphabet} {flag : Flag} {flags : Flags}
    (suited : suits alphabet flag flags = true) (fuel : Nat) (input : Input) :
    turnedOn alphabet (fuel + 1) flag flags input = input.take >>= fun (piece?, after) =>
      match piece? with
      | none => .error (Fault.missingFlagEnd.at after.position)
      | some piece =>
        if piece = .plain ')' then .ok ((flags.insert flag, ')'), after)
        else if piece = .plain '-' then .ok ((flags.insert flag, '-'), after)
        else if piece = .plain ':' then .ok ((flags.insert flag, ':'), after)
        else match flagOf? piece with
          | some other => turnedOn alphabet fuel other (flags.insert flag) after
          | none => .error ((notFlag piece .missingFlagEnd).at input.position) := by
  simp only [suits, Bool.and_eq_true, Bool.not_eq_true'] at suited
  obtain ⟨⟨textual, binary⟩, types⟩ := suited
  unfold turnedOn
  rw [readFlagsOn]
  simp only [textual, binary, types, Bool.false_eq_true, if_false, bind_assoc]
  apply bind_congr
  rintro ⟨piece?, after⟩
  cases piece? with
  | none => rfl
  | some piece =>
    dsimp only
    split
    · rfl
    · rfl
    · rfl
    · next closing minus colon =>
      rw [if_neg closing, if_neg minus, if_neg colon]
      cases flagOf? piece <;> rfl

theorem turnedOn_never {alphabet : Alphabet} {flag : Flag} {flags : Flags}
    (unsuited : suits alphabet flag flags = false) (fuel : Nat) (input : Input) :
    Ensures (turnedOn alphabet fuel flag flags input) fun _ => False := by
  have never : Ensures (readFlagsOn alphabet fuel flag flags input) fun _ => False := by
    cases fuel with
    | zero => exact .error
    | succ fuel =>
      unfold readFlagsOn
      dsimp only
      split
      · exact .error
      split
      · exact .error
      split
      · exact .error
      · simp_all [suits]
  exact never.bind fun _ => False.elim

theorem turnedOn_local (alphabet : Alphabet) (fuel : Nat) (flag : Flag) (flags : Flags) :
    Local isBare input (turnedOn alphabet fuel flag flags input)
      fun fuel twin => turnedOn alphabet fuel flag flags twin := by
  induction fuel generalizing flag flags input with
  | zero => exact .error
  | succ fuel ih =>
    cases suited : suits alphabet flag flags with
    | false => exact .of_never (turnedOn_never suited _ input)
    | true =>
      rw [turnedOn_succ suited]
      refine .loop (turnedOn_succ suited) (fun _ => .error) (fun piece middle => ?_)
        fun piece middle twin => ?_
      · dsimp only
        split
        · next closing => exact .ok (closing ▸ rfl)
        split
        · next minus => exact .ok (minus ▸ rfl)
        split
        · next colon => exact .ok (colon ▸ rfl)
        · split
          · next found =>
            obtain ⟨c, rfl, letter⟩ := letter_of_flagOf? found
            exact (Ensures.trivial _).mono fun _ _ => isBare_of_letter letter
          · exact .error
      · refine .ite (fun _ => .ok _) fun _ => .ite (fun _ => .ok _) fun _ => ?_
        refine .ite (fun _ => .ok _) fun _ => ?_
        cases flagOf? piece with
        | none => exact .error
        | some other => exact ih other _

theorem readFlagsOff_local (fuel : Nat) (flag : Flag) (flags : Flags) :
    Local isBare input (readFlagsOff fuel flag flags input)
      fun fuel twin => readFlagsOff fuel flag flags twin := by
  induction fuel generalizing flag flags input with
  | zero => exact .error
  | succ fuel ih =>
    cases type : flag.isCharacterType with
    | true =>
      refine .of_never ?_
      unfold readFlagsOff
      rw [if_pos type]
      exact .error
    | false =>
      have unfolds (fuel : Nat) (input : Input) : readFlagsOff (fuel + 1) flag flags input =
          input.take >>= fun (piece?, after) =>
            match piece? with
            | none => .error (Fault.missingColon.at after.position)
            | some piece =>
              if piece = .plain ':' then .ok (flags.insert flag, after)
              else match flagOf? piece with
                | some other => readFlagsOff fuel other (flags.insert flag) after
                | none => .error ((notFlag piece .missingColon).at input.position) := by
        rw [readFlagsOff, if_neg (by simp [type])]
        refine bind_congr fun (piece?, after) => ?_
        cases piece? <;> rfl
      rw [unfolds]
      refine .loop unfolds (fun _ => .error) (fun piece middle => ?_) fun piece middle twin => ?_
      · dsimp only
        split
        · next colon => exact .ok (colon ▸ rfl)
        · split
          · next found =>
            obtain ⟨c, rfl, letter⟩ := letter_of_flagOf? found
            exact (Ensures.trivial _).mono fun _ _ => isBare_of_letter letter
          · exact .error
      · refine .ite (fun _ => .ok _) fun _ => ?_
        cases flagOf? piece with
        | none => exact .error
        | some other => exact ih other _

theorem readOff_local : Local isBare input (readOff input) fun _ twin => readOff twin := by
  unfold readOff
  refine .take (fun _ => .error) (fun piece middle => ?_) fun piece middle twin => ?_
  · dsimp only
    split
    · next found =>
      obtain ⟨c, rfl, letter⟩ := letter_of_flagOf? found
      exact (Ensures.trivial _).mono fun _ _ => isBare_of_letter letter
    · exact .error
  · dsimp only
    cases flagOf? piece with
    | none => exact .error
    | some flag => exact (readFlagsOff_local _ flag .none).fueled

theorem scopedFlags_local (on off : Flags) :
    Local isBare input (scopedFlags on off input) fun _ twin => scopedFlags on off twin := by
  unfold scopedFlags
  exact .ite (fun _ => .error) fun _ => .ite (fun _ => .error) fun _ => .ok _

theorem flagGroup_local (on : Flags) (stop : Char) :
    Local isBare input (flagGroup on stop input) fun _ twin => flagGroup on stop twin := by
  unfold flagGroup
  refine .ite (fun _ => .ok _) fun _ => .ite (fun _ => .error) fun _ => .ite (fun _ => ?_) fun _ => ?_
  · exact .bind readOff_local fun off middle twin => scopedFlags_local on off
  · exact scopedFlags_local on .none

theorem readFlags_some (alphabet : Alphabet) (flag : Flag) (input : Input) :
    readFlags alphabet (some flag) input =
      turnedOn alphabet (input.rest.length + 1) flag .none input >>=
        fun ((on, stop), after) => flagGroup on stop after := by
  rw [readFlags_eq, turnedOn, bind_assoc]
  rfl

theorem readFlags_local (alphabet : Alphabet) (flag? : Option Flag) :
    Local isBare input (readFlags alphabet flag? input)
      fun _ twin => readFlags alphabet flag? twin := by
  cases flag? with
  | none => exact flagGroup_local .none '-'
  | some flag =>
    simp only [readFlags_some]
    exact .bind (turnedOn_local alphabet _ flag .none).fueled fun _ middle twin =>
      flagGroup_local _ _

theorem checkName_eq {name : List Char} {input : Input} {value : Unit}
    (checked : checkName name input = .ok value) (twin : Input) :
    checkName name twin = .ok value := by
  unfold checkName at checked ⊢
  split at checked
  · next identifier =>
    rw [if_pos identifier]
  · cases checked

theorem readNamed_local :
    Local (fun _ => true) input (readNamed input) fun _ twin => readNamed twin := by
  have named (lexeme : List Char → Lexeme) (terminator : Char) {input : Input} :
      Local (fun _ => true) input (do
        let (name, input) ← input.takeUntil terminator "group name"
        checkName name input
        return (lexeme name, input)) fun _ twin => do
          let (name, input) ← twin.takeUntil terminator "group name"
          checkName name input
          return (lexeme name, input) := by
    refine .bind (.takeUntil terminator _) fun name middle twin => ?_
    exact .value (fun _ checked _ twin => checkName_eq checked twin) fun _ => .ok _
  unfold readNamed
  refine .bind (.accept rfl (by decide)) fun angle middle twin => ?_
  refine .ite (fun _ => named (fun name => .opening (.capture (some name))) '>') fun _ => ?_
  refine .bind (.accept rfl (by decide)) fun equals middle twin => ?_
  refine .ite (fun _ => named .namedReference ')') fun _ => ?_
  refine .of_never ?_
  refine (Ensures.trivial _).bind fun (piece?, _) _ => ?_
  cases piece? <;> exact .error

theorem readBehind_local : Local isBare input (readBehind input) fun _ twin => readBehind twin := by
  unfold readBehind
  refine .take (fun _ => .error) (fun piece middle => ?_) fun piece middle twin => ?_
  · dsimp only
    split
    · exact .ok rfl
    · exact .ok rfl
    · exact .error
  · by_cases equals : piece = .plain '='
    · subst equals
      exact .ok _
    by_cases bang : piece = .plain '!'
    · subst bang
      exact .ok _
    · refine .of_never ?_
      dsimp only
      split
      · exact absurd rfl equals
      · exact absurd rfl bang
      · exact .error

/-- What stands behind an opening brace that starts a repetition: a count or two, and the closing
brace. -/
inductive Counts (after : List Piece) : List Char → List Char → List Piece → Prop
  | one {low : List Char} (some : low ≠ []) (digits : low.all Char.isDigit = true) :
    Counts after low low (low.map .plain ++ .plain '\x7d' :: after)
  | two {low high : List Char} (digits : low.all Char.isDigit = true)
    (digits' : high.all Char.isDigit = true) :
    Counts after low high
      (low.map .plain ++ .plain ',' :: (high.map .plain ++ .plain '\x7d' :: after))

def counted (low high : List Char) (here : Nat) (after : Input) :
    Except Rejection (Lexeme × Input) := do
  let least ← readCount low
  let most ← readCount high
  if let some m := most then
    if m < least.getD 0 then throw (Fault.reversedRepeat.at here)
  return (.quantifier (least.getD 0) most, after)

theorem counted_eq {low high : List Char} {here : Nat} {lexeme : Lexeme} {after left : Input}
    (read : counted low high here after = .ok (lexeme, left)) (here' : Nat) (twin : Input) :
    counted low high here' twin = .ok (lexeme, twin) ∧ left = after := by
  unfold counted at read ⊢
  obtain ⟨least, first, read⟩ := bind_eq_ok_iff.mp read
  obtain ⟨most, second, read⟩ := bind_eq_ok_iff.mp read
  rw [first, second]
  cases most with
  | none =>
    cases read
    exact ⟨rfl, rfl⟩
  | some m =>
    simp only [bind, Except.bind] at read ⊢
    split at read
    · cases read
    · next ordered =>
      cases read
      rw [if_neg ordered]
      exact ⟨rfl, rfl⟩

theorem Counts.split {after rest : List Piece} {low high : List Char}
    (counts : Counts after low high rest) : ∃ chunk, rest = chunk ++ after ∧
      (∀ piece ∈ chunk, piece.isBare = true ∧ piece.isIdle = false) ∧
      ∀ other, Counts other low high (chunk ++ other) := by
  have digit {cs : List Char} (digits : cs.all Char.isDigit = true) {piece : Piece}
      (member : piece ∈ cs.map Piece.plain) : piece.isBare = true ∧ piece.isIdle = false := by
    obtain ⟨c, inside, rfl⟩ := List.mem_map.mp member
    have hex := Escape.isHex_of_isDigit (List.all_eq_true.mp digits c inside)
    exact ⟨Escape.isBare_of_isHex hex, Escape.isIdle_of_isHex hex⟩
  cases counts with
  | one some digits =>
    refine ⟨low.map .plain ++ [.plain '\x7d'], by simp, fun piece member => ?_, fun other => ?_⟩
    · rcases List.mem_append.mp member with inside | last
      · exact digit digits inside
      · rw [List.mem_singleton.mp last]
        decide
    · rw [List.append_assoc]
      exact .one some digits
  | two digits digits' =>
    refine ⟨low.map .plain ++ .plain ',' :: (high.map .plain ++ [.plain '\x7d']), by simp,
      fun piece member => ?_, fun other => ?_⟩
    · rcases List.mem_append.mp member with inside | later
      · exact digit digits inside
      rcases List.mem_cons.mp later with rfl | later
      · decide
      rcases List.mem_append.mp later with inside | last
      · exact digit digits' inside
      · rw [List.mem_singleton.mp last]
        decide
    · have whole : low.map Piece.plain ++ .plain ',' :: (high.map .plain ++ [.plain '\x7d']) ++ other =
          low.map .plain ++ .plain ',' :: (high.map .plain ++ .plain '\x7d' :: other) := by simp
      rw [whole]
      exact .two digits digits'

theorem takeAll_of_all {cs : List Char} (digits : cs.all Char.isDigit = true) {rest : List Piece}
    {c : Char} (head : rest.head? = some (.plain c)) (stops : c.isDigit = false) {input : Input}
    (text : input.rest = cs.map .plain ++ rest) :
    ∃ place, input.takeAll Char.isDigit = .ok (cs, ⟨place, rest⟩) := by
  refine Input.takeSome_of_all digits ?_ (fun d same => ?_) ?_ text
  · rw [text, List.length_append, List.length_map]
    exact Nat.le_add_right _ _
  · cases head.symm.trans same
    exact stops
  · rintro rfl
    cases head

theorem takeSome_takes (test : Char → Bool) (count : Nat) (input : Input) :
    Ensures (input.takeSome test count) fun (taken, after) =>
      input.rest = taken.map .plain ++ after.rest ∧ taken.all test = true := by
  induction count generalizing input with
  | zero => exact .ok ⟨rfl, rfl⟩
  | succ count ih =>
    unfold Input.takeSome
    split
    · next c rest head =>
      split
      · next holds =>
        refine (Input.goTo_rest _ rest).bind fun middle same => ?_
        refine (ih middle).bind fun (taken, after) ⟨split, all⟩ => .ok ?_
        rw [head, ← same, split]
        simp [holds, all]
      · exact .ok ⟨rfl, rfl⟩
    · exact .ok ⟨rfl, rfl⟩

theorem takeSome_total {input : Input} (closed : .dangling ∉ input.rest) (test : Char → Bool)
    (count : Nat) : ∃ taken after, input.takeSome test count = .ok (taken, after) ∧
      .dangling ∉ after.rest := by
  induction count generalizing input with
  | zero => exact ⟨[], input, rfl, closed⟩
  | succ count ih =>
    by_cases starts : ∃ c rest, input.rest = .plain c :: rest ∧ test c = true
    · obtain ⟨c, rest, head, holds⟩ := starts
      have more : .dangling ∉ rest := fun member => closed (head ▸ List.mem_cons_of_mem _ member)
      have onward : rest ≠ [.dangling] := fun same => more (same ▸ List.mem_singleton_self _)
      let next : Input := ⟨input.position + 1, rest⟩
      have more : .dangling ∉ next.rest := more
      obtain ⟨taken, after, computed, closed'⟩ := ih more
      refine ⟨c :: taken, after, ?_, closed'⟩
      rw [Input.takeSome_of_head head holds, Input.goTo, if_neg onward]
      show (Input.takeSome test count ⟨input.position + 1, rest⟩ >>= _) = _
      rw [computed]
      rfl
    · have other (c : Char) (head : input.rest.head? = some (.plain c)) : test c = false := by
        obtain ⟨rest, split⟩ := List.head?_eq_some_iff.mp head
        exact Bool.eq_false_iff.mpr fun holds => starts ⟨c, rest, split, holds⟩
      exact ⟨[], input, Input.takeSome_of_other other _, closed⟩

theorem accept_total {input : Input} (closed : .dangling ∉ input.rest) (c : Char) :
    ∃ accepted after, input.accept c = .ok (accepted, after) ∧ .dangling ∉ after.rest := by
  by_cases head : input.rest.head? = some (.plain c)
  · obtain ⟨rest, split⟩ := List.head?_eq_some_iff.mp head
    have more : .dangling ∉ rest := fun member => closed (split ▸ List.mem_cons_of_mem _ member)
    have onward : rest ≠ [.dangling] := fun same => more (same ▸ List.mem_singleton_self _)
    exact ⟨true, _, Input.accept_of_plain onward split, more⟩
  · exact ⟨false, input, Input.accept_of_other head, closed⟩

theorem accept_moves (c : Char) (input : Input) : Ensures (input.accept c) fun (accepted, after) =>
    accepted = true → input.rest = .plain c :: after.rest ∧ after.rest ≠ [.dangling] := by
  by_cases head : input.rest.head? = some (.plain c)
  · obtain ⟨rest, split⟩ := List.head?_eq_some_iff.mp head
    rw [Input.accept_of_head split, Input.goTo]
    split
    · exact .error
    · next more => exact .ok fun _ => ⟨split, more⟩
  · rw [Input.accept_of_other head]
    exact .ok fun accepted => absurd accepted Bool.false_ne_true

def braced (input : Input) : Except Rejection (Option (List Char × List Char × Input)) := do
  if input.rest.head? = some (.plain '\x7d') then return none
  let (low, after) ← input.takeAll Char.isDigit
  let (comma, after) ← after.accept ','
  let (high, after) ← if comma then after.takeAll Char.isDigit else .ok (low, after)
  let (closed, after) ← after.accept '\x7d'
  return if closed then some (low, high, after) else none

theorem readBraces_eq (input : Input) : readBraces input = braced input >>= fun counts? =>
    match counts? with
    | none => .ok (.item (.char '\x7b'.toNat), input)
    | some (low, high, after) => counted low high input.position after := by
  unfold readBraces braced
  dsimp only
  split
  · rfl
  rw [bind_assoc]
  refine bind_congr fun (low, lower) => ?_
  rw [bind_assoc]
  refine bind_congr fun (comma, middle) => ?_
  have last (high : List Char) (upper : Input) : (do
      let (closed, after) ← upper.accept '\x7d'
      if !closed then return (.item (.char '\x7b'.toNat), input)
      counted low high input.position after) = (do
        let (closed, after) ← upper.accept '\x7d'
        return if closed then some (low, high, after) else none) >>= fun counts? =>
          match counts? with
          | none => .ok (.item (.char '\x7b'.toNat), input)
          | some (low, high, after) => counted low high input.position after := by
    rw [bind_assoc]
    refine bind_congr fun (closed, after) => ?_
    cases closed <;> rfl
  cases comma with
  | false => exact last low middle
  | true =>
    simp only [if_true, bind_assoc] at last ⊢
    exact bind_congr fun (high, upper) => last high upper

theorem braced_of_counts {input : Input} {after : List Piece} {low high : List Char}
    (counts : Counts after low high input.rest) :
    ∃ place, braced input = Input.goTo place after >>= fun left => .ok (some (low, high, left)) := by
  generalize text : input.rest = rest at counts
  have first : rest.head? ≠ some (.plain '\x7d') := by
    cases counts with
    | one some digits =>
      obtain ⟨c, cs, rfl⟩ := List.exists_cons_of_ne_nil some
      rintro ⟨⟩
      cases digits
    | two digits =>
      cases low with
      | nil => nofun
      | cons c cs =>
        rintro ⟨⟩
        cases digits
  have brace : ('\x7d' : Char).isDigit = false := by decide
  cases counts with
  | one some digits =>
    obtain ⟨place, taken⟩ := takeAll_of_all digits rfl brace text
    let reached : Input := ⟨place, .plain '\x7d' :: after⟩
    have comma : reached.accept ',' = .ok (false, reached) := Input.accept_of_other (by simp [reached])
    refine ⟨place + 1, ?_⟩
    rw [braced, text, if_neg first, taken, ok_bind]
    dsimp only
    rw [comma, ok_bind]
    dsimp only [Bool.false_eq_true, if_false]
    rw [ok_bind, Input.accept_of_head rfl, bind_assoc]
    rfl
  | two digits digits' =>
    have stops : (',' : Char).isDigit = false := by decide
    obtain ⟨place, taken⟩ := takeAll_of_all digits rfl stops text
    let behind : List Piece := high.map .plain ++ .plain '\x7d' :: after
    let reached : Input := ⟨place, .plain ',' :: behind⟩
    have onward : behind ≠ [.dangling] := by
      show high.map Piece.plain ++ _ ≠ _
      cases high <;> simp
    have comma : reached.accept ',' = .ok (true, ⟨place + 1, behind⟩) :=
      Input.accept_of_plain onward rfl
    let onwards : Input := ⟨place + 1, behind⟩
    have stands' : onwards.rest = high.map .plain ++ (.plain '\x7d' :: after) := rfl
    obtain ⟨place', taken'⟩ := takeAll_of_all digits' rfl brace stands'
    refine ⟨place' + 1, ?_⟩
    rw [braced, text, if_neg first, taken, ok_bind]
    dsimp only
    rw [comma, ok_bind]
    dsimp only [if_true]
    rw [taken', ok_bind]
    dsimp only
    rw [Input.accept_of_head rfl, bind_assoc]
    rfl

theorem braced_reads (input : Input) : Ensures (braced input) fun counts? =>
    ∀ low high after, counts? = some (low, high, after) →
      Counts after.rest low high input.rest ∧ after.rest ≠ [.dangling] := by
  unfold braced
  split
  · exact .ok nofun
  next more =>
  refine (takeSome_takes Char.isDigit _ input).bind fun (low, lower) ⟨first, digits⟩ => ?_
  refine (lower.accept_accepts ',').bind fun (comma, middle) atComma => ?_
  cases comma with
  | false =>
    obtain ⟨rfl, -⟩ := atComma
    refine (accept_moves '\x7d' middle).bind fun (closing, after) atClose => .ok ?_
    cases closing with
    | false => nofun
    | true =>
      obtain ⟨last, onward⟩ := atClose rfl
      rintro _ _ _ ⟨⟩
      rw [first, last]
      refine ⟨.one ?_ digits, onward⟩
      rintro rfl
      exact more (by rw [first, last]; rfl)
  | true =>
    have atComma : lower.rest = .plain ',' :: middle.rest := atComma
    refine (takeSome_takes Char.isDigit _ middle).bind fun (high, upper) ⟨second, digits'⟩ => ?_
    refine (accept_moves '\x7d' upper).bind fun (closing, after) atClose => .ok ?_
    cases closing with
    | false => nofun
    | true =>
      obtain ⟨last, onward⟩ := atClose rfl
      rintro _ _ _ ⟨⟩
      rw [first, atComma, second, last]
      exact ⟨.two digits digits', onward⟩

theorem braced_total {input : Input} (closed : .dangling ∉ input.rest) :
    ∃ counts?, braced input = .ok counts? := by
  unfold braced
  split
  · exact ⟨none, rfl⟩
  obtain ⟨low, lower, first, closed⟩ := takeSome_total closed Char.isDigit input.rest.length
  obtain ⟨comma, middle, atComma, closed⟩ := accept_total closed ','
  have last {upper : Input} (closed : .dangling ∉ upper.rest) (high : List Char) :
      ∃ counts?, (upper.accept '\x7d' >>= fun (closed, after) =>
        (.ok (if closed then some (low, high, after) else none) :
          Except Rejection (Option (List Char × List Char × Input)))) = .ok counts? := by
    obtain ⟨closing, after, atClose, -⟩ := accept_total closed '\x7d'
    exact ⟨_, by rw [atClose]; rfl⟩
  rw [Input.takeAll, first, ok_bind]
  dsimp only
  rw [atComma, ok_bind]
  cases comma with
  | false => exact last closed low
  | true =>
    obtain ⟨high, upper, second, closed⟩ := takeSome_total closed Char.isDigit middle.rest.length
    dsimp only [if_true]
    rw [Input.takeAll, second]
    exact last closed high

theorem readBraces_of_none {input : Input} (closed : .dangling ∉ input.rest)
    (none : ∀ low high after, ¬Counts after low high input.rest) :
    readBraces input = .ok (.item (.char '\x7b'.toNat), input) := by
  obtain ⟨counts?, returned⟩ := braced_total closed
  rw [readBraces_eq, returned]
  cases counts? with
  | none => rfl
  | some counts =>
    obtain ⟨low, high, after⟩ := counts
    exact absurd (braced_reads input _ returned low high after rfl).1 (none _ _ _)

theorem readBraces_local : Local isBare input (readBraces input) fun _ twin => readBraces twin := by
  rintro sound ⟨lexeme, after⟩ returned
  rw [readBraces_eq] at returned
  obtain ⟨counts?, braced, returned⟩ := bind_eq_ok_iff.mp returned
  cases counts? with
  | none =>
    cases returned
    refine ⟨sound, [], rfl, nofun, nofun, fun _ twin rest _ stands resembles => ?_⟩
    have stands : twin.rest = rest := stands
    refine ⟨twin, readBraces_of_none (stands ▸ resembles.closed) fun low high behind counts => ?_,
      stands⟩
    obtain ⟨chunk, split, own, elsewhere⟩ := counts.split
    obtain ⟨back, same⟩ := resembles.starts (stands ▸ split) fun piece member => (own piece member).2
    have there : Counts back low high input.rest := same ▸ elsewhere back
    obtain ⟨place, again⟩ := braced_of_counts there
    obtain ⟨left, -, some⟩ := bind_eq_ok_iff.mp (again.symm.trans braced)
    cases some
  | some counts =>
    obtain ⟨low, high, behind⟩ := counts
    obtain ⟨counts, more⟩ := braced_reads input _ braced low high behind rfl
    obtain ⟨chunk, split, own, elsewhere⟩ := counts.split
    have closed : .dangling ∉ chunk := fun member => by
      cases (own _ member).1
    obtain ⟨-, rfl⟩ := counted_eq returned 0 input
    refine ⟨(split ▸ sound).behind more, chunk, split, closed,
      fun piece member => (own piece member).1, ?_⟩
    intro fuel twin rest _ stands resembles
    have there : Counts rest low high twin.rest := stands ▸ elsewhere rest
    obtain ⟨place, again⟩ := braced_of_counts there
    refine ⟨⟨place, rest⟩, ?_, rfl⟩
    show readBraces twin = _
    rw [readBraces_eq, again, Input.goTo, if_neg resembles.ne_dangling]
    exact (counted_eq returned _ _).1

theorem any_of_bare {computed : Except Rejection (α × Input)}
    {again : Nat → Input → Except Rejection (α × Input)} (bare : Local isBare input computed again) :
    Local (fun _ => true) input computed again :=
  bare.mono fun _ _ => rfl

theorem readExtension_local (alphabet : Alphabet) (start start' : Nat) :
    Local (fun _ => true) input (readExtension alphabet start input)
      fun _ twin => readExtension alphabet start' twin := by
  unfold readExtension
  refine .take (fun _ => .error) (fun _ _ => fun _ _ => rfl) fun piece middle twin => ?_
  by_cases name : piece = .plain 'P'
  · subst name
    exact readNamed_local
  by_cases colon : piece = .plain ':'
  · subst colon
    exact .ok _
  by_cases hash : piece = .plain '#'
  · subst hash
    dsimp only
    refine .skipPast (fun _ => ?_) (fun after twin => ?_) middle.position
    · exact .error
    · exact .ok _
  by_cases equals : piece = .plain '='
  · subst equals
    exact .ok _
  by_cases bang : piece = .plain '!'
  · subst bang
    exact .ok _
  by_cases angle : piece = .plain '<'
  · subst angle
    exact any_of_bare readBehind_local
  by_cases parenthesis : piece = .plain '('
  · subst parenthesis
    exact .bind (.takeUntil ')' _) fun name after twin => .ok _
  by_cases atomic : piece = .plain '>'
  · subst atomic
    exact .ok _
  by_cases minus : piece = .plain '-'
  · subst minus
    exact any_of_bare (readFlags_local alphabet none)
  -- A piece that is none of these starts the letters of flags, or extends nothing.
  cases flag? : flagOf? piece with
  | some flag =>
    obtain ⟨c, rfl, letter⟩ := letter_of_flagOf? flag?
    have flags : Local (fun _ => true) middle (readFlags alphabet (some flag) middle)
        fun _ twin => readFlags alphabet (some flag) twin :=
      any_of_bare (readFlags_local alphabet (some flag))
    unfold Flag.ofLetter? at letter
    split at letter <;> cases letter <;> exact flags
  | none =>
    refine .of_never ?_
    dsimp only
    split <;> first | contradiction | skip
    rw [flag?]
    exact .error

theorem readOpening_local (alphabet : Alphabet) (start start' : Nat) :
    Local (fun _ => true) input (readOpening alphabet start input)
      fun _ twin => readOpening alphabet start' twin := by
  simp only [readOpening_eq]
  refine .bind (.accept rfl (by decide)) fun question middle twin => ?_
  exact .ite (fun _ => .ok _) fun _ => readExtension_local alphabet start start'

theorem readPlain_alone {c : Char} (parenthesis : c ≠ '(') (bracket : c ≠ '[') (brace : c ≠ '\x7b') :
    ∃ lexeme, ∀ alphabet start input,
      readPlain alphabet false c start input = .ok (lexeme, input) := by
  by_cases mark : c = '?' ∨ c = '*' ∨ c = '+' ∨ c = '.' ∨ c = '^' ∨ c = '$'
  · rcases mark with rfl | rfl | rfl | rfl | rfl | rfl <;> exact ⟨_, fun _ _ _ => rfl⟩
  · refine ⟨.item (.char c.toNat), fun alphabet start input => ?_⟩
    unfold readPlain
    simp only [Bool.false_and, Bool.false_eq_true, if_false]
    split <;> simp_all

/-- What neither a parenthesis nor a bracket starts, outside comments of verbose mode. -/
theorem read_bare (alphabet : Alphabet) {verbose : Bool} {piece : Piece} (start start' : Nat)
    (parenthesis : piece ≠ .plain '(') (bracket : piece ≠ .plain '[')
    (comment : ¬(verbose = true ∧ piece = .plain '#')) :
    Local isBare input (read alphabet verbose piece start input)
      fun _ twin => read alphabet verbose piece start' twin := by
  cases piece with
  | plain c =>
    have plainly : Local isBare input (readPlain alphabet false c start input)
        fun _ twin => readPlain alphabet false c start' twin := by
      by_cases brace : c = '\x7b'
      · subst brace
        exact readBraces_local
      · obtain ⟨lexeme, alone⟩ :=
          readPlain_alone (by simpa using parenthesis) (by simpa using bracket) brace
        simp only [alone]
        exact .ok _
    cases verbose with
    | false => exact plainly
    | true =>
      have hash : (c == '#') = false := by simpa using comment
      refine .ite (fun _ => .ok _) fun _ => ?_
      simp only [Bool.true_and, hash, Bool.false_eq_true, if_false]
      exact plainly
  | escaped c =>
    refine .bind (Escape.readOutside_local alphabet c start start') fun meaning after twin => ?_
    cases meaning <;> exact .ok _
  | dangling => exact .error

theorem read_local (alphabet : Alphabet) {verbose : Bool} {piece : Piece} (start start' : Nat)
    (comment : ¬(verbose = true ∧ piece = .plain '#')) :
    Local (fun _ => true) input (read alphabet verbose piece start input)
      fun _ twin => read alphabet verbose piece start' twin := by
  have blank : isVerboseBlank '(' = false ∧ isVerboseBlank '[' = false := by decide
  by_cases parenthesis : piece = .plain '('
  · subst parenthesis
    simp only [read_parenthesis]
    exact readOpening_local alphabet start start'
  by_cases bracket : piece = .plain '['
  · subst bracket
    simp only [read_bracket]
    exact readSet_local alphabet start start'
  · exact any_of_bare (read_bare alphabet start start' parenthesis bracket comment)

end Lexeme

def Regex.isLeaf : Regex → Bool
  | .empty | .char _ | .any | .set _ _ | .anchor _ => true
  | _ => false

theorem Regex.shift_of_isLeaf {regex : Regex} (leaf : regex.isLeaf = true) (offset : Nat) :
    regex.shift offset = regex := by
  cases regex <;> first | rfl | cases leaf

namespace Escape

def Meaning.Leafy (meaning : Meaning) : Prop :=
  ∀ regex, meaning = .item regex → regex.isLeaf = true

theorem readNumber_leafy (c : Char) (start : Nat) (input : Input) :
    Ensures (readNumber c start input) fun (meaning, _) => meaning.Leafy := by
  have reference (n : Nat) : (Meaning.reference n).Leafy := nofun
  unfold readNumber
  refine (Ensures.trivial _).bind fun (second, middle) _ => ?_
  dsimp only
  split
  · refine Ensures.branch (Ensures.trivial _) fun (third, after) _ => ?_
    dsimp only
    split
    · exact .ok (reference _)
    · refine (Ensures.trivial _).bind fun code _ => .ok ?_
      rintro _ ⟨⟩
      rfl
  · exact .ok (reference _)

theorem readOutside_leafy (alphabet : Alphabet) (c : Char) (start : Nat) (input : Input) :
    Ensures (readOutside alphabet c start input) fun (meaning, _) => meaning.Leafy := by
  have leaf {regex : Regex} (leaf : regex.isLeaf = true) : (Meaning.item regex).Leafy := by
    rintro _ ⟨⟩
    exact leaf
  unfold readOutside
  split
  · exact .ok (leaf rfl)
  split
  · exact .ok (leaf rfl)
  split
  · exact .ok (leaf rfl)
  refine (Ensures.trivial _).bind fun found? _ => ?_
  cases found? with
  | some found => exact .ok (leaf rfl)
  | none =>
    dsimp only
    split
    · exact (Ensures.trivial _).bind fun _ _ => .ok (leaf rfl)
    split
    · exact readNumber_leafy c start input
    · exact (Ensures.trivial _).bind fun _ _ => .ok (leaf rfl)

end Escape

namespace Lexeme

def Leafy (lexeme : Lexeme) : Prop :=
  ∀ regex, lexeme = .item regex → regex.isLeaf = true

theorem leafy_item {regex : Regex} (leaf : regex.isLeaf = true) : (Lexeme.item regex).Leafy := by
  rintro _ ⟨⟩
  exact leaf

theorem readBraces_leafy (input : Input) :
    Ensures (readBraces input) fun (lexeme, _) => lexeme.Leafy := by
  have literal : (Lexeme.item (.char '\x7b'.toNat)).Leafy := leafy_item rfl
  rw [readBraces_eq]
  refine (Ensures.trivial _).bind fun counts? _ => ?_
  cases counts? with
  | none => exact .ok literal
  | some counts =>
    obtain ⟨low, high, after⟩ := counts
    show Ensures (counted low high input.position after) _
    unfold counted
    refine (Ensures.trivial _).bind fun least _ => (Ensures.trivial _).bind fun most _ => ?_
    dsimp only
    split
    · split
      · exact .error
      · exact .ok nofun
    · exact .ok nofun

theorem readOpening_leafy (alphabet : Alphabet) (start : Nat) (input : Input) :
    Ensures (readOpening alphabet start input) fun (lexeme, _) => lexeme.Leafy := by
  refine (readOpening_opens alphabet start input).mono fun (lexeme, after) opens => ?_
  cases opens with
  | flags _ _ _ _ _ _ _ turns =>
    rcases turns with ⟨-, rfl⟩ | ⟨off, rfl⟩
    · exact nofun
    · exact nofun
  | _ => exact nofun

theorem read_leafy (alphabet : Alphabet) (verbose : Bool) (piece : Piece) (start : Nat)
    (input : Input) : Ensures (read alphabet verbose piece start input) fun (lexeme, _) =>
      lexeme.Leafy := by
  cases piece with
  | plain c =>
    show Ensures (readPlain alphabet verbose c start input) _
    unfold readPlain
    split
    · exact .ok nofun
    split
    · exact (Ensures.trivial _).bind fun _ _ => .ok nofun
    split
    · exact (Ensures.trivial _).bind fun _ _ => (Ensures.trivial _).bind fun _ _ => .ok (leafy_item rfl)
    · exact .ok nofun
    · exact .ok nofun
    · exact .ok nofun
    · exact readBraces_leafy input
    · exact .ok (leafy_item rfl)
    · exact readOpening_leafy alphabet start input
    · exact .ok (leafy_item rfl)
    · exact .ok (leafy_item rfl)
    · exact .ok (leafy_item rfl)
  | escaped c =>
    refine (Escape.readOutside_leafy alphabet c start input).bind fun (meaning, after) leafy => ?_
    cases meaning with
    | item regex => exact .ok (leafy_item (leafy regex rfl))
    | reference group => exact .ok nofun
  | dangling => exact .error

end Lexeme

end RuleLexer
