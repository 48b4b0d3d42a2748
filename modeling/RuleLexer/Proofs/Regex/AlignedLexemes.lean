import RuleLexer.Proofs.Number.Digits
import RuleLexer.Proofs.Regex.Alignment
import RuleLexer.Proofs.Regex.Shift

namespace RuleLexer

variable {γ δ : Type} {numbers : Renumbering} {marks : List Landmark} {inside : Bool} {a b : Input}

def Alike (numbers : Renumbering) (marks : List Landmark) (inside : Bool)
    (x y : γ × Input) : Prop :=
  x.1 = y.1 ∧ Aligned numbers marks inside x.2.rest y.2.rest

theorem Mirrors.of_never {excused : Prop} {related : γ → δ → Prop} {one : Except Rejection γ}
    {other : Except Rejection δ} (never : Ensures one fun _ => False) :
    Mirrors excused related one other :=
  fun value returned => (never value returned).elim

theorem isDigit_ordinary (c : Char) (digit : c.isDigit = true) :
    isBracket c = false ∧ isSteady c = true := by
  simpa using Number.of_isDigit (p := fun c => !isBracket c && isSteady c) (by decide) digit

namespace Escape

theorem isHex_ordinary (c : Char) (hex : isHex c = true) : isBracket c = false := by
  have brackets : ['(', '[', ']'].any isHex = false := by decide
  have other : c ∉ ['(', '[', ']'] := fun member => List.any_eq_false.mp brackets c member hex
  simpa [isBracket, and_assoc] using other

theorem readHex_mirrors (ends : numbers.Ends) (letter : Char) (count start start' : Nat)
    (aligned : Aligned numbers marks inside a.rest b.rest) :
    Mirrors False (Alike numbers marks inside) (readHex letter count start a)
      (readHex letter count start' b) := by
  intro value returned
  obtain ⟨⟨digits, x⟩, taken, returned⟩ := bind_eq_ok_iff.mp returned
  dsimp only at returned
  split at returned
  · cases returned
  next full =>
  split at returned
  · cases returned
  next range =>
  cases returned
  obtain ⟨y, taken', rest⟩ :=
    Input.takeSome_full ends isHex_ordinary aligned taken (Decidable.not_not.mp full)
  refine .inr ⟨(number 16 digits, y), ?_, rfl, rest⟩
  rw [readHex, taken']
  simp only [bind, Except.bind, if_neg full, if_neg range]

def AlikeCode (numbers : Renumbering) (marks : List Landmark) (inside : Bool)
    (x y : Option (Nat × Input)) : Prop :=
  x = none ∧ y = none ∨ ∃ code x' y', x = some (code, x') ∧ y = some (code, y') ∧
    Aligned numbers marks inside x'.rest y'.rest

theorem isNameChar_ordinary (name : List Char) (known : (Text.named? name).isSome = true) :
    ∀ c ∈ name, isBracket c = false ∧ c ≠ '\\' := by
  obtain ⟨code, known⟩ := Option.isSome_iff_exists.mp known
  have special : ['(', '[', ']', '\\'].any Text.isNameChar = false := by decide
  intro c member
  have other : c ∉ ['(', '[', ']', '\\'] := fun among =>
    List.any_eq_false.mp special c among (Text.isNameChar_of_named? known c member)
  simpa [isBracket, and_assoc] using other

theorem readName_mirrors (ends : numbers.Ends) (start start' : Nat)
    (aligned : Aligned numbers marks inside a.rest b.rest) :
    Mirrors False (Alike numbers marks inside) (readName start a) (readName start' b) := by
  refine (Input.accept_mirrors ends aligned rfl (by decide)).bind ?_
  rintro ⟨braced, x⟩ ⟨_, y⟩ ⟨rfl, rest⟩
  cases braced with
  | false => exact .error
  | true =>
    refine Input.takeUntil_mirrors ends rfl _ rest isNameChar_ordinary ?_ ?_
    · intro name x y rest
      dsimp only
      cases Text.named? name with
      | none => exact .error
      | some code => exact .ok ⟨rfl, rest⟩
    · intro name x unknown
      rw [Option.isSome_eq_false_iff, Option.isNone_iff_eq_none] at unknown
      simp only [unknown]
      exact .error

theorem readCode?_mirrors (ends : numbers.Ends) (alphabet : Alphabet) (letter : Char)
    (start start' : Nat) (aligned : Aligned numbers marks inside a.rest b.rest) :
    Mirrors False (AlikeCode numbers marks inside) (readCode? alphabet letter start a)
      (readCode? alphabet letter start' b) := by
  have given {one other : Except Rejection (Nat × Input)}
      (mirrors : Mirrors False (Alike numbers marks inside) one other) :
      Mirrors False (AlikeCode numbers marks inside) (some <$> one) (some <$> other) := by
    refine mirrors.map ?_
    rintro ⟨code, x⟩ ⟨_, y⟩ ⟨rfl, rest⟩
    exact .inr ⟨code, x, y, rfl, rfl, rest⟩
  rcases readCode?_eq alphabet letter with ⟨count, hex⟩ | named | absent
  · rw [hex, hex]
    exact given (readHex_mirrors ends letter count start start' aligned)
  · rw [named, named]
    exact given (readName_mirrors ends start start' aligned)
  · rw [absent, absent]
    exact .ok (.inl ⟨rfl, rfl⟩)

theorem octal_mirrors (digits : List Char) (start start' : Nat) :
    Mirrors False (· = ·) (octal digits start) (octal digits start') := by
  unfold octal
  split
  · exact .error
  · exact .ok rfl

theorem readLiteral_mirrors (c : Char) (start start' : Nat) :
    Mirrors False (· = ·) (readLiteral c start) (readLiteral c start') := by
  unfold readLiteral
  split
  · exact .error
  · exact .ok rfl

theorem isOctal_ordinary (c : Char) (octal : isOctal c = true) :
    isBracket c = false ∧ isSteady c = true :=
  isDigit_ordinary c (isDigit_of_isOctal octal)

theorem readInSet_mirrors (ends : numbers.Ends) (alphabet : Alphabet) (c : Char)
    (start start' : Nat) (aligned : Aligned numbers marks inside a.rest b.rest) :
    Mirrors False (Alike numbers marks inside) (readInSet alphabet c start a)
      (readInSet alphabet c start' b) := by
  unfold readInSet
  by_cases backspace : c = 'b'
  · simp only [if_pos backspace]
    exact .ok ⟨rfl, aligned⟩
  simp only [if_neg backspace]
  cases control? c with
  | some code => exact .ok ⟨rfl, aligned⟩
  | none =>
    cases category? c with
    | some item => exact .ok ⟨rfl, aligned⟩
    | none =>
      refine (readCode?_mirrors ends alphabet c start start' aligned).bind ?_
      rintro x y (⟨rfl, rfl⟩ | ⟨code, x, y, rfl, rfl, rest⟩)
      · cases isOctal c with
        | true =>
          refine (Input.takeSome_mirrors ends isOctal_ordinary aligned (.inl rfl)).bind ?_
          rintro ⟨digits, x⟩ ⟨_, y⟩ ⟨rfl, rest⟩
          refine (octal_mirrors _ start start').bind ?_
          rintro code _ rfl
          exact .ok ⟨rfl, rest⟩
        | false =>
          refine (readLiteral_mirrors c start start').bind ?_
          rintro code _ rfl
          exact .ok ⟨rfl, aligned⟩
      · exact .ok ⟨rfl, rest⟩

theorem readOutside_mirrors (ends : numbers.Ends) (alphabet : Alphabet) {c : Char}
    (digit : c.isDigit = false) (start start' : Nat)
    (aligned : Aligned numbers marks inside a.rest b.rest) :
    Mirrors False (fun x y => (∃ regex : Regex, (∀ offset, regex.shift offset = regex) ∧
        x.1 = .item regex ∧ y.1 = .item regex) ∧ Aligned numbers marks inside x.2.rest y.2.rest)
      (readOutside alphabet c start a) (readOutside alphabet c start' b) := by
  unfold readOutside
  cases anchor? c with
  | some place => exact .ok ⟨⟨.anchor place, fun _ => rfl, rfl, rfl⟩, aligned⟩
  | none =>
    cases category? c with
    | some item => exact .ok ⟨⟨.set false [item], fun _ => rfl, rfl, rfl⟩, aligned⟩
    | none =>
      cases control? c with
      | some code => exact .ok ⟨⟨.char code, fun _ => rfl, rfl, rfl⟩, aligned⟩
      | none =>
        refine (readCode?_mirrors ends alphabet c start start' aligned).bind ?_
        rintro x y (⟨rfl, rfl⟩ | ⟨code, x, y, rfl, rfl, rest⟩)
        · have zero : ¬c = '0' := by
            rintro rfl
            cases digit
          simp only [if_neg zero, digit, Bool.false_eq_true, if_false]
          refine (readLiteral_mirrors c start start').bind ?_
          rintro code _ rfl
          exact .ok ⟨⟨.char code, fun _ => rfl, rfl, rfl⟩, aligned⟩
        · exact .ok ⟨⟨.char code, fun _ => rfl, rfl, rfl⟩, rest⟩

theorem readOutside_digit {c : Char} (digit : c.isDigit = true) (first : c ≠ '0')
    (alphabet : Alphabet) (start : Nat) (input : Input) :
    readOutside alphabet c start input = readNumber c start input := by
  have member : c ∈ "123456789".toList := by
    have all := Number.mem_of_isDigit digit
    simp only [String.reduceToList, List.mem_cons, List.not_mem_nil, or_false] at all ⊢
    rcases all with zero | others
    · exact absurd zero first
    · exact others
  simp only [String.reduceToList, List.mem_cons, List.not_mem_nil, or_false] at member
  rcases member with rfl | rfl | rfl | rfl | rfl | rfl | rfl | rfl | rfl <;>
    cases alphabet <;> rfl

theorem isOctal_false_of_digitFree {rest : List Piece} (stops : DigitFree rest) (c : Char)
    (head : rest.head? = some (.plain c)) : isOctal c = false := by
  refine Bool.eq_false_iff.mpr fun octal => ?_
  have digit := isDigit_of_isOctal octal
  rw [stops c head] at digit
  cases digit

theorem readNumber_of_spells {c : Char} {cs : List Char} {n : Nat} (spelled : Spells (c :: cs) n)
    {input : Input} {rest : List Piece} (text : input.rest = cs.map .plain ++ rest)
    (stops : DigitFree rest) (dangling : rest ≠ [.dangling]) (start : Nat) :
    ∃ place, readNumber c start input = .ok (.reference n, ⟨place, rest⟩) := by
  cases spelled with
  | one digit first =>
    have same : input.rest = rest := text
    have alone : input.takeSome Char.isDigit 1 = .ok ([], input) :=
      Input.takeSome_of_other (same ▸ stops) 1
    refine ⟨input.position, ?_⟩
    simp [readNumber, alone, bind, Except.bind, pure, Except.pure, ← same]
  | @two _ d digit first second =>
    have one : input.takeSome Char.isDigit 1 = .ok ([d], ⟨input.position + 1, rest⟩) := by
      rw [Input.takeSome_of_head text second]
      simp [Input.goTo, dangling, Input.takeSome, bind, Except.bind]
    have noMore : (⟨input.position + 1, rest⟩ : Input).takeSome isOctal 1 =
        .ok ([], ⟨input.position + 1, rest⟩) :=
      Input.takeSome_of_other (isOctal_false_of_digitFree stops) 1
    refine ⟨input.position + 1, ?_⟩
    cases both : isOctal c && isOctal d <;>
      simp [readNumber, one, noMore, both, bind, Except.bind, pure, Except.pure]

theorem readOutside_of_octal {c : Char} {cs : List Char} {code : Nat}
    (spelled : Octal (c :: cs) code) {input : Input} {rest : List Piece}
    (text : input.rest = cs.map .plain ++ rest)
    (stops : DigitFree rest) (dangling : rest ≠ [.dangling]) (alphabet : Alphabet) (start : Nat) :
    ∃ place, readOutside alphabet c start input = .ok (.item (.char code), ⟨place, rest⟩) := by
  cases spelled with
  | zero octal short =>
    obtain ⟨place, taken⟩ :=
      Input.takeSome_of_all octal short (isOctal_false_of_digitFree stops) dangling text
    have reads : readOutside alphabet '0' start input =
        input.takeSome isOctal 2 >>= fun read =>
          .ok (.item (.char (number 8 read.1)), read.2) := by
      cases alphabet <;> rfl
    exact ⟨place, by rw [reads, taken]; rfl⟩
  | @three _ d e first octal byte =>
    simp only [List.all_cons, List.all_nil, Bool.and_true, Bool.and_eq_true] at octal
    obtain ⟨octalC, octalD, octalE⟩ := octal
    let next : Input := ⟨input.position + 1, .plain e :: rest⟩
    have second : input.takeSome Char.isDigit 1 = .ok ([d], next) := by
      rw [Input.takeSome_of_head text (isDigit_of_isOctal octalD)]
      simp [next, Input.goTo, Input.takeSome, bind, Except.bind]
    have behind : next.rest = [e].map .plain ++ rest := rfl
    have single : [e].all isOctal = true := by simp [octalE]
    obtain ⟨place, third⟩ := Input.takeSome_of_all single (Nat.le_refl 1)
      (isOctal_false_of_digitFree stops) dangling behind
    have within : octal [c, d, e] start = .ok (number 8 [c, d, e]) := if_neg (Nat.not_lt.mpr byte)
    refine ⟨place, ?_⟩
    rw [readOutside_digit (isDigit_of_isOctal octalC) first]
    simp [readNumber, second, third, octalC, octalD, within, bind, Except.bind, pure, Except.pure]

theorem readOutside_of_special {c : Char} (special : isSpecial c = true) (alphabet : Alphabet)
    (start : Nat) (input : Input) :
    readOutside alphabet c start input = .ok (.item (.char c.toNat), input) := by
  simp only [isSpecial, String.reduceToList, List.contains_eq_mem, List.mem_cons, List.not_mem_nil,
    or_false, decide_eq_true_eq] at special
  rcases special with rfl | rfl | rfl | rfl | rfl | rfl | rfl | rfl | rfl | rfl | rfl | rfl | rfl |
    rfl | rfl | rfl | rfl | rfl | rfl | rfl | rfl | rfl | rfl | rfl | rfl | rfl <;>
    cases alphabet <;> rfl

theorem readOutside_of_symbol {c : Char} (letter : Text.isAsciiLetter c.toNat = false)
    (digit : c.isDigit = false) (alphabet : Alphabet) (start : Nat) (input : Input) :
    readOutside alphabet c start input = .ok (.item (.char c.toNat), input) := by
  by_cases backslash : c = '\\'
  · exact readOutside_of_special (backslash ▸ rfl) alphabet start input
  have anchor : anchor? c = none := by
    unfold anchor?
    split <;> first | rfl | cases letter
  have category : category? c = none := by
    unfold category?
    split <;> first | rfl | cases letter
  have control : control? c = none := by
    unfold control?
    split <;> first | rfl | exact absurd rfl backslash | cases letter
  have code : readCode? alphabet c start input = .ok none := by
    unfold readCode?
    split <;> first | rfl | cases letter
  have zero : c ≠ '0' := by
    rintro rfl
    cases digit
  simp [readOutside, anchor, category, control, code, zero, digit, readLiteral, letter, bind,
    Except.bind, pure, Except.pure]

theorem readOutside_of_foreign {c : Char} (foreign : 0x7F < c.toNat) (alphabet : Alphabet)
    (start : Nat) (input : Input) :
    readOutside alphabet c start input = .ok (.item (.char c.toNat), input) := by
  have letter : Text.isAsciiLetter c.toNat = false := by
    have high : ¬c.toNat ≤ 0x5A ∧ ¬c.toNat ≤ 0x7A := by omega
    simp [Text.isAsciiLetter, high]
  exact readOutside_of_symbol letter (isDigit_of_foreign foreign) alphabet start input

end Escape

namespace SetItem

theorem readMember_mirrors (ends : numbers.Ends) (alphabet : Alphabet) (start start' : Nat)
    (piece : Piece) (aligned : Aligned numbers marks inside a.rest b.rest) :
    Mirrors False (Alike numbers marks inside) (readMember alphabet start piece a)
      (readMember alphabet start' piece b) := by
  cases piece with
  | plain c => exact .ok ⟨rfl, aligned⟩
  | escaped c => exact Escape.readInSet_mirrors ends alphabet c start start' aligned
  | dangling => exact .error

theorem ofEnds_mirrors (low high : SetItem) (lowPiece highPiece : Piece) (a b : Input) :
    Mirrors False (· = ·) (ofEnds low high lowPiece highPiece a)
      (ofEnds low high lowPiece highPiece b) := by
  unfold ofEnds
  dsimp only
  split
  · split
    · exact .error
    · exact .ok rfl
  · exact .error

def readFrom (alphabet : Alphabet) (start fuel : Nat) (items : List SetItem) (first : Nat)
    (piece : Piece) (input : Input) : Except Rejection (List SetItem × Input) := do
  let (low, input) ← readMember alphabet first piece input
  let (dash, input) ← input.accept '-'
  if !dash then return ← readAll alphabet start fuel (low :: items) input
  let second := input.position
  let (piece?, input) ← input.take
  let some highPiece := piece? | .error (Fault.unterminatedSet.at start)
  if highPiece = .plain ']' then return ((.char '-'.toNat :: low :: items).reverse, input)
  let (high, input) ← readMember alphabet second highPiece input
  let range ← ofEnds low high piece highPiece input
  readAll alphabet start fuel (range :: items) input

theorem readAll_of_head (alphabet : Alphabet) (start fuel : Nat) (items : List SetItem)
    {input : Input} {piece : Piece} {rest : List Piece} (head : input.rest = piece :: rest) :
    readAll alphabet start (fuel + 1) items input =
      Input.goTo (input.position + piece.length) rest >>= fun after =>
        if piece = .plain ']' && !items.isEmpty then .ok (items.reverse, after)
        else readFrom alphabet start fuel items input.position piece after := by
  rw [readAll, Input.take_bind head]
  rfl

theorem readFrom_mirrors (ends : numbers.Ends) (alphabet : Alphabet) {start start' fuel fuel' : Nat}
    (others : ∀ items a b, items ≠ [] → Aligned numbers marks true a.rest b.rest →
      b.rest.length < fuel' → Mirrors False (Alike numbers marks false)
        (readAll alphabet start fuel items a) (readAll alphabet start' fuel' items b))
    (items : List SetItem) (first first' : Nat) (piece : Piece)
    (aligned : Aligned numbers marks true a.rest b.rest) (bound : b.rest.length < fuel') :
    Mirrors False (Alike numbers marks false) (readFrom alphabet start fuel items first piece a)
      (readFrom alphabet start' fuel' items first' piece b) := by
  unfold readFrom
  refine ((readMember_mirrors ends alphabet first first' piece aligned).also
    (readMember_leaves alphabet first' piece b)).bind ?_
  rintro ⟨low, x⟩ ⟨_, y⟩ ⟨⟨rfl, rest⟩, atLow⟩
  refine ((x.accept_mirrors ends rest rfl (by decide)).also (y.accept_leaves '-')).bind ?_
  rintro ⟨dash, x⟩ ⟨_, y'⟩ ⟨⟨rfl, rest⟩, atDash⟩
  have here : y'.rest.length < fuel' := Nat.lt_of_le_of_lt (atLow.trans atDash).length_le bound
  cases dash with
  | false => exact others _ x y' (by simp) rest here
  | true =>
    obtain ⟨highPiece, s, head⟩ := List.exists_cons_of_ne_nil rest.ne_nil
    obtain ⟨t, there, next⟩ := (head ▸ rest).uncons_inside
    have shorter : t.length < fuel' := by
      rw [there, List.length_cons] at here
      omega
    simp only [Bool.not_true, Bool.false_eq_true, if_false]
    rw [Input.take_bind head, Input.take_bind there]
    -- A dash in front of the closing bracket is a member itself.
    rcases next with ⟨rfl, rest⟩ | ⟨inner, -, rest⟩
    · refine (Input.goTo_mirrors (rest.ne_dangling ends) _ _).bind ?_
      rintro x y ⟨rfl, rfl⟩
      exact .ok ⟨rfl, rest⟩
    · refine (Input.goTo_mirrors (rest.ne_dangling ends) _ _).bind ?_
      rintro x y ⟨rfl, rfl⟩
      dsimp only
      simp only [if_neg inner]
      refine ((readMember_mirrors ends alphabet _ _ highPiece rest).also
        (readMember_leaves alphabet _ highPiece y)).bind ?_
      rintro ⟨high, x⟩ ⟨_, y'⟩ ⟨⟨rfl, rest⟩, atHigh⟩
      refine (ofEnds_mirrors low high piece highPiece x y').bind ?_
      rintro range _ rfl
      exact others _ x y' (by simp) rest (Nat.lt_of_le_of_lt atHigh.length_le shorter)

theorem readAll_mirrors (ends : numbers.Ends) (alphabet : Alphabet) (start start' fuel fuel' : Nat)
    {items : List SetItem} (some : items ≠ []) (aligned : Aligned numbers marks true a.rest b.rest)
    (bound : b.rest.length < fuel') : Mirrors False (Alike numbers marks false)
      (readAll alphabet start fuel items a) (readAll alphabet start' fuel' items b) := by
  induction fuel generalizing fuel' items a b with
  | zero => exact .error
  | succ fuel ih =>
    obtain ⟨piece, s, head⟩ := List.exists_cons_of_ne_nil aligned.ne_nil
    obtain ⟨t, there, next⟩ := (head ▸ aligned).uncons_inside
    have nonempty : items.isEmpty = false := by simpa using some
    cases fuel' with
    | zero => omega
    | succ fuel' =>
      rw [readAll_of_head _ _ _ _ head, readAll_of_head _ _ _ _ there]
      have shorter : t.length < fuel' := by
        rw [there, List.length_cons] at bound
        omega
      rcases next with ⟨rfl, rest⟩ | ⟨inner, -, rest⟩
      · refine (Input.goTo_mirrors (rest.ne_dangling ends) _ _).bind ?_
        rintro x y ⟨rfl, rfl⟩
        simp only [nonempty]
        exact .ok ⟨rfl, rest⟩
      · refine (Input.goTo_mirrors (rest.ne_dangling ends) _ _).bind ?_
        rintro x y ⟨rfl, rfl⟩
        simp only [inner, decide_false, Bool.false_and, Bool.false_eq_true, if_false]
        exact readFrom_mirrors ends alphabet (fun items a b some aligned bound =>
          ih _ some aligned bound) items _ _ piece rest shorter

end SetItem

namespace Lexeme

/-- Two lexemes that are the same but for a number. The lists are the landmarks before and after
them. -/
inductive Mirrored (numbers : Renumbering) :
    List Landmark → List Landmark → Lexeme → Lexeme → Prop
  | blank {marks : List Landmark} : Mirrored numbers marks marks .blank .blank
  | item {marks : List Landmark} {regex : Regex} (leaf : ∀ offset, regex.shift offset = regex) :
    Mirrored numbers marks marks (.item regex) (.item regex)
  | quantifier {marks : List Landmark} {least : Nat} {most : Option Nat} :
    Mirrored numbers marks marks (.quantifier least most) (.quantifier least most)
  | reference {marks : List Landmark} {n n' : Nat} (related : numbers.reference n n') :
    Mirrored numbers (.reference n :: marks) marks (.reference n) (.reference n')
  | namedReference {marks : List Landmark} {name : List Char} :
    Mirrored numbers marks marks (.namedReference name) (.namedReference name)
  | group {marks : List Landmark} {name : Option (List Char)} :
    Mirrored numbers (.group :: marks) marks (.opening (.capture name)) (.opening (.capture name))
  | scoping {marks : List Landmark} {on off : Flags} (verbose : on.has .verbose = false) :
    Mirrored numbers marks marks (.opening (.scoped on off)) (.opening (.scoped on off))
  | atomic {marks : List Landmark} :
    Mirrored numbers marks marks (.opening .atomic) (.opening .atomic)
  | ahead {marks : List Landmark} {negated : Bool} :
    Mirrored numbers marks marks (.opening (.ahead negated)) (.opening (.ahead negated))
  | behind {marks : List Landmark} {negated : Bool} :
    Mirrored numbers marks marks (.opening (.behind negated)) (.opening (.behind negated))
  | condition {marks : List Landmark} {name name' : List Char} (digits : name.all Char.isDigit)
    (digits' : name'.all Char.isDigit) (some : name ≠ []) (some' : name' ≠ [])
    (related : numbers.condition name name') :
    Mirrored numbers (.condition name :: marks) marks (.opening (.condition name))
      (.opening (.condition name'))
  | namedCondition {marks : List Landmark} {name : List Char}
    (identifier : Text.isIdentifier name) :
    Mirrored numbers marks marks (.opening (.condition name)) (.opening (.condition name))

def Reads (numbers : Renumbering) (marks : List Landmark) (x y : Lexeme × Input) : Prop :=
  ∃ after, Mirrored numbers marks after x.1 y.1 ∧ Aligned numbers after false x.2.rest y.2.rest

theorem readMembers_mirrors (ends : numbers.Ends) (alphabet : Alphabet)
    (start start' fuel fuel' : Nat)
    {piece : Piece} {s t : List Piece} (here : a.rest = piece :: s) (there : b.rest = piece :: t)
    (aligned : Aligned numbers marks true s t) (bound : t.length < fuel') :
    Mirrors False (Alike numbers marks false) (SetItem.readAll alphabet start (fuel + 1) [] a)
      (SetItem.readAll alphabet start' (fuel' + 1) [] b) := by
  rw [SetItem.readAll_of_head _ _ _ _ here, SetItem.readAll_of_head _ _ _ _ there]
  refine (Input.goTo_mirrors (aligned.ne_dangling ends) _ _).bind ?_
  rintro x y ⟨rfl, rfl⟩
  simp only [List.isEmpty_nil, Bool.not_true, Bool.and_false, Bool.false_eq_true, if_false]
  exact SetItem.readFrom_mirrors ends alphabet (fun items a b some aligned bound =>
    SetItem.readAll_mirrors ends alphabet _ _ _ _ some aligned bound) [] _ _ piece aligned bound

theorem readBraces_mirrors (ends : numbers.Ends)
    (aligned : Aligned numbers marks false a.rest b.rest) :
    Mirrors False (Reads numbers marks) (readBraces a) (readBraces b) := by
  have literal : Reads numbers marks (.item (.char '\x7b'.toNat), a)
      (.item (.char '\x7b'.toNat), b) := ⟨marks, .item fun _ => rfl, aligned⟩
  unfold readBraces
  dsimp only
  have closes : a.rest.head? = some (.plain '\x7d') ↔ b.rest.head? = some (.plain '\x7d') :=
    aligned.head?_iff ends (by decide) (by decide) (by decide) (by decide)
  by_cases closed : a.rest.head? = some (.plain '\x7d')
  · rw [if_pos closed, if_pos (closes.mp closed)]
    exact .ok literal
  rw [if_neg closed, if_neg (mt closes.mpr closed)]
  refine (Input.takeAll_mirrors ends isDigit_ordinary aligned).bind ?_
  rintro ⟨low, x⟩ ⟨_, y⟩ ⟨rfl, rest⟩
  refine (x.accept_mirrors ends rest rfl (by decide)).bind ?_
  rintro ⟨comma, x⟩ ⟨_, y⟩ ⟨rfl, rest⟩
  have upper : Mirrors False (Alike numbers marks false)
      (if comma then x.takeAll Char.isDigit else .ok (low, x))
      (if comma then y.takeAll Char.isDigit else .ok (low, y)) := by
    split
    · exact Input.takeAll_mirrors ends isDigit_ordinary rest
    · exact .ok ⟨rfl, rest⟩
  refine upper.branch ?_
  rintro ⟨high, x⟩ ⟨_, y⟩ ⟨rfl, rest⟩
  refine (x.accept_mirrors ends rest rfl (by decide)).bind ?_
  rintro ⟨close, x⟩ ⟨_, y⟩ ⟨rfl, rest⟩
  dsimp only at rest ⊢
  cases close with
  | false => exact .ok literal
  | true =>
    refine (Mirrors.refl (readCount low)).bind ?_
    rintro least _ rfl
    refine (Mirrors.refl (readCount high)).bind ?_
    rintro most _ rfl
    have counted : Reads numbers marks (.quantifier (least.getD 0) most, x)
        (.quantifier (least.getD 0) most, y) := ⟨marks, .quantifier, rest⟩
    cases most with
    | none => exact .ok counted
    | some m =>
      dsimp only
      split
      · exact .error
      · exact .ok counted

theorem ne_verbose_of_letter {c : Char} {flag : Flag} (letter : Flag.ofLetter? c = some flag)
    (other : c ≠ 'x') : flag ≠ .verbose := by
  rintro rfl
  unfold Flag.ofLetter? at letter
  split at letter <;> simp_all

theorem flagOf?_eq_none {piece : Piece}
    (bracket : ∀ c, piece = .plain c → isBracket c = true) : flagOf? piece = none := by
  cases piece with
  | plain c =>
    have one : c = '(' ∨ c = '[' ∨ c = ']' := by
      simpa [isBracket, or_assoc] using bracket c rfl
    rcases one with rfl | rfl | rfl <;> rfl
  | escaped c => rfl
  | dangling => rfl

/-- The flags that a modest group turns on: verbose mode is not among them, and they are not for the
whole pattern. -/
theorem readFlagsOn_mirrors (ends : numbers.Ends) (alphabet : Alphabet) (fuel fuel' : Nat)
    {flag : Flag} {flags : Flags} (aligned : Aligned numbers marks false a.rest b.rest)
    (bound : b.rest.length < fuel') (here : flag ≠ .verbose) (before : flags.has .verbose = false)
    (verbose : .plain 'x' ∉ a.rest.takeWhile Piece.isFlag)
    (closing : (a.rest.dropWhile Piece.isFlag).head? ≠ some (.plain ')')) :
    Mirrors False (fun x y => x.1 = y.1 ∧ x.1.has .verbose = false ∧ x.2.1 = y.2.1 ∧ x.2.1 ≠ ')' ∧
        Aligned numbers marks false x.2.2.rest y.2.2.rest)
      (readFlagsOn alphabet fuel flag flags a) (readFlagsOn alphabet fuel' flag flags b) := by
  induction fuel generalizing fuel' flag flags a b with
  | zero => exact .error
  | succ fuel ih =>
    cases fuel' with
    | zero => omega
    | succ fuel' =>
      unfold readFlagsOn
      dsimp only
      split
      · exact .error
      split
      · exact .error
      split
      · exact .error
      have still := has_insert_verbose before here
      -- Letters are taken in both texts as long as there are any. None of them is `x`, and they do
      -- not end with the parenthesis of a group for the whole pattern.
      refine Input.take_mirrors ends aligned ?_ ?_
      · intro c x y ordinary head there rest
        rw [head] at verbose closing
        rw [there, List.length_cons] at bound
        dsimp only
        split
        · next same =>
          cases same
          exact absurd rfl closing
        · exact .ok ⟨rfl, still, rfl, by simp, rest⟩
        · exact .ok ⟨rfl, still, rfl, by simp, rest⟩
        · cases letter : flagOf? (.plain c) with
          | none => exact .error
          | some flag =>
            have isFlag : (Piece.plain c).isFlag = true := by simp [Piece.isFlag, letter]
            rw [List.takeWhile_cons_of_pos isFlag] at verbose
            rw [List.dropWhile_cons_of_pos isFlag] at closing
            have other : c ≠ 'x' := fun same => verbose (same ▸ List.mem_cons_self)
            exact ih fuel' rest (by omega) (ne_verbose_of_letter letter other) still
              (fun member => verbose (List.mem_cons_of_mem _ member)) closing
      · intro piece? x _ bracket
        cases piece? with
        | none => exact .error
        | some piece =>
          have noFlag := flagOf?_eq_none (fun c same => bracket c (congrArg some same))
          dsimp only
          split
          · cases bracket ')' rfl
          · cases bracket '-' rfl
          · cases bracket ':' rfl
          · rw [noFlag]
            exact .error

theorem readFlagsOff_mirrors (ends : numbers.Ends) (fuel fuel' : Nat) {flag : Flag} {flags : Flags}
    (aligned : Aligned numbers marks false a.rest b.rest) (bound : b.rest.length < fuel') :
    Mirrors False (Alike numbers marks false) (readFlagsOff fuel flag flags a)
      (readFlagsOff fuel' flag flags b) := by
  induction fuel generalizing fuel' flag flags a b with
  | zero => exact .error
  | succ fuel ih =>
    cases fuel' with
    | zero => omega
    | succ fuel' =>
      unfold readFlagsOff
      dsimp only
      split
      · exact .error
      refine Input.take_mirrors ends aligned ?_ ?_
      · intro c x y ordinary head there rest
        rw [there, List.length_cons] at bound
        dsimp only
        split
        · exact .ok ⟨rfl, rest⟩
        · cases flagOf? (.plain c) with
          | none => exact .error
          | some flag => exact ih fuel' rest (by omega)
      · intro piece? x _ bracket
        cases piece? with
        | none => exact .error
        | some piece =>
          have noFlag := flagOf?_eq_none (fun c same => bracket c (congrArg some same))
          dsimp only
          split
          · next same =>
            cases same
            cases bracket ':' rfl
          · rw [noFlag]
            exact .error

theorem readOff_mirrors (ends : numbers.Ends)
    (aligned : Aligned numbers marks false a.rest b.rest) :
    Mirrors False (Alike numbers marks false) (readOff a) (readOff b) := by
  unfold readOff
  refine Input.take_mirrors ends aligned ?_ ?_
  · intro c x y ordinary head there rest
    dsimp only
    cases flagOf? (.plain c) with
    | none => exact .error
    | some flag => exact readFlagsOff_mirrors ends _ _ rest (Nat.lt_succ_self _)
  · intro piece? x _ bracket
    cases piece? with
    | none => exact .error
    | some piece =>
      have noFlag := flagOf?_eq_none (fun c same => bracket c (congrArg some same))
      simp only [noFlag]
      exact .error

theorem scopedFlags_mirrors {on off : Flags} (verbose : on.has .verbose = false)
    (aligned : Aligned numbers marks false a.rest b.rest) :
    Mirrors False (Reads numbers marks) (scopedFlags on off a) (scopedFlags on off b) := by
  unfold scopedFlags
  split
  · exact .error
  split
  · exact .error
  · exact .ok ⟨marks, .scoping verbose, aligned⟩

theorem flagGroup_mirrors (ends : numbers.Ends) {on : Flags} (verbose : on.has .verbose = false)
    {stop : Char} (closing : stop ≠ ')') (aligned : Aligned numbers marks false a.rest b.rest) :
    Mirrors False (Reads numbers marks) (flagGroup on stop a) (flagGroup on stop b) := by
  unfold flagGroup
  dsimp only
  rw [if_neg closing, if_neg closing]
  split
  · exact .error
  split
  · refine (readOff_mirrors ends aligned).bind ?_
    rintro ⟨off, x⟩ ⟨_, y⟩ ⟨rfl, rest⟩
    exact scopedFlags_mirrors verbose rest
  · exact scopedFlags_mirrors verbose aligned

theorem not_mem_identifier {name : List Char} (identifier : Text.isIdentifier name = true) :
    ∀ c ∈ ['(', '[', ']', ')', '?', '\\', '&', '<', '>'], c ∉ name := by
  have starts : ['(', '[', ']', ')', '?', '\\', '&', '<', '>'].any
      (fun c => Text.isIdentifierStart c.toNat) = false := by
    decide
  have continues : ['(', '[', ']', ')', '?', '\\', '&', '<', '>'].any
      (fun c => Text.isIdentifierContinuation c.toNat) = false := by
    decide
  intro c special member
  cases name with
  | nil => cases member
  | cons first others =>
    simp only [Text.isIdentifier, Bool.and_eq_true, List.all_eq_true] at identifier
    rcases List.mem_cons.mp member with rfl | later
    · exact List.any_eq_false.mp starts c special identifier.1
    · exact List.any_eq_false.mp continues c special (identifier.2 c later)

theorem ordinary_of_isIdentifier (name : List Char) (identifier : Text.isIdentifier name = true) :
    ∀ c ∈ name, isBracket c = false ∧ c ≠ '\\' := by
  have special := not_mem_identifier identifier
  intro c member
  have other : c ∉ ['(', '[', ']', '\\'] := by
    intro among
    simp only [List.mem_cons, List.not_mem_nil, or_false] at among
    rcases among with rfl | rfl | rfl | rfl <;> exact special _ (by simp) member
  simpa [isBracket, and_assoc] using other

theorem not_isIdentifier_of_digits {name : List Char} (digits : name.all Char.isDigit = true) :
    Text.isIdentifier name = false := by
  apply Text.not_isIdentifier_of_digits
  exact List.all_eq_true.mpr fun c member =>
    Text.isDigit_of_ascii (List.all_eq_true.mp digits c member)

theorem ne_nil_of_identifier {name : List Char} (identifier : Text.isIdentifier name = true) :
    name ≠ [] := by
  rintro rfl
  cases identifier

theorem checkName_mirrors (name : List Char) (x y : Input) :
    Mirrors False (fun _ _ => True) (checkName name x) (checkName name y) := by
  unfold checkName
  split
  · exact .ok .intro
  · exact .error

theorem checkName_never {name : List Char} (other : Text.isIdentifier name = false) (x : Input)
    {next : Unit → Except Rejection γ} :
    Ensures (checkName name x >>= next) fun _ => False := by
  simp only [checkName, other]
  exact .error

theorem namedGroup_mirrors (ends : numbers.Ends)
    (aligned : Aligned numbers marks false a.rest b.rest) :
    Mirrors False (Reads numbers (.group :: marks))
      (do
        let (name, input) ← a.takeUntil '>' "group name"
        checkName name input
        return (.opening (.capture (some name)), input))
      (do
        let (name, input) ← b.takeUntil '>' "group name"
        checkName name input
        return (.opening (.capture (some name)), input)) := by
  refine Input.takeUntil_mirrors ends rfl _ aligned ordinary_of_isIdentifier ?_ ?_
  · intro name x y rest
    refine (checkName_mirrors name x y).bind fun _ _ _ => ?_
    exact .ok ⟨marks, .group, rest⟩
  · exact fun name x other => checkName_never other x

theorem readNamed_mirrors (ends : numbers.Ends) (unnamed : a.rest.head? ≠ some (.plain '<'))
    (aligned : Aligned numbers marks false a.rest b.rest) :
    Mirrors False (Reads numbers marks) (readNamed a) (readNamed b) := by
  unfold readNamed
  rw [Input.accept_of_other unnamed]
  by_cases equals : a.rest.head? = some (.plain '=')
  · obtain ⟨s, here⟩ := List.head?_eq_some_iff.mp equals
    obtain ⟨t, there, rest⟩ := (here ▸ aligned).uncons (by decide) (by decide) (by decide)
    have unnamed' : b.rest.head? ≠ some (.plain '<') := by simp [there]
    rw [Input.accept_of_other unnamed']
    have accepted : Mirrors False (fun x y => x.1 = true ∧ y.1 = true ∧
        Aligned numbers marks false x.2.rest y.2.rest) (a.accept '=') (b.accept '=') := by
      rw [Input.accept_of_head here, Input.accept_of_head there]
      refine (Input.goTo_mirrors (rest.ne_dangling ends) _ _).bind ?_
      rintro x y ⟨rfl, rfl⟩
      exact .ok ⟨rfl, rfl, rest⟩
    refine accepted.bind ?_
    rintro ⟨_, x⟩ ⟨_, y⟩ ⟨rfl, rfl, rest⟩
    refine Input.takeUntil_mirrors ends rfl _ rest ordinary_of_isIdentifier ?_ ?_
    · intro name x y rest
      refine (checkName_mirrors name x y).bind fun _ _ _ => ?_
      exact .ok ⟨marks, .namedReference, rest⟩
    · exact fun name x other => checkName_never other x
  · apply Mirrors.of_never
    show Ensures (a.accept '=' >>= _) _
    rw [Input.accept_of_other equals]
    show Ensures (a.take >>= _) _
    refine (Ensures.trivial _).bind fun (piece?, _) _ => ?_
    cases piece? <;> exact .error

theorem readBehind_mirrors (ends : numbers.Ends)
    (aligned : Aligned numbers marks false a.rest b.rest) :
    Mirrors False (Reads numbers marks) (readBehind a) (readBehind b) := by
  unfold readBehind
  refine Input.take_mirrors ends aligned ?_ ?_
  · intro c x y ordinary head there rest
    dsimp only
    split
    · exact .ok ⟨marks, .behind, rest⟩
    · exact .ok ⟨marks, .behind, rest⟩
    · exact .error
  · intro piece? x _ bracket
    cases piece? with
    | none => exact .error
    | some piece =>
      dsimp only
      split
      · cases bracket '=' rfl
      · cases bracket '!' rfl
      · exact .error

def readExtension (alphabet : Alphabet) (start : Nat) (input : Input) :
    Except Rejection (Lexeme × Input) := do
  let (piece?, input) ← input.take
  let some piece := piece? | .error (Fault.unexpectedEnd.at input.position)
  match piece with
  | .plain 'P' => readNamed input
  | .plain ':' => return (.opening (.scoped .none .none), input)
  | .plain '#' =>
    let (closed, input) ← Input.skipPast ')' input.position input.rest
    if closed then return (.blank, input)
    else .error (Fault.unterminatedComment.at start)
  | .plain '=' => return (.opening (.ahead false), input)
  | .plain '!' => return (.opening (.ahead true), input)
  | .plain '<' => readBehind input
  | .plain '(' =>
    let (name, input) ← input.takeUntil ')' "group name"
    return (.opening (.condition name), input)
  | .plain '>' => return (.opening .atomic, input)
  | .plain '-' => readFlags alphabet none input
  | _ =>
    match flagOf? piece with
    | some flag => readFlags alphabet (some flag) input
    | none =>
      .error ((Fault.unknownExtension ('?' :: piece.text)).at
        (input.position - (piece.length + 1)))

theorem readOpening_eq (alphabet : Alphabet) (start : Nat) (input : Input) :
    readOpening alphabet start input = input.accept '?' >>= fun (question, input) =>
      if !question then .ok (.opening (.capture none), input)
      else readExtension alphabet start input := rfl

theorem read_parenthesis (alphabet : Alphabet) (verbose : Bool) (start : Nat) (input : Input) :
    read alphabet verbose (.plain '(') start input = readOpening alphabet start input := by
  cases verbose <;> rfl

theorem read_bracket (alphabet : Alphabet) (verbose : Bool) (start : Nat) (input : Input) :
    read alphabet verbose (.plain '[') start input = readSet alphabet start input := by
  cases verbose <;> rfl

theorem readExtension_mirrors (ends : numbers.Ends) (alphabet : Alphabet) (start start' : Nat)
    (modest : Modest a.rest) (aligned : Aligned numbers marks false a.rest b.rest) :
    Mirrors False (Reads numbers marks) (readExtension alphabet start a)
      (readExtension alphabet start' b) := by
  unfold readExtension
  -- A modest text has no comment, no condition and no flags for the whole pattern here.
  refine Input.take_mirrors ends aligned ?_ ?_
  · intro c x y ordinary head there rest
    obtain ⟨comment, condition, name, verbose, closing⟩ := modest
    rw [head] at comment condition name verbose closing
    dsimp only
    split
    · exact readNamed_mirrors ends (name (by simp_all)) rest
    · exact .ok ⟨marks, .scoping rfl, rest⟩
    · next same =>
      cases same
      exact absurd rfl comment
    · exact .ok ⟨marks, .ahead, rest⟩
    · exact .ok ⟨marks, .ahead, rest⟩
    · exact readBehind_mirrors ends rest
    · next same =>
      cases same
      exact absurd rfl condition
    · exact .ok ⟨marks, .atomic, rest⟩
    · have minus : ('-' : Char) ≠ ')' := by decide
      rw [readFlags_eq, readFlags_eq]
      exact flagGroup_mirrors ends (show Flags.none.has .verbose = false from rfl) minus rest
    · cases letter : flagOf? (.plain c) with
      | none => exact .error
      | some flag =>
        have isFlag : (Piece.plain c).isFlag = true := by simp [Piece.isFlag, letter]
        rw [List.takeWhile_cons_of_pos isFlag] at verbose
        rw [List.dropWhile_cons_of_pos isFlag] at closing
        have other : c ≠ 'x' := fun same => verbose (same ▸ List.mem_cons_self)
        dsimp only
        rw [readFlags_eq, readFlags_eq]
        refine (readFlagsOn_mirrors ends alphabet _ _ rest (Nat.lt_succ_self _)
          (ne_verbose_of_letter letter other) rfl
          (fun member => verbose (List.mem_cons_of_mem _ member)) closing).bind ?_
        rintro ⟨on, stop, x⟩ ⟨_, _, y⟩ ⟨rfl, quiet, rfl, last, rest⟩
        exact flagGroup_mirrors ends quiet last rest
  · intro piece? x head bracket
    cases piece? with
    | none => exact .error
    | some piece =>
      have noFlag := flagOf?_eq_none (fun c same => bracket c (congrArg some same))
      have parenthesis : piece ≠ .plain '(' := fun same => modest.condition (by rw [← head, same])
      dsimp only
      split
      · cases bracket 'P' rfl
      · cases bracket ':' rfl
      · cases bracket '#' rfl
      · cases bracket '=' rfl
      · cases bracket '!' rfl
      · cases bracket '<' rfl
      · exact absurd rfl parenthesis
      · cases bracket '>' rfl
      · cases bracket '-' rfl
      · rw [noFlag]
        exact .error

theorem not_mem_digits {name : List Char} (digits : name.all Char.isDigit = true) {c : Char}
    (other : c.isDigit = false) : c ∉ name := by
  intro member
  cases (List.all_eq_true.mp digits c member).symm.trans other

theorem readOpening_of_extension (alphabet : Alphabet) (start : Nat) {input : Input}
    {rest : List Piece} (dangling : rest ≠ [.dangling]) (head : input.rest = .plain '?' :: rest) :
    readOpening alphabet start input =
      readExtension alphabet start ⟨input.position + 1, rest⟩ := by
  rw [readOpening_eq, Input.accept_of_plain dangling head]
  rfl

theorem readPlain_mirrors (ends : numbers.Ends) (alphabet : Alphabet) {c : Char}
    (parenthesis : c ≠ '(') (bracket : c ≠ '[') (start start' : Nat)
    (aligned : Aligned numbers marks false a.rest b.rest) :
    Mirrors False (Reads numbers marks) (readPlain alphabet false c start a)
      (readPlain alphabet false c start' b) := by
  unfold readPlain
  simp only [Bool.false_and, Bool.false_eq_true, if_false]
  split
  · exact absurd rfl bracket
  · exact .ok ⟨marks, .quantifier, aligned⟩
  · exact .ok ⟨marks, .quantifier, aligned⟩
  · exact .ok ⟨marks, .quantifier, aligned⟩
  · exact readBraces_mirrors ends aligned
  · exact .ok ⟨marks, .item fun _ => rfl, aligned⟩
  · exact absurd rfl parenthesis
  · exact .ok ⟨marks, .item fun _ => rfl, aligned⟩
  · exact .ok ⟨marks, .item fun _ => rfl, aligned⟩
  · exact .ok ⟨marks, .item fun _ => rfl, aligned⟩

theorem readSet_mirrors (ends : numbers.Ends) (alphabet : Alphabet) (start start' : Nat)
    {piece : Piece} {s t : List Piece} (caret : piece ≠ .plain '^') (here : a.rest = piece :: s)
    (there : b.rest = piece :: t) (aligned : Aligned numbers marks true s t) :
    Mirrors False (Reads numbers marks) (readSet alphabet start a) (readSet alphabet start' b) := by
  have other {input : Input} {rest : List Piece} (head : input.rest = piece :: rest) :
      input.accept '^' = .ok (false, input) :=
    Input.accept_of_other (by simpa [head] using caret)
  unfold readSet
  rw [other here, other there]
  refine (readMembers_mirrors ends alphabet start start' _ _ here there aligned (by
    simp [there])).bind ?_
  rintro ⟨items, x⟩ ⟨_, y⟩ ⟨rfl, rest⟩
  exact .ok ⟨marks, .item fun _ => rfl, rest⟩

theorem readComplement_mirrors (ends : numbers.Ends) (alphabet : Alphabet) (start start' : Nat)
    {piece : Piece} {s t : List Piece} (dangling : piece ≠ .dangling)
    (here : a.rest = .plain '^' :: piece :: s) (there : b.rest = .plain '^' :: piece :: t)
    (aligned : Aligned numbers marks true s t) :
    Mirrors False (Reads numbers marks) (readSet alphabet start a) (readSet alphabet start' b) := by
  have onward (rest : List Piece) : piece :: rest ≠ [.dangling] := by simp [dangling]
  unfold readSet
  rw [Input.accept_of_head here, Input.accept_of_head there]
  simp only [Input.goTo, onward, if_false, bind, Except.bind]
  refine (readMembers_mirrors ends alphabet start start' _ _ rfl rfl aligned (by simp)).bind ?_
  rintro ⟨items, x⟩ ⟨_, y⟩ ⟨rfl, rest⟩
  exact .ok ⟨marks, .item fun _ => rfl, rest⟩

theorem readOpening_of_name (alphabet : Alphabet) (start : Nat) {input : Input} {rest : List Piece}
    (dangling : rest ≠ [.dangling])
    (head : input.rest = .plain '?' :: .plain 'P' :: .plain '<' :: rest) :
    ∃ place, readOpening alphabet start input = (do
      let (name, input) ← (⟨place, rest⟩ : Input).takeUntil '>' "group name"
      checkName name input
      return (.opening (.capture (some name)), input)) := by
  refine ⟨input.position + 1 + 1 + 1, ?_⟩
  rw [readOpening_of_extension alphabet start (by simp) head, readExtension, Input.take_bind rfl]
  simp [Input.goTo, readNamed, Input.accept, dangling, bind, Except.bind, Piece.length, Piece.text]

theorem readOpening_of_condition (alphabet : Alphabet) (start : Nat) {input : Input}
    {name : List Char} (absent : ')' ∉ name) (nonempty : name ≠ [])
    {rest : List Piece} (dangling : rest ≠ [.dangling])
    (head : input.rest = .plain '?' :: .plain '(' :: (name.map .plain ++ .plain ')' :: rest)) :
    ∃ place, readOpening alphabet start input =
      .ok (.opening (.condition name), ⟨place, rest⟩) := by
  have onward : name.map Piece.plain ++ .plain ')' :: rest ≠ [.dangling] := by cases name <;> simp
  obtain ⟨place, read⟩ : ∃ place, (⟨input.position + 1 + 1, name.map .plain ++ .plain ')' :: rest⟩ :
      Input).takeUntil ')' "group name" = .ok (name, ⟨place, rest⟩) := by
    rw [Input.takeUntil]
    exact Input.readUntil_name absent dangling [] _ nonempty
  refine ⟨place, ?_⟩
  rw [readOpening_of_extension alphabet start (by simp) head, readExtension, Input.take_bind rfl]
  simp [Input.goTo, onward, read, bind, Except.bind, pure, Except.pure, Piece.length, Piece.text]

theorem readOpening_of_comment (alphabet : Alphabet) (start : Nat) {input : Input}
    {body rest : List Piece} (closing : .plain ')' ∉ body) (dangling : rest ≠ [.dangling])
    (head : input.rest = .plain '?' :: .plain '#' :: (body ++ .plain ')' :: rest)) :
    ∃ place, readOpening alphabet start input = .ok (.blank, ⟨place, rest⟩) := by
  have onward : body ++ .plain ')' :: rest ≠ [.dangling] := by cases body <;> simp
  obtain ⟨place, skipped⟩ := Input.skipPast_body closing dangling (input.position + 1 + 1)
  refine ⟨place, ?_⟩
  rw [readOpening_of_extension alphabet start (by simp) head, readExtension, Input.take_bind rfl]
  simp [Input.goTo, onward, skipped, bind, Except.bind, pure, Except.pure, Piece.length, Piece.text]

theorem read_of_spells {c : Char} {cs : List Char} {n : Nat} (spelled : Spells (c :: cs) n)
    (alphabet : Alphabet) {input : Input} {rest : List Piece}
    (text : input.rest = cs.map .plain ++ rest) (stops : DigitFree rest)
    (dangling : rest ≠ [.dangling]) (start : Nat) :
    ∃ place, read alphabet false (.escaped c) start input = .ok (.reference n, ⟨place, rest⟩) := by
  obtain ⟨place, number⟩ := Escape.readNumber_of_spells spelled text stops dangling start
  refine ⟨place, ?_⟩
  have digit : c.isDigit = true ∧ c ≠ '0' := by
    cases spelled with
    | one digit first => exact ⟨digit, first⟩
    | two digit first => exact ⟨digit, first⟩
  simp only [read, Escape.readOutside_digit digit.1 digit.2, number]
  rfl

theorem readPlain_of_ordinary {c : Char} (ordinary : isSpecial c = false ∨ c = '&')
    (alphabet : Alphabet) (start : Nat) (input : Input) :
    readPlain alphabet false c start input = .ok (.item (.char c.toNat), input) := by
  unfold readPlain
  simp only [Bool.false_and, Bool.false_eq_true, if_false]
  split
  · exact absurd rfl (ne_of_ordinary ordinary (by decide))
  · exact absurd rfl (ne_of_ordinary ordinary (by decide))
  · exact absurd rfl (ne_of_ordinary ordinary (by decide))
  · exact absurd rfl (ne_of_ordinary ordinary (by decide))
  · exact absurd rfl (ne_of_ordinary ordinary (by decide))
  · exact absurd rfl (ne_of_ordinary ordinary (by decide))
  · exact absurd rfl (ne_of_ordinary ordinary (by decide))
  · exact absurd rfl (ne_of_ordinary ordinary (by decide))
  · exact absurd rfl (ne_of_ordinary ordinary (by decide))
  · rfl

theorem read_of_denotes {code : Nat} {piece : Piece} {more : List Char}
    (written : Denotes code piece more) (alphabet : Alphabet) {input : Input} {rest : List Piece}
    (text : input.rest = more.map .plain ++ rest) (stops : DigitFree rest)
    (dangling : rest ≠ [.dangling]) (start : Nat) :
    ∃ place, read alphabet false piece start input = .ok (.item (.char code), ⟨place, rest⟩) := by
  cases written with
  | octal spelled =>
    obtain ⟨place, reads⟩ :=
      Escape.readOutside_of_octal spelled text stops dangling alphabet start
    refine ⟨place, ?_⟩
    rw [read, reads]
    rfl
  | @itself c loose same =>
    subst same
    have here : input.rest = rest := text
    refine ⟨input.position, ?_⟩
    rw [read, readPlain_of_ordinary (.inl (isSpecial_of_isLoose loose)), ← here]
  | escaped special same =>
    subst same
    have here : input.rest = rest := text
    refine ⟨input.position, ?_⟩
    rw [read, Escape.readOutside_of_special special, ← here]
    rfl

theorem mirrors_of_ok {one other : Except Rejection (Lexeme × Input)} {lexeme lexeme' : Lexeme}
    {after : List Landmark} {s t : List Piece}
    (here : ∃ place, one = .ok (lexeme, ⟨place, s⟩))
    (there : ∃ place, other = .ok (lexeme', ⟨place, t⟩))
    (mirrored : Mirrored numbers marks after lexeme lexeme')
    (rest : Aligned numbers after false s t) : Mirrors False (Reads numbers marks) one other := by
  obtain ⟨_, rfl⟩ := here
  obtain ⟨_, rfl⟩ := there
  exact .ok ⟨after, mirrored, rest⟩

/-- Behind the two pieces the texts go on with mirrored lexemes. A character that is not loose starts
both of them or neither. -/
structure ReadsAlike (numbers : Renumbering) (marks : List Landmark) (alphabet : Alphabet)
    (piece : Piece) (s : List Piece) (piece' : Piece) (t : List Piece) : Prop where
  whole : t ≠ [.dangling]
  firm : ∀ c, isLoose c = false → isBracket c = false → (piece' = .plain c ↔ piece = .plain c)
  mirrors : ∀ start start' x y, x.rest = s → y.rest = t → Mirrors False (Reads numbers marks)
    (read alphabet false piece start x) (read alphabet false piece' start' y)

namespace ReadsAlike

variable {s t : List Piece} {alphabet : Alphabet}

theorem plain (ends : numbers.Ends) {c : Char} (parenthesis : c ≠ '(') (bracket : c ≠ '[')
    (rest : Aligned numbers marks false s t) :
    ReadsAlike numbers marks alphabet (.plain c) s (.plain c) t where
  whole := rest.ne_dangling ends
  firm _ _ _ := .rfl
  mirrors := by
    rintro start start' x y rfl rfl
    exact readPlain_mirrors ends alphabet parenthesis bracket start start' rest

theorem escaped (ends : numbers.Ends) {c : Char} (digit : c.isDigit = false)
    (rest : Aligned numbers marks false s t) :
    ReadsAlike numbers marks alphabet (.escaped c) s (.escaped c) t where
  whole := rest.ne_dangling ends
  firm _ _ _ := .rfl
  mirrors := by
    rintro start start' x y rfl rfl
    refine (Escape.readOutside_mirrors ends alphabet digit start start' rest).bind ?_
    rintro ⟨_, x⟩ ⟨_, y⟩ ⟨⟨regex, leaf, rfl, rfl⟩, rest⟩
    exact .ok ⟨marks, .item leaf, rest⟩

theorem number (ends : numbers.Ends) {c c' : Char} {cs cs' : List Char} {n n' : Nat}
    (spelled : Spells (c :: cs) n) (spelled' : Spells (c' :: cs') n')
    (related : numbers.reference n n') (stops : DigitFree s) (stops' : DigitFree t)
    (rest : Aligned numbers marks false s t) :
    ReadsAlike numbers (.reference n :: marks) alphabet (.escaped c) (cs.map .plain ++ s)
      (.escaped c') (cs'.map .plain ++ t) where
  whole := by
    cases spelled' with
    | one => exact rest.ne_dangling ends
    | two => simp
  firm := by simp
  mirrors := by
    -- The two references may have different numbers of digits, so each is read by itself.
    intro start start' x y here there
    have one := read_of_spells spelled alphabet here stops rest.ne_dangling_left start
    have other := read_of_spells spelled' alphabet there stops' (rest.ne_dangling ends) start'
    exact mirrors_of_ok one other (.reference related) rest

theorem denoted (ends : numbers.Ends) {c : Char} {cs more : List Char} {piece : Piece} {code : Nat}
    (spelled : Octal (c :: cs) code) (written : Denotes code piece more) (stops : DigitFree s)
    (stops' : DigitFree t) (rest : Aligned numbers marks false s t) :
    ReadsAlike numbers marks alphabet (.escaped c) (cs.map .plain ++ s) piece
      (more.map .plain ++ t) where
  whole := by
    cases more with
    | nil => exact rest.ne_dangling ends
    | cons => simp
  firm := by
    intro d firm _
    cases written with
    | itself loose =>
      refine ⟨fun same => ?_, nofun⟩
      cases same
      cases loose.symm.trans firm
    | _ => simp
  mirrors := by
    intro start start' x y here there
    have one := read_of_denotes (.octal spelled) alphabet here stops rest.ne_dangling_left start
    have other := read_of_denotes written alphabet there stops' (rest.ne_dangling ends) start'
    exact mirrors_of_ok one other (.item fun _ => rfl) rest

theorem literal (ends : numbers.Ends) {c : Char} (foreign : 0x7F < c.toNat)
    (rest : Aligned numbers marks false s t) :
    ReadsAlike numbers marks alphabet (.escaped c) s (.plain c) t := by
  have loose := isLoose_of_foreign foreign
  refine ⟨rest.ne_dangling ends, ?_, ?_⟩
  · intro d firm _
    refine ⟨fun same => ?_, nofun⟩
    cases same
    cases loose.symm.trans firm
  · rintro start start' x y rfl rfl
    rw [read, read, Escape.readOutside_of_foreign foreign,
      readPlain_of_ordinary (.inl (isSpecial_of_isLoose loose))]
    exact .ok ⟨marks, .item fun _ => rfl, rest⟩

theorem set (ends : numbers.Ends) {piece : Piece} (caret : piece ≠ .plain '^')
    (dangling : piece ≠ .dangling) (rest : Aligned numbers marks true s t) :
    ReadsAlike numbers marks alphabet (.plain '[') (piece :: s) (.plain '[') (piece :: t) where
  whole := by simp [dangling]
  firm _ _ _ := .rfl
  mirrors start start' _ _ here there :=
    readSet_mirrors ends alphabet start start' caret here there rest

theorem complement (ends : numbers.Ends) {piece : Piece} (dangling : piece ≠ .dangling)
    (rest : Aligned numbers marks true s t) :
    ReadsAlike numbers marks alphabet (.plain '[') (.plain '^' :: piece :: s) (.plain '[')
      (.plain '^' :: piece :: t) where
  whole := by simp
  firm _ _ _ := .rfl
  mirrors start start' _ _ here there :=
    readComplement_mirrors ends alphabet start start' dangling here there rest

theorem of_opening (whole : t ≠ [.dangling])
    (mirrors : ∀ start start' x y, x.rest = s → y.rest = t → Mirrors False (Reads numbers marks)
      (readOpening alphabet start x) (readOpening alphabet start' y)) :
    ReadsAlike numbers marks alphabet (.plain '(') s (.plain '(') t :=
  ⟨whole, fun _ _ _ => .rfl, mirrors⟩

theorem opening (ends : numbers.Ends) (simple : s.head? ≠ some (.plain '?'))
    (rest : Aligned numbers marks false s t) :
    ReadsAlike numbers (.group :: marks) alphabet (.plain '(') s (.plain '(') t := by
  apply of_opening (rest.ne_dangling ends)
  rintro start start' x y rfl rfl
  have simple' : y.rest.head? ≠ some (.plain '?') := fun same =>
    simple (rest.head?_eq ends (by decide) same)
  rw [readOpening_eq, readOpening_eq, Input.accept_of_other simple, Input.accept_of_other simple']
  exact .ok ⟨_, .group, rest⟩

theorem extension (ends : numbers.Ends) (modest : Modest s)
    (rest : Aligned numbers marks false s t) :
    ReadsAlike numbers marks alphabet (.plain '(') (.plain '?' :: s) (.plain '(')
      (.plain '?' :: t) := by
  apply of_opening (by simp)
  intro start start' x y here there
  rw [readOpening_of_extension alphabet start rest.ne_dangling_left here,
    readOpening_of_extension alphabet start' (rest.ne_dangling ends) there]
  exact readExtension_mirrors ends alphabet start start' modest rest

theorem named (ends : numbers.Ends) (rest : Aligned numbers marks false s t) :
    ReadsAlike numbers (.group :: marks) alphabet
      (.plain '(') (.plain '?' :: .plain 'P' :: .plain '<' :: s)
      (.plain '(') (.plain '?' :: .plain 'P' :: .plain '<' :: t) := by
  apply of_opening (by simp)
  intro start start' x y here there
  obtain ⟨_, one⟩ := readOpening_of_name alphabet start rest.ne_dangling_left here
  obtain ⟨_, other⟩ := readOpening_of_name alphabet start' (rest.ne_dangling ends) there
  rw [one, other]
  exact namedGroup_mirrors ends rest

theorem condition (ends : numbers.Ends) {after : List Landmark} {name name' : List Char}
    (absent : ')' ∉ name) (nonempty : name ≠ []) (absent' : ')' ∉ name') (nonempty' : name' ≠ [])
    (mirrored : Mirrored numbers marks after (.opening (.condition name))
      (.opening (.condition name')))
    (rest : Aligned numbers after false s t) :
    ReadsAlike numbers marks alphabet
      (.plain '(') (.plain '?' :: .plain '(' :: (name.map .plain ++ .plain ')' :: s))
      (.plain '(') (.plain '?' :: .plain '(' :: (name'.map .plain ++ .plain ')' :: t)) := by
  apply of_opening (by simp)
  intro start start' x y here there
  have one := readOpening_of_condition alphabet start absent nonempty rest.ne_dangling_left here
  have other := readOpening_of_condition alphabet start' absent' nonempty'
    (rest.ne_dangling ends) there
  exact mirrors_of_ok one other mirrored rest

theorem comment (ends : numbers.Ends) {body : List Piece} (closing : .plain ')' ∉ body)
    (rest : Aligned numbers marks false s t) :
    ReadsAlike numbers marks alphabet
      (.plain '(') (.plain '?' :: .plain '#' :: (body ++ .plain ')' :: s))
      (.plain '(') (.plain '?' :: .plain '#' :: (body ++ .plain ')' :: t)) := by
  apply of_opening (by simp)
  intro start start' x y here there
  have one := readOpening_of_comment alphabet start closing rest.ne_dangling_left here
  have other := readOpening_of_comment alphabet start' closing (rest.ne_dangling ends) there
  exact mirrors_of_ok one other .blank rest

end ReadsAlike

theorem read_mirrors (ends : numbers.Ends) (alphabet : Alphabet) {piece : Piece} {s t : List Piece}
    (aligned : Aligned numbers marks false (piece :: s) t) :
    ∃ piece' t', t = piece' :: t' ∧ ReadsAlike numbers marks alphabet piece s piece' t' := by
  cases aligned with
  | plain parenthesis bracket rest => exact ⟨_, _, rfl, .plain ends parenthesis bracket rest⟩
  | escaped digit rest => exact ⟨_, _, rfl, .escaped ends digit rest⟩
  | number spelled spelled' related stops stops' rest =>
    exact ⟨_, _, rfl, .number ends spelled spelled' related stops stops' rest⟩
  | denoted spelled written stops stops' rest =>
    exact ⟨_, _, rfl, .denoted ends spelled written stops stops' rest⟩
  | literal foreign rest => exact ⟨_, _, rfl, .literal ends foreign rest⟩
  | set caret dangling rest => exact ⟨_, _, rfl, .set ends caret dangling rest⟩
  | complement dangling rest => exact ⟨_, _, rfl, .complement ends dangling rest⟩
  | opening simple rest => exact ⟨_, _, rfl, .opening ends simple rest⟩
  | extension modest rest => exact ⟨_, _, rfl, .extension ends modest rest⟩
  | named rest => exact ⟨_, _, rfl, .named ends rest⟩
  | condition digits digits' nonempty nonempty' related rest =>
    exact ⟨_, _, rfl, .condition ends (not_mem_digits digits rfl) nonempty
      (not_mem_digits digits' rfl) nonempty'
      (.condition digits digits' nonempty nonempty' related) rest⟩
  | namedCondition identifier rest =>
    have absent := not_mem_identifier identifier ')' (by simp)
    have nonempty := ne_nil_of_identifier identifier
    exact ⟨_, _, rfl,
      .condition ends absent nonempty absent nonempty (.namedCondition identifier) rest⟩
  | comment closing rest => exact ⟨_, _, rfl, .comment ends closing rest⟩

end Lexeme

end RuleLexer
